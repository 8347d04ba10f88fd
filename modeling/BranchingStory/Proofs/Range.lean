import BranchingStory.Proofs.Lookup
import BranchingStory.Proofs.Settling

/-!
# The range of variables

Whatever a rule computes, it moves into the range from 0 to 100 before it writes.  Only a
not-a-number would escape, and none arises: the sums and products of finite doubles may overflow,
but they stay numbers.  So effects and penalties leave the variables that they write in the range
and all the others as they are, provided that they find finite values.
-/

namespace BranchingStory

namespace Binary64

variable {left right value : Binary64}

@[simp]
theorem isNan_rounded (negative : Bool) (numerator denominator : Nat) :
    (rounded negative numerator denominator).isNan = false := by
  rw [rounded]
  split <;> rfl

theorem isNan_ofInt (value : Int) : (ofInt value).isNan = false := isNan_rounded _ _ _

theorem isNan_of_isFinite (hfinite : value.isFinite = true) : value.isNan = false := by
  cases value with
  | nan => cases hfinite
  | infinite | finite => rfl

theorem isFinite_neg (value : Binary64) : (-value).isFinite = value.isFinite := by
  cases value <;> rfl

theorem exists_eq_finite (hfinite : value.isFinite = true) :
    ∃ negative magnitude fits, value = finite negative magnitude fits := by
  cases value with
  | nan | infinite => cases hfinite
  | finite negative magnitude fits => exact ⟨negative, magnitude, fits, rfl⟩

/-- A sum of finite doubles may overflow, but it is a number. -/
theorem isNan_add (hleft : left.isFinite = true) (hright : right.isFinite = true) :
    (left + right).isNan = false := by
  obtain ⟨_, _, _, rfl⟩ := exists_eq_finite hleft
  obtain ⟨_, _, _, rfl⟩ := exists_eq_finite hright
  simp only [HAdd.hAdd, Add.add, add, isNan_rounded]

theorem isNan_mul (hleft : left.isFinite = true) (hright : right.isFinite = true) :
    (left * right).isNan = false := by
  obtain ⟨_, _, _, rfl⟩ := exists_eq_finite hleft
  obtain ⟨_, _, _, rfl⟩ := exists_eq_finite hright
  simp only [HMul.hMul, Mul.mul, multiply, isNan_rounded]

theorem isNan_roundToWhole (hnumber : value.isNan = false) : value.roundToWhole.isNan = false := by
  cases value with
  | nan => cases hnumber
  | infinite => rfl
  | finite => exact isNan_rounded _ _ _

/-- Numbers can be compared. -/
theorem atMost_of_not_less (hleft : left.isNan = false) (hright : right.isNan = false)
    (hless : less right left = false) : left.atMost right = true := by
  simp [atMost, equal, hleft, hright, hless]

/-- What lies between finite doubles is finite. -/
theorem isFinite_of_between (hleft : left.isFinite = true) (hright : right.isFinite = true)
    (hlow : left.atMost value = true) (hhigh : value.atMost right = true) :
    value.isFinite = true := by
  obtain ⟨_, _, _, rfl⟩ := exists_eq_finite hleft
  obtain ⟨_, _, _, rfl⟩ := exists_eq_finite hright
  cases value with
  | nan => simp [atMost, less, equal, isNan] at hlow
  | infinite negative =>
      -- An infinity lies on the wrong side of one of the two.
      cases negative with
      | true => simp [atMost, less, equal, isNan] at hlow
      | false => simp [atMost, less, equal, isNan] at hhigh
  | finite => rfl

end Binary64

namespace Variables

/-! ## Values in the range -/

/-- The numbers in the range that rules respect. -/
def InRange (value : Binary64) : Prop :=
  lowest.atMost value = true ∧ value.atMost highest = true

instance : DecidablePred InRange := fun _ => inferInstanceAs (Decidable (_ ∧ _))

theorem inRange_lowest : InRange lowest := by decide +kernel

theorem inRange_highest : InRange highest := by decide +kernel

theorem InRange.isFinite {value : Binary64} (hrange : InRange value) : value.isFinite = true := by
  have hlowest : lowest.isFinite = true := by decide +kernel
  have hhighest : highest.isFinite = true := by decide +kernel
  exact Binary64.isFinite_of_between hlowest hhighest hrange.1 hrange.2

theorem inRange_clamp {value : Binary64} (hnumber : value.isNan = false) :
    InRange (clamp value) := by
  rw [clamp, Binary64.clampTo]
  split
  · exact inRange_lowest
  · next hlow =>
      split
      · exact inRange_highest
      · next hhigh =>
          have hlowest := Binary64.isNan_of_isFinite inRange_lowest.isFinite
          have hhighest := Binary64.isNan_of_isFinite inRange_highest.isFinite
          exact ⟨Binary64.atMost_of_not_less hlowest hnumber (Bool.eq_false_iff.mpr hlow),
            Binary64.atMost_of_not_less hnumber hhighest (Bool.eq_false_iff.mpr hhigh)⟩

/-! ## Stores with finite values -/

/-- A store without infinite values and without not-a-numbers. -/
def Finite (store : Variables) : Prop :=
  ∀ name value, store.find? name = some value → value.isFinite = true

/-- A variable that has a value in the range. -/
def Bounded (store : Variables) (name : String) : Prop :=
  ∃ value, store.find? name = some value ∧ InRange value

theorem Finite.setAll {store : Variables} (hfinite : store.Finite)
    {entries : List (String × Binary64)} (hentries : ∀ entry ∈ entries, entry.2.isFinite = true) :
    (store.setAll entries).Finite := by
  intro name value hvalue
  rw [find?_setAll, Option.or_eq_some_iff] at hvalue
  obtain hwritten | ⟨-, hold⟩ := hvalue
  · obtain ⟨earlier, later, hsplit, -⟩ := List.lookup_eq_some_iff.mp hwritten
    have hmem : (name, value) ∈ entries.reverse := by simp [hsplit]
    exact hentries _ (List.mem_reverse.mp hmem)
  · exact hfinite name value hold

theorem Finite.get {store : Variables} (hfinite : store.Finite) (name : String) :
    (store.get name).isFinite = true := by
  rw [Variables.get]
  cases hvalue : store.find? name with
  | none => exact inRange_lowest.isFinite
  | some value => exact hfinite name value hvalue

/-- A store that was written in some names, always within the range. -/
structure Rewritten (names : List String) (before after : Variables) : Prop where
  kept : ∀ name, name ∉ names → after.find? name = before.find? name
  bounded : ∀ name ∈ names, after.Bounded name

section Rewriting

variable {names others : List String} {before middle after : Variables}

theorem rewritten_nil (store : Variables) : Rewritten [] store store where
  kept := fun _ _ => rfl
  bounded := by simp

theorem rewritten_set (store : Variables) (name : String) {value : Binary64}
    (hrange : InRange value) : Rewritten [name] store (store.set name value) where
  kept := by
    intro other hother
    rw [find?_set, if_neg (by simpa using hother)]
  bounded := by
    intro other hother
    refine ⟨value, ?_, hrange⟩
    rw [find?_set, if_pos (by simpa using hother)]

theorem rewritten_modify {store : Variables} {change : Binary64} (hfinite : store.Finite)
    (hchange : change.isFinite = true) (name : String) :
    Rewritten [name] store (store.modify name change).2 :=
  rewritten_set store name (inRange_clamp (Binary64.isNan_add (hfinite.get name) hchange))

/-- A value in the range stays there. -/
theorem Rewritten.bounded_of_bounded (hrewritten : Rewritten names before after) {name : String}
    (hbounded : before.Bounded name) : after.Bounded name := by
  by_cases hname : name ∈ names
  · exact hrewritten.bounded name hname
  · rwa [Bounded, hrewritten.kept name hname]

theorem Rewritten.finite (hrewritten : Rewritten names before after) (hfinite : before.Finite) :
    after.Finite := by
  intro name value hvalue
  by_cases hname : name ∈ names
  · obtain ⟨bounded, hbounded, hrange⟩ := hrewritten.bounded name hname
    obtain rfl : bounded = value := Option.some.inj (hbounded.symm.trans hvalue)
    exact hrange.isFinite
  · rw [hrewritten.kept name hname] at hvalue
    exact hfinite name value hvalue

theorem Rewritten.trans (hfirst : Rewritten names before middle)
    (hsecond : Rewritten others middle after) : Rewritten (names ++ others) before after where
  kept := by
    intro name hname
    rw [List.mem_append, not_or] at hname
    rw [hsecond.kept name hname.2, hfirst.kept name hname.1]
  bounded := by
    intro name hname
    rcases List.mem_append.mp hname with hfirstly | hsecondly
    · exact hsecond.bounded_of_bounded (hfirst.bounded name hfirstly)
    · exact hsecond.bounded name hsecondly

/-- Only which names were written counts. -/
theorem Rewritten.congr (hrewritten : Rewritten names before after)
    (hnames : ∀ name, name ∈ others ↔ name ∈ names) : Rewritten others before after where
  kept := fun name hname => hrewritten.kept name (mt (hnames name).mpr hname)
  bounded := fun name hname => hrewritten.bounded name ((hnames name).mp hname)

end Rewriting

end Variables

/-! ## Settings -/

namespace Settings

variable {settings : Settings}

/-- Settings without a fault. -/
theorem valid_iff : settings.validate = .ok () ↔
    settings.dice.sides ≠ 0 ∧ settings.dice.penalty.amount.isFinite = true ∧
      settings.trackedStart.isFinite = true ∧ settings.endings ≠ [] ∧
        ∀ ending ∈ settings.endings, ending.minScore.isFinite = true := by
  rw [validate]
  by_cases hsides : settings.dice.sides = 0
  · simp [hsides]
  cases hpenalty : settings.dice.penalty.amount.isFinite with
  | false => simp [hsides]
  | true =>
      cases hstart : settings.trackedStart.isFinite with
      | false => simp [hsides]
      | true =>
          cases hendings : settings.endings with
          | nil => simp [hsides]
          | cons head tail =>
              rw [← hendings]
              cases hfault : settings.endings.find? fun ending => !ending.minScore.isFinite with
              | none => simpa [hsides, hendings] using hfault
              | some ending =>
                  have hendless := List.find?_some hfault
                  refine iff_of_false (by simp [hsides, hendings]) ?_
                  rintro ⟨-, -, -, -, hfinite⟩
                  simp [hfinite ending (List.mem_of_find?_eq_some hfault)] at hendless

theorem finite_of_valid (hvalid : settings.validate = .ok ()) :
    settings.dice.penalty.amount.isFinite = true ∧ settings.trackedStart.isFinite = true := by
  obtain ⟨-, hpenalty, hstart, -⟩ := valid_iff.mp hvalid
  exact ⟨hpenalty, hstart⟩

/-- Valid settings with finite initial values start with finite variables. -/
theorem finite_startingValues (hvalid : settings.validate = .ok ())
    (hinitial : ∀ entry ∈ settings.initial.toList, entry.2.isFinite = true) :
    settings.startingValues.Finite := by
  apply Variables.Finite.setAll
  · apply Variables.Finite.setAll
    · intro name value hvalue
      cases hvalue
    · intro entry hmem
      obtain ⟨name, -, rfl⟩ := List.mem_map.mp hmem
      exact (finite_of_valid hvalid).2
  · exact hinitial

end Settings

/-! ## Effects -/

namespace Effect

variable {effect : Effect} {store : Variables} {generator : Generator}

theorem isFinite_finiteOperand {operand : Binary64}
    (hoperand : effect.finiteOperand = .ok operand) : operand.isFinite = true := by
  rw [finiteOperand] at hoperand
  split at hoperand
  · split at hoperand
    · next hfinite =>
        cases hoperand
        exact hfinite
    · cases hoperand
  · cases hoperand

/-- An effect computes a value in the range. -/
theorem newValue_inRange (hfinite : (store.get effect.name).isFinite = true)
    {computed : Binary64 × Generator} (hvalue : effect.newValue store generator = .ok computed) :
    Variables.InRange computed.1 := by
  cases hoperation : effect.operation with
  | set =>
      simp only [newValue, hoperation] at hvalue
      obtain ⟨operand, hoperand, hcomputed⟩ := exists_ok_of_bind hvalue
      cases hcomputed
      have hnumber := isFinite_finiteOperand hoperand
      exact Variables.inRange_clamp (Binary64.isNan_of_isFinite hnumber)
  | add =>
      simp only [newValue, hoperation] at hvalue
      obtain ⟨operand, hoperand, hcomputed⟩ := exists_ok_of_bind hvalue
      cases hcomputed
      have hnumber := Binary64.isNan_add hfinite (isFinite_finiteOperand hoperand)
      exact Variables.inRange_clamp hnumber
  | multiply =>
      simp only [newValue, hoperation] at hvalue
      obtain ⟨operand, hoperand, hcomputed⟩ := exists_ok_of_bind hvalue
      cases hcomputed
      have hnumber := Binary64.isNan_mul hfinite (isFinite_finiteOperand hoperand)
      exact Variables.inRange_clamp (Binary64.isNan_roundToWhole hnumber)
  | random =>
      simp only [newValue, hoperation] at hvalue
      obtain ⟨bounds, hbounds, hcomputed⟩ := exists_ok_of_bind hvalue
      simp only [pure, Except.pure, Except.ok.injEq] at hcomputed
      simp only [← hcomputed]
      have hnumber := Binary64.isNan_ofInt (generator.between bounds.1 bounds.2).1
      exact Variables.inRange_clamp hnumber
  | unrecognized written =>
      simp only [newValue, hoperation] at hvalue
      cases hvalue

theorem apply_rewrites {outcome : Outcome Change} (hfinite : store.Finite)
    (happlied : effect.apply store generator = .ok outcome) :
    Variables.Rewritten [effect.name] store outcome.store := by
  obtain ⟨computed, hvalue, rfl⟩ := apply_iff.mp happlied
  exact Variables.rewritten_set store effect.name (newValue_inRange (hfinite.get _) hvalue)

/-- Effects write their variables, each within the range. -/
theorem applyInOrder_rewrites {effects : List Effect} {outcome : Outcome (List Change)}
    (hfinite : store.Finite) (happlied : applyInOrder effects store generator = .ok outcome) :
    Variables.Rewritten (effects.map Effect.name) store outcome.store := by
  induction effects generalizing store generator outcome with
  | nil =>
      cases happlied
      exact Variables.rewritten_nil store
  | cons effect rest ih =>
      obtain ⟨first, others, hfirst, hothers, rfl⟩ := applyInOrder_cons_iff.mp happlied
      have hwritten := apply_rewrites hfinite hfirst
      have hlater := ih (hwritten.finite hfinite) hothers
      exact hwritten.trans hlater

theorem applyAll_rewrites {effects : List Effect} {outcome : Outcome (List Change)}
    (hfinite : store.Finite) (happlied : applyAll effects store generator = .ok outcome) :
    Variables.Rewritten (effects.map Effect.name) store outcome.store := by
  exact applyInOrder_rewrites hfinite (applyInOrder_of_applyAll happlied)

end Effect

/-! ## Penalties -/

namespace Playthrough

/-- A finite penalty writes the variables that it is taken from, each within the range. -/
theorem subtractFrom_rewrites {amount : Binary64} {store : Variables} (hfinite : store.Finite)
    (hamount : amount.isFinite = true) (names : List String) :
    Variables.Rewritten names store (subtractFrom amount names store).2 := by
  induction names generalizing store with
  | nil => exact Variables.rewritten_nil store
  | cons name rest ih =>
      have hchange : (-amount).isFinite = true := by rwa [Binary64.isFinite_neg]
      have hwritten := Variables.rewritten_modify hfinite hchange name
      exact hwritten.trans (ih (hwritten.finite hfinite))

end Playthrough

end BranchingStory
