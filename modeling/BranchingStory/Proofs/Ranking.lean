import Mathlib.Data.Prod.Lex
import BranchingStory.Binary64.Basic

/-!
# Ranking doubles

Doubles are compared in two ways.  The numeric order takes both zeros for one number and leaves a
not-a-number out; the total order tells any two doubles apart.  Each of them goes by a place that it
gives to a double, and these places are in a linear order.
-/

namespace BranchingStory.Binary64

/-- Where a double stands in the numeric order: the finite ones by their units, between the
infinities.  A not-a-number is put behind all others. -/
def level : Binary64 → Int ×ₗ Int
  | nan => toLex (2, 0)
  | infinite negative => toLex (if negative then -1 else 1, 0)
  | finite negative magnitude _ => toLex (0, signedUnits negative magnitude)

/-- Zero for the finite doubles with a negative sign, and one for all others. -/
def signPlace : Binary64 → Int
  | finite true _ _ => 0
  | finite false _ _ | infinite _ | nan => 1

/-- Where a double stands in the total order, which looks at the sign of doubles on one level. -/
def rank (value : Binary64) : Int ×ₗ Int :=
  toLex ((ofLex value.level).1, 2 * (ofLex value.level).2 + value.signPlace)

variable {left middle right : Binary64}

theorem less_iff : left.less right = true ↔
    left.isNan = false ∧ right.isNan = false ∧ left.level < right.level := by
  cases left with
  | nan => simp [less, isNan]
  | infinite negative =>
      cases right with
      | nan => simp [less, isNan]
      | infinite other =>
          cases negative <;> cases other <;> simp [less, isNan, level, Prod.Lex.toLex_lt_toLex]
      | finite other magnitude fits =>
          cases negative <;> simp [less, isNan, level, Prod.Lex.toLex_lt_toLex]
  | finite negative magnitude fits =>
      cases right with
      | nan => simp [less, isNan]
      | infinite other => cases other <;> simp [less, isNan, level, Prod.Lex.toLex_lt_toLex]
      | finite other units fits => simp [less, isNan, level, Prod.Lex.toLex_lt_toLex]

theorem atMost_iff : left.atMost right = true ↔
    left.isNan = false ∧ right.isNan = false ∧ left.level ≤ right.level := by
  have hequal : left.equal right = true ↔
      left.isNan = false ∧ right.isNan = false ∧ left.level = right.level := by
    rw [equal]
    simp only [Bool.and_eq_true, Bool.not_eq_true', ← Bool.not_eq_true, less_iff]
    constructor
    · rintro ⟨⟨⟨hleft, hright⟩, hless⟩, hgreater⟩
      simp_all [le_antisymm_iff]
    · rintro ⟨hleft, hright, heq⟩
      simp_all
  rw [atMost, Bool.or_eq_true, less_iff, hequal, le_iff_lt_or_eq, ← and_or_left, ← and_or_left]

theorem atMost_trans (hleft : left.atMost middle = true) (hright : middle.atMost right = true) :
    left.atMost right = true := by
  obtain ⟨hnumber, -, hbelow⟩ := atMost_iff.mp hleft
  obtain ⟨-, hother, habove⟩ := atMost_iff.mp hright
  exact atMost_iff.mpr ⟨hnumber, hother, hbelow.trans habove⟩

/-- A threshold is not reached by what is no number and by what is below it. -/
theorem atMost_eq_false_iff (hnumber : left.isNan = false) :
    left.atMost right = false ↔ right.isNan = true ∨ right.less left = true := by
  rw [← Bool.not_eq_true, atMost_iff, less_iff]
  cases right.isNan <;> simp [hnumber]

theorem comesBefore_finite {negative other : Bool} {magnitude units : Nat}
    (fits : Fits magnitude) (hfits : Fits units) :
    (finite negative magnitude fits).comesBefore (finite other units hfits) =
      ((negative && !other && magnitude == 0 && units == 0) ||
        (finite negative magnitude fits).less (finite other units hfits)) := by
  cases negative <;> cases other <;> cases magnitude <;> cases units <;> rfl

/-- The total order goes by the places in it. -/
theorem comesBefore_iff : left.comesBefore right = true ↔ left.rank < right.rank := by
  simp only [rank]
  cases left with
  | nan =>
      have hlast : ¬ nan.rank < right.rank := by
        cases right with
        | nan => exact lt_irrefl _
        | infinite negative =>
            cases negative <;> simp [rank, level, signPlace, Prod.Lex.toLex_lt_toLex]
        | finite negative magnitude fits => simp [rank, level, Prod.Lex.toLex_lt_toLex]
      exact iff_of_false Bool.false_ne_true hlast
  | infinite negative =>
      cases right with
      | nan => cases negative <;> simp [level, Prod.Lex.toLex_lt_toLex] <;> rfl
      | infinite other =>
          cases negative <;> cases other <;>
            simp [level, signPlace, Prod.Lex.toLex_lt_toLex] <;> rfl
      | finite other units fits =>
          cases negative <;> simp [level, Prod.Lex.toLex_lt_toLex] <;> rfl
  | finite negative magnitude fits =>
      cases right with
      | nan =>
          cases negative <;> cases magnitude <;> simp [level, Prod.Lex.toLex_lt_toLex] <;> rfl
      | infinite other =>
          cases other <;> cases negative <;> cases magnitude <;>
            simp [level, Prod.Lex.toLex_lt_toLex] <;> rfl
      | finite other units hfits =>
          rw [comesBefore_finite]
          cases negative <;> cases other <;>
            simp [less, level, signPlace, signedUnits, Prod.Lex.toLex_lt_toLex] <;> omega

/-- No two doubles share a place in the total order. -/
theorem rank_injective : Function.Injective rank := by
  intro left right heq
  cases left with
  | nan =>
      cases right with
      | nan => rfl
      | infinite negative => cases negative <;> simp [rank, level] at heq
      | finite negative magnitude fits => simp [rank, level] at heq
  | infinite negative =>
      cases right with
      | nan => cases negative <;> simp [rank, level] at heq
      | infinite other => cases negative <;> cases other <;> simp [rank, level] at heq ⊢
      | finite other magnitude fits => cases negative <;> simp [rank, level] at heq
  | finite negative magnitude fits =>
      cases right with
      | nan => simp [rank, level] at heq
      | infinite other => cases other <;> simp [rank, level] at heq
      | finite other units fits =>
          cases negative <;> cases other <;>
            simp [rank, level, signPlace, signedUnits] at heq ⊢ <;> omega

/-- What is less comes before in the total order as well. -/
theorem rank_lt_of_less (hless : left.less right = true) : left.rank < right.rank := by
  obtain ⟨-, -, hlevel⟩ := less_iff.mp hless
  have hsigns : ∀ value : Binary64, value.signPlace = 0 ∨ value.signPlace = 1 := by
    intro value
    cases value with
    | nan => exact .inr rfl
    | infinite negative => exact .inr rfl
    | finite negative magnitude fits => cases negative <;> simp [signPlace]
  rw [rank, rank, Prod.Lex.toLex_lt_toLex]
  rcases Prod.Lex.lt_iff.mp hlevel with hfirst | ⟨hfirst, hsecond⟩
  · exact .inl hfirst
  · refine .inr ⟨hfirst, ?_⟩
    rcases hsigns left with hleft | hleft <;> rcases hsigns right with hright | hright <;> omega

end BranchingStory.Binary64
