import BranchingStory.Proofs.Lookup
import BranchingStory.Proofs.Validating

/-!
# Effects in another order

A list of effects may be cut into parts that are applied one after the other.  Its effects may also
change places, as long as those that are tied keep their order: two effects on one variable, and two
effects that draw from the random source.  Other effects commute.  What an effect computes depends
on its own variable and, if it draws, on the random source; it changes these two and nothing else.

That two neighbours commute carries over to whole lists.  The first effect of a list stands in every
admissible order behind effects to which it is not tied, moves in front of them by swaps, and leaves
an admissible order of the rest.
-/

namespace BranchingStory

/-! ## Stores that read alike -/

namespace Variables

theorem mem_toList_iff {store : Variables} {entry : String × Binary64} :
    entry ∈ store.toList ↔ store.find? entry.1 = some entry.2 := by
  rw [find?_eq_lookup]
  constructor
  · exact lookup_of_mem store.ordered
  · intro hlookup
    obtain ⟨earlier, later, hsplit, -⟩ := List.lookup_eq_some_iff.mp hlookup
    simp [hsplit]

theorem nodup_toList (store : Variables) : store.toList.Nodup := by
  apply store.ordered.imp
  rintro left right hless rfl
  exact String.lt_irrefl left.1 hless

/-- Stores in which every name reads alike are the same. -/
theorem eq_of_find? {left right : Variables} (hfind : ∀ name, left.find? name = right.find? name) :
    left = right := by
  have hperm : left.toList.Perm right.toList := by
    apply (List.perm_ext_iff_of_nodup left.nodup_toList right.nodup_toList).mpr
    intro entry
    rw [mem_toList_iff, mem_toList_iff, hfind]
  have hentries : left.toList = right.toList := by
    apply hperm.eq_of_pairwise _ left.ordered right.ordered
    intro first second _ _ hless hgreater
    exact absurd hgreater (String.lt_asymm hless)
  obtain ⟨entries, ordered⟩ := left
  cases hentries
  rfl

/-- Writes to different names may change places. -/
theorem set_comm (store : Variables) {name other : String} (hother : name ≠ other)
    (value written : Binary64) :
    (store.set name value).set other written = (store.set other written).set name value := by
  apply eq_of_find?
  intro asked
  simp only [find?_set]
  by_cases hname : asked = name
  · rw [if_neg (hname ▸ hother), if_pos hname, if_pos hname]
  · rw [if_neg hname, if_neg hname]

end Variables

namespace Effect

variable {store : Variables} {generator : Generator}

theorem validate_iff_forall {effects : List Effect} :
    validate effects = .ok () ↔ ∀ effect ∈ effects, effect.defect? = none := by
  induction effects with
  | nil => simp [validate]
  | cons effect rest ih => rw [validate_cons, ih, List.forall_mem_cons]

/-! ## Two effects -/

/-- Effects whose order matters: they change one variable, or both draw. -/
def Tied (first second : Effect) : Prop :=
  first.name = second.name ∨ (first.operation = .random ∧ second.operation = .random)

theorem Tied.symm {first second : Effect} (htied : Tied first second) : Tied second first :=
  htied.imp Eq.symm And.symm

/-- What an effect computes depends on no other variable. -/
theorem newValue_congr {effect : Effect} {other : Variables}
    (hget : other.get effect.name = store.get effect.name) (generator : Generator) :
    effect.newValue other generator = effect.newValue store generator := by
  simp only [newValue, Variables.modify, hget]

/-- An effect that does not draw computes the same from every random source, and leaves it. -/
theorem newValue_of_drawless {effect : Effect} (hdrawless : effect.operation ≠ .random)
    {value : Binary64} {later : Generator}
    (hvalue : effect.newValue store generator = .ok (value, later)) :
    later = generator ∧ ∀ other, effect.newValue store other = .ok (value, other) := by
  cases hoperation : effect.operation with
  | random => exact absurd hoperation hdrawless
  | unrecognized written =>
      simp only [newValue, hoperation] at hvalue
      cases hvalue
  | set | add | multiply =>
      simp only [newValue, hoperation] at hvalue ⊢
      obtain ⟨operand, hoperand, hcomputed⟩ := exists_ok_of_bind hvalue
      cases hcomputed
      refine ⟨rfl, fun other => ?_⟩
      rw [hoperand]
      rfl

/-- Effects that are not tied compute the same the other way round. -/
theorem newValue_swap {first second : Effect} (huntied : ¬ Tied first second)
    {value written : Binary64} {middle last : Generator}
    (hfirst : first.newValue store generator = .ok (value, middle))
    (hsecond : second.newValue store middle = .ok (written, last)) :
    ∃ between, second.newValue store generator = .ok (written, between) ∧
      first.newValue store between = .ok (value, last) := by
  by_cases hdraws : first.operation = .random
  · have hdrawless : second.operation ≠ .random := fun hboth => huntied (.inr ⟨hdraws, hboth⟩)
    obtain ⟨rfl, hanywhere⟩ := newValue_of_drawless hdrawless hsecond
    exact ⟨generator, hanywhere generator, hfirst⟩
  · obtain ⟨rfl, hanywhere⟩ := newValue_of_drawless hdraws hfirst
    exact ⟨last, hsecond, hanywhere last⟩

/-- Effects that are not tied may change places: each reports what it reports the other way round,
and both leave the same variables and the same random source. -/
theorem apply_swap {first second : Effect} (huntied : ¬ Tied first second)
    {one two : Outcome Change} (hone : first.apply store generator = .ok one)
    (htwo : second.apply one.store one.generator = .ok two) :
    ∃ other, second.apply store generator = .ok other ∧ other.report = two.report ∧
      first.apply other.store other.generator = .ok { two with report := one.report } := by
  obtain ⟨⟨value, middle⟩, hfirst, rfl⟩ := apply_iff.mp hone
  obtain ⟨⟨change, last⟩, hsecond, rfl⟩ := apply_iff.mp htwo
  have hnames : first.name ≠ second.name := fun hname => huntied (.inl hname)
  have hsecondGet : (store.set first.name value).get second.name = store.get second.name := by
    rw [Variables.get_set, if_neg hnames.symm]
  have hfirstGet : (store.set second.name change).get first.name = store.get first.name := by
    rw [Variables.get_set, if_neg hnames]
  simp only [written] at hsecond
  rw [newValue_congr hsecondGet] at hsecond
  obtain ⟨between, hearlier, hlater⟩ := newValue_swap huntied hfirst hsecond
  refine ⟨second.written store (change, between), apply_iff.mpr ⟨_, hearlier, rfl⟩, ?_, ?_⟩
  · simp only [written, hsecondGet]
  · refine apply_iff.mpr ⟨(value, last), ?_, ?_⟩
    · simp only [written]
      rw [newValue_congr hfirstGet, hlater]
    · simp only [written, hfirstGet, Variables.set_comm store hnames]

/-! ## Lists of effects -/

/-- The changes of a list of effects, each with the place that its effect had at first. -/
def placed (effects : List (Effect × Nat)) (report : List Change) : List (Nat × Change) :=
  (effects.map Prod.snd).zip report

/-- From everywhere effects leave the same variables and the same random source in both orders, and
each of them reports the same change. -/
def RunAlike (effects reordered : List (Effect × Nat)) : Prop :=
  ∀ store generator outcome,
    applyInOrder (effects.map Prod.fst) store generator = .ok outcome →
      ∃ report,
        applyInOrder (reordered.map Prod.fst) store generator = .ok { outcome with report } ∧
        (placed reordered report).Perm (placed effects outcome.report)

namespace RunAlike

variable {effects middle reordered : List (Effect × Nat)}

theorem refl (effects : List (Effect × Nat)) : RunAlike effects effects :=
  fun _ _ outcome happlied => ⟨outcome.report, happlied, .refl _⟩

theorem trans (hfirst : RunAlike effects middle) (hsecond : RunAlike middle reordered) :
    RunAlike effects reordered := by
  intro store generator outcome happlied
  obtain ⟨report, hmiddle, hplaced⟩ := hfirst store generator outcome happlied
  obtain ⟨last, hlast, hlater⟩ := hsecond store generator _ hmiddle
  exact ⟨last, hlast, hlater.trans hplaced⟩

/-- An effect in front of both orders. -/
theorem cons (head : Effect × Nat) (halike : RunAlike effects reordered) :
    RunAlike (head :: effects) (head :: reordered) := by
  intro store generator outcome happlied
  obtain ⟨first, others, hfirst, hothers, rfl⟩ := applyInOrder_cons_iff.mp happlied
  obtain ⟨report, hreordered, hplaced⟩ := halike _ _ others hothers
  exact ⟨first.report :: report,
    applyInOrder_cons_iff.mpr ⟨first, _, hfirst, hreordered, rfl⟩, hplaced.cons _⟩

/-- Two neighbours that are not tied change places. -/
theorem swap {first second : Effect × Nat} (huntied : ¬ Tied first.1 second.1)
    (rest : List (Effect × Nat)) :
    RunAlike (first :: second :: rest) (second :: first :: rest) := by
  intro store generator outcome happlied
  obtain ⟨one, _, hone, hrest, rfl⟩ := applyInOrder_cons_iff.mp happlied
  obtain ⟨two, others, htwo, hothers, rfl⟩ := applyInOrder_cons_iff.mp hrest
  obtain ⟨other, hother, hreport, hlast⟩ := apply_swap huntied hone htwo
  have hbehind := applyInOrder_cons_iff.mpr ⟨_, others, hlast, hothers, rfl⟩
  refine ⟨two.report :: one.report :: others.report, ?_, .swap _ _ _⟩
  exact applyInOrder_cons_iff.mpr ⟨other, _, hother, hbehind, by rw [hreport]⟩

/-- An effect moves behind others to which it is not tied. -/
theorem moveBack {moved : Effect × Nat} {before : List (Effect × Nat)}
    (huntied : ∀ other ∈ before, ¬ Tied moved.1 other.1) (after : List (Effect × Nat)) :
    RunAlike (moved :: (before ++ after)) (before ++ moved :: after) := by
  induction before with
  | nil => exact refl _
  | cons head rest ih =>
      obtain ⟨hhead, hrest⟩ := List.forall_mem_cons.mp huntied
      exact (swap hhead (rest ++ after)).trans ((ih hrest).cons head)

/-- Effects that stand by increasing places run alike in every order that keeps the places of tied
effects increasing. -/
theorem of_perm (hplaces : effects.Pairwise fun earlier later => earlier.2 < later.2)
    (hperm : reordered.Perm effects)
    (hkept : reordered.Pairwise fun earlier later =>
      Tied earlier.1 later.1 → earlier.2 < later.2) :
    RunAlike effects reordered := by
  induction effects generalizing reordered with
  | nil =>
      rw [hperm.eq_nil]
      exact refl []
  | cons head rest ih =>
      obtain ⟨hhead, hrest⟩ := List.pairwise_cons.mp hplaces
      obtain ⟨before, after, rfl⟩ :=
        List.append_of_mem (hperm.mem_iff.mpr List.mem_cons_self)
      -- Whatever stands in front of the first effect now stood behind it.
      have huntied : ∀ other ∈ before, ¬ Tied head.1 other.1 := by
        intro other hmem htied
        have hless : other.2 < head.2 :=
          (List.pairwise_append.mp hkept).2.2 other hmem head List.mem_cons_self htied.symm
        rcases List.mem_cons.mp (hperm.mem_iff.mp (List.mem_append_left _ hmem)) with
          rfl | hlater
        · exact Nat.lt_irrefl _ hless
        · exact Nat.lt_asymm hless (hhead other hlater)
      have hothers : (before ++ after).Perm rest :=
        (List.perm_middle.symm.trans hperm).cons_inv
      have hsublist : (before ++ after).Sublist (before ++ head :: after) :=
        (List.sublist_cons_self head after).append_left before
      exact ((ih hrest hothers (hkept.sublist hsublist)).cons head).trans
        (moveBack huntied after)

end RunAlike

/-- Effects in another order, each with the place that it had at first.  Effects on one variable
keep their order, and so do the effects that draw. -/
structure Reorders (effects : List Effect) (reordered : List (Effect × Nat)) : Prop where
  perm : reordered.Perm effects.zipIdx
  names : reordered.Pairwise fun earlier later =>
    earlier.1.name = later.1.name → earlier.2 < later.2
  draws : reordered.Pairwise fun earlier later =>
    earlier.1.operation = .random → later.1.operation = .random → earlier.2 < later.2

namespace Reorders

variable {effects : List Effect} {reordered : List (Effect × Nat)}

theorem runAlike (hreorders : Reorders effects reordered) :
    RunAlike effects.zipIdx reordered := by
  apply RunAlike.of_perm _ hreorders.perm
  · apply (hreorders.names.and hreorders.draws).imp
    rintro earlier later ⟨hnames, hdraws⟩ (hname | ⟨hearlier, hlater⟩)
    · exact hnames hname
    · exact hdraws hearlier hlater
  · have hplaces : (effects.zipIdx.map Prod.snd).Pairwise (· < ·) := by
      rw [List.zipIdx_map_snd]
      exact List.pairwise_lt_range'
    exact List.pairwise_map.mp hplaces

/-- Whether effects are valid does not depend on their order. -/
theorem valid (hreorders : Reorders effects reordered) (hvalid : validate effects = .ok ()) :
    validate (reordered.map Prod.fst) = .ok () := by
  have hperm : (reordered.map Prod.fst).Perm effects := by
    simpa [List.zipIdx_map_fst] using hreorders.perm.map Prod.fst
  apply validate_iff_forall.mpr
  intro effect hmem
  exact validate_iff_forall.mp hvalid effect (hperm.mem_iff.mp hmem)

/-- Where changes with their places are permuted, a change goes with its effect. -/
theorem report_eq {report changes : List Change}
    (hlength : report.length = reordered.length)
    (hplaced : (placed reordered report).Perm (placed effects.zipIdx changes)) {place : Nat}
    {effect : Effect} {origin : Nat} (hplace : reordered[place]? = some (effect, origin)) :
    ∃ change, changes[origin]? = some change ∧ report[place]? = some change := by
  obtain ⟨hinside, -⟩ := List.getElem?_eq_some_iff.mp hplace
  have hchange := List.getElem?_eq_getElem (hlength.symm ▸ hinside : place < report.length)
  refine ⟨_, ?_, hchange⟩
  have hmem : (origin, report[place]) ∈ placed reordered report := by
    apply List.mem_of_getElem?
    rw [placed, List.getElem?_zip_eq_some]
    exact ⟨by simp [hplace], hchange⟩
  obtain ⟨index, hindex⟩ := List.mem_iff_getElem?.mp (hplaced.mem_iff.mp hmem)
  rw [placed, List.getElem?_zip_eq_some, List.zipIdx_map_snd] at hindex
  obtain ⟨hsame, hreported⟩ := hindex
  obtain ⟨hbound, hnth⟩ := List.getElem?_eq_some_iff.mp hsame
  have horigin : index = origin := by simpa using hnth
  exact horigin ▸ hreported

end Reorders

end Effect

/-! ## On a stage -/

namespace Stage

/-- Two lists of effects do together what they do one after the other. -/
theorem applyEffects_append {effects others : List Effect}
    (hvalid : Effect.validate effects = .ok ()) (hothers : Effect.validate others = .ok ())
    (stage : Stage) :
    let first := (applyEffects effects).run stage
    let second := (applyEffects others).run first.state
    ∃ changes later, first.result = .ok changes ∧ second.result = .ok later ∧
      (applyEffects (effects ++ others)).run stage =
        { result := .ok (changes ++ later), state := second.state,
          events := changeEvents (changes ++ later) second.state.store } := by
  intro first second
  obtain ⟨outcome, happlied⟩ :=
    Effect.applyInOrder_of_valid hvalid stage.store stage.generator
  obtain ⟨last, hlast⟩ :=
    Effect.applyInOrder_of_valid hothers outcome.store outcome.generator
  have hfirst : first = _ := run_applyEffects_of_inOrder hvalid happlied
  let reached : Stage := { stage with store := outcome.store, generator := outcome.generator }
  have hlater : (applyEffects others).run reached = _ :=
    run_applyEffects_of_inOrder hothers hlast
  have hsecond : second = _ := (congrArg (applyEffects others).run (by rw [hfirst])).trans hlater
  have hboth : Effect.validate (effects ++ others) = .ok () := by
    rw [Effect.validate_iff_forall] at hvalid hothers ⊢
    exact List.forall_mem_append.mpr ⟨hvalid, hothers⟩
  have hwhole : Effect.applyInOrder (effects ++ others) stage.store stage.generator =
      .ok { last with report := outcome.report ++ last.report } := by
    rw [Effect.applyInOrder_append, happlied]
    simp only [bind, Except.bind, hlast, pure, Except.pure]
  refine ⟨outcome.report, last.report, by rw [hfirst], by rw [hsecond], ?_⟩
  rw [run_applyEffects_of_inOrder hboth hwhole, hsecond]

/-- Effects in another order leave the same stage, and each of them reports the same change. -/
theorem applyEffects_reordered {effects : List Effect} {reordered : List (Effect × Nat)}
    (hvalid : Effect.validate effects = .ok ()) (hreorders : Effect.Reorders effects reordered)
    (stage : Stage) :
    let first := (applyEffects effects).run stage
    let second := (applyEffects (reordered.map Prod.fst)).run stage
    ∃ changes later, first.result = .ok changes ∧ second.result = .ok later ∧
      second.state = first.state ∧
      ∀ (place : Nat) (effect : Effect) (origin : Nat),
        reordered[place]? = some (effect, origin) →
          ∃ change, changes[origin]? = some change ∧ later[place]? = some change := by
  intro first second
  obtain ⟨outcome, happlied⟩ :=
    Effect.applyInOrder_of_valid hvalid stage.store stage.generator
  have hlisted : Effect.applyInOrder (effects.zipIdx.map Prod.fst) stage.store stage.generator =
      .ok outcome := by
    rw [List.zipIdx_map_fst]
    exact happlied
  obtain ⟨report, hreordered, hplaced⟩ := hreorders.runAlike _ _ _ hlisted
  have hfirst : first = _ := run_applyEffects_of_inOrder hvalid happlied
  have hsecond : second = _ :=
    run_applyEffects_of_inOrder (hreorders.valid hvalid) hreordered
  refine ⟨outcome.report, report, by rw [hfirst], by rw [hsecond], by rw [hfirst, hsecond], ?_⟩
  intro place effect origin hplace
  have hlength : report.length = reordered.length := by
    simpa using Effect.length_report hreordered
  exact Effect.Reorders.report_eq hlength hplaced hplace

/-- Valid lists of effects may be split and rearranged.  Two lists as one list leave what they leave
one after the other, and it reports the changes of the first and then those of the second.  A list
in another order, in which effects on one variable and effects that draw keep theirs, leaves the
same variables and the same random source, and each effect reports the change that it reported at
the place it had at first. -/
theorem effects_split_and_rearrange (stage : Stage) (effects : List Effect)
    (hvalid : Effect.validate effects = .ok ()) :
    let first := (applyEffects effects).run stage
    (∀ others, Effect.validate others = .ok () →
      let second := (applyEffects others).run first.state
      ∃ changes later, first.result = .ok changes ∧ second.result = .ok later ∧
        (applyEffects (effects ++ others)).run stage =
          { result := .ok (changes ++ later), state := second.state,
            events := changeEvents (changes ++ later) second.state.store }) ∧
    ∀ reordered, Effect.Reorders effects reordered →
      let second := (applyEffects (reordered.map Prod.fst)).run stage
      ∃ changes later, first.result = .ok changes ∧ second.result = .ok later ∧
        second.state = first.state ∧
        ∀ (place : Nat) (effect : Effect) (origin : Nat),
          reordered[place]? = some (effect, origin) →
            ∃ change, changes[origin]? = some change ∧ later[place]? = some change :=
  ⟨fun _ hothers => applyEffects_append hvalid hothers stage,
    fun _ hreorders => applyEffects_reordered hvalid hreorders stage⟩

/-- A draw of luck, a find of gold and a good star that doubles the luck. -/
def windfall : List Effect :=
  [.random "Luck" 1 6, .add "Gold" 5, .multiply "Luck" 2]

/-- The gold is found after the star has risen. -/
def lateWindfall : List (Effect × Nat) :=
  [(.random "Luck" 1 6, 0), (.multiply "Luck" 2, 2), (.add "Gold" 5, 1)]

theorem windfall_rearranged :
    Effect.validate windfall = .ok () ∧ Effect.Reorders windfall lateWindfall ∧
      let stage : Stage := { generator := .ofSeed 1 }
      ((applyEffects (lateWindfall.map Prod.fst)).run stage).state =
        ((applyEffects windfall).run stage).state := by
  have hvalid : Effect.validate windfall = .ok () :=
    Effect.validate_iff_forall.mpr (by decide +kernel)
  have hreorders : Effect.Reorders windfall lateWindfall :=
    { perm := by decide +kernel, names := by decide +kernel, draws := by decide +kernel }
  obtain ⟨-, -, -, -, hstate, -⟩ :=
    (effects_split_and_rearrange { generator := .ofSeed 1 } windfall hvalid).2 _ hreorders
  exact ⟨hvalid, hreorders, hstate⟩

end Stage

end BranchingStory
