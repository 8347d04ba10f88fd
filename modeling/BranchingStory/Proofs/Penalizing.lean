import Mathlib.Data.List.Basic
import BranchingStory.Proofs.Lookup
import BranchingStory.Proofs.Run

/-!
# The penalty of a failed check

A failed check costs its stat, or every tracked variable, the amount of the penalty.  The targets
are a list that is gone through from the first to the last, and each of them is charged from what it
holds by then.  So a variable that stands in the list more than once is charged as often, and each
charge is told.  Settings may track a variable twice, for validation does not look at the names; a
tracked variable gets its starting value once all the same.

`Playthrough.penalizedOnce_iff` says that a penalty is taken once from each variable, and from no
other, exactly when the targets are distinct.
-/

namespace BranchingStory

namespace Playthrough

/-! ## Charging names -/

/-- A value after the penalty. -/
def charged (amount value : Binary64) : Binary64 := Variables.clamp (value - amount)

/-- A value after so many penalties. -/
def chargedTimes (amount : Binary64) : Nat → Binary64 → Binary64
  | 0, value => value
  | times + 1, value => chargedTimes amount times (charged amount value)

section Charging

variable {amount : Binary64} {names : List String} {store : Variables}

theorem subtractFrom_cons (amount : Binary64) (name : String) (rest : List String)
    (store : Variables) :
    subtractFrom amount (name :: rest) store =
      let value := charged amount (store.get name)
      let others := subtractFrom amount rest (store.set name value)
      ({ name, operation := .add, delta := value - store.get name, value } :: others.1,
        others.2) :=
  rfl

/-- One change is told for each occurrence of a name. -/
theorem names_subtractFrom (amount : Binary64) (names : List String) (store : Variables) :
    (subtractFrom amount names store).1.map Change.name = names := by
  induction names generalizing store with
  | nil => rfl
  | cons name rest ih => rw [subtractFrom_cons, List.map_cons, ih]

/-- A name is charged once for each of its occurrences, and other names are left alone. -/
theorem find?_subtractFrom (amount : Binary64) (names : List String) (store : Variables)
    (name : String) :
    (subtractFrom amount names store).2.find? name =
      if name ∈ names then some (chargedTimes amount (names.count name) (store.get name))
      else store.find? name := by
  induction names generalizing store with
  | nil => rfl
  | cons head rest ih =>
      rw [subtractFrom_cons, ih, Variables.get_set, Variables.find?_set, List.count_cons]
      by_cases hhead : name = head
      · subst hhead
        by_cases hrest : name ∈ rest
        · simp [hrest, chargedTimes]
        · simp [hrest, List.count_eq_zero_of_not_mem hrest, chargedTimes]
      · simp [hhead, Ne.symm hhead]

/-- Names that were charged one after the other: each as often as it stands in the list, every time
from what it held by then, and with one change that tells it.  The other variables are left alone. -/
structure Charges (amount : Binary64) (names : List String) (before after : Variables)
    (changes : List Change) : Prop where
  taken : ∀ name ∈ names,
    after.find? name = some (chargedTimes amount (names.count name) (before.get name))
  kept : ∀ name, name ∉ names → after.find? name = before.find? name
  names_eq : changes.map Change.name = names
  told : ∀ place change, changes[place]? = some change →
    let held :=
      chargedTimes amount ((names.take place).count change.name) (before.get change.name)
    change.operation = .add ∧ change.value = charged amount held ∧
      change.delta = change.value - held

/-- The change at a place tells a charge of what the ones before it have left. -/
theorem told_subtractFrom {place : Nat} {change : Change}
    (hchange : (subtractFrom amount names store).1[place]? = some change) :
    let held :=
      chargedTimes amount ((names.take place).count change.name) (store.get change.name)
    change.operation = .add ∧ change.value = charged amount held ∧
      change.delta = change.value - held := by
  induction names generalizing store place with
  | nil => simp [subtractFrom] at hchange
  | cons head rest ih =>
      rw [subtractFrom_cons] at hchange
      cases place with
      | zero =>
          cases hchange
          exact ⟨rfl, rfl, rfl⟩
      | succ place =>
          have hlater := ih hchange
          rw [Variables.get_set] at hlater
          rw [List.take_succ_cons, List.count_cons]
          by_cases hhead : change.name = head
          · rw [if_pos hhead, ← hhead] at hlater
            rw [if_pos (by simp [hhead])]
            exact hlater
          · rw [if_neg hhead] at hlater
            rw [if_neg (by simpa using Ne.symm hhead)]
            exact hlater

theorem charges_subtractFrom (amount : Binary64) (names : List String) (store : Variables) :
    Charges amount names store (subtractFrom amount names store).2
      (subtractFrom amount names store).1 where
  taken name hmem := by rw [find?_subtractFrom, if_pos hmem]
  kept name hfree := by rw [find?_subtractFrom, if_neg hfree]
  names_eq := names_subtractFrom amount names store
  told _ _ := told_subtractFrom

/-- Distinct names are charged once, each from its own value. -/
theorem Charges.told_of_nodup {after : Variables} {changes : List Change} {change : Change}
    (hcharges : Charges amount names store after changes) (hdistinct : names.Nodup)
    (hmem : change ∈ changes) :
    change.operation = .add ∧ change.value = charged amount (store.get change.name) ∧
      change.delta = change.value - store.get change.name := by
  obtain ⟨place, hplace⟩ := List.mem_iff_getElem?.mp hmem
  have hname : names[place]? = some change.name := by
    rw [← hcharges.names_eq, List.getElem?_map, hplace]
    rfl
  -- The name stands behind the others, and nowhere else.
  have hbehind : change.name ∈ names.drop place := by
    apply List.mem_of_getElem? (i := 0)
    rw [List.getElem?_drop]
    exact hname
  have hfirst : (names.take place).count change.name = 0 :=
    List.count_eq_zero.mpr fun hbefore =>
      List.disjoint_take_drop hdistinct (Nat.le_refl place) hbefore hbehind
  have htold := hcharges.told place change hplace
  rwa [hfirst] at htold

end Charging

/-! ## What a penalty costs -/

/-- Whether a failed check costs a variable: the stat of the check, where the penalty is on it and
there is one, and each tracked variable otherwise. -/
def Costs (script : Script) (check : DiceCheck) (name : String) : Prop :=
  match script.settings.dice.penalty.scope, check.stat with
  | .checkedStat, some stat => name = stat
  | _, _ => name ∈ script.settings.tracked

/-- Whether the penalty of a check is on its stat alone. -/
def OnStat (script : Script) (check : DiceCheck) : Prop :=
  script.settings.dice.penalty.scope = .checkedStat ∧ check.stat ≠ none

theorem mem_penaltyTargets {script : Script} {check : DiceCheck} {name : String} :
    name ∈ penaltyTargets script check ↔ Costs script check name := by
  rw [penaltyTargets, Costs]
  cases script.settings.dice.penalty.scope with
  | allTracked => exact Iff.rfl
  | checkedStat =>
      cases check.stat with
      | none => exact Iff.rfl
      | some stat => exact List.mem_singleton

theorem nodup_penaltyTargets {script : Script} {check : DiceCheck} :
    (penaltyTargets script check).Nodup ↔
      OnStat script check ∨ script.settings.tracked.Nodup := by
  rw [penaltyTargets, OnStat]
  cases script.settings.dice.penalty.scope with
  | allTracked => simp
  | checkedStat =>
      cases check.stat with
      | none => simp
      | some stat => simp

/-- A penalty that was taken once from each variable that it costs.  It is told as one change of
each, from the value before the penalty, and of no other; nothing is told where it costs nothing. -/
structure PenalizedOnce (script : Script) (check : DiceCheck) (before after : Variables)
    (told : List Event) : Prop where
  taken : ∀ name, Costs script check name →
    after.find? name =
      some (Variables.clamp (before.get name - script.settings.dice.penalty.amount))
  kept : ∀ name, ¬ Costs script check name → after.find? name = before.find? name
  published : (∃ name, Costs script check name) →
    ∃ changes, told = [.variablesDelta changes, .variablesUpdated after] ∧
      (changes.map Change.name).Nodup ∧
      (∀ name, name ∈ changes.map Change.name ↔ Costs script check name) ∧
      ∀ change ∈ changes, change.operation = .add ∧
        change.value =
          Variables.clamp (before.get change.name - script.settings.dice.penalty.amount) ∧
        change.delta = change.value - before.get change.name
  silent : (∀ name, ¬ Costs script check name) → told = []

section Penalties

variable {script : Script} {check : DiceCheck} {store : Variables}

theorem penaltyEvents_of_target {name : String} (htarget : Costs script check name) :
    let paid := penalty script check .failure store
    penaltyEvents paid.1 paid.2 = Stage.changeEvents paid.1 paid.2 := by
  have hmem := mem_penaltyTargets.mpr htarget
  intro paid
  have hnames : paid.1.map Change.name = penaltyTargets script check := names_subtractFrom _ _ _
  rw [penaltyEvents, if_neg]
  intro hnone
  rw [List.isEmpty_iff.mp hnone] at hnames
  rw [← hnames] at hmem
  cases hmem

theorem penaltyEvents_of_free (hfree : ∀ name, ¬ Costs script check name) :
    let paid := penalty script check .failure store
    penaltyEvents paid.1 paid.2 = [] := by
  have hnone : penaltyTargets script check = [] := by
    apply List.eq_nil_iff_forall_not_mem.mpr
    intro name hmem
    exact hfree name (mem_penaltyTargets.mp hmem)
  simp only [penalty, hnone]
  rfl

/-- A penalty on distinct targets is taken once from each. -/
theorem penalizedOnce_of_nodup (hdistinct : (penaltyTargets script check).Nodup) :
    let paid := penalty script check .failure store
    PenalizedOnce script check store paid.2 (penaltyEvents paid.1 paid.2) := by
  intro paid
  have hcharges := charges_subtractFrom script.settings.dice.penalty.amount
    (penaltyTargets script check) store
  constructor
  · intro name hcosts
    have hmem := mem_penaltyTargets.mpr hcosts
    have htaken := hcharges.taken name hmem
    rwa [hdistinct.count, if_pos hmem] at htaken
  · intro name hfree
    exact hcharges.kept name fun hmem => hfree (mem_penaltyTargets.mp hmem)
  · rintro ⟨name, hcosts⟩
    have hnames : paid.1.map Change.name = penaltyTargets script check := hcharges.names_eq
    refine ⟨paid.1, penaltyEvents_of_target hcosts, ?_, ?_, ?_⟩
    · rw [hnames]
      exact hdistinct
    · intro other
      rw [hnames]
      exact mem_penaltyTargets
    · intro change hmem
      exact hcharges.told_of_nodup hdistinct hmem
  · exact penaltyEvents_of_free

/-- A penalty that is told once of each target has distinct targets. -/
theorem nodup_of_penalizedOnce
    (honce : let paid := penalty script check .failure store
      PenalizedOnce script check store paid.2 (penaltyEvents paid.1 paid.2)) :
    (penaltyTargets script check).Nodup := by
  cases htargets : penaltyTargets script check with
  | nil => exact .nil
  | cons name rest =>
      have hcosts : Costs script check name :=
        mem_penaltyTargets.mp (htargets ▸ List.mem_cons_self)
      obtain ⟨changes, htold, hdistinct, -⟩ := honce.published ⟨name, hcosts⟩
      rw [penaltyEvents_of_target hcosts] at htold
      cases htold
      have hnames := names_subtractFrom script.settings.dice.penalty.amount
        (penaltyTargets script check) store
      rw [← htargets, ← hnames]
      exact hdistinct

/-- A failed check charges each of its targets as often as it occurs among them, and leaves the
other variables alone.  It takes its penalty once from each exactly when it is on the stat of the
check or the tracked variables are distinct. -/
theorem penalizedOnce_iff (script : Script) (check : DiceCheck) (stage : Stage)
    (hfailed : ((throwDie script check).run stage).result = .ok .failure) :
    ∃ roll told, roll.outcome = .failure ∧
      ((throwDie script check).run stage).events = .diceRolled roll :: told ∧
      let after := ((throwDie script check).run stage).state.store
      (∀ name, Costs script check name →
        after.find? name =
          some (chargedTimes script.settings.dice.penalty.amount
            ((penaltyTargets script check).count name) (stage.store.get name))) ∧
      (∀ name, ¬ Costs script check name → after.find? name = stage.store.find? name) ∧
      (PenalizedOnce script check stage.store after told ↔
        OnStat script check ∨ script.settings.tracked.Nodup) := by
  have hrun := run_throwDie script check stage
  rw [hrun] at hfailed
  have houtcome : (thrown script check stage.generator).1.outcome = .failure :=
    Except.ok.inj hfailed
  simp only [houtcome] at hrun
  rw [hrun]
  refine ⟨_, _, houtcome, rfl, ?_⟩
  have hcharges := charges_subtractFrom script.settings.dice.penalty.amount
    (penaltyTargets script check) stage.store
  refine ⟨?_, ?_, ?_⟩
  · intro name hcosts
    exact hcharges.taken name (mem_penaltyTargets.mpr hcosts)
  · intro name hfree
    exact hcharges.kept name fun hmem => hfree (mem_penaltyTargets.mp hmem)
  · rw [← nodup_penaltyTargets]
    exact ⟨nodup_of_penalizedOnce, penalizedOnce_of_nodup⟩

end Penalties

end Playthrough

/-- A throw that no ordinary die can win. -/
def sevens : DiceCheck where
  difficulty := some 7

def tavernScene : Scene where
  id := "tavern"
  dialogues :=
    [{ speaker := "Sailor", text := "Throw a seven!",
       choices := [{ text := "Throw", check := some sevens }] },
      { speaker := "Sailor", text := "Bad luck." }]

def tavernStory : Story where
  scenes := [tavernScene]
  unambiguous := by decide

/-- Settings that track luck twice. -/
def doublyLucky : Settings where
  tracked := ["Luck", "Luck"]

namespace Director

/-- The story of the tavern under settings, with nobody listening. -/
def drinker (settings : Settings) : Director Unit :=
  opened tavernStory settings {} (Generator.ofSeed 1)

/-- The calls of a player who throws the dice. -/
def throwing : List Call := [.start, .choose { seconds := 0, nanoseconds := 0 } 0]

/-- The settings are accepted, luck starts at 50 once, and losing costs it twice. -/
theorem doublyLucky_charged_twice :
    build tavernStory doublyLucky none [] {} (Generator.ofSeed 1) = .ok (drinker doublyLucky) ∧
      (drinker doublyLucky).store.get "Luck" = 50 ∧
      Event.variablesDelta
          [{ name := "Luck", operation := .add, delta := -5, value := 45 },
            { name := "Luck", operation := .add, delta := -5, value := 40 }] ∈
        ((drinker doublyLucky).chronicle throwing).events ∧
      let stage := (drinker doublyLucky).playthrough.stage
      let reply := (Playthrough.throwDie (drinker doublyLucky).script sevens).run stage
      reply.result = .ok .failure ∧
        ∀ told, ¬ Playthrough.PenalizedOnce (drinker doublyLucky).script sevens stage.store
          reply.state.store told := by
  refine ⟨build_eq_opened tavernStory {} (Generator.ofSeed 1) (by decide +kernel),
    by decide +kernel, by decide +kernel, eq_ok_of_toOption (by decide +kernel),
    fun told honce => ?_⟩
  have hcosts : Playthrough.Costs (drinker doublyLucky).script sevens "Luck" :=
    List.mem_cons_self
  have htaken := honce.taken "Luck" hcosts
  revert htaken
  decide +kernel

/-- Under the usual settings losing costs each of the tracked variables once. -/
theorem drinker_charged_once :
    let stage := (drinker {}).playthrough.stage
    let reply := (Playthrough.throwDie (drinker {}).script sevens).run stage
    reply.result = .ok .failure ∧
      ∃ told, Playthrough.PenalizedOnce (drinker {}).script sevens stage.store
        reply.state.store told := by
  intro stage reply
  have hfailed : reply.result = .ok .failure := eq_ok_of_toOption (by decide +kernel)
  obtain ⟨roll, told, -, -, -, -, honce⟩ :=
    Playthrough.penalizedOnce_iff (drinker {}).script sevens stage hfailed
  exact ⟨hfailed, told, honce.mpr (.inr (by decide +kernel))⟩

end Director

end BranchingStory
