import BranchingStory.Playthrough
import BranchingStory.Proofs.Playing

/-!
# Settling a choice

Before a choice leads anywhere it is settled: its effects are applied, its die is thrown and a
failure takes the penalty.  Settling acts on the variables and the random source only, and a choice
whose effects are valid always settles.  `settled` says what variables and which random source
come out, without mentioning any event.
-/

namespace BranchingStory

/-- What succeeds as a whole has succeeded in its parts. -/
theorem exists_ok_of_bind {Error Value Other : Type} {first : Except Error Value}
    {next : Value → Except Error Other} {result : Other} (hbind : first >>= next = .ok result) :
    ∃ value, first = .ok value ∧ next value = .ok result := by
  cases first with
  | error error => cases hbind
  | ok value => exact ⟨value, rfl, hbind⟩

namespace Effect

/-- What comes of an effect that has computed its value. -/
def written (effect : Effect) (store : Variables) (computed : Binary64 × Generator) :
    Outcome Change where
  report :=
    { name := effect.name, operation := effect.operation,
      delta := computed.1 - store.get effect.name, value := computed.1 }
  store := store.set effect.name computed.1
  generator := computed.2

theorem apply_iff {effect : Effect} {store : Variables} {generator : Generator}
    {outcome : Outcome Change} :
    effect.apply store generator = .ok outcome ↔
      ∃ computed, effect.newValue store generator = .ok computed ∧
        effect.written store computed = outcome := by
  constructor
  · intro happlied
    obtain ⟨computed, hvalue, hwritten⟩ := exists_ok_of_bind happlied
    exact ⟨computed, hvalue, Except.ok.inj hwritten⟩
  · rintro ⟨computed, hvalue, rfl⟩
    rw [apply, hvalue]
    rfl

/-- Effects are applied one after the other. -/
theorem applyInOrder_cons_iff {effect : Effect} {rest : List Effect} {store : Variables}
    {generator : Generator} {outcome : Outcome (List Change)} :
    applyInOrder (effect :: rest) store generator = .ok outcome ↔
      ∃ first others, effect.apply store generator = .ok first ∧
        applyInOrder rest first.store first.generator = .ok others ∧
        { others with report := first.report :: others.report } = outcome := by
  constructor
  · intro happlied
    obtain ⟨first, hfirst, hrest⟩ := exists_ok_of_bind happlied
    obtain ⟨others, hothers, houtcome⟩ := exists_ok_of_bind hrest
    exact ⟨first, others, hfirst, hothers, Except.ok.inj houtcome⟩
  · rintro ⟨first, others, hfirst, hothers, rfl⟩
    simp only [applyInOrder, hfirst, hothers, bind, Except.bind, pure, Except.pure]

/-- An effect without a defect applies to every store. -/
theorem apply_of_valid {effect : Effect} (hvalid : effect.defect? = none) (store : Variables)
    (generator : Generator) : ∃ outcome, effect.apply store generator = .ok outcome := by
  have hvalue : ∃ value, effect.newValue store generator = .ok value := by
    simp only [defect?] at hvalid
    simp only [newValue]
    cases hoperation : effect.operation with
    | set | add | multiply =>
        cases hoperand : effect.finiteOperand with
        | error error => simp [hoperation, hoperand] at hvalid
        | ok operand => exact ⟨_, rfl⟩
    | random =>
        cases hbounds : effect.bounds with
        | error error => simp [hoperation, hbounds] at hvalid
        | ok bounds => exact ⟨_, rfl⟩
    | unrecognized written => simp [hoperation] at hvalid
  obtain ⟨computed, hvalue⟩ := hvalue
  exact ⟨_, apply_iff.mpr ⟨computed, hvalue, rfl⟩⟩

theorem validate_cons {effect : Effect} {rest : List Effect} :
    validate (effect :: rest) = .ok () ↔ effect.defect? = none ∧ validate rest = .ok () := by
  simp only [validate]
  cases effect.defect? with
  | none => simp
  | some error => simp

/-- Valid effects apply from the first to the last. -/
theorem applyInOrder_of_valid {effects : List Effect} (hvalid : validate effects = .ok ())
    (store : Variables) (generator : Generator) :
    ∃ outcome, applyInOrder effects store generator = .ok outcome := by
  induction effects generalizing store generator with
  | nil => exact ⟨_, rfl⟩
  | cons effect rest ih =>
      obtain ⟨heffect, hrest⟩ := validate_cons.mp hvalid
      obtain ⟨first, hfirst⟩ := apply_of_valid heffect store generator
      obtain ⟨others, hothers⟩ := ih hrest first.store first.generator
      exact ⟨_, applyInOrder_cons_iff.mpr ⟨first, others, hfirst, hothers, rfl⟩⟩

theorem applyInOrder_of_applyAll {effects : List Effect} {store : Variables}
    {generator : Generator} {outcome : Outcome (List Change)}
    (happlied : applyAll effects store generator = .ok outcome) :
    applyInOrder effects store generator = .ok outcome := by
  obtain ⟨valid, hvalid, hinOrder⟩ := exists_ok_of_bind happlied
  exact hinOrder

/-- Effects that were validated are applied as a whole by being applied in order. -/
theorem applyAll_of_validated {effects : List Effect} (hvalid : validate effects = .ok ())
    (store : Variables) (generator : Generator) :
    applyAll effects store generator = applyInOrder effects store generator := by
  rw [applyAll, hvalid]
  rfl

theorem applyAll_of_valid {effects : List Effect} (hvalid : validate effects = .ok ())
    (store : Variables) (generator : Generator) :
    ∃ outcome, applyAll effects store generator = .ok outcome := by
  obtain ⟨outcome, houtcome⟩ := applyInOrder_of_valid hvalid store generator
  exact ⟨outcome, (applyAll_of_validated hvalid store generator).trans houtcome⟩

/-- Effects that validation refuses are not applied as a whole. -/
theorem applyAll_of_refused {effects : List Effect} {error : EffectError}
    (hrefused : validate effects = .error error) (store : Variables) (generator : Generator) :
    applyAll effects store generator = .error error := by
  rw [applyAll, hrefused]
  rfl

end Effect

/-- The events that settling a choice may emit: changes of variables and throws of dice. -/
def Event.isSettling : Event → Bool
  | variablesDelta _ | variablesUpdated _ | diceRolled _ => true
  | _ => false

theorem filter_isSettling_eq_nil {events : List Event}
    (hunsettling : ∀ event ∈ events, event.isSettling = false) :
    events.filter Event.isSettling = [] := by
  apply List.filter_eq_nil_iff.mpr
  intro event hmem
  exact Bool.eq_false_iff.mp (hunsettling event hmem)

namespace Playthrough

/-! ## Variables and random source of a settled choice -/

/-- The throw that a check makes, and the random source after it. -/
def thrown (script : Script) (check : DiceCheck) (generator : Generator) : DiceRoll × Generator :=
  let sides := sidesOf script check
  let difficulty := difficultyOf script check
  let (face, later) := generator.roll sides
  let outcome := if difficulty ≤ face then DiceOutcome.success else .failure
  ({ face, sides, difficulty, outcome, stat := check.stat }, later)

/-- The changes that the outcome of a check makes: a failure costs its penalty. -/
def penalty (script : Script) (check : DiceCheck) (outcome : DiceOutcome) (store : Variables) :
    List Change × Variables :=
  match outcome with
  | .success => ([], store)
  | .failure =>
      subtractFrom script.settings.dice.penalty.amount (penaltyTargets script check) store

/-- The variables and the random source after the effects, the die and the penalty of a choice. -/
def settled (script : Script) (choice : Choice) (store : Variables) (generator : Generator) :
    Except EffectError (Variables × Generator) :=
  match Effect.applyAll choice.effects store generator with
  | .error error => .error error
  | .ok applied =>
      match choice.check with
      | none => .ok (applied.store, applied.generator)
      | some check =>
          let thrown := thrown script check applied.generator
          .ok ((penalty script check thrown.1.outcome applied.store).2, thrown.2)

/-! ## Settling as a step -/

/-- The effects of a choice and then its die, if it has one. -/
def settle (script : Script) (choice : Choice) : Playing Stage (Option DiceOutcome) := do
  let _ ← Stage.applyEffects choice.effects
  match choice.check with
  | some check => some <$> throwDie script check
  | none => pure none

theorem onStage_bind {Value Other : Type} (first : Playing Stage Value)
    (next : Value → Playing Stage Other) :
    onStage (first >>= next) = onStage first >>= fun value => onStage (next value) := by
  unfold onStage
  apply Playing.onPart_bind
  · intro playthrough stage
    rfl
  · intro playthrough stage other
    rfl

theorem onStage_map {Value Other : Type} (change : Value → Other) (step : Playing Stage Value) :
    onStage (change <$> step) = change <$> onStage step := by
  funext playthrough
  change (onStage (change <$> step)).run playthrough = (change <$> onStage step).run playthrough
  rw [Playing.run_map, onStage, onStage, Playing.run_onPart, Playing.run_onPart, Playing.run_map]

theorem onStage_settle (script : Script) (choice : Choice) :
    onStage (settle script choice) =
      onStage (Stage.applyEffects choice.effects) >>= fun _ => throwDieOf script choice := by
  rw [settle, onStage_bind]
  congr 1
  funext changes
  rw [throwDieOf]
  cases choice.check with
  | none => rfl
  | some check => exact onStage_map some (throwDie script check)

theorem run_applyEffects {effects : List Effect} {stage : Stage}
    {applied : Effect.Outcome (List Change)}
    (happlied : Effect.applyAll effects stage.store stage.generator = .ok applied) :
    (Stage.applyEffects effects).run stage =
      { result := .ok applied.report,
        state := { stage with store := applied.store, generator := applied.generator },
        events := Stage.changeEvents applied.report applied.store } := by
  simp only [Playing.run, Stage.applyEffects, happlied]

theorem run_applyEffects_of_refused {effects : List Effect} {stage : Stage} {error : EffectError}
    (hrefused : Effect.applyAll effects stage.store stage.generator = .error error) :
    (Stage.applyEffects effects).run stage =
      { result := .error (.effect error), state := stage, events := [] } := by
  simp only [Playing.run, Stage.applyEffects, hrefused]

/-- What a penalty publishes: nothing when there is nothing to take. -/
def penaltyEvents (changes : List Change) (store : Variables) : List Event :=
  if changes.isEmpty then [] else Stage.changeEvents changes store

theorem run_penalize (script : Script) (check : DiceCheck) (stage : Stage) :
    (penalize script check).run stage =
      { result := .ok (),
        state := { stage with store := (penalty script check .failure stage.store).2 },
        events := penaltyEvents (penalty script check .failure stage.store).1
          (penalty script check .failure stage.store).2 } := by
  simp only [Playing.run, penalize, penalty]
  cases htargets : penaltyTargets script check with
  | nil => rfl
  | cons name rest => rfl

theorem run_throwDie (script : Script) (check : DiceCheck) (stage : Stage) :
    (throwDie script check).run stage =
      let thrown := thrown script check stage.generator
      let paid := penalty script check thrown.1.outcome stage.store
      { result := .ok thrown.1.outcome,
        state := { stage with store := paid.2, generator := thrown.2 },
        events := .diceRolled thrown.1 :: penaltyEvents paid.1 paid.2 } := by
  rw [throwDie, Playing.run_bind_of_silent (Playing.run_current _)]
  simp only [thrown]
  cases hroll : stage.generator.roll (sidesOf script check) with
  | mk face later =>
      rw [Playing.run_bind_of_silent (Playing.run_update _ _),
        Playing.run_bind_of_ok (Playing.run_emit _ _)]
      generalize (if difficultyOf script check ≤ face then DiceOutcome.success
        else DiceOutcome.failure) = outcome
      cases outcome with
      | success => rfl
      | failure =>
          simp only
          rw [Playing.run_bind_of_ok (run_penalize _ _ _)]
          simp

theorem isSettling_changeEvents {changes : List Change} {store : Variables} {event : Event}
    (hmem : event ∈ Stage.changeEvents changes store) : event.isSettling = true := by
  simp only [Stage.changeEvents, List.mem_cons, List.not_mem_nil, or_false] at hmem
  rcases hmem with rfl | rfl <;> rfl

theorem isSettling_penaltyEvents {changes : List Change} {store : Variables} {event : Event}
    (hmem : event ∈ penaltyEvents changes store) : event.isSettling = true := by
  rw [penaltyEvents] at hmem
  split at hmem
  · simp at hmem
  · exact isSettling_changeEvents hmem

/-- Settling a choice without a check. -/
theorem run_settle_of_unchecked {script : Script} {choice : Choice} {stage : Stage}
    {applied : Effect.Outcome (List Change)}
    (happlied : Effect.applyAll choice.effects stage.store stage.generator = .ok applied)
    (hcheck : choice.check = none) :
    (settle script choice).run stage =
      { result := .ok none,
        state := { stage with store := applied.store, generator := applied.generator },
        events := Stage.changeEvents applied.report applied.store } := by
  rw [settle, Playing.run_bind_of_ok (run_applyEffects happlied), hcheck]
  simp

/-- Settling a choice with a check. -/
theorem run_settle_of_checked (script : Script) {choice : Choice} {check : DiceCheck}
    {stage : Stage} {applied : Effect.Outcome (List Change)}
    (happlied : Effect.applyAll choice.effects stage.store stage.generator = .ok applied)
    (hcheck : choice.check = some check) :
    (settle script choice).run stage =
      let thrown := thrown script check applied.generator
      let paid := penalty script check thrown.1.outcome applied.store
      { result := .ok (some thrown.1.outcome),
        state := { stage with store := paid.2, generator := thrown.2 },
        events := Stage.changeEvents applied.report applied.store ++
          .diceRolled thrown.1 :: penaltyEvents paid.1 paid.2 } := by
  rw [settle, Playing.run_bind_of_ok (run_applyEffects happlied), hcheck]
  simp only [Playing.run_map, run_throwDie, Except.map]

/-- A choice with a defective effect does not settle. -/
theorem run_settle_of_refused (script : Script) {choice : Choice} {stage : Stage}
    {error : EffectError}
    (hrefused : Effect.applyAll choice.effects stage.store stage.generator = .error error) :
    (settle script choice).run stage =
      { result := .error (.effect error), state := stage, events := [] } :=
  Playing.run_bind_of_error (run_applyEffects_of_refused hrefused)

/-- What comes of settling a choice that is not refused. -/
inductive Settlement (script : Script) (choice : Choice) (stage : Stage) :
    Option DiceOutcome → Stage → List Event → Prop where
  | unchecked (applied : Effect.Outcome (List Change))
      (happlied : Effect.applyAll choice.effects stage.store stage.generator = .ok applied)
      (hcheck : choice.check = none) :
      Settlement script choice stage none
        { stage with store := applied.store, generator := applied.generator }
        (Stage.changeEvents applied.report applied.store)
  | checked (applied : Effect.Outcome (List Change))
      (happlied : Effect.applyAll choice.effects stage.store stage.generator = .ok applied)
      (check : DiceCheck) (hcheck : choice.check = some check) (roll : DiceRoll)
      (generator : Generator)
      (hthrown : thrown script check applied.generator = (roll, generator)) :
      Settlement script choice stage (some roll.outcome)
        { stage with store := (penalty script check roll.outcome applied.store).2, generator }
        (Stage.changeEvents applied.report applied.store ++ [.diceRolled roll] ++
          penaltyEvents (penalty script check roll.outcome applied.store).1
            (penalty script check roll.outcome applied.store).2)

theorem settlement_of_settle {script : Script} {choice : Choice} {stage reached : Stage}
    {outcome : Option DiceOutcome} {events : List Event}
    (hsettle : (settle script choice).run stage =
      { result := .ok outcome, state := reached, events }) :
    Settlement script choice stage outcome reached events := by
  cases happlied : Effect.applyAll choice.effects stage.store stage.generator with
  | error error =>
      rw [run_settle_of_refused script happlied] at hsettle
      cases hsettle
  | ok applied =>
      cases hcheck : choice.check with
      | none =>
          rw [run_settle_of_unchecked happlied hcheck] at hsettle
          cases hsettle
          exact .unchecked applied happlied hcheck
      | some check =>
          rw [run_settle_of_checked script happlied hcheck] at hsettle
          cases hsettle
          exact .checked applied happlied check hcheck _ _ rfl

/-- Settling neither looks at the cursor nor moves it. -/
theorem run_settle_withCursor (script : Script) (choice : Choice) (stage : Stage)
    (cursor : Cursor) :
    (settle script choice).run { stage with cursor } =
      let reply := (settle script choice).run stage
      { reply with state := { reply.state with cursor } } := by
  cases happlied : Effect.applyAll choice.effects stage.store stage.generator with
  | error error =>
      rw [@run_settle_of_refused script choice { stage with cursor } error happlied,
        run_settle_of_refused script happlied]
  | ok applied =>
      cases hcheck : choice.check with
      | none =>
          rw [@run_settle_of_unchecked script choice { stage with cursor } applied happlied hcheck,
            run_settle_of_unchecked happlied hcheck]
      | some check =>
          rw [@run_settle_of_checked script choice check { stage with cursor } applied happlied
              hcheck,
            run_settle_of_checked script happlied hcheck]

/-- A choice with valid effects settles: the step succeeds, leaves the variables and the random
source that `settled` says, moves no cursor and emits nothing but settling events. -/
theorem run_settle_of_valid (script : Script) {choice : Choice}
    (hvalid : Effect.validate choice.effects = .ok ()) (stage : Stage) :
    ∃ outcome store generator events,
      settled script choice stage.store stage.generator = .ok (store, generator) ∧
      (settle script choice).run stage =
        { result := .ok outcome, state := { stage with store, generator }, events } ∧
      ∀ event ∈ events, event.isSettling = true := by
  obtain ⟨applied, happlied⟩ :=
    Effect.applyAll_of_valid hvalid stage.store stage.generator
  cases hcheck : choice.check with
  | none =>
      refine ⟨_, _, _, _, ?_, run_settle_of_unchecked happlied hcheck, ?_⟩
      · simp only [settled, happlied, hcheck]
      · intro event hmem
        exact isSettling_changeEvents hmem
  | some check =>
      have hrun := run_settle_of_checked script happlied hcheck
      refine ⟨_, _, _, _, ?_, hrun, ?_⟩
      · simp only [settled, happlied, hcheck]
      · intro event hmem
        rcases List.mem_append.mp hmem with heffects | hdie
        · exact isSettling_changeEvents heffects
        · rcases List.mem_cons.mp hdie with rfl | hpenalty
          · rfl
          · exact isSettling_penaltyEvents hpenalty

end Playthrough

end BranchingStory
