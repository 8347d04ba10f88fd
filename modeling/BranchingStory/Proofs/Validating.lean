import BranchingStory.Proofs.Placing
import BranchingStory.Proofs.Settling

/-!
# Validated effects

Whether an effect applies depends on the effect alone.  So a list of effects can be validated before
the first of them is applied: if it passes, each of its effects applies wherever the ones before it
lead, and if it does not, applying its effects one after the other fails at the very effect, and
with the very error, that validation names.

Nothing of this would help a list whose effects are applied in place if an effect could fail after
it has written or drawn something.  `Stage.applyInPlace` takes an effect apart into what it reads,
draws and writes, each of which stays, and `run_applyInPlace` says that an effect that fails has
left everything as it was.  A list that is validated, applied in place and then published comes to
what `Stage.applyEffects` does as a whole.
-/

namespace BranchingStory

namespace Effect

/-! ## One effect -/

/-- A defect keeps an effect from being applied anywhere. -/
theorem apply_of_defect {effect : Effect} {error : EffectError}
    (hdefect : effect.defect? = some error) (store : Variables) (generator : Generator) :
    effect.apply store generator = .error error := by
  have hvalue : effect.newValue store generator = .error error := by
    simp only [defect?] at hdefect
    simp only [newValue]
    cases hoperation : effect.operation with
    | set | add | multiply =>
        cases hoperand : effect.finiteOperand with
        | ok operand => simp [hoperation, hoperand] at hdefect
        | error refused =>
            simp only [hoperation, hoperand, Option.some.injEq] at hdefect
            rw [hdefect]
            rfl
    | random =>
        cases hbounds : effect.bounds with
        | ok bounds => simp [hoperation, hbounds] at hdefect
        | error refused =>
            simp only [hoperation, hbounds, Option.some.injEq] at hdefect
            rw [hdefect]
            rfl
    | unrecognized written =>
        simp only [hoperation, Option.some.injEq] at hdefect
        simp only [hdefect]
  rw [apply, hvalue]
  rfl

theorem validate_singleton (effect : Effect) :
    validate [effect] = effect.defect?.elim (.ok ()) .error := by
  rw [validate]
  cases effect.defect? <;> rfl

/-! ## Lists of effects -/

/-- Effects in two parts are applied one part after the other. -/
theorem applyInOrder_append (effects others : List Effect) (store : Variables)
    (generator : Generator) :
    applyInOrder (effects ++ others) store generator = do
      let first ← applyInOrder effects store generator
      let rest ← applyInOrder others first.store first.generator
      return { rest with report := first.report ++ rest.report } := by
  induction effects generalizing store generator with
  | nil =>
      change applyInOrder others store generator = applyInOrder others store generator >>= _
      cases applyInOrder others store generator <;> rfl
  | cons effect rest ih =>
      rw [List.cons_append, applyInOrder, applyInOrder]
      cases effect.apply store generator with
      | error error => rfl
      | ok first =>
          simp only [bind, Except.bind, ih]
          cases applyInOrder rest first.store first.generator with
          | error error => rfl
          | ok middle =>
              simp only [pure, Except.pure]
              cases applyInOrder others middle.store middle.generator <;> rfl

/-- Every effect of a list reports one change. -/
theorem length_report {effects : List Effect} {store : Variables} {generator : Generator}
    {outcome : Outcome (List Change)}
    (happlied : applyInOrder effects store generator = .ok outcome) :
    outcome.report.length = effects.length := by
  induction effects generalizing store generator outcome with
  | nil =>
      cases happlied
      rfl
  | cons effect rest ih =>
      obtain ⟨first, others, hfirst, hothers, rfl⟩ := applyInOrder_cons_iff.mp happlied
      exact congrArg (· + 1) (ih hothers)

/-- Effects that were applied as a whole: one change for each of them, in their order, made from
what the effects before it had left. -/
structure AppliedWhole (effects : List Effect) (store : Variables) (generator : Generator)
    (outcome : Outcome (List Change)) : Prop where
  applied : applyInOrder effects store generator = .ok outcome
  length_eq : outcome.report.length = effects.length
  reports : ∀ earlier effect later, effects = earlier ++ effect :: later →
    ∃ reached change, applyInOrder earlier store generator = .ok reached ∧
      effect.apply reached.store reached.generator = .ok change ∧
      outcome.report[earlier.length]? = some change.report

theorem appliedWhole_of_applyInOrder {effects : List Effect} {store : Variables}
    {generator : Generator} {outcome : Outcome (List Change)}
    (happlied : applyInOrder effects store generator = .ok outcome) :
    AppliedWhole effects store generator outcome where
  applied := happlied
  length_eq := length_report happlied
  reports := by
    rintro earlier effect later rfl
    rw [applyInOrder_append] at happlied
    obtain ⟨reached, hreached, hrest⟩ := exists_ok_of_bind happlied
    obtain ⟨others, hothers, houtcome⟩ := exists_ok_of_bind hrest
    obtain ⟨change, hchange, hlater⟩ := exists_ok_of_bind hothers
    obtain ⟨last, hlast, hreport⟩ := exists_ok_of_bind hlater
    cases hreport
    cases houtcome
    refine ⟨reached, change, hreached, hchange, ?_⟩
    rw [← length_report hreached]
    simp

/-- A list that is refused has a first effect with a defect. -/
theorem exists_defect_of_refused {effects : List Effect} {error : EffectError}
    (hrefused : validate effects = .error error) :
    ∃ earlier effect later, effects = earlier ++ effect :: later ∧
      validate earlier = .ok () ∧ effect.defect? = some error := by
  induction effects with
  | nil => cases hrefused
  | cons effect rest ih =>
      rw [validate] at hrefused
      cases hdefect : effect.defect? with
      | some found =>
          rw [hdefect] at hrefused
          cases hrefused
          exact ⟨[], effect, rest, rfl, rfl, hdefect⟩
      | none =>
          rw [hdefect] at hrefused
          obtain ⟨earlier, other, later, rfl, hearlier, hother⟩ := ih hrefused
          exact ⟨effect :: earlier, other, later, rfl,
            validate_cons.mpr ⟨hdefect, hearlier⟩, hother⟩

/-- A list of effects fails first at one of them, wherever it is applied from: validation passes the
effects before it and refuses it, the effects before it apply, and where they lead it does not. -/
def FailsFirst (effects : List Effect) (error : EffectError) : Prop :=
  ∃ earlier effect later, effects = earlier ++ effect :: later ∧
    validate earlier = .ok () ∧ validate [effect] = .error error ∧
    ∀ store generator, ∃ reached, applyInOrder earlier store generator = .ok reached ∧
      effect.apply reached.store reached.generator = .error error ∧
      applyInOrder effects store generator = .error error

theorem failsFirst_of_refused {effects : List Effect} {error : EffectError}
    (hrefused : validate effects = .error error) : FailsFirst effects error := by
  obtain ⟨earlier, effect, later, rfl, hearlier, hdefect⟩ := exists_defect_of_refused hrefused
  refine ⟨earlier, effect, later, rfl, hearlier, by rw [validate_singleton, hdefect]; rfl, ?_⟩
  intro store generator
  obtain ⟨reached, hreached⟩ := applyInOrder_of_valid hearlier store generator
  have hfails := apply_of_defect hdefect reached.store reached.generator
  refine ⟨reached, hreached, hfails, ?_⟩
  rw [applyInOrder_append, hreached]
  simp only [bind, Except.bind, applyInOrder, hfails]

theorem validate_eq_ok_iff {effects : List Effect} :
    validate effects = .ok () ↔
      ∀ store generator, ∃ outcome, applyInOrder effects store generator = .ok outcome := by
  constructor
  · exact applyInOrder_of_valid
  · intro happlies
    cases hvalid : validate effects with
    | ok valid => rfl
    | error error =>
        obtain ⟨earlier, effect, later, -, -, -, hfails⟩ := failsFirst_of_refused hvalid
        obtain ⟨reached, -, -, hfailed⟩ := hfails .empty (.ofSeed 0)
        obtain ⟨outcome, happlied⟩ := happlies .empty (.ofSeed 0)
        cases hfailed.symm.trans happlied

end Effect

namespace Stage

/-! ## In place -/

/-- Goes on with a value unless it is refused. -/
def demand {Value : Type} : Except EffectError Value → Playing Stage Value
  | .ok value => pure value
  | .error error => Playing.stop (.effect error)

/-- Writes a variable, and tells what was written. -/
def write (name : String) (value : Binary64) : Playing Stage Binary64 := do
  Playing.update fun stage => { stage with store := stage.store.set name value }
  pure value

/-- Adds to a variable, and tells its new value. -/
def increase (name : String) (change : Binary64) : Playing Stage Binary64 := do
  let stage ← Playing.current
  write name (Variables.clamp (stage.store.get name + change))

/-- Draws an integer between two others. -/
def draw (least greatest : Int) : Playing Stage Int := do
  let stage ← Playing.current
  let (drawn, generator) := stage.generator.between least greatest
  Playing.update fun stage => { stage with generator }
  pure drawn

/-- Applies an effect in place, by reading, drawing and writing.  What was drawn or written stays,
also when something after it fails. -/
def applyInPlace (effect : Effect) : Playing Stage Change := do
  let stage ← Playing.current
  let before := stage.store.get effect.name
  let value ←
    match effect.operation with
    | .set => do
        let operand ← demand effect.finiteOperand
        write effect.name (Variables.clamp operand)
    | .add => do
        let operand ← demand effect.finiteOperand
        increase effect.name operand
    | .multiply => do
        let operand ← demand effect.finiteOperand
        write effect.name (Variables.clamp (before * operand).roundToWhole)
    | .random => do
        let (least, greatest) ← demand effect.bounds
        let drawn ← draw least greatest
        write effect.name (Variables.clamp (Binary64.ofInt drawn))
    | .unrecognized written =>
        Playing.stop (.effect (.unknownOperation effect.name written))
  pure { name := effect.name, operation := effect.operation, delta := value - before, value }

/-- Validates effects, applies them in place one by one and publishes their changes. -/
def applyOneByOne (effects : List Effect) : Playing Stage (List Change) := do
  demand (Effect.validate effects)
  let changes ← effects.mapM applyInPlace
  Playing.emit (.variablesDelta changes)
  let stage ← Playing.current
  Playing.emit (.variablesUpdated stage.store)
  pure changes

/-- What an application makes of a stage.  One that fails leaves everything as it was. -/
def ofApplication {Report : Type} (stage : Stage) :
    Except EffectError (Effect.Outcome Report) → Reply Stage Report
  | .ok outcome =>
      { result := .ok outcome.report,
        state := { stage with store := outcome.store, generator := outcome.generator },
        events := [] }
  | .error error => { result := .error (.effect error), state := stage, events := [] }

theorem run_write (name : String) (value : Binary64) (stage : Stage) :
    (write name value).run stage =
      { result := .ok value, state := { stage with store := stage.store.set name value },
        events := [] } := rfl

theorem run_increase (name : String) (change : Binary64) (stage : Stage) :
    (increase name change).run stage =
      { result := .ok (stage.store.modify name change).1,
        state := { stage with store := (stage.store.modify name change).2 }, events := [] } := rfl

theorem run_draw (least greatest : Int) (stage : Stage) :
    (draw least greatest).run stage =
      { result := .ok (stage.generator.between least greatest).1,
        state := { stage with generator := (stage.generator.between least greatest).2 },
        events := [] } := by
  rw [draw, Playing.run_bind_of_silent (Playing.run_current _)]
  cases stage.generator.between least greatest with
  | mk drawn generator => rfl

/-- An effect in place does what it does as a whole. -/
theorem run_applyInPlace (effect : Effect) (stage : Stage) :
    (applyInPlace effect).run stage =
      stage.ofApplication (effect.apply stage.store stage.generator) := by
  rw [applyInPlace, Playing.run_bind_of_silent (Playing.run_current _), Effect.apply,
    Effect.newValue]
  cases effect.operation with
  | set | multiply =>
      cases effect.finiteOperand with
      | error error => rfl
      | ok operand =>
          simp only [demand, pure_bind]
          rw [Playing.run_bind_of_silent (run_write _ _ _)]
          rfl
  | add =>
      cases effect.finiteOperand with
      | error error => rfl
      | ok operand =>
          simp only [demand, pure_bind]
          rw [Playing.run_bind_of_silent (run_increase _ _ _)]
          rfl
  | random =>
      cases effect.bounds with
      | error error => rfl
      | ok bounds =>
          simp only [demand, pure_bind, bind_assoc]
          rw [Playing.run_bind_of_silent (run_draw _ _ _),
            Playing.run_bind_of_silent (run_write _ _ _)]
          rfl
  | unrecognized written => rfl

/-- Valid effects in place do what they do as a list. -/
theorem run_mapM_applyInPlace {effects : List Effect} {stage : Stage}
    {outcome : Effect.Outcome (List Change)}
    (happlied : Effect.applyInOrder effects stage.store stage.generator = .ok outcome) :
    (effects.mapM applyInPlace).run stage = stage.ofApplication (.ok outcome) := by
  induction effects generalizing stage outcome with
  | nil =>
      cases happlied
      rfl
  | cons effect rest ih =>
      obtain ⟨first, others, hfirst, hothers, rfl⟩ := Effect.applyInOrder_cons_iff.mp happlied
      have hrun := run_applyInPlace effect stage
      rw [hfirst] at hrun
      let middle : Stage := { stage with store := first.store, generator := first.generator }
      have hlater : (rest.mapM applyInPlace).run middle = _ := ih hothers
      rw [List.mapM_cons, Playing.run_bind_of_silent hrun, Playing.run_bind_of_silent hlater]
      rfl

/-- Valid effects change a stage as they change its variables and its random source. -/
theorem run_applyEffects_of_inOrder {effects : List Effect} {stage : Stage}
    {outcome : Effect.Outcome (List Change)} (hvalid : Effect.validate effects = .ok ())
    (happlied : Effect.applyInOrder effects stage.store stage.generator = .ok outcome) :
    (applyEffects effects).run stage =
      { result := .ok outcome.report,
        state := { stage with store := outcome.store, generator := outcome.generator },
        events := changeEvents outcome.report outcome.store } :=
  Playthrough.run_applyEffects
    ((Effect.applyAll_of_validated hvalid stage.store stage.generator).trans happlied)

/-- To validate effects and apply them in place comes to applying them as a whole. -/
theorem applyOneByOne_eq (effects : List Effect) :
    applyOneByOne effects = applyEffects effects := by
  funext stage
  change (applyOneByOne effects).run stage = (applyEffects effects).run stage
  rw [applyOneByOne]
  cases hvalid : Effect.validate effects with
  | error error =>
      rw [Playthrough.run_applyEffects_of_refused
        (Effect.applyAll_of_refused hvalid stage.store stage.generator)]
      rfl
  | ok valid =>
      obtain ⟨outcome, happlied⟩ :=
        Effect.applyInOrder_of_valid hvalid stage.store stage.generator
      rw [run_applyEffects_of_inOrder hvalid happlied, demand, pure_bind,
        Playing.run_bind_of_silent (run_mapM_applyInPlace happlied)]
      rfl

end Stage

/-! ## For a host -/

section Hosts

variable {World : Type}

/-- Applies effects as a whole to what a host lends, and delivers and tells the events. -/
def Surroundings.applyEffects (surroundings : Surroundings World) (effects : List Effect) :
    Except PlaybackError (List Change) × Surroundings World × List Event :=
  let reply := (Stage.applyEffects effects).run
    { store := surroundings.store, generator := surroundings.generator }
  let (audience, world) := surroundings.audience.emitAll reply.events surroundings.world
  (reply.result,
    { store := reply.state.store, generator := reply.state.generator, audience, world },
    reply.events)

theorem Surroundings.applyEffects_of_refused (surroundings : Surroundings World)
    {effects : List Effect} {error : EffectError}
    (hrefused : Effect.validate effects = .error error) :
    surroundings.applyEffects effects = (.error (.effect error), surroundings, []) := by
  have happly : (Stage.applyEffects effects).run
      { store := surroundings.store, generator := surroundings.generator } = _ :=
    Playthrough.run_applyEffects_of_refused
      (Effect.applyAll_of_refused hrefused surroundings.store surroundings.generator)
  rw [applyEffects, happly]
  rfl

/-- What is published of effects that were applied to what a host lends. -/
theorem Surroundings.applyEffects_of_applied {surroundings : Surroundings World}
    {effects : List Effect} {outcome : Effect.Outcome (List Change)}
    (happlied : Effect.applyAll effects surroundings.store surroundings.generator =
      .ok outcome) :
    let events := [.variablesDelta outcome.report, .variablesUpdated outcome.store]
    let told := surroundings.audience.emitAll events surroundings.world
    surroundings.applyEffects effects =
      (.ok outcome.report,
        { store := outcome.store, generator := outcome.generator, audience := told.1,
          world := told.2 },
        events) := by
  have happly : (Stage.applyEffects effects).run
      { store := surroundings.store, generator := surroundings.generator } = _ :=
    Playthrough.run_applyEffects happlied
  rw [applyEffects, happly]
  rfl

/-- Validation decides application.  A list that passes applies from everywhere.  A list that is
refused fails everywhere at the effect and with the error that validation names.  An effect that
fails in place leaves everything as it was.  So a host whose list is refused keeps all that it lent
and hears nothing, and else the whole list is applied and each effect has its change. -/
theorem validation_decides_application (effects : List Effect) :
    (Effect.validate effects = .ok () ↔
      ∀ store generator, ∃ outcome, Effect.applyInOrder effects store generator = .ok outcome) ∧
    (∀ error, Effect.validate effects = .error error → Effect.FailsFirst effects error) ∧
    (∀ (effect : Effect) (stage : Stage),
      let reply := (Stage.applyInPlace effect).run stage
      reply = stage.ofApplication (effect.apply stage.store stage.generator) ∧
        (∀ error, reply.result = .error error → reply.state = stage)) ∧
    Stage.applyOneByOne effects = Stage.applyEffects effects ∧
    ∀ surroundings : Surroundings World,
      (∀ error, Effect.validate effects = .error error →
        surroundings.applyEffects effects = (.error (.effect error), surroundings, [])) ∧
      (Effect.validate effects = .ok () →
        ∃ outcome, Effect.AppliedWhole effects surroundings.store surroundings.generator outcome ∧
          let events := [.variablesDelta outcome.report, .variablesUpdated outcome.store]
          let told := surroundings.audience.emitAll events surroundings.world
          surroundings.applyEffects effects =
            (.ok outcome.report,
              { store := outcome.store, generator := outcome.generator, audience := told.1,
                world := told.2 },
              events)) := by
  refine ⟨Effect.validate_eq_ok_iff, fun error => Effect.failsFirst_of_refused, ?_,
    Stage.applyOneByOne_eq effects, ?_⟩
  · intro effect stage reply
    have hreply : reply = _ := Stage.run_applyInPlace effect stage
    refine ⟨hreply, fun error hfailed => ?_⟩
    rw [hreply] at hfailed ⊢
    cases happlied : effect.apply stage.store stage.generator with
    | error refused => rfl
    | ok outcome => simp [happlied, Stage.ofApplication] at hfailed
  · intro surroundings
    refine ⟨fun error => surroundings.applyEffects_of_refused, fun hvalid => ?_⟩
    have hwhole :=
      Effect.applyAll_of_validated hvalid surroundings.store surroundings.generator
    obtain ⟨outcome, happlied⟩ :=
      Effect.applyInOrder_of_valid hvalid surroundings.store surroundings.generator
    rw [happlied] at hwhole
    exact ⟨outcome, Effect.appliedWhole_of_applyInOrder happlied,
      Surroundings.applyEffects_of_applied hwhole⟩

end Hosts

end BranchingStory
