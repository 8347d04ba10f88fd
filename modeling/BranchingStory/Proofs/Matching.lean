import BranchingStory.Proofs.Following
import BranchingStory.Proofs.Navigating
import BranchingStory.Proofs.Placing
import BranchingStory.Proofs.Refusing

/-!
# Choices that a cursor handles alone

A cursor that handles a choice by itself applies its effects and jumps.  A director that makes the
choice validates it, records it, looks for a depleted stat and navigates.  For a choice without a
check that stays in the scene both come to the same: they answer alike, they leave the same cursor,
variables and random source behind, and they emit the same events, to which the director only adds
what it has to say itself, a warning about a dialogue that the scene does not have and the end after
the scene is complete.
-/

namespace BranchingStory

/-- The warning for a choice whose dialogue is missing in a scene. -/
def Choice.warning (choice : Choice) (scene : Scene) : List Event :=
  match choice.target.dialogue with
  | some dialogue =>
      if scene.position? dialogue = none then
        [.diagnostic (.ofError .warning (.missingDialogue scene.id dialogue))]
      else []
  | none => []

/-- An event of a cursor with what a director adds to it: its warning once the effects are told, and
the end once the scene is complete. -/
def Event.accompanied (warning : List Event) : Event → List Event
  | variablesUpdated store => variablesUpdated store :: warning
  | sceneComplete scene => [sceneComplete scene, playbackEnded .scenarioComplete]
  | event => [event]

/-! ## The place for a target -/

namespace Playthrough

theorem fst_placeFor (cursor : Cursor) (target : Target) :
    (placeFor cursor target).1 =
      (target.dialogue.bind cursor.position?).getD (cursor.index + 1) := by
  rw [placeFor]
  cases target.dialogue with
  | none => rfl
  | some dialogue =>
      simp only [Option.bind_some]
      cases cursor.position? dialogue <;> rfl

theorem snd_placeFor {cursor : Cursor} {scene : Scene} (hscene : cursor.scene = some scene)
    (choice : Choice) : (placeFor cursor choice.target).2 = choice.warning scene := by
  rw [placeFor, Choice.warning]
  cases choice.target.dialogue with
  | none => rfl
  | some dialogue =>
      simp only [Cursor.position?, Cursor.sceneId, hscene, Option.bind_some, Option.map_some,
        Option.getD_some]
      cases scene.position? dialogue <;> rfl

end Playthrough

/-! ## The cursor alone -/

namespace Stage

/-- After valid effects are applied the cursor jumps to the place for the target. -/
theorem run_handleChoice_of_applied {stage : Stage} {choice : Choice}
    {applied : Effect.Outcome (List Change)} (hactive : stage.cursor.phase.isActive = true)
    (happlied : Effect.applyAll choice.effects stage.store stage.generator = .ok applied) :
    (handleChoice choice).run stage =
      let place := (Playthrough.placeFor stage.cursor choice.target).1
      let jumped := (move (Cursor.jump place)).run
        { stage with store := applied.store, generator := applied.generator }
      { jumped with events := changeEvents applied.report applied.store ++ jumped.events } := by
  rw [handleChoice, Playing.run_bind_of_silent (Playing.run_current _), if_pos hactive,
    Playing.run_bind_of_ok (Playthrough.run_applyEffects happlied), Playthrough.fst_placeFor]

/-- A choice with a defective effect is refused. -/
theorem run_handleChoice_of_refused {stage : Stage} {choice : Choice} {error : EffectError}
    (hactive : stage.cursor.phase.isActive = true)
    (hrefused : Effect.validate choice.effects = .error error) :
    (handleChoice choice).run stage =
      { result := .error (.effect error), state := stage, events := [] } := by
  have happly := Playthrough.run_applyEffects_of_refused
    (Effect.applyAll_of_refused hrefused stage.store stage.generator)
  rw [handleChoice, Playing.run_bind_of_silent (Playing.run_current _), if_pos hactive,
    Playing.run_bind_of_error happly]

end Stage

/-! ## The playthrough with its cursor -/

namespace Playthrough

/-- A reply of a playthrough that does on the stage what the cursor does alone, and emits the same
events with what there is to add to them. -/
structure Accompanies (warning : List Event) (reply : Reply Playthrough Unit)
    (alone : Reply Stage Unit) : Prop where
  result_eq : reply.result = alone.result
  stage_eq : reply.state.stage = alone.state
  events_eq : reply.events = alone.events.flatMap (Event.accompanied warning)

variable {script : Script} {playthrough : Playthrough} {scene : Scene} {choice : Choice}

/-- The warning comes after the effects are told. -/
theorem flatMap_changeEvents (warning : List Event) (changes : List Change) (store : Variables) :
    (Stage.changeEvents changes store).flatMap (Event.accompanied warning) =
      Stage.changeEvents changes store ++ warning := by
  simp [Stage.changeEvents, Event.accompanied]

/-- To look through the scene and to follow the cursor there is to jump, but for the end. -/
theorem accompanies_scanned (playthrough : Playthrough) (warning : List Event)
    (hactive : playthrough.stage.cursor.phase.isActive = true)
    (hscene : playthrough.stage.cursor.scene = some scene) (start : Nat) :
    Accompanies warning (scanned playthrough scene start)
      ((Stage.move (Cursor.jump start)).run playthrough.stage) := by
  have hjump : Cursor.Presentation playthrough.stage.store scene
      { playthrough.stage.cursor with index := start }
      (Cursor.jump start playthrough.stage.store playthrough.stage.cursor) :=
    Cursor.presentation_jump hactive hscene
  simp only [Playing.run, Stage.move]
  generalize Cursor.jump start playthrough.stage.store playthrough.stage.cursor = jumped at hjump
  cases hjump with
  | stuck error hsearch | past index hsearch =>
      simp only [scanned, hsearch]
      exact ⟨rfl, rfl, rfl⟩
  | shown index dialogue choices hsearch =>
      simp only [scanned, hsearch]
      refine ⟨rfl, rfl, ?_⟩
      cases choices <;> rfl

/-- To follow the target of a choice that stays in the scene is to jump after the warning. -/
theorem led_warned (script : Script) (playthrough : Playthrough)
    (hscene : playthrough.stage.cursor.scene = some scene)
    (hstays : choice.target.dialogue ≠ none ∨ choice.target.scene = none) :
    let reply := scanned playthrough scene (placeFor playthrough.stage.cursor choice.target).1
    led script playthrough scene choice.target =
      { reply with events := choice.warning scene ++ reply.events } := by
  rw [led_of_stays script hscene hstays, snd_placeFor hscene]

/-- An accepted choice that leaves no stat depleted stays in the scene as the cursor does. -/
theorem accompanies_of_applied (haccepts : Accepts script playthrough choice) (time : Timestamp)
    (hscene : playthrough.stage.cursor.scene = some scene) (hcheck : choice.check = none)
    (hstays : choice.target.dialogue ≠ none ∨ choice.target.scene = none)
    {applied : Effect.Outcome (List Change)}
    (happlied : Effect.applyAll choice.effects playthrough.stage.store
      playthrough.stage.generator = .ok applied)
    (hgoing : script.depletes applied.store = false) :
    Accompanies (choice.warning scene) ((makeChoice script time choice).run playthrough)
      ((Stage.handleChoice choice).run playthrough.stage) := by
  obtain ⟨hopen, hlively, hactive, hvalid⟩ := haccepts
  have hphase := Phase.ne_idle_of_isActive hactive
  let settled := playthrough.taken time choice
    { playthrough.stage with store := applied.store, generator := applied.generator }
  have hsettle : (settle script choice).run playthrough.stage =
      { result := .ok none, state := settled.stage,
        events := Stage.changeEvents applied.report applied.store } :=
    run_settle_of_unchecked happlied hcheck
  -- Without a check the target of the choice itself decides.
  have hmade : (makeChoice script time choice).run playthrough =
      let departed := (depart script choice.target).run settled
      { departed with
        events := Stage.changeEvents applied.report applied.store ++ departed.events } :=
    run_makeChoice_of_settle time hopen hlively hphase hvalid hsettle
  have hled : (depart script choice.target).run settled = led script settled scene choice.target :=
    run_depart_eq_led hopen hgoing hactive hscene
  have hshown := accompanies_scanned settled (choice.warning scene) hactive hscene
    (placeFor playthrough.stage.cursor choice.target).1
  rw [hmade, hled, led_warned script settled hscene hstays,
    Stage.run_handleChoice_of_applied hactive happlied]
  refine ⟨hshown.result_eq, hshown.stage_eq, ?_⟩
  rw [List.flatMap_append, flatMap_changeEvents, List.append_assoc]
  exact congrArg (fun events => Stage.changeEvents _ _ ++ (choice.warning scene ++ events))
    hshown.events_eq

/-- An accepted choice that leaves a stat depleted ends the playthrough for it. -/
theorem Accepts.endReason_of_depleted (haccepts : Accepts script playthrough choice)
    (time : Timestamp) {outcome : Option DiceOutcome} {stage : Stage} {events : List Event}
    (hsettle : (settle script choice).run playthrough.stage =
      { result := .ok outcome, state := stage, events })
    (hdepleted : script.depletes stage.store = true) :
    ((makeChoice script time choice).run playthrough).state.progress.endReason =
      some .statDepleted := by
  obtain ⟨hopen, hlively, hactive, hvalid⟩ := haccepts
  have hphase := Phase.ne_idle_of_isActive hactive
  have hgoing : (playthrough.taken time choice stage).progress.ended = false := hopen
  rw [run_makeChoice_of_settle time hopen hlively hphase hvalid hsettle, depart,
    Playing.run_bind_of_ok (run_endIfDepleted_of_depleted hgoing hdepleted)]
  exact endReason_cutShort hgoing .statDepleted

/-- A choice without a check that stays in the scene is made as the cursor handles it, unless it
ends the playthrough for a depleted stat. -/
theorem accompanies_handleChoice (hcoherent : Coherent script playthrough) (time : Timestamp)
    (hopen : playthrough.progress.ended = false)
    (hlively : script.depletes playthrough.stage.store = false)
    (hscene : playthrough.stage.cursor.scene = some scene) (hcheck : choice.check = none)
    (hstays : choice.target.dialogue ≠ none ∨ choice.target.scene = none)
    (hpolicy : ((makeChoice script time choice).run playthrough).state.progress.endReason ≠
      some .statDepleted) :
    Accompanies (choice.warning scene) ((makeChoice script time choice).run playthrough)
      ((Stage.handleChoice choice).run playthrough.stage) := by
  have hphase : playthrough.stage.cursor.phase ≠ .idle :=
    (hcoherent.ne_idle_iff hopen).mpr (Option.ne_none_iff_exists'.mpr ⟨scene, hscene⟩)
  have hactive := hcoherent.isActive hopen hphase
  cases hvalid : Effect.validate choice.effects with
  | error error =>
      rw [run_makeChoice_of_refused time hopen hlively hphase hvalid,
        Stage.run_handleChoice_of_refused hactive hvalid]
      exact ⟨rfl, rfl, rfl⟩
  | ok valid =>
      have haccepts : Accepts script playthrough choice := ⟨hopen, hlively, hactive, hvalid⟩
      obtain ⟨applied, happlied⟩ := Effect.applyAll_of_valid hvalid playthrough.stage.store
        playthrough.stage.generator
      have hsettle : (settle script choice).run playthrough.stage = _ :=
        run_settle_of_unchecked happlied hcheck
      apply accompanies_of_applied haccepts time hscene hcheck hstays happlied
      rw [Bool.eq_false_iff]
      intro hdepleted
      exact hpolicy (haccepts.endReason_of_depleted time hsettle hdepleted)

end Playthrough

namespace Director

variable {World : Type} {director : Director World}

/-- What a director lends to its cursor when the cursor handles a choice alone. -/
def surroundings (director : Director World) (world : World) : Surroundings World where
  store := director.store
  generator := director.playthrough.stage.generator
  audience := director.audience
  world := world

/-- What making a choice has in common with the cursor that handles it alone, in the same
surroundings. -/
structure TakesAlike (director : Director World) (scene : Scene) (time : Timestamp)
    (choice : Choice) (world : World) (alone : Cursor.Outcome World) : Prop where
  result_eq : (director.makeChoice time choice world).1 = alone.result
  cursor_eq : (director.makeChoice time choice world).2.1.cursor = alone.cursor
  store_eq : (director.makeChoice time choice world).2.1.store = alone.surroundings.store
  generator_eq : (director.makeChoice time choice world).2.1.playthrough.stage.generator =
    alone.surroundings.generator
  /-- The director emits the events of the cursor, a warning about a missing dialogue and the end
  after a complete scene. -/
  events_eq : director.emitted (.makeChoice time choice) =
    alone.events.flatMap (Event.accompanied (choice.warning scene))
  /-- Both deliver what they emit to the same audience. -/
  heard_eq :
    ((director.makeChoice time choice world).2.1.audience,
      (director.makeChoice time choice world).2.2) =
        director.audience.emitAll (director.emitted (.makeChoice time choice)) world ∧
    (alone.surroundings.audience, alone.surroundings.world) =
      director.audience.emitAll alone.events world

/-- A director takes a choice without a check that stays in the scene as its cursor handles it
alone, unless the policy on depleted stats ends the playthrough. -/
theorem takes_alike_of_unchecked (hreachable : director.Reachable)
    (hopen : director.isEnded = false) {scene : Scene} (hscene : director.cursor.scene = some scene)
    {choice : Choice} (hcheck : choice.check = none)
    (hstays : choice.target.dialogue ≠ none ∨ choice.target.scene = none) (time : Timestamp)
    (world : World)
    (hpolicy : (director.makeChoice time choice world).2.1.progress.endReason ≠
      some .statDepleted) :
    director.TakesAlike scene time choice world
      (director.cursor.perform (.handle choice) (director.surroundings world)) := by
  have hloaded : director.playthrough.stage.cursor.scene ≠ none :=
    Option.ne_none_iff_exists'.mpr ⟨scene, hscene⟩
  have hlively := hreachable.lively hopen hloaded
  have halike := Playthrough.accompanies_handleChoice hreachable.coherent time hopen hlively hscene
    hcheck hstays hpolicy
  have hemitted := emitted_makeChoice director time choice
  constructor
  · exact halike.result_eq
  · exact congrArg Stage.cursor halike.stage_eq
  · exact congrArg Stage.store halike.stage_eq
  · exact congrArg Stage.generator halike.stage_eq
  · rw [hemitted]
    exact halike.events_eq
  · rw [hemitted]
    exact ⟨rfl, rfl⟩

/-- The guide after the start. -/
def asked : Director Unit := (guided.call .start ()).2.1

/-- A way through a garden, which the porch does not have. -/
def detour : Choice where
  text := "Through the garden"
  effects := [.add "Steps" 1]
  target := { dialogue := some "garden" }

/-- The detour leads past the end of the porch, with the cursor alone and with the director, who
warns of the garden and ends the playthrough. -/
theorem asked_takes_detour :
    let time : Timestamp := { seconds := 0, nanoseconds := 0 }
    let alone := asked.cursor.perform (.handle detour) (asked.surroundings ())
    asked.TakesAlike porchScene time detour () alone ∧
      alone.events.map Event.name =
        ["variables:delta", "variables:updated", "scene:complete"] ∧
      (asked.emitted (.makeChoice time detour)).map Event.name =
        ["variables:delta", "variables:updated", "playback:diagnostic", "scene:complete",
          "playback:ended"] :=
  have hreachable : asked.Reachable := .called guided (.begun guided begun_guided) .start ()
  ⟨takes_alike_of_unchecked hreachable (by decide +kernel) (by decide +kernel) rfl
      (.inl (by decide)) { seconds := 0, nanoseconds := 0 } () (by decide +kernel),
    by decide +kernel⟩

end Director

end BranchingStory
