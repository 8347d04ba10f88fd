import BranchingStory.Proofs.Departure

/-!
# Turns

What one call can do to a playthrough.  A call is ignored, is refused, ends the playthrough at once,
only notes the place of the cursor, or makes the cursor arrive somewhere; a choice is settled first
and departs then.  `Turn` lists these cases, each with its conditions and with everything it leaves
behind, so that what holds of every call is proved by a walk through its cases.

The list is complete for coherent playthroughs, in which the phase of the cursor, its scene and its
choices fit together with the end of the playthrough.  Every turn keeps a playthrough coherent.
-/

namespace BranchingStory

/-- The phase of a cursor, its scene and its choices fit together. -/
structure Cursor.Coherent (story : Story) (cursor : Cursor) : Prop where
  /-- A loaded scene is the one of its id in the story. -/
  known : ∀ scene, cursor.scene = some scene → story.scene? scene.id = some scene
  loaded : cursor.phase.isActive = true → ∃ scene, cursor.scene = some scene
  unloaded : cursor.phase = .idle → cursor.scene = none
  awaiting : cursor.offered ≠ [] → cursor.phase = .awaitingChoice

/-- No scene of an empty story was ever loaded. -/
theorem Cursor.Coherent.scene_eq_none {story : Story} {cursor : Cursor}
    (hcoherent : cursor.Coherent story) (hempty : story.scenes = []) : cursor.scene = none := by
  cases hscene : cursor.scene with
  | none => rfl
  | some scene =>
      have hknown := hcoherent.known scene hscene
      simp [Story.scene?, hempty] at hknown

namespace Playthrough

/-- The phase of the cursor and the end of the playthrough fit together. -/
structure Coherent (script : Script) (playthrough : Playthrough) : Prop where
  cursor : playthrough.stage.cursor.Coherent script.story
  ending : playthrough.stage.cursor.phase = .ended → playthrough.progress.ended = true
  quiet : playthrough.progress.ended = true → playthrough.stage.cursor.phase.isActive = false
  reason : playthrough.progress.ended = playthrough.progress.endReason.isSome

/-- What a call can come to. -/
inductive Turn (script : Script) (playthrough : Playthrough) : Reply Playthrough Unit → Prop where
  /-- The playthrough has ended, or there is nothing to choose. -/
  | ignored : Turn script playthrough { result := .ok (), state := playthrough, events := [] }
  /-- A choice has a defective effect. -/
  | refused (error : EffectError) :
      Turn script playthrough
        { result := .error (.effect error), state := playthrough, events := [] }
  | depleted (hopen : playthrough.progress.ended = false)
      (hdepleted : script.depletes playthrough.stage.store = true) :
      Turn script playthrough
        { result := .ok (), state := playthrough.cutShort .statDepleted,
          events := [.playbackEnded .statDepleted] }
  /-- A story without scenes was started. -/
  | exhausted (hopen : playthrough.progress.ended = false)
      (hlively : script.depletes playthrough.stage.store = false)
      (hempty : script.story.scenes = []) :
      Turn script playthrough
        { result := .ok (), state := playthrough.finished .scenarioComplete,
          events := [.playbackEnded .scenarioComplete] }
  /-- A cursor that shows no plain dialogue was told to advance. -/
  | waited (hopen : playthrough.progress.ended = false)
      (hlively : script.depletes playthrough.stage.store = false)
      (hphase : playthrough.stage.cursor.phase ≠ .showing) :
      Turn script playthrough
        { result := .ok (), state := playthrough.noted, events := [] }
  | advanced (hopen : playthrough.progress.ended = false)
      (hlively : script.depletes playthrough.stage.store = false)
      (hphase : playthrough.stage.cursor.phase = .showing) (scene : Scene)
      (hscene : playthrough.stage.cursor.scene = some scene) (reply : Reply Playthrough Unit)
      (harrival : Arrival playthrough scene
        { playthrough.stage.cursor with index := playthrough.stage.cursor.index + 1 } reply) :
      Turn script playthrough reply
  | entered (hopen : playthrough.progress.ended = false)
      (hlively : script.depletes playthrough.stage.store = false) (id : String) (scene : Scene)
      (hknown : script.story.scene? id = some scene) (reply : Reply Playthrough Unit)
      (harrival : Arrival (playthrough.inScene scene) scene
        { playthrough.stage.cursor with scene := some scene, index := 0, phase := .showing }
        reply) :
      Turn script playthrough { reply with events := .sceneChanged scene.id :: reply.events }
  | lost (hopen : playthrough.progress.ended = false)
      (hlively : script.depletes playthrough.stage.store = false) (id : String)
      (hunknown : script.story.scene? id = none) :
      Turn script playthrough
        { result := .ok (), state := playthrough.cutShort .referenceFailure,
          events :=
            [.diagnostic (.ofError .fatal (.missingScene id)),
              .playbackEnded .referenceFailure] }
  | took (hopen : playthrough.progress.ended = false)
      (hlively : script.depletes playthrough.stage.store = false)
      (hactive : playthrough.stage.cursor.phase.isActive = true) (scene : Scene)
      (hscene : playthrough.stage.cursor.scene = some scene) (time : Timestamp)
      (choice : Choice) (hvalid : Effect.validate choice.effects = .ok ())
      (outcome : Option DiceOutcome) (store : Variables) (generator : Generator)
      (events : List Event)
      (hsettled : settled script choice playthrough.stage.store playthrough.stage.generator =
        .ok (store, generator))
      (hsettling : ∀ event ∈ events, event.isSettling = true) (reply : Reply Playthrough Unit)
      (hdeparture : Departure script
        (playthrough.taken time choice { playthrough.stage with store, generator })
        (targetAfter choice outcome) reply)
      (hsettle : (settle script choice).run playthrough.stage =
        { result := .ok outcome, state := { playthrough.stage with store, generator }, events }) :
      Turn script playthrough { reply with events := events ++ reply.events }

/-! ## Every call is a turn -/

section Calls

variable {script : Script} {playthrough : Playthrough}

/-- A guarded call is a turn when its step is one on a playthrough that goes on. -/
theorem turn_unlessOver {step : Playing Playthrough Unit}
    (hstep : playthrough.progress.ended = false →
      script.depletes playthrough.stage.store = false →
        Turn script playthrough (step.run playthrough)) :
    Turn script playthrough ((unlessOver script step).run playthrough) :=
  unlessOver_cases (fun _ => .ignored) .depleted hstep

theorem turn_loadScene (id : String) :
    Turn script playthrough ((loadScene script id).run playthrough) := by
  rw [loadScene]
  refine turn_unlessOver fun hopen hlively => ?_
  rw [← run_unlessOver_of_lively hopen hlively, ← loadScene]
  cases hstory : script.story.scene? id with
  | none =>
      rw [run_loadScene_of_unknown hopen hlively hstory]
      exact .lost hopen hlively id hstory
  | some scene =>
      obtain ⟨reply, harrival, hrun⟩ := run_loadScene_of_known hopen hlively hstory
      rw [hrun]
      exact .entered hopen hlively id scene hstory reply harrival

theorem turn_start : Turn script playthrough ((start script).run playthrough) := by
  rw [start]
  refine turn_unlessOver fun hopen hlively => ?_
  simp only
  cases hfirst : (script.settings.startScene <|> script.story.firstScene?.map Scene.id) with
  | some id => exact turn_loadScene id
  | none =>
      have hempty : script.story.scenes = [] := by
        cases hstart : script.settings.startScene with
        | some id => simp [hstart] at hfirst
        | none => simpa [hstart, Story.firstScene?] using hfirst
      simp only
      rw [run_finish_of_open _ hopen]
      exact .exhausted hopen hlively hempty

/-- Advancing from a dialogue on screen arrives at the next place. -/
theorem arrival_advance {scene : Scene} (hopen : playthrough.progress.ended = false)
    (hlively : script.depletes playthrough.stage.store = false)
    (hphase : playthrough.stage.cursor.phase = .showing)
    (hscene : playthrough.stage.cursor.scene = some scene) :
    Arrival playthrough scene
      { playthrough.stage.cursor with index := playthrough.stage.cursor.index + 1 }
      ((advance script).run playthrough) := by
  have hactive : playthrough.stage.cursor.phase.isActive = true := by
    simp [hphase, Phase.isActive]
  have hadvance : Cursor.advance playthrough.stage.store playthrough.stage.cursor =
      Cursor.jump (playthrough.stage.cursor.index + 1) playthrough.stage.store
        playthrough.stage.cursor := by
    simp [Cursor.advance, hphase, Cursor.step]
  rw [advance, run_unlessOver_of_lively hopen hlively]
  apply arrival_of_presentation hopen
  rw [hadvance]
  exact Cursor.presentation_jump hactive hscene

/-- Advancing without such a dialogue only notes the place. -/
theorem run_advance_of_waiting (hopen : playthrough.progress.ended = false)
    (hlively : script.depletes playthrough.stage.store = false)
    (hphase : playthrough.stage.cursor.phase ≠ .showing)
    (hgoing : playthrough.stage.cursor.phase ≠ .ended) :
    (advance script).run playthrough =
      { result := .ok (), state := playthrough.noted, events := [] } := by
  have hstays : Cursor.advance playthrough.stage.store playthrough.stage.cursor =
      { result := .ok (), state := playthrough.stage.cursor, events := [] } := by
    cases hcursor : playthrough.stage.cursor.phase with
    | showing => exact absurd hcursor hphase
    | idle | awaitingChoice | ended => simp [Cursor.advance, hcursor]
  have hmove : (move Cursor.advance).run playthrough =
      { result := .ok (), state := playthrough, events := [] } := by
    rw [run_move, hstays]
    rfl
  rw [advance, run_unlessOver_of_lively hopen hlively, Playing.run_bind_of_silent hmove,
    run_follow_of_onScreen hgoing]

theorem turn_advance (hcoherent : Coherent script playthrough) :
    Turn script playthrough ((advance script).run playthrough) := by
  rw [advance]
  refine turn_unlessOver fun hopen hlively => ?_
  rw [← run_unlessOver_of_lively hopen hlively, ← advance]
  have hgoing : playthrough.stage.cursor.phase ≠ .ended := by
    intro hdone
    simp [hcoherent.ending hdone] at hopen
  by_cases hphase : playthrough.stage.cursor.phase = .showing
  · obtain ⟨scene, hscene⟩ := hcoherent.cursor.loaded (by simp [hphase, Phase.isActive])
    exact .advanced hopen hlively hphase scene hscene _
      (arrival_advance hopen hlively hphase hscene)
  · rw [run_advance_of_waiting hopen hlively hphase hgoing]
    exact .waited hopen hlively hphase

/-- Without a scene no choice is made. -/
theorem run_makeChoice_of_idle (time : Timestamp) (choice : Choice)
    (hopen : playthrough.progress.ended = false)
    (hlively : script.depletes playthrough.stage.store = false)
    (hphase : playthrough.stage.cursor.phase = .idle) :
    (makeChoice script time choice).run playthrough =
      { result := .ok (), state := playthrough, events := [] } := by
  rw [makeChoice, run_unlessOver_of_lively hopen hlively,
    Playing.run_bind_of_silent (Playing.run_current _), if_pos hphase]
  rfl

/-- The step of a choice with a defective effect. -/
theorem run_makeChoice_of_refused (time : Timestamp) {choice : Choice} {error : EffectError}
    (hopen : playthrough.progress.ended = false)
    (hlively : script.depletes playthrough.stage.store = false)
    (hphase : playthrough.stage.cursor.phase ≠ .idle)
    (hrefused : Effect.validate choice.effects = .error error) :
    (makeChoice script time choice).run playthrough =
      { result := .error (.effect error), state := playthrough, events := [] } := by
  rw [makeChoice, run_unlessOver_of_lively hopen hlively,
    Playing.run_bind_of_silent (Playing.run_current _), if_neg hphase, hrefused]
  rfl

/-- The step of a choice that settles: it is recorded, settled and departs. -/
theorem run_makeChoice_of_settle (time : Timestamp) {choice : Choice}
    (hopen : playthrough.progress.ended = false)
    (hlively : script.depletes playthrough.stage.store = false)
    (hphase : playthrough.stage.cursor.phase ≠ .idle)
    (hvalid : Effect.validate choice.effects = .ok ()) {outcome : Option DiceOutcome}
    {stage : Stage} {events : List Event}
    (hsettle : (settle script choice).run playthrough.stage =
      { result := .ok outcome, state := stage, events }) :
    (makeChoice script time choice).run playthrough =
      let departed := (depart script (targetAfter choice outcome)).run
        (playthrough.taken time choice stage)
      { departed with events := events ++ departed.events } := by
  have hstage : (onStage (settle script choice)).run
      { playthrough with
        progress := playthrough.progress.record (playthrough.entry time choice) } =
        { result := .ok outcome, state := playthrough.taken time choice stage, events } := by
    rw [onStage, Playing.run_onPart, hsettle]
    rfl
  rw [makeChoice, run_unlessOver_of_lively hopen hlively,
    Playing.run_bind_of_silent (Playing.run_current _), if_neg hphase, hvalid]
  simp only
  rw [recordChoice, Playing.run_bind_of_silent (Playing.run_update _ _)]
  have hsplit : (do
      let _ ← onStage (Stage.applyEffects choice.effects)
      let outcome ← throwDieOf script choice
      let depleted ← endIfDepleted script
      if depleted then pure ()
      else
        navigate script (targetAfter choice outcome)
        follow) =
      onStage (settle script choice) >>= fun outcome =>
        depart script (targetAfter choice outcome) := by
    rw [onStage_settle, bind_assoc]
    rfl
  rw [hsplit]
  exact Playing.run_bind_of_ok hstage

/-- The step of an accepted choice. -/
theorem run_makeChoice_of_valid (time : Timestamp) {choice : Choice}
    (hopen : playthrough.progress.ended = false)
    (hlively : script.depletes playthrough.stage.store = false)
    (hphase : playthrough.stage.cursor.phase ≠ .idle)
    (hvalid : Effect.validate choice.effects = .ok ()) :
    ∃ outcome store generator events,
      settled script choice playthrough.stage.store playthrough.stage.generator =
        .ok (store, generator) ∧
      (∀ event ∈ events, event.isSettling = true) ∧
      (settle script choice).run playthrough.stage =
        { result := .ok outcome, state := { playthrough.stage with store, generator }, events } ∧
      (makeChoice script time choice).run playthrough =
        let departed := (depart script (targetAfter choice outcome)).run
          (playthrough.taken time choice { playthrough.stage with store, generator })
        { departed with events := events ++ departed.events } := by
  obtain ⟨outcome, store, generator, events, hsettled, hsettle, hsettling⟩ :=
    run_settle_of_valid script hvalid playthrough.stage
  have hrun := run_makeChoice_of_settle time hopen hlively hphase hvalid hsettle
  exact ⟨outcome, store, generator, events, hsettled, hsettling, hsettle, hrun⟩

theorem Coherent.isActive (hcoherent : Coherent script playthrough)
    (hopen : playthrough.progress.ended = false)
    (hphase : playthrough.stage.cursor.phase ≠ .idle) :
    playthrough.stage.cursor.phase.isActive = true := by
  cases hcursor : playthrough.stage.cursor.phase with
  | idle => exact absurd hcursor hphase
  | showing | awaitingChoice => rfl
  | ended => exact absurd (hcoherent.ending hcursor) (by simp [hopen])

theorem turn_makeChoice (hcoherent : Coherent script playthrough) (time : Timestamp)
    (choice : Choice) :
    Turn script playthrough ((makeChoice script time choice).run playthrough) := by
  rw [makeChoice]
  refine turn_unlessOver fun hopen hlively => ?_
  rw [← run_unlessOver_of_lively hopen hlively, ← makeChoice]
  by_cases hphase : playthrough.stage.cursor.phase = .idle
  · rw [run_makeChoice_of_idle time choice hopen hlively hphase]
    exact .ignored
  · cases hvalid : Effect.validate choice.effects with
    | error error =>
        rw [run_makeChoice_of_refused time hopen hlively hphase hvalid]
        exact .refused error
    | ok valid =>
        have hactive := hcoherent.isActive hopen hphase
        obtain ⟨scene, hscene⟩ := hcoherent.cursor.loaded hactive
        obtain ⟨outcome, store, generator, events, hsettled, hsettling, hsettle, hrun⟩ :=
          run_makeChoice_of_valid time hopen hlively hphase hvalid
        rw [hrun]
        exact .took hopen hlively hactive scene hscene time choice hvalid outcome store generator
          events hsettled hsettling _ (departure_depart hopen hactive hscene) hsettle

/-- A choice fails only where the playthrough goes on with a scene. -/
theorem goesOn_of_failed {time : Timestamp} {choice : Choice} {error : PlaybackError}
    (hfailed : ((makeChoice script time choice).run playthrough).result = .error error) :
    playthrough.progress.ended = false ∧ script.depletes playthrough.stage.store = false ∧
      playthrough.stage.cursor.phase ≠ .idle := by
  cases hended : playthrough.progress.ended with
  | true => simp [makeChoice, run_unlessOver_of_ended hended] at hfailed
  | false =>
      cases hdepletes : script.depletes playthrough.stage.store with
      | true => simp [makeChoice, run_unlessOver_of_depleted hended hdepletes] at hfailed
      | false =>
          refine ⟨rfl, rfl, fun hidle => ?_⟩
          rw [run_makeChoice_of_idle time choice hended hdepletes hidle] at hfailed
          cases hfailed

/-- Choosing is making the offered choice, or nothing when there is none at the place. -/
theorem run_choose (script : Script) (playthrough : Playthrough) (time : Timestamp)
    (place : Nat) :
    (choose script time place).run playthrough =
      match playthrough.stage.cursor.offered[place]? with
      | none => { result := .ok false, state := playthrough, events := [] }
      | some choice =>
          let reply := (makeChoice script time choice).run playthrough
          { result := reply.result.map fun _ => true, state := reply.state,
            events := reply.events } := by
  rw [choose, Playing.run_bind_of_silent (Playing.run_current _)]
  cases playthrough.stage.cursor.offered[place]? with
  | none => rfl
  | some choice =>
      change (makeChoice script time choice >>= fun _ => pure true).run playthrough = _
      rw [bind_pure_comp, Playing.run_map]

theorem turn_choose (hcoherent : Coherent script playthrough) (time : Timestamp) (place : Nat) :
    Turn script playthrough (((fun _ => ()) <$> choose script time place).run playthrough) := by
  rw [Playing.run_map, run_choose]
  cases playthrough.stage.cursor.offered[place]? with
  | none => exact .ignored
  | some choice =>
      have hturn := turn_makeChoice hcoherent time choice
      simp only
      generalize (makeChoice script time choice).run playthrough = reply at hturn ⊢
      obtain ⟨result, state, events⟩ := reply
      cases result with
      | error error => exact hturn
      | ok value => exact hturn

end Calls

/-! ## Turns keep playthroughs coherent -/

section Coherence

variable {script : Script} {playthrough : Playthrough}

theorem cursor_coherent_of_scene {story : Story} {scene : Scene} {cursor : Cursor}
    (hknown : story.scene? scene.id = some scene) (hscene : cursor.scene = some scene)
    (hphase : cursor.phase ≠ .idle)
    (hawaiting : cursor.offered ≠ [] → cursor.phase = .awaitingChoice) :
    cursor.Coherent story where
  known := by
    intro other hother
    rw [show other = scene from Option.some.inj (hother.symm.trans hscene)]
    exact hknown
  loaded := fun _ => ⟨scene, hscene⟩
  unloaded := fun hidle => absurd hidle hphase
  awaiting := hawaiting

theorem cursor_coherent_finish {story : Story} {cursor : Cursor}
    (hcoherent : cursor.Coherent story) : cursor.finish.Coherent story where
  known := hcoherent.known
  loaded := by simp [Cursor.finish, Phase.isActive]
  unloaded := by simp [Cursor.finish]
  awaiting := by simp [Cursor.finish]

theorem reason_finish {progress : Progress} (hreason : progress.ended = progress.endReason.isSome)
    (reason : EndReason) :
    (progress.finish reason).ended = (progress.finish reason).endReason.isSome := by
  by_cases hended : progress.ended = true
  · rw [Progress.finish, if_pos hended]
    exact hreason
  · rw [Progress.finish, if_neg hended]
    rfl

/-- A playthrough that ends with its cursor at rest. -/
theorem coherent_finished (hcursor : playthrough.stage.cursor.Coherent script.story)
    (hphase : playthrough.stage.cursor.phase.isActive = false)
    (hreason : playthrough.progress.ended = playthrough.progress.endReason.isSome)
    (reason : EndReason) : Coherent script (playthrough.finished reason) where
  cursor := hcursor
  ending := fun _ => ended_finished playthrough reason
  quiet := fun _ => hphase
  reason := reason_finish hreason reason

/-- A playthrough that goes on with an active cursor. -/
theorem coherent_active (hcursor : playthrough.stage.cursor.Coherent script.story)
    (hphase : playthrough.stage.cursor.phase.isActive = true)
    (hopen : playthrough.progress.ended = false)
    (hreason : playthrough.progress.ended = playthrough.progress.endReason.isSome) :
    Coherent script playthrough where
  cursor := hcursor
  ending := fun hended => by simp [hended, Phase.isActive] at hphase
  quiet := fun hended => absurd hended (by simp [hopen])
  reason := hreason

theorem coherent_fresh (script : Script) (unseeded : Generator) :
    Coherent script (script.fresh unseeded) where
  cursor :=
    { known := by simp [Script.fresh]
      loaded := by simp [Script.fresh, Phase.isActive]
      unloaded := by simp [Script.fresh]
      awaiting := by simp [Script.fresh] }
  ending := by simp [Script.fresh]
  quiet := by simp [Script.fresh]
  reason := rfl

theorem Coherent.noted (hcoherent : Coherent script playthrough) :
    Coherent script playthrough.noted where
  cursor := hcoherent.cursor
  ending := hcoherent.ending
  quiet := hcoherent.quiet
  reason := hcoherent.reason

theorem Coherent.cutShort (hcoherent : Coherent script playthrough) (reason : EndReason) :
    Coherent script (playthrough.cutShort reason) := by
  unfold Playthrough.cutShort
  apply coherent_finished
  · exact cursor_coherent_finish hcoherent.cursor
  · rfl
  · exact hcoherent.reason

theorem Arrival.coherent {scene : Scene} {placed : Cursor} {reply : Reply Playthrough Unit}
    (harrival : Arrival playthrough scene placed reply)
    (hknown : script.story.scene? scene.id = some scene) (hscene : placed.scene = some scene)
    (hactive : placed.phase.isActive = true) (hopen : playthrough.progress.ended = false)
    (hreason : playthrough.progress.ended = playthrough.progress.endReason.isSome) :
    Coherent script reply.state := by
  cases harrival with
  | stuck error hsearch =>
      have hphase : placed.phase ≠ .idle := Phase.ne_idle_of_isActive hactive
      apply coherent_active
      · exact cursor_coherent_of_scene hknown hscene hphase (by simp [Cursor.withdrawn])
      · exact hactive
      · exact hopen
      · exact hreason
  | past index hsearch =>
      apply coherent_finished
      · exact cursor_coherent_of_scene hknown hscene (by simp [Cursor.pastEnd])
          (by simp [Cursor.pastEnd])
      · rfl
      · exact hreason
  | shown index dialogue choices hsearch =>
      have hoffering := Cursor.isActive_offering placed index choices
      apply Coherent.noted
      apply coherent_active
      · exact cursor_coherent_of_scene hknown hscene (Phase.ne_idle_of_isActive hoffering)
          (Cursor.awaiting_offering placed index choices)
      · exact hoffering
      · exact hopen
      · exact hreason

/-- A scene that a story gives for an id has that id. -/
theorem id_of_scene? {story : Story} {id : String} {scene : Scene}
    (hknown : story.scene? id = some scene) : scene.id = id :=
  eq_of_beq (List.find?_some (p := fun candidate : Scene => candidate.id == id) hknown)

theorem mem_of_scene? {story : Story} {id : String} {scene : Scene}
    (hknown : story.scene? id = some scene) : scene ∈ story.scenes :=
  List.mem_of_find?_eq_some hknown

theorem scene?_id {story : Story} {id : String} {scene : Scene}
    (hknown : story.scene? id = some scene) : story.scene? scene.id = some scene := by
  rw [id_of_scene? hknown]
  exact hknown

theorem Departure.coherent {target : Target} {reply : Reply Playthrough Unit}
    (hdeparture : Departure script playthrough target reply)
    (hcoherent : Coherent script playthrough) (hopen : playthrough.progress.ended = false)
    (hactive : playthrough.stage.cursor.phase.isActive = true) :
    Coherent script reply.state := by
  cases hdeparture with
  | depleted hdepleted => exact hcoherent.cutShort .statDepleted
  | moved hlively hstays scene hscene reply harrival =>
      exact harrival.coherent (hcoherent.cursor.known scene hscene) hscene hactive hopen
        hcoherent.reason
  | entered hlively hleaves id htarget scene hknown reply harrival =>
      exact harrival.coherent (scene?_id hknown) rfl rfl hopen hcoherent.reason
  | lost hlively hleaves id htarget hunknown => exact (hcoherent.cutShort .referenceFailure).noted

/-- A turn leaves a coherent playthrough behind. -/
theorem Turn.coherent {reply : Reply Playthrough Unit} (hturn : Turn script playthrough reply)
    (hcoherent : Coherent script playthrough) : Coherent script reply.state := by
  cases hturn with
  | ignored | refused error => exact hcoherent
  | depleted hopen hdepleted => exact hcoherent.cutShort .statDepleted
  | exhausted hopen hlively hempty =>
      have hactive : playthrough.stage.cursor.phase.isActive = false := by
        cases hphase : playthrough.stage.cursor.phase.isActive with
        | false => rfl
        | true =>
            obtain ⟨scene, hscene⟩ := hcoherent.cursor.loaded hphase
            simp [hcoherent.cursor.scene_eq_none hempty] at hscene
      exact coherent_finished hcoherent.cursor hactive hcoherent.reason .scenarioComplete
  | waited hopen hlively hphase => exact hcoherent.noted
  | advanced hopen hlively hphase scene hscene reply harrival =>
      exact harrival.coherent (hcoherent.cursor.known scene hscene) hscene
        (by simp [hphase, Phase.isActive]) hopen hcoherent.reason
  | entered hopen hlively id scene hknown reply harrival =>
      exact harrival.coherent (scene?_id hknown) rfl rfl hopen hcoherent.reason
  | lost hopen hlively id hunknown => exact hcoherent.cutShort .referenceFailure
  | took hopen hlively hactive scene hscene time choice hvalid outcome store generator events
      hsettled hsettling reply hdeparture =>
      exact hdeparture.coherent (coherent_active hcoherent.cursor hactive hopen hcoherent.reason)
        hopen hactive

end Coherence

end Playthrough

end BranchingStory
