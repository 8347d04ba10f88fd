import BranchingStory.Proofs.Search
import BranchingStory.Proofs.Settling

/-!
# Arrivals and departures

The cursor of a playthrough arrives at a place of a scene: it is stuck at a gate that cannot be
judged, it runs past the end of the scene, or it shows a dialogue.  `Arrival` lists these outcomes.
A settled choice departs for its target: unless a stat is depleted it moves within its scene, enters
another one or is lost for want of a scene, as `Departure` lists.  Each case says everything that
the playthrough and the audience get from it.
-/

namespace BranchingStory

namespace Playthrough

/-! ## What the parts of a step leave behind -/

/-- A playthrough with its cursor in another place. -/
def withCursor (playthrough : Playthrough) (cursor : Cursor) : Playthrough :=
  { playthrough with stage := { playthrough.stage with cursor } }

/-- A playthrough that has noted the place of its cursor. -/
def noted (playthrough : Playthrough) : Playthrough :=
  { playthrough with
    progress :=
      { playthrough.progress with
        dialogueIndex := playthrough.stage.cursor.index,
        dialogueId := playthrough.stage.cursor.dialogue?.bind Dialogue.id } }

/-- A playthrough that has noted its scene. -/
def inScene (playthrough : Playthrough) (scene : Scene) : Playthrough :=
  { playthrough with progress := { playthrough.progress with scene := some scene.id } }

/-- A playthrough after its end. -/
def finished (playthrough : Playthrough) (reason : EndReason) : Playthrough :=
  { playthrough with progress := playthrough.progress.finish reason }

/-- A playthrough that was ended with its screen cleared. -/
def cutShort (playthrough : Playthrough) (reason : EndReason) : Playthrough :=
  (playthrough.withCursor playthrough.stage.cursor.finish).finished reason

/-- What is recorded of a choice that is taken now. -/
def entry (playthrough : Playthrough) (time : Timestamp) (choice : Choice) : TakenChoice :=
  { scene := playthrough.stage.cursor.sceneId, dialogue := playthrough.stage.cursor.dialogue?,
    choice, time }

/-- A playthrough after a choice was recorded and settled on the stage. -/
def taken (playthrough : Playthrough) (time : Timestamp) (choice : Choice) (stage : Stage) :
    Playthrough :=
  { stage, progress := playthrough.progress.record (playthrough.entry time choice) }

section Projections

variable (playthrough : Playthrough) (cursor : Cursor) (scene : Scene) (reason : EndReason)

@[simp]
theorem withCursor_cursor : (playthrough.withCursor cursor).stage.cursor = cursor := rfl

@[simp]
theorem withCursor_store :
    (playthrough.withCursor cursor).stage.store = playthrough.stage.store := rfl

@[simp]
theorem withCursor_progress :
    (playthrough.withCursor cursor).progress = playthrough.progress := rfl

@[simp]
theorem noted_stage : playthrough.noted.stage = playthrough.stage := rfl

@[simp]
theorem noted_ended : playthrough.noted.progress.ended = playthrough.progress.ended := rfl

@[simp]
theorem noted_endReason :
    playthrough.noted.progress.endReason = playthrough.progress.endReason := rfl

@[simp]
theorem inScene_stage : (playthrough.inScene scene).stage = playthrough.stage := rfl

@[simp]
theorem finished_stage : (playthrough.finished reason).stage = playthrough.stage := rfl

@[simp]
theorem cutShort_cursor :
    (playthrough.cutShort reason).stage.cursor = playthrough.stage.cursor.finish := rfl

@[simp]
theorem ended_finished : (playthrough.finished reason).progress.ended = true := by
  simp only [finished, Progress.finish]
  split <;> simp_all

@[simp]
theorem ended_cutShort : (playthrough.cutShort reason).progress.ended = true :=
  ended_finished _ reason

end Projections

/-! ## Equations of the parts -/

section Parts

variable {script : Script} {playthrough : Playthrough}

theorem run_move (moveCursor : Variables → Cursor → Reply Cursor Unit)
    (playthrough : Playthrough) :
    (move moveCursor).run playthrough =
      { result := (moveCursor playthrough.stage.store playthrough.stage.cursor).result,
        state := playthrough.withCursor
          (moveCursor playthrough.stage.store playthrough.stage.cursor).state,
        events := (moveCursor playthrough.stage.store playthrough.stage.cursor).events } := rfl

theorem run_clearScreen (playthrough : Playthrough) :
    clearScreen.run playthrough =
      { result := .ok (), state := playthrough.withCursor playthrough.stage.cursor.finish,
        events := [] } := rfl

theorem run_finish_of_open (reason : EndReason) (hopen : playthrough.progress.ended = false) :
    (finish reason).run playthrough =
      { result := .ok (), state := playthrough.finished reason,
        events := [.playbackEnded reason] } := by
  simp [Playing.run, finish, hopen, finished]

theorem run_finish_cleared (reason : EndReason) (hopen : playthrough.progress.ended = false) :
    (finish reason).run (playthrough.withCursor playthrough.stage.cursor.finish) =
      { result := .ok (), state := playthrough.cutShort reason,
        events := [.playbackEnded reason] } :=
  run_finish_of_open reason hopen

theorem run_finish_of_ended (reason : EndReason) (hended : playthrough.progress.ended = true) :
    (finish reason).run playthrough =
      { result := .ok (), state := playthrough, events := [] } := by
  simp [Playing.run, finish, hended]

theorem run_follow (playthrough : Playthrough) :
    follow.run playthrough =
      (if playthrough.stage.cursor.isEnded then finish .scenarioComplete else pure ()).run
        playthrough.noted := rfl

/-- Following a cursor that is still in its scene only notes the place. -/
theorem run_follow_of_onScreen (hphase : playthrough.stage.cursor.phase ≠ .ended) :
    follow.run playthrough = { result := .ok (), state := playthrough.noted, events := [] } := by
  rw [run_follow, if_neg (by simpa [Cursor.isEnded] using hphase), Playing.run_pure]

/-- Following after the end only notes the place. -/
theorem run_follow_of_ended (hended : playthrough.progress.ended = true) :
    follow.run playthrough = { result := .ok (), state := playthrough.noted, events := [] } := by
  rw [run_follow]
  split
  · exact run_finish_of_ended _ hended
  · rfl

/-- Following a cursor to the end of its scene ends the playthrough. -/
theorem run_follow_of_pastEnd (hopen : playthrough.progress.ended = false)
    (hphase : playthrough.stage.cursor.phase = .ended) :
    follow.run playthrough =
      { result := .ok (), state := playthrough.noted.finished .scenarioComplete,
        events := [.playbackEnded .scenarioComplete] } := by
  rw [run_follow, if_pos (by simpa [Cursor.isEnded] using hphase)]
  exact run_finish_of_open _ hopen

theorem run_endIfDepleted_of_lively (hlively : script.depletes playthrough.stage.store = false) :
    (endIfDepleted script).run playthrough =
      { result := .ok false, state := playthrough, events := [] } := by
  rw [endIfDepleted, Playing.run_bind_of_silent (Playing.run_current _)]
  simp [hlively]

theorem run_endIfDepleted_of_depleted (hopen : playthrough.progress.ended = false)
    (hdepleted : script.depletes playthrough.stage.store = true) :
    (endIfDepleted script).run playthrough =
      { result := .ok true, state := playthrough.cutShort .statDepleted,
        events := [.playbackEnded .statDepleted] } := by
  rw [endIfDepleted, Playing.run_bind_of_silent (Playing.run_current _), if_pos hdepleted,
    Playing.run_bind_of_silent (run_clearScreen _),
    Playing.run_bind_of_ok (run_finish_cleared .statDepleted hopen)]
  rfl

theorem run_unlessOver_of_ended {step : Playing Playthrough Unit}
    (hended : playthrough.progress.ended = true) :
    (unlessOver script step).run playthrough =
      { result := .ok (), state := playthrough, events := [] } := by
  rw [unlessOver, Playing.run_bind_of_silent (Playing.run_current _), if_pos hended]
  rfl

theorem run_unlessOver_of_depleted {step : Playing Playthrough Unit}
    (hopen : playthrough.progress.ended = false)
    (hdepleted : script.depletes playthrough.stage.store = true) :
    (unlessOver script step).run playthrough =
      { result := .ok (), state := playthrough.cutShort .statDepleted,
        events := [.playbackEnded .statDepleted] } := by
  rw [unlessOver, Playing.run_bind_of_silent (Playing.run_current _), if_neg (by simp [hopen]),
    Playing.run_bind_of_ok (run_endIfDepleted_of_depleted hopen hdepleted)]
  rfl

theorem run_unlessOver_of_lively {step : Playing Playthrough Unit}
    (hopen : playthrough.progress.ended = false)
    (hlively : script.depletes playthrough.stage.store = false) :
    (unlessOver script step).run playthrough = step.run playthrough := by
  rw [unlessOver, Playing.run_bind_of_silent (Playing.run_current _), if_neg (by simp [hopen]),
    Playing.run_bind_of_silent (run_endIfDepleted_of_lively hlively)]
  rfl

/-- The three ways of a guarded step: nothing happens after the end, the end comes for a depleted
stat, and else the step is made. -/
theorem unlessOver_cases {motive : Reply Playthrough Unit → Prop} {step : Playing Playthrough Unit}
    (hover : playthrough.progress.ended = true →
      motive { result := .ok (), state := playthrough, events := [] })
    (hdepleted : playthrough.progress.ended = false →
      script.depletes playthrough.stage.store = true →
        motive
          { result := .ok (), state := playthrough.cutShort .statDepleted,
            events := [.playbackEnded .statDepleted] })
    (hstep : playthrough.progress.ended = false →
      script.depletes playthrough.stage.store = false → motive (step.run playthrough)) :
    motive ((unlessOver script step).run playthrough) := by
  cases hended : playthrough.progress.ended with
  | true =>
      rw [run_unlessOver_of_ended hended]
      exact hover hended
  | false =>
      cases hdepletes : script.depletes playthrough.stage.store with
      | true =>
          rw [run_unlessOver_of_depleted hended hdepletes]
          exact hdepleted hended hdepletes
      | false =>
          rw [run_unlessOver_of_lively hended hdepletes]
          exact hstep hended hdepletes

end Parts

/-! ## Arriving at a place -/

/-- What comes of moving to a place of a scene and following the cursor there. -/
inductive Arrival (playthrough : Playthrough) (scene : Scene) (placed : Cursor) :
    Reply Playthrough Unit → Prop where
  | stuck (error : GateError)
      (hsearch : Cursor.searchScene playthrough.stage.store scene placed.index = .error error) :
      Arrival playthrough scene placed
        { result := .error (.gate error), state := playthrough.withCursor placed.withdrawn,
          events := [] }
  | past (index : Nat)
      (hsearch : Cursor.searchScene playthrough.stage.store scene placed.index =
        .ok { index, dialogue := none }) :
      Arrival playthrough scene placed
        { result := .ok (),
          state := (playthrough.withCursor (placed.pastEnd index)).noted.finished .scenarioComplete,
          events := [.sceneComplete scene.id, .playbackEnded .scenarioComplete] }
  | shown (index : Nat) (dialogue : Dialogue) (choices : List Choice)
      (hsearch : Cursor.searchScene playthrough.stage.store scene placed.index =
        .ok { index, dialogue := some (dialogue, choices) }) :
      Arrival playthrough scene placed
        { result := .ok (),
          state := (playthrough.withCursor (placed.offering index choices)).noted,
          events := Cursor.announce scene dialogue choices }

theorem arrival_of_presentation {playthrough : Playthrough} {scene : Scene} {placed : Cursor}
    {moveCursor : Variables → Cursor → Reply Cursor Unit}
    (hopen : playthrough.progress.ended = false)
    (hpresentation : Cursor.Presentation playthrough.stage.store scene placed
      (moveCursor playthrough.stage.store playthrough.stage.cursor)) :
    Arrival playthrough scene placed
      ((move moveCursor >>= fun _ => follow).run playthrough) := by
  have hmove := run_move moveCursor playthrough
  generalize moveCursor playthrough.stage.store playthrough.stage.cursor = reply
    at hpresentation hmove
  cases hpresentation with
  | stuck error hsearch =>
      rw [Playing.run_bind_of_error hmove]
      exact .stuck error hsearch
  | past index hsearch =>
      have hfollow : follow.run (playthrough.withCursor (placed.pastEnd index)) = _ :=
        run_follow_of_pastEnd hopen rfl
      rw [Playing.run_bind_of_ok hmove]
      simp only [hfollow]
      exact .past index hsearch
  | shown index dialogue choices hsearch =>
      have hfollow : follow.run (playthrough.withCursor (placed.offering index choices)) = _ :=
        run_follow_of_onScreen
          (Phase.ne_ended_of_isActive (Cursor.isActive_offering placed index choices))
      rw [Playing.run_bind_of_ok hmove]
      simp only [hfollow, List.append_nil]
      exact .shown index dialogue choices hsearch

/-- A cursor that has arrived was followed already. -/
theorem run_follow_of_arrival {playthrough : Playthrough} {scene : Scene} {placed : Cursor}
    {reply : Reply Playthrough Unit} (harrival : Arrival playthrough scene placed reply)
    (hopen : playthrough.progress.ended = false) (hok : reply.result = .ok ()) :
    follow.run reply.state = { result := .ok (), state := reply.state, events := [] } := by
  cases harrival with
  | stuck error hsearch => simp at hok
  | past index hsearch =>
      have hnoted : ((playthrough.withCursor (placed.pastEnd index)).noted.finished
          .scenarioComplete).noted =
            (playthrough.withCursor (placed.pastEnd index)).noted.finished .scenarioComplete := by
        simp [finished, Progress.finish, noted, withCursor, hopen]
      rw [run_follow_of_ended (ended_finished _ _), hnoted]
  | shown index dialogue choices hsearch =>
      apply run_follow_of_onScreen
      exact Phase.ne_ended_of_isActive (Cursor.isActive_offering placed index choices)

/-! ## Entering a scene -/

section LoadScene

variable {script : Script} {playthrough : Playthrough} {id : String}

/-- The step of `loadScene` to a scene that does not exist. -/
theorem run_loadScene_of_unknown (hopen : playthrough.progress.ended = false)
    (hlively : script.depletes playthrough.stage.store = false)
    (hunknown : script.story.scene? id = none) :
    (loadScene script id).run playthrough =
      { result := .ok (), state := playthrough.cutShort .referenceFailure,
        events :=
          [.diagnostic (.ofError .fatal (.missingScene id)),
            .playbackEnded .referenceFailure] } := by
  rw [loadScene, run_unlessOver_of_lively hopen hlively, hunknown]
  simp only
  rw [Playing.run_bind_of_silent (run_clearScreen _), Playing.run_bind_of_ok (Playing.run_emit _ _),
    run_finish_cleared _ hopen]
  rfl

/-- The step of `loadScene` to a scene of the story. -/
theorem run_loadScene_of_known {scene : Scene} (hopen : playthrough.progress.ended = false)
    (hlively : script.depletes playthrough.stage.store = false)
    (hknown : script.story.scene? id = some scene) :
    ∃ reply, Arrival (playthrough.inScene scene) scene
        { playthrough.stage.cursor with scene := some scene, index := 0, phase := .showing }
        reply ∧
      (loadScene script id).run playthrough =
        { reply with events := .sceneChanged scene.id :: reply.events } := by
  refine ⟨(move (Cursor.load scene) >>= fun _ => follow).run (playthrough.inScene scene),
    arrival_of_presentation hopen (Cursor.presentation_load _ scene _), ?_⟩
  rw [loadScene, run_unlessOver_of_lively hopen hlively, hknown]
  simp only
  rw [Playing.run_bind_of_silent (Playing.run_update _ _),
    Playing.run_bind_of_ok (Playing.run_emit _ _)]
  rfl

end LoadScene

/-! ## Departing for a target -/

/-- The place of the scene to which a target leads that names a dialogue or nothing, and the
warning for a dialogue that the scene does not have. -/
def placeFor (cursor : Cursor) (target : Target) : Nat × List Event :=
  match target.dialogue with
  | some dialogue =>
      match cursor.position? dialogue with
      | some index => (index, [])
      | none =>
          let error := ReferenceError.missingDialogue (cursor.sceneId.getD "") dialogue
          (cursor.index + 1, [.diagnostic (.ofError .warning error)])
  | none => (cursor.index + 1, [])

/-- What holds of diagnostics holds of the warning. -/
theorem forall_mem_placeFor {motive : Event → Prop} (cursor : Cursor) (target : Target)
    (hdiagnostic : ∀ diagnostic, motive (.diagnostic diagnostic)) :
    ∀ event ∈ (placeFor cursor target).2, motive event := by
  intro event hmem
  rw [placeFor] at hmem
  split at hmem
  · split at hmem
    · simp at hmem
    · rw [List.mem_singleton.mp hmem]
      exact hdiagnostic _
  · simp at hmem

/-- What a settled choice goes on with: it looks for a depleted stat and else follows its target. -/
def depart (script : Script) (target : Target) : Playing Playthrough Unit := do
  let depleted ← endIfDepleted script
  if depleted then pure ()
  else
    navigate script target
    follow

/-- What comes of departing for a target. -/
inductive Departure (script : Script) (playthrough : Playthrough) (target : Target) :
    Reply Playthrough Unit → Prop where
  | depleted (hdepleted : script.depletes playthrough.stage.store = true) :
      Departure script playthrough target
        { result := .ok (), state := playthrough.cutShort .statDepleted,
          events := [.playbackEnded .statDepleted] }
  | moved (hlively : script.depletes playthrough.stage.store = false)
      (hstays : target.dialogue ≠ none ∨ target.scene = none) (scene : Scene)
      (hscene : playthrough.stage.cursor.scene = some scene) (reply : Reply Playthrough Unit)
      (harrival : Arrival playthrough scene
        { playthrough.stage.cursor with
          index := (placeFor playthrough.stage.cursor target).1 } reply) :
      Departure script playthrough target
        { reply with
          events := (placeFor playthrough.stage.cursor target).2 ++ reply.events }
  | entered (hlively : script.depletes playthrough.stage.store = false)
      (hleaves : target.dialogue = none) (id : String) (htarget : target.scene = some id)
      (scene : Scene) (hknown : script.story.scene? id = some scene)
      (reply : Reply Playthrough Unit)
      (harrival : Arrival (playthrough.inScene scene) scene
        { playthrough.stage.cursor with scene := some scene, index := 0, phase := .showing }
        reply) :
      Departure script playthrough target
        { reply with events := .sceneChanged scene.id :: reply.events }
  | lost (hlively : script.depletes playthrough.stage.store = false)
      (hleaves : target.dialogue = none) (id : String) (htarget : target.scene = some id)
      (hunknown : script.story.scene? id = none) :
      Departure script playthrough target
        { result := .ok (), state := (playthrough.cutShort .referenceFailure).noted,
          events :=
            [.diagnostic (.ofError .fatal (.missingScene id)),
              .playbackEnded .referenceFailure] }

section Depart

variable {script : Script} {playthrough : Playthrough} {target : Target}

theorem run_depart_of_lively (hlively : script.depletes playthrough.stage.store = false) :
    (depart script target).run playthrough =
      (navigate script target >>= fun _ => follow).run playthrough := by
  rw [depart, Playing.run_bind_of_silent (run_endIfDepleted_of_lively hlively)]
  rfl

/-- Where a target stays in the scene, departing is arriving at the place for it, after the
warning if there is one. -/
theorem run_navigate_of_stays (script : Script) {scene : Scene}
    (hopen : playthrough.progress.ended = false)
    (hactive : playthrough.stage.cursor.phase.isActive = true)
    (hscene : playthrough.stage.cursor.scene = some scene)
    (hstays : target.dialogue ≠ none ∨ target.scene = none) :
    ∃ reply, Arrival playthrough scene
        { playthrough.stage.cursor with
          index := (placeFor playthrough.stage.cursor target).1 } reply ∧
      (navigate script target >>= fun _ => follow).run playthrough =
        { reply with
          events := (placeFor playthrough.stage.cursor target).2 ++ reply.events } := by
  have harrival : ∀ index, Arrival playthrough scene
      { playthrough.stage.cursor with index }
      ((move (Cursor.jump index) >>= fun _ => follow).run playthrough) := fun index =>
    arrival_of_presentation hopen (Cursor.presentation_jump hactive hscene)
  refine ⟨_, harrival _, ?_⟩
  rw [navigate, bind_assoc, Playing.run_bind_of_silent (Playing.run_current _), placeFor]
  cases hdialogue : target.dialogue with
  | some dialogue =>
      cases hposition : playthrough.stage.cursor.position? dialogue with
      | some index => simp [hposition]
      | none =>
          simp only [hposition, bind_assoc]
          rw [Playing.run_bind_of_ok (Playing.run_emit _ _)]
          rfl
  | none =>
      cases htarget : target.scene with
      | some id => simp [hdialogue, htarget] at hstays
      | none =>
          simp only [List.nil_append]
          rfl

theorem departure_depart {scene : Scene} (hopen : playthrough.progress.ended = false)
    (hactive : playthrough.stage.cursor.phase.isActive = true)
    (hscene : playthrough.stage.cursor.scene = some scene) :
    Departure script playthrough target ((depart script target).run playthrough) := by
  cases hdepletes : script.depletes playthrough.stage.store with
  | true =>
      rw [depart, Playing.run_bind_of_ok (run_endIfDepleted_of_depleted hopen hdepletes)]
      exact .depleted hdepletes
  | false =>
      rw [run_depart_of_lively hdepletes]
      by_cases hstays : target.dialogue ≠ none ∨ target.scene = none
      · obtain ⟨reply, harrival, hrun⟩ :=
          run_navigate_of_stays script hopen hactive hscene hstays
        rw [hrun]
        exact .moved hdepletes hstays scene hscene reply harrival
      · obtain ⟨hleaves, htarget⟩ := not_or.mp hstays
        rw [Classical.not_not] at hleaves
        obtain ⟨id, htarget⟩ := Option.ne_none_iff_exists'.mp htarget
        rw [navigate, bind_assoc, Playing.run_bind_of_silent (Playing.run_current _), hleaves,
          htarget]
        simp only
        cases hstory : script.story.scene? id with
        | none =>
            have hfollow : follow.run (playthrough.cutShort .referenceFailure) = _ :=
              run_follow_of_ended (ended_cutShort playthrough .referenceFailure)
            rw [Playing.run_bind_of_ok (run_loadScene_of_unknown hopen hdepletes hstory), hfollow]
            exact .lost hdepletes hleaves id htarget hstory
        | some entered =>
            obtain ⟨reply, harrival, hrun⟩ := run_loadScene_of_known hopen hdepletes hstory
            have hdeparture := Departure.entered hdepletes hleaves id htarget entered hstory reply
              harrival
            cases hresult : reply.result with
            | error error =>
                rw [hresult] at hrun hdeparture
                rw [Playing.run_bind_of_error hrun]
                exact hdeparture
            | ok value =>
                have hfollow := run_follow_of_arrival harrival hopen hresult
                rw [hresult] at hrun hdeparture
                rw [Playing.run_bind_of_ok hrun, hfollow, List.append_nil]
                exact hdeparture

end Depart

end Playthrough

end BranchingStory
