import BranchingStory.Proofs.Run

/-!
# Forgetting the time

The only thing that a playthrough takes from a clock is the time at which a choice is recorded.
Nothing reads it again: a playthrough whose recorded times are forgotten answers every call as the
one with them, emits the same events and comes to the same playthrough, the times aside.

`Forgets` relates a step to one that does the same without the times.  It holds of the parts that a
call is made of, and passes through the ways in which they are put together.
-/

namespace BranchingStory

/-- The time that stands for a forgotten one. -/
def Timestamp.epoch : Timestamp := { seconds := 0, nanoseconds := 0 }

def TakenChoice.timeless (taken : TakenChoice) : TakenChoice :=
  { taken with time := .epoch }

def Progress.timeless (progress : Progress) : Progress :=
  { progress with history := progress.history.map TakenChoice.timeless }

/-- A call made at a time that does not matter. -/
def Call.timeless : Call → Call
  | makeChoice _ choice => .makeChoice .epoch choice
  | choose _ place => .choose .epoch place
  | start => .start
  | loadScene id => .loadScene id
  | advance => .advance

/-- The step of a call, with what choosing tells. -/
def Call.answered (script : Script) : Call → Playing Playthrough (Option Bool)
  | start => (fun _ => none) <$> Playthrough.start script
  | loadScene id => (fun _ => none) <$> Playthrough.loadScene script id
  | advance => (fun _ => none) <$> Playthrough.advance script
  | makeChoice time choice => (fun _ => none) <$> Playthrough.makeChoice script time choice
  | choose time place => some <$> Playthrough.choose script time place

namespace Playthrough

def timeless (playthrough : Playthrough) : Playthrough :=
  { playthrough with progress := playthrough.progress.timeless }

/-- What a step did, the recorded times aside. -/
def forget {Value : Type} (reply : Reply Playthrough Value) : Reply Playthrough Value :=
  { reply with state := reply.state.timeless }

/-- The plain step does to a playthrough without times what the step does to the one with them. -/
def Forgets {Value : Type} (step plain : Playing Playthrough Value) : Prop :=
  ∀ playthrough, plain.run playthrough.timeless = forget (step.run playthrough)

/-! ## How steps are put together -/

section Laws

variable {Value Other : Type} {step plain : Playing Playthrough Value}

theorem forgets_pure (value : Value) :
    Forgets (pure value : Playing Playthrough Value) (pure value) := by
  intro playthrough
  rfl

theorem forgets_emit (event : Event) : Forgets (Playing.emit event) (Playing.emit event) := by
  intro playthrough
  rfl

theorem forgets_stop (error : PlaybackError) :
    Forgets (Playing.stop error : Playing Playthrough Value) (Playing.stop error) := by
  intro playthrough
  rfl

theorem forgets_update {change other : Playthrough → Playthrough}
    (hchange : ∀ playthrough, other playthrough.timeless = (change playthrough).timeless) :
    Forgets (Playing.update change) (Playing.update other) := by
  intro playthrough
  rw [Playing.run_update, Playing.run_update, hchange]
  rfl

/-- What happens on the stage has nothing to do with the times. -/
theorem forgets_onStage (step : Playing Stage Value) : Forgets (onStage step) (onStage step) := by
  intro playthrough
  rfl

theorem Forgets.bind {next plainNext : Value → Playing Playthrough Other}
    (hstep : Forgets step plain) (hnext : ∀ value, Forgets (next value) (plainNext value)) :
    Forgets (step >>= next) (plain >>= plainNext) := by
  intro playthrough
  rw [Playing.run_bind, Playing.run_bind, hstep playthrough]
  simp only [forget]
  cases (step.run playthrough).result with
  | error error => rfl
  | ok value =>
      simp only [hnext value (step.run playthrough).state]
      rfl

theorem Forgets.map (change : Value → Other) (hstep : Forgets step plain) :
    Forgets (change <$> step) (change <$> plain) := by
  intro playthrough
  rw [Playing.run_map, Playing.run_map, hstep playthrough]
  rfl

/-- A step may look at the playthrough if it does not look at the times. -/
theorem forgets_current {next plainNext : Playthrough → Playing Playthrough Value}
    (hblind : ∀ playthrough, plainNext playthrough.timeless = plainNext playthrough)
    (hnext : ∀ playthrough, Forgets (next playthrough) (plainNext playthrough)) :
    Forgets (Playing.current >>= next) (Playing.current >>= plainNext) := by
  intro playthrough
  rw [Playing.run_bind_of_silent (Playing.run_current playthrough),
    Playing.run_bind_of_silent (Playing.run_current playthrough.timeless), hblind]
  exact hnext playthrough playthrough

end Laws

/-! ## The parts of a call -/

section Parts

variable {script : Script}

theorem timeless_finish (progress : Progress) (reason : EndReason) :
    progress.timeless.finish reason = (progress.finish reason).timeless := by
  rw [Progress.finish, Progress.finish]
  by_cases hended : progress.ended = true
  · rw [if_pos hended]
    exact if_pos hended
  · rw [if_neg hended]
    exact if_neg hended

theorem forgets_clearScreen : Forgets clearScreen clearScreen :=
  forgets_update fun _ => rfl

theorem forgets_finish (reason : EndReason) : Forgets (finish reason) (finish reason) := by
  intro playthrough
  cases hended : playthrough.progress.ended with
  | true =>
      rw [run_finish_of_ended reason hended]
      exact run_finish_of_ended reason hended
  | false =>
      have hopen : playthrough.timeless.progress.ended = false := hended
      have hfinished : playthrough.timeless.finished reason =
          (playthrough.finished reason).timeless := by
        rw [finished, finished, timeless, timeless, timeless_finish]
      rw [run_finish_of_open reason hended, run_finish_of_open reason hopen, hfinished]
      rfl

theorem forgets_follow : Forgets follow follow := by
  refine (forgets_update ?_).bind ?_
  · intro playthrough
    rfl
  · intro _
    apply forgets_current (fun _ => rfl)
    intro playthrough
    by_cases hended : playthrough.stage.cursor.isEnded = true
    · rw [if_pos hended]
      exact forgets_finish .scenarioComplete
    · rw [if_neg hended]
      exact forgets_pure ()

theorem forgets_endIfDepleted (script : Script) :
    Forgets (endIfDepleted script) (endIfDepleted script) := by
  apply forgets_current (fun _ => rfl)
  intro playthrough
  by_cases hdepletes : script.depletes playthrough.stage.store = true
  · rw [if_pos hdepletes]
    apply forgets_clearScreen.bind
    intro _
    apply (forgets_finish .statDepleted).bind
    intro _
    exact forgets_pure true
  · rw [if_neg hdepletes]
    exact forgets_pure false

theorem Forgets.unlessDepleted {step plain : Playing Playthrough Unit}
    (hstep : Forgets step plain) :
    Forgets (endIfDepleted script >>= fun depleted => if depleted then pure () else step)
      (endIfDepleted script >>= fun depleted => if depleted then pure () else plain) := by
  apply (forgets_endIfDepleted script).bind
  intro depleted
  cases depleted with
  | true => exact forgets_pure ()
  | false => exact hstep

theorem Forgets.unlessOver {step plain : Playing Playthrough Unit} (hstep : Forgets step plain) :
    Forgets (unlessOver script step) (Playthrough.unlessOver script plain) := by
  apply forgets_current (fun _ => rfl)
  intro playthrough
  by_cases hended : playthrough.progress.ended = true
  · rw [if_pos hended, if_pos hended]
    exact forgets_pure ()
  · rw [if_neg hended, if_neg hended]
    exact hstep.unlessDepleted

theorem forgets_moveAndFollow (moveCursor : Variables → Cursor → Reply Cursor Unit) :
    Forgets (move moveCursor >>= fun _ => follow) (move moveCursor >>= fun _ => follow) :=
  (forgets_onStage _).bind fun _ => forgets_follow

theorem forgets_loadScene (script : Script) (id : String) :
    Forgets (loadScene script id) (loadScene script id) := by
  apply Forgets.unlessOver
  cases script.story.scene? id with
  | none =>
      apply forgets_clearScreen.bind
      intro _
      apply (forgets_emit _).bind
      intro _
      exact forgets_finish .referenceFailure
  | some scene =>
      refine (forgets_update ?_).bind ?_
      · intro playthrough
        rfl
      · intro _
        apply (forgets_emit _).bind
        intro _
        exact forgets_moveAndFollow (Cursor.load scene)

theorem forgets_start (script : Script) : Forgets (start script) (start script) := by
  apply Forgets.unlessOver
  simp only
  cases script.settings.startScene <|> script.story.firstScene?.map Scene.id with
  | some id => exact forgets_loadScene script id
  | none => exact forgets_finish .scenarioComplete

theorem forgets_advance (script : Script) : Forgets (advance script) (advance script) :=
  Forgets.unlessOver (forgets_moveAndFollow Cursor.advance)

theorem forgets_navigate (script : Script) (target : Target) :
    Forgets (navigate script target) (navigate script target) := by
  apply forgets_current (fun _ => rfl)
  intro playthrough
  simp only
  cases target.dialogue with
  | some dialogue =>
      simp only
      cases playthrough.stage.cursor.position? dialogue with
      | some index => exact forgets_onStage _
      | none =>
          apply (forgets_emit _).bind
          intro _
          exact forgets_onStage _
  | none =>
      cases target.scene with
      | some id => exact forgets_loadScene script id
      | none => exact forgets_onStage _

/-- Here the time enters, and is forgotten. -/
theorem forgets_recordChoice (time : Timestamp) (choice : Choice) :
    Forgets (recordChoice time choice) (recordChoice .epoch choice) := by
  apply forgets_update
  intro playthrough
  simp only [timeless, Progress.timeless, Progress.record, List.map_append, List.map_cons,
    List.map_nil, TakenChoice.timeless]

theorem forgets_throwDieOf (script : Script) (choice : Choice) :
    Forgets (throwDieOf script choice) (throwDieOf script choice) := by
  rw [throwDieOf]
  cases choice.check with
  | some check => exact (forgets_onStage _).map some
  | none => exact forgets_pure none

theorem forgets_makeChoice (script : Script) (time : Timestamp) (choice : Choice) :
    Forgets (makeChoice script time choice) (makeChoice script .epoch choice) := by
  apply Forgets.unlessOver
  apply forgets_current (fun _ => rfl)
  intro playthrough
  by_cases hphase : playthrough.stage.cursor.phase = .idle
  · rw [if_pos hphase, if_pos hphase]
    exact forgets_pure ()
  · rw [if_neg hphase, if_neg hphase]
    cases Effect.validate choice.effects with
    | error error => exact forgets_stop _
    | ok valid =>
        apply (forgets_recordChoice time choice).bind
        intro _
        apply (forgets_onStage _).bind
        intro _
        apply (forgets_throwDieOf script choice).bind
        intro outcome
        apply Forgets.unlessDepleted
        exact (forgets_navigate script _).bind fun _ => forgets_follow

theorem forgets_choose (script : Script) (time : Timestamp) (place : Nat) :
    Forgets (choose script time place) (choose script .epoch place) := by
  apply forgets_current (fun _ => rfl)
  intro playthrough
  cases playthrough.stage.cursor.offered[place]? with
  | none => exact forgets_pure false
  | some choice => exact (forgets_makeChoice script time choice).bind fun _ => forgets_pure true

end Parts

/-- A call answers, emits and does the same whatever times were and are recorded. -/
theorem forgets_answered (script : Script) (call : Call) :
    Forgets (call.answered script) (call.timeless.answered script) := by
  cases call with
  | start => exact (forgets_start script).map _
  | loadScene id => exact (forgets_loadScene script id).map _
  | advance => exact (forgets_advance script).map _
  | makeChoice time choice => exact (forgets_makeChoice script time choice).map _
  | choose time place => exact (forgets_choose script time place).map _

end Playthrough

end BranchingStory
