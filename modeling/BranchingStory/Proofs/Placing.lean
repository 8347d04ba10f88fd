import BranchingStory.Channel
import BranchingStory.Proofs.Playing
import BranchingStory.Proofs.Search

/-!
# The place of a cursor

A host may also use a cursor by itself: it loads scenes, advances, handles choices, jumps to any
place and finishes, and for each of these it lends the cursor the variables, the random source and
the audience as they are then.  Nothing keeps it from changing them in between.

Whatever the host does, an active cursor stands at a dialogue of its scene.  A search that comes to
rest puts it at one.  A search that stops at a gate leaves it where it was put, and there has to be
a dialogue, for behind the last one no gate is judged.
-/

namespace BranchingStory

theorem Phase.isActive_iff {phase : Phase} :
    phase.isActive = true ↔ phase = .showing ∨ phase = .awaitingChoice := by
  cases phase <;> simp [isActive]

theorem Phase.isActive_eq_false_iff {phase : Phase} :
    phase.isActive = false ↔ phase = .idle ∨ phase = .ended := by
  cases phase <;> simp [isActive]

/-- What a host lends to a cursor. -/
structure Surroundings (World : Type) where
  store : Variables
  generator : Generator
  audience : Audience World
  world : World

namespace Cursor

/-! ## Commands -/

/-- What a host does with a cursor. -/
inductive Command where
  | load (scene : Scene)
  | advance
  | handle (choice : Choice)
  | jump (index : Nat)
  | finish

/-- Whether a command also does something when there is no dialogue on screen. -/
def Command.isBold : Command → Bool
  | load _ | finish => true
  | advance | handle _ | jump _ => false

/-- The scene that a command loads. -/
def Command.scene? : Command → Option Scene
  | load scene => some scene
  | advance | handle _ | jump _ | finish => none

def Command.step : Command → Playing Stage Unit
  | load scene => Stage.move (Cursor.load scene)
  | advance => Stage.move Cursor.advance
  | handle choice => Stage.handleChoice choice
  | jump index => Stage.move (Cursor.jump index)
  | finish => Playing.update fun stage => { stage with cursor := stage.cursor.finish }

/-- What comes of a command. -/
structure Outcome (World : Type) where
  result : Except PlaybackError Unit
  cursor : Cursor
  surroundings : Surroundings World
  events : List Event

variable {World : Type}

/-- Carries out a command and delivers its events. -/
def perform (cursor : Cursor) (command : Command) (surroundings : Surroundings World) :
    Outcome World :=
  let reply :=
    command.step.run { cursor, store := surroundings.store, generator := surroundings.generator }
  let (audience, world) := surroundings.audience.emitAll reply.events surroundings.world
  { result := reply.result, cursor := reply.state.cursor,
    surroundings :=
      { store := reply.state.store, generator := reply.state.generator, audience, world },
    events := reply.events }

/-- A cursor after commands, each of them with its own surroundings. -/
def after (cursor : Cursor) (history : List (Command × Surroundings World)) : Cursor :=
  history.foldl (fun cursor made => (cursor.perform made.1 made.2).cursor) cursor

/-! ## At a dialogue of the scene -/

/-- An active cursor stands at a dialogue of its scene and offers choices of that dialogue only. -/
structure Placed (cursor : Cursor) : Prop where
  inside : cursor.phase.isActive = true →
    ∃ scene, cursor.scene = some scene ∧ cursor.index < scene.dialogues.length
  /-- Choices are offered in the order of the dialogue that has them. -/
  offers : cursor.offered ≠ [] → cursor.phase = .awaitingChoice ∧
    ∃ dialogue, cursor.dialogue? = some dialogue ∧ cursor.offered.Sublist dialogue.choices

theorem placed_new : Placed {} where
  inside hactive := by simp [Phase.isActive] at hactive
  offers hoffered := absurd rfl hoffered

theorem placed_finish (cursor : Cursor) : cursor.finish.Placed where
  inside hactive := by simp [finish, Phase.isActive] at hactive
  offers hoffered := absurd rfl hoffered

theorem dialogue?_of_inactive {cursor : Cursor} (hinactive : cursor.phase.isActive = false) :
    cursor.dialogue? = none := by
  rw [dialogue?, if_neg (by simp [hinactive])]

/-- There is a dialogue on screen exactly when the cursor is active. -/
theorem Placed.isSome_dialogue? {cursor : Cursor} (hplaced : cursor.Placed) :
    cursor.dialogue?.isSome = cursor.phase.isActive := by
  cases hactive : cursor.phase.isActive with
  | false =>
      rw [dialogue?_of_inactive hactive]
      rfl
  | true =>
      obtain ⟨scene, hscene, hinside⟩ := hplaced.inside hactive
      rw [dialogue?, if_pos hactive, hscene, Option.bind_some, List.getElem?_eq_getElem hinside]
      rfl

/-- A presentation, also one that gets stuck, leaves the cursor at a dialogue or inactive. -/
theorem Presentation.placed {store : Variables} {scene : Scene} {start : Cursor}
    {reply : Reply Cursor Unit} (hpresentation : Presentation store scene start reply)
    (hscene : start.scene = some scene) : reply.state.Placed := by
  cases hpresentation with
  | stuck error hsearch =>
      have hinside : start.index < scene.dialogues.length := lt_length_of_stuck hsearch
      exact ⟨fun _ => ⟨scene, hscene, hinside⟩, fun hoffered => absurd rfl hoffered⟩
  | past index hsearch =>
      constructor
      · intro hactive
        simp [pastEnd, Phase.isActive] at hactive
      · intro hoffered
        exact absurd rfl hoffered
  | shown index dialogue choices hsearch =>
      have hvisible := searchScene_visible hsearch
      have hinside : index < scene.dialogues.length :=
        (List.getElem?_eq_some_iff.mp hvisible.at_index).1
      constructor
      · intro _
        exact ⟨scene, hscene, hinside⟩
      · intro hoffered
        refine ⟨awaiting_offering start index choices hoffered, dialogue, ?_, ?_⟩
        · exact (dialogue?_offering hscene index choices).trans hvisible.at_index
        · change choices.Sublist dialogue.choices
          rw [hvisible.choices_eq]
          exact List.filter_sublist

/-! ## Commands keep the place -/

theorem placed_load (scene : Scene) (store : Variables) (cursor : Cursor) :
    (load scene store cursor).state.Placed :=
  (presentation_load store scene cursor).placed rfl

theorem jump_of_inactive {cursor : Cursor} (hinactive : cursor.phase.isActive = false)
    (index : Nat) (store : Variables) :
    jump index store cursor = { result := .ok (), state := cursor, events := [] } := by
  rw [jump, if_neg (by simp [hinactive])]

theorem Placed.jump {cursor : Cursor} (hplaced : cursor.Placed) (index : Nat)
    (store : Variables) : (jump index store cursor).state.Placed := by
  cases hactive : cursor.phase.isActive with
  | false =>
      rw [jump_of_inactive hactive]
      exact hplaced
  | true =>
      obtain ⟨scene, hscene, -⟩ := hplaced.inside hactive
      exact (presentation_jump hactive hscene).placed hscene

theorem Placed.advance {cursor : Cursor} (hplaced : cursor.Placed) (store : Variables) :
    (advance store cursor).state.Placed := by
  cases hphase : cursor.phase with
  | showing =>
      simp only [Cursor.advance, hphase]
      exact hplaced.jump (cursor.index + 1) store
  | idle | awaitingChoice | ended =>
      simp only [Cursor.advance, hphase]
      exact hplaced

/-- A choice whose effects are refused leaves the cursor alone, and else the cursor jumps. -/
theorem Placed.handleChoice {stage : Stage} (hplaced : stage.cursor.Placed) (choice : Choice) :
    ((Stage.handleChoice choice).run stage).state.cursor.Placed := by
  rw [Stage.handleChoice, Playing.run_bind_of_silent (Playing.run_current _)]
  split
  · rw [Playing.run_bind]
    simp only [Playing.run, Stage.applyEffects]
    cases Effect.applyAll choice.effects stage.store stage.generator with
    | error error => exact hplaced
    | ok outcome => exact hplaced.jump _ outcome.store
  · exact hplaced

/-- What one command preserves. -/
theorem Placed.perform {cursor : Cursor} (hplaced : cursor.Placed) (command : Command)
    (surroundings : Surroundings World) :
    (cursor.perform command surroundings).cursor.Placed := by
  cases command with
  | load scene => exact placed_load scene surroundings.store cursor
  | advance => exact hplaced.advance surroundings.store
  | handle choice => exact Placed.handleChoice hplaced choice
  | jump index => exact hplaced.jump index surroundings.store
  | finish => exact placed_finish cursor

/-- What any commands preserve. -/
theorem Placed.after {cursor : Cursor} (hplaced : cursor.Placed)
    (history : List (Command × Surroundings World)) : (cursor.after history).Placed := by
  induction history generalizing cursor with
  | nil => exact hplaced
  | cons made rest ih => exact ih (hplaced.perform made.1 made.2)

/-! ## Commands keep the scene -/

theorem Presentation.scene_eq {store : Variables} {scene : Scene} {start : Cursor}
    {reply : Reply Cursor Unit} (hpresentation : Presentation store scene start reply) :
    reply.state.scene = start.scene := by
  cases hpresentation <;> rfl

theorem scene_present (store : Variables) (cursor : Cursor) :
    (present store cursor).state.scene = cursor.scene := by
  cases hscene : cursor.scene with
  | none => simp only [present, hscene]
  | some scene => exact (presentation_present hscene).scene_eq.trans hscene

theorem scene_jump (index : Nat) (store : Variables) (cursor : Cursor) :
    (jump index store cursor).state.scene = cursor.scene := by
  rw [jump]
  split
  · exact scene_present store { cursor with index }
  · rfl

/-- A cursor is in the scene that a command loads, and else in the one it was in. -/
theorem scene_perform (cursor : Cursor) (command : Command) (surroundings : Surroundings World) :
    (cursor.perform command surroundings).cursor.scene = command.scene?.or cursor.scene := by
  cases command with
  | load scene => exact (presentation_load surroundings.store scene cursor).scene_eq
  | advance =>
      change (advance surroundings.store cursor).state.scene = cursor.scene
      cases hphase : cursor.phase <;> simp only [advance, hphase, step, scene_jump]
  | handle choice =>
      change ((Stage.handleChoice choice).run _).state.cursor.scene = cursor.scene
      rw [Stage.handleChoice, Playing.run_bind_of_silent (Playing.run_current _)]
      split
      · rw [Playing.run_bind]
        simp only [Playing.run, Stage.applyEffects]
        cases Effect.applyAll choice.effects surroundings.store surroundings.generator with
        | error error => rfl
        | ok outcome => exact scene_jump _ outcome.store cursor
      · rfl
  | jump index => exact scene_jump index surroundings.store cursor
  | finish => rfl

/-- A scene that a cursor comes to be in has been loaded. -/
theorem loaded_of_scene_after {cursor : Cursor} {history : List (Command × Surroundings World)}
    {scene : Scene} (hscene : (cursor.after history).scene = some scene)
    (hfresh : cursor.scene ≠ some scene) :
    ∃ command ∈ history.map Prod.fst, command.scene? = some scene := by
  induction history generalizing cursor with
  | nil => exact absurd hscene hfresh
  | cons made rest ih =>
      simp only [List.map_cons, List.mem_cons, exists_eq_or_imp]
      by_cases hmade : made.1.scene? = some scene
      · exact .inl hmade
      · apply Or.inr
        apply ih hscene
        rw [scene_perform]
        cases hloads : made.1.scene? with
        | none => exact hfresh
        | some other =>
            rw [hloads] at hmade
            exact hmade

/-! ## Inactive cursors -/

/-- Without a dialogue on screen only loading a scene and finishing do anything. -/
theorem step_of_inactive {stage : Stage} (hinactive : stage.cursor.phase.isActive = false)
    {command : Command} (htimid : command.isBold = false) :
    command.step.run stage = { result := .ok (), state := stage, events := [] } := by
  cases command with
  | load scene | finish => simp [Command.isBold] at htimid
  | advance =>
      cases hphase : stage.cursor.phase with
      | showing | awaitingChoice => simp [hphase, Phase.isActive] at hinactive
      | idle | ended => simp only [Command.step, Playing.run, Stage.move, Cursor.advance, hphase]
  | handle choice =>
      rw [Command.step, Stage.handleChoice, Playing.run_bind_of_silent (Playing.run_current _),
        if_neg (by simp [hinactive])]
      rfl
  | jump index =>
      simp only [Command.step, Playing.run, Stage.move, jump_of_inactive hinactive]

theorem perform_of_inactive {cursor : Cursor} (hinactive : cursor.phase.isActive = false)
    {command : Command} (htimid : command.isBold = false) (surroundings : Surroundings World) :
    cursor.perform command surroundings =
      { result := .ok (), cursor, surroundings, events := [] } := by
  let stage : Stage := { cursor, store := surroundings.store, generator := surroundings.generator }
  have hstep : command.step.run stage = _ := step_of_inactive hinactive htimid
  simp only [perform, stage, hstep]
  rfl

/-- Whatever was done with a cursor, in whatever surroundings: it stands at a dialogue of its scene
as long as it is active, it offers choices of this dialogue in their order and only while one is
awaited, and when it is not active every command but to load a scene or to finish leaves it and its
surroundings alone. -/
theorem placed_and_inert_after (history : List (Command × Surroundings World)) :
    let cursor := after {} history
    (cursor.phase = .showing ∨ cursor.phase = .awaitingChoice →
      ∃ scene, cursor.scene = some scene ∧ cursor.index < scene.dialogues.length) ∧
    (cursor.dialogue?.isSome = true ↔
      cursor.phase = .showing ∨ cursor.phase = .awaitingChoice) ∧
    (cursor.offered ≠ [] → cursor.phase = .awaitingChoice ∧
      ∃ dialogue, cursor.dialogue? = some dialogue ∧ cursor.offered.Sublist dialogue.choices) ∧
    (cursor.phase = .idle ∨ cursor.phase = .ended →
      ∀ command : Command, (∀ scene, command ≠ .load scene) → command ≠ .finish →
        ∀ surroundings : Surroundings World,
          cursor.perform command surroundings =
            { result := .ok (), cursor, surroundings, events := [] }) := by
  intro cursor
  have hplaced : cursor.Placed := placed_new.after history
  refine ⟨?_, ?_, hplaced.offers, ?_⟩
  · intro honscreen
    exact hplaced.inside (Phase.isActive_iff.mpr honscreen)
  · rw [hplaced.isSome_dialogue?]
    exact Phase.isActive_iff
  · intro hinactive command hload hfinish surroundings
    have htimid : command.isBold = false := by
      cases command with
      | load scene => exact absurd rfl (hload scene)
      | finish => exact absurd rfl hfinish
      | advance | handle choice | jump index => rfl
    exact perform_of_inactive (Phase.isActive_eq_false_iff.mpr hinactive) htimid surroundings

end Cursor

end BranchingStory
