import BranchingStory.Playing

/-!
# Cursors

A cursor steps through the dialogues of one scene.  From a place in the scene it looks for the first
dialogue whose gate is open, shows it and offers the choices whose gates are open.  Moving a cursor
reads the variables and changes nothing but the cursor.
-/

namespace BranchingStory

inductive Phase where
  /-- No scene is loaded. -/
  | idle
  /-- A dialogue without offered choices is on screen. -/
  | showing
  /-- A dialogue is on screen and one of its choices must be taken. -/
  | awaitingChoice
  /-- The scene has run out of dialogues. -/
  | ended
deriving DecidableEq

/-- Whether a phase has a scene in play. -/
def Phase.isActive : Phase → Bool
  | showing | awaitingChoice => true
  | idle | ended => false

structure Cursor where
  scene : Option Scene := none
  index : Nat := 0
  phase : Phase := .idle
  /-- The choices the player has, those with open gates. -/
  offered : List Choice := []
deriving DecidableEq

namespace Cursor

/-! ## Looking for a dialogue -/

/-- The choices whose gates are open, in their order. -/
def openChoices (store : Variables) : List Choice → Except GateError (List Choice)
  | [] => .ok []
  | choice :: rest =>
      match Gate.isOpen store choice.conditions with
      | .error error => .error error
      | .ok isOpen =>
          match openChoices store rest with
          | .error error => .error error
          | .ok others => .ok (if isOpen then choice :: others else others)

/-- Where a search through a scene comes to rest: at a place behind the scene, or at a dialogue with
the choices it offers. -/
structure Sight where
  index : Nat
  dialogue : Option (Dialogue × List Choice)

/-- Searches dialogues, the first of which is at `index`, for one whose gate is open. -/
def search (store : Variables) (index : Nat) : List Dialogue → Except GateError Sight
  | [] => .ok { index, dialogue := none }
  | dialogue :: rest =>
      match Gate.isOpen store dialogue.conditions with
      | .error error => .error error
      | .ok false => search store (index + 1) rest
      | .ok true =>
          match openChoices store dialogue.choices with
          | .error error => .error error
          | .ok choices => .ok { index, dialogue := some (dialogue, choices) }

/-! ## What is on screen -/

def isEnded (cursor : Cursor) : Bool := cursor.phase = .ended

def sceneId (cursor : Cursor) : Option String := cursor.scene.map Scene.id

/-- The dialogue on screen. -/
def dialogue? (cursor : Cursor) : Option Dialogue :=
  if cursor.phase.isActive then cursor.scene.bind fun scene => scene.dialogues[cursor.index]?
  else none

/-- The place of the dialogue with an id in the loaded scene. -/
def position? (cursor : Cursor) (id : String) : Option Nat :=
  cursor.scene.bind fun scene => scene.position? id

/-- The events of a dialogue that comes on screen. -/
def announce (scene : Scene) (dialogue : Dialogue) (choices : List Choice) : List Event :=
  let shown : DialogueShown :=
    { scene := scene.id, dialogue := dialogue.id, speaker := dialogue.speaker,
      text := dialogue.text, directions := dialogue.directions, choices }
  if choices.isEmpty then [.dialogueShow shown]
  else [.dialogueShow shown, .choicesShow choices]

/-! ## Moving -/

/-- Shows the first visible dialogue at or after the place of the cursor.  When a gate cannot be
judged the cursor stays where it was put, without choices. -/
def present (store : Variables) (cursor : Cursor) : Reply Cursor Unit :=
  let cleared := { cursor with offered := [] }
  match cursor.scene with
  | none => { result := .ok (), state := { cleared with phase := .idle }, events := [] }
  | some scene =>
      match search store cursor.index (scene.dialogues.drop cursor.index) with
      | .error error => { result := .error (.gate error), state := cleared, events := [] }
      | .ok { index, dialogue := none } =>
          { result := .ok (), state := { cleared with index, phase := .ended },
            events := [.sceneComplete scene.id] }
      | .ok { index, dialogue := some (dialogue, choices) } =>
          let phase := if choices.isEmpty then .showing else .awaitingChoice
          { result := .ok (), state := { cursor with index, phase, offered := choices },
            events := announce scene dialogue choices }

/-- Starts a scene from its first visible dialogue. -/
def load (scene : Scene) (store : Variables) (cursor : Cursor) : Reply Cursor Unit :=
  present store { cursor with scene := some scene, index := 0, phase := .showing }

/-- Goes to a place of the scene; only an active cursor moves. -/
def jump (index : Nat) (store : Variables) (cursor : Cursor) : Reply Cursor Unit :=
  if cursor.phase.isActive then present store { cursor with index }
  else { result := .ok (), state := cursor, events := [] }

/-- Goes to the next place, also from a dialogue whose choices were not taken. -/
def step (store : Variables) (cursor : Cursor) : Reply Cursor Unit :=
  jump (cursor.index + 1) store cursor

/-- Moves past a dialogue that offers no choices. -/
def advance (store : Variables) (cursor : Cursor) : Reply Cursor Unit :=
  match cursor.phase with
  | .showing => step store cursor
  | _ => { result := .ok (), state := cursor, events := [] }

/-- Stops without an event. -/
def finish (cursor : Cursor) : Cursor := { cursor with phase := .ended, offered := [] }

end Cursor

/-- What the rules of a playthrough act on: a cursor, the variables and the random source. -/
structure Stage where
  cursor : Cursor := {}
  store : Variables := .empty
  generator : Generator
deriving DecidableEq

namespace Stage

/-- The events of a list of changes: the changes, then all variables. -/
def changeEvents (changes : List Change) (store : Variables) : List Event :=
  [.variablesDelta changes, .variablesUpdated store]

/-- A move of the cursor. -/
def move (moveCursor : Variables → Cursor → Reply Cursor Unit) : Playing Stage Unit :=
  fun stage =>
    let reply := moveCursor stage.store stage.cursor
    { result := reply.result, state := { stage with cursor := reply.state },
      events := reply.events }

/-- Applies effects as a whole and publishes their changes. -/
def applyEffects (effects : List Effect) : Playing Stage (List Change) :=
  fun stage =>
    match Effect.applyAll effects stage.store stage.generator with
    | .error error => { result := .error (.effect error), state := stage, events := [] }
    | .ok outcome =>
        { result := .ok outcome.report,
          state :=
            { stage with store := outcome.store, generator := outcome.generator },
          events := changeEvents outcome.report outcome.store }

/-- Applies the effects of a choice and goes on within the scene: to the dialogue the choice names
when the scene has it, and to the next one otherwise. -/
def handleChoice (choice : Choice) : Playing Stage Unit := do
  let stage ← Playing.current
  if stage.cursor.phase.isActive then
    let _ ← applyEffects choice.effects
    let target := (choice.target.dialogue.bind stage.cursor.position?).getD (stage.cursor.index + 1)
    move (Cursor.jump target)
  else pure ()

end Stage

end BranchingStory
