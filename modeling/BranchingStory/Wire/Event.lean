import BranchingStory.Wire.Story
import BranchingStory.Event

/-!
# Events in JSON

An event is a record of its name and its content.  The content may come before the name; it is then
stored until the name is known, and a stored value is read a little wider than others.  Reference
errors carry their kind among their own fields.
-/

namespace BranchingStory

namespace Variables

def toJson (store : Variables) : Json :=
  .object (store.toList.map fun (name, value) => (name, value.toJson))

/-- Reads an object of numbers; of equal names the last one counts. -/
def ofJson? : Json → Option Variables
  | .object members => do
      let entries ← members.mapM fun (name, json) => do
        let value ← Json.double? json
        return (name, value)
      return ofList entries
  | _ => none

end Variables

namespace EventKind

/-- The kinds by the names they have as values. -/
def named : List (String × EventKind) :=
  [("DialogueShow", dialogueShow), ("ChoicesShow", choicesShow),
    ("VariablesDelta", variablesDelta), ("VariablesUpdated", variablesUpdated),
    ("SceneComplete", sceneComplete), ("SceneChanged", sceneChanged), ("DiceRolled", diceRolled),
    ("Diagnostic", diagnostic), ("PlaybackEnded", playbackEnded)]

def toJson : EventKind → Json
  | dialogueShow => .string "DialogueShow"
  | choicesShow => .string "ChoicesShow"
  | variablesDelta => .string "VariablesDelta"
  | variablesUpdated => .string "VariablesUpdated"
  | sceneComplete => .string "SceneComplete"
  | sceneChanged => .string "SceneChanged"
  | diceRolled => .string "DiceRolled"
  | diagnostic => .string "Diagnostic"
  | playbackEnded => .string "PlaybackEnded"

def ofJson? : Json → Option EventKind := Json.variantOf? false named

end EventKind

namespace DiceOutcome

def toJson : DiceOutcome → Json
  | success => .string "success"
  | failure => .string "failure"

def ofJson? (stored : Bool) : Json → Option DiceOutcome :=
  Json.variantOf? stored [("success", success), ("failure", failure)]

end DiceOutcome

namespace Severity

def toJson : Severity → Json
  | warning => .string "warning"
  | fatal => .string "fatal"

def ofJson? (stored : Bool) : Json → Option Severity :=
  Json.variantOf? stored [("warning", warning), ("fatal", fatal)]

end Severity

namespace EndReason

def toJson : EndReason → Json
  | scenarioComplete => .string "scenario_complete"
  | referenceFailure => .string "reference_failure"
  | statDepleted => .string "stat_depleted"

def ofJson? (stored : Bool) : Json → Option EndReason :=
  Json.variantOf? stored
    [("scenario_complete", scenarioComplete), ("reference_failure", referenceFailure),
      ("stat_depleted", statDepleted)]

end EndReason

/-- A text that may be unset, as a string or null. -/
def Json.ofText? (text : Option String) : Json := text.elim .null .string

namespace DialogueShown

def toJson (shown : DialogueShown) : Json :=
  .object
    [("sceneId", .string shown.scene), ("dialogueId", .ofText? shown.dialogue),
      ("speaker", .string shown.speaker), ("text", .string shown.text),
      ("stageDirections", .ofText? shown.directions),
      ("choices", .array (shown.choices.map Choice.toJson))]

def ofJson? (json : Json) : Option DialogueShown := do
  let fields ← json.fields?
    [⟨"sceneId", false⟩, ⟨"dialogueId", false⟩, ⟨"speaker", false⟩, ⟨"text", false⟩,
      ⟨"stageDirections", false⟩, ⟨"choices", false⟩]
  let scene ← fields.required "sceneId" Json.text?
  let dialogue ← fields.optional "dialogueId" Json.text?
  let speaker ← fields.required "speaker" Json.text?
  let text ← fields.required "text" Json.text?
  let directions ← fields.optional "stageDirections" Json.text?
  let choices ← fields.required "choices" (Json.list? Choice.ofJson?)
  return { scene, dialogue, speaker, text, directions, choices }

end DialogueShown

namespace Change

def toJson (change : Change) : Json :=
  .object
    [("variable", .string change.name), ("operation", change.operation.toJson),
      ("delta", change.delta.toJson), ("value", change.value.toJson)]

def ofJson? (json : Json) : Option Change := do
  let fields ← json.fields?
    [⟨"variable", false⟩, ⟨"operation", false⟩, ⟨"delta", false⟩, ⟨"value", false⟩]
  let name ← fields.required "variable" Json.text?
  let operation ← fields.required "operation" Operation.ofJson?
  let delta ← fields.required "delta" Json.double?
  let value ← fields.required "value" Json.double?
  return { name, operation, delta, value }

end Change

namespace DiceRoll

def toJson (roll : DiceRoll) : Json :=
  .object
    [("roll", UInt32.toJson roll.face), ("sides", UInt32.toJson roll.sides),
      ("difficulty", UInt32.toJson roll.difficulty), ("outcome", roll.outcome.toJson),
      ("stat", .ofText? roll.stat)]

def ofJson? (stored : Bool) (json : Json) : Option DiceRoll := do
  let fields ← json.fields?
    [⟨"roll", false⟩, ⟨"sides", false⟩, ⟨"difficulty", false⟩, ⟨"outcome", false⟩,
      ⟨"stat", false⟩]
  let face ← fields.required "roll" Json.natural32?
  let sides ← fields.required "sides" Json.natural32?
  let difficulty ← fields.required "difficulty" Json.natural32?
  let outcome ← fields.required "outcome" (DiceOutcome.ofJson? stored)
  let stat ← fields.optional "stat" Json.text?
  return { face, sides, difficulty, outcome, stat }

end DiceRoll

namespace ReferenceError

def toJson : ReferenceError → Json
  | missingScene scene =>
      .object [("kind", .string "missing_scene"), ("scene_id", .string scene)]
  | missingDialogue scene dialogue =>
      .object
        [("kind", .string "missing_dialogue"), ("scene_id", .string scene),
          ("dialogue_id", .string dialogue)]

/-- The name of a kind; in a stored value a number counts the kinds from zero. -/
def kindName? (stored : Bool) : Json → Option String
  | .string name => some name
  | .integer 0 => if stored then some "missing_scene" else none
  | .integer 1 => if stored then some "missing_dialogue" else none
  | _ => none

/-- The error of a kind, from the record of its own fields. -/
def ofKind? (kind : String) (content : Json) : Option ReferenceError :=
  match kind with
  | "missing_scene" => do
      let fields ← content.fields? [⟨"scene_id", false⟩]
      let scene ← fields.required "scene_id" Json.text?
      return missingScene scene
  | "missing_dialogue" => do
      let fields ← content.fields? [⟨"scene_id", false⟩, ⟨"dialogue_id", false⟩]
      let scene ← fields.required "scene_id" Json.text?
      let dialogue ← fields.required "dialogue_id" Json.text?
      return missingDialogue scene dialogue
  | _ => none

/-- Reads an error that nests at most the given levels.  In an array the kind comes first. -/
def ofJson? (levels : Nat) (stored : Bool) (json : Json) : Option ReferenceError :=
  if !json.isStorable levels then none
  else
    match json with
    | .array (kind :: items) => do
        let kind ← kindName? stored kind
        ofKind? kind (.array items)
    | .object members =>
        match members.filter fun member => member.1 == "kind" with
        | [(_, kind)] => do
            let kind ← kindName? stored kind
            ofKind? kind (.object (members.filter fun member => member.1 != "kind"))
        | _ => none
    | _ => none

end ReferenceError

namespace Diagnostic

def toJson (diagnostic : Diagnostic) : Json :=
  .object
    [("severity", diagnostic.severity.toJson), ("error", diagnostic.error.toJson),
      ("message", .string diagnostic.message)]

def ofJson? (levels : Nat) (stored : Bool) (json : Json) : Option Diagnostic := do
  let fields ← json.fields? [⟨"severity", false⟩, ⟨"error", false⟩, ⟨"message", false⟩]
  let severity ← fields.required "severity" (Severity.ofJson? stored)
  let error ← fields.required "error" (ReferenceError.ofJson? (levels - 1) stored)
  let message ← fields.required "message" Json.text?
  return { severity, error, message }

end Diagnostic

namespace Event

def contentToJson : Event → Json
  | dialogueShow shown => shown.toJson
  | choicesShow choices => .object [("choices", .array (choices.map Choice.toJson))]
  | variablesDelta changes => .object [("deltas", .array (changes.map Change.toJson))]
  | variablesUpdated snapshot => .object [("snapshot", snapshot.toJson)]
  | sceneComplete scene => .object [("sceneId", .string scene)]
  | sceneChanged scene => .object [("sceneId", .string scene)]
  | diceRolled roll => roll.toJson
  | diagnostic report => report.toJson
  | playbackEnded reason => .object [("reason", reason.toJson)]

def toJson (event : Event) : Json :=
  .object [("type", .string event.name), ("payload", event.contentToJson)]

/-- Reads a record with one required field. -/
def onlyField? {Value : Type} (name : String) (read : Json → Option Value) (json : Json) :
    Option Value := do
  let fields ← json.fields? [⟨name, false⟩]
  fields.required name read

/-- The event of a name, from its content. -/
def ofContent? (levels : Nat) (stored : Bool) (name : String) (content : Json) : Option Event :=
  match name with
  | "dialogue:show" => dialogueShow <$> DialogueShown.ofJson? content
  | "choices:show" => choicesShow <$> onlyField? "choices" (Json.list? Choice.ofJson?) content
  | "variables:delta" =>
      variablesDelta <$> onlyField? "deltas" (Json.list? Change.ofJson?) content
  | "variables:updated" => variablesUpdated <$> onlyField? "snapshot" Variables.ofJson? content
  | "scene:complete" => sceneComplete <$> onlyField? "sceneId" Json.text? content
  | "scene:changed" => sceneChanged <$> onlyField? "sceneId" Json.text? content
  | "dice:rolled" => diceRolled <$> DiceRoll.ofJson? stored content
  | "playback:diagnostic" => diagnostic <$> Diagnostic.ofJson? levels stored content
  | "playback:ended" => playbackEnded <$> onlyField? "reason" (EndReason.ofJson? stored) content
  | _ => none

/-- Reads an event that may nest the given levels: an object of name and content in either order, or
an array of the two. -/
def ofJson? (levels : Nat) (json : Json) : Option Event :=
  match json with
  | .array [name, content] => do
      let name ← name.variant? false
      ofContent? (levels - 1) false name content
  | .object members =>
      match members.filter fun member => member.1 == "type" || member.1 == "payload" with
      | [("type", name), ("payload", content)] => do
          let name ← name.variant? false
          ofContent? (levels - 1) false name content
      | [("payload", content), ("type", name)] => do
          let name ← name.variant? false
          guard (content.isStorable (levels - 1))
          ofContent? (levels - 1) true name content
      | _ => none
  | _ => none

end Event

end BranchingStory
