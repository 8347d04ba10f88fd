import BranchingStory.Json.Reader
import BranchingStory.Story
import BranchingStory.Wire.Rule

/-!
# Stories in JSON

A story document is a record with the list of scenes.  Lists and titles may be missing in a
document and are always written.
-/

namespace BranchingStory

namespace Choice

def toJson (choice : Choice) : Json :=
  .ofMembers <|
    [("id", choice.id.map Json.string), ("text", some (.string choice.text)),
      ("effects", some (.array (choice.effects.map Effect.toJson))),
      ("conditions", some (.array (choice.conditions.map Condition.toJson)))] ++
    choice.target.toMembers ++ [("diceCheck", choice.check.map DiceCheck.toJson)]

def ofJson? (json : Json) : Option Choice := do
  let fields ← json.fields?
    [⟨"id", true⟩, ⟨"text", false⟩, ⟨"effects", true⟩, ⟨"conditions", true⟩,
      ⟨"nextSceneId", true⟩, ⟨"nextDialogueId", true⟩, ⟨"diceCheck", true⟩]
  let id ← fields.optional "id" Json.text?
  let text ← fields.required "text" Json.text?
  let effects ← fields.withDefault "effects" [] (Json.list? Effect.ofJson?)
  let conditions ← fields.withDefault "conditions" [] (Json.list? Condition.ofJson?)
  let target ← Target.ofFields? fields
  let check ← fields.optional "diceCheck" DiceCheck.ofJson?
  return { id, text, effects, conditions, target, check }

end Choice

namespace Dialogue

def toJson (dialogue : Dialogue) : Json :=
  .ofMembers
    [("id", dialogue.id.map Json.string), ("speaker", some (.string dialogue.speaker)),
      ("text", some (.string dialogue.text)),
      ("stageDirections", dialogue.directions.map Json.string),
      ("conditions", some (.array (dialogue.conditions.map Condition.toJson))),
      ("choices", some (.array (dialogue.choices.map Choice.toJson)))]

def ofJson? (json : Json) : Option Dialogue := do
  let fields ← json.fields?
    [⟨"id", true⟩, ⟨"speaker", false⟩, ⟨"text", false⟩, ⟨"stageDirections", true⟩,
      ⟨"conditions", true⟩, ⟨"choices", true⟩]
  let id ← fields.optional "id" Json.text?
  let speaker ← fields.required "speaker" Json.text?
  let text ← fields.required "text" Json.text?
  let directions ← fields.optional "stageDirections" Json.text?
  let conditions ← fields.withDefault "conditions" [] (Json.list? Condition.ofJson?)
  let choices ← fields.withDefault "choices" [] (Json.list? Choice.ofJson?)
  return { id, speaker, text, directions, conditions, choices }

end Dialogue

namespace Scene

def toJson (scene : Scene) : Json :=
  .ofMembers
    [("id", some (.string scene.id)), ("title", some (.string scene.title)),
      ("description", scene.description.map Json.string),
      ("dialogues", some (.array (scene.dialogues.map Dialogue.toJson)))]

def ofJson? (json : Json) : Option Scene := do
  let fields ← json.fields?
    [⟨"id", false⟩, ⟨"title", true⟩, ⟨"description", true⟩, ⟨"dialogues", true⟩]
  let id ← fields.required "id" Json.text?
  let title ← fields.withDefault "title" "" Json.text?
  let description ← fields.optional "description" Json.text?
  let dialogues ← fields.withDefault "dialogues" [] (Json.list? Dialogue.ofJson?)
  return { id, title, description, dialogues }

/-- The list of scenes of a story document. -/
def listOfDocument? (json : Json) : Option (List Scene) := do
  let fields ← json.fields? [⟨"scenes", false⟩]
  fields.required "scenes" (Json.list? Scene.ofJson?)

end Scene

/-- Why a text is not a story. -/
inductive StoryTextError where
  | malformed
  | ambiguous (error : StoryError)
deriving DecidableEq

namespace Story

/-- The document of a story. -/
def toDocument (scenes : List Scene) : Json :=
  .object [("scenes", .array (scenes.map Scene.toJson))]

/-- Reads a story from the text of its document. -/
def ofText (text : String) : Except StoryTextError Story :=
  match (Json.parse? text).bind Scene.listOfDocument? with
  | none => .error .malformed
  | some scenes =>
      match ofScenes scenes with
      | .ok story => .ok story
      | .error error => .error (.ambiguous error)

end Story

end BranchingStory
