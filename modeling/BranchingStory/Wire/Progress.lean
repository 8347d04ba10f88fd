import BranchingStory.Progress
import BranchingStory.Wire.Event

/-!
# Progress in JSON

Progress is written with all its fields; unset ones are null.
-/

namespace BranchingStory

namespace Timestamp

def toJson (time : Timestamp) : Json := .string time.toText

def ofJson? (json : Json) : Option Timestamp := json.text?.bind ofText?

end Timestamp

namespace TakenChoice

def toJson (taken : TakenChoice) : Json :=
  .object
    [("scene_id", .ofText? taken.scene), ("dialogue", taken.dialogue.elim .null Dialogue.toJson),
      ("choice", taken.choice.toJson), ("timestamp", taken.time.toJson)]

def ofJson? (json : Json) : Option TakenChoice := do
  let fields ← json.fields?
    [⟨"scene_id", false⟩, ⟨"dialogue", false⟩, ⟨"choice", false⟩, ⟨"timestamp", false⟩]
  let scene ← fields.optional "scene_id" Json.text?
  let dialogue ← fields.optional "dialogue" Dialogue.ofJson?
  let choice ← fields.required "choice" Choice.ofJson?
  let time ← fields.required "timestamp" Timestamp.ofJson?
  return { scene, dialogue, choice, time }

end TakenChoice

namespace Progress

def toJson (progress : Progress) : Json :=
  .object
    [("current_scene_id", .ofText? progress.scene),
      ("current_dialogue_index", .integer progress.dialogueIndex),
      ("current_dialogue_id", .ofText? progress.dialogueId),
      ("ended", .boolean progress.ended),
      ("end_reason", progress.endReason.elim .null EndReason.toJson),
      ("history", .array (progress.history.map TakenChoice.toJson))]

def ofJson? (json : Json) : Option Progress := do
  let fields ← json.fields?
    [⟨"current_scene_id", false⟩, ⟨"current_dialogue_index", false⟩,
      ⟨"current_dialogue_id", false⟩, ⟨"ended", false⟩, ⟨"end_reason", false⟩,
      ⟨"history", false⟩]
  let scene ← fields.optional "current_scene_id" Json.text?
  let dialogueIndex ← fields.required "current_dialogue_index" (Json.below? UInt64.size)
  let dialogueId ← fields.optional "current_dialogue_id" Json.text?
  let ended ← fields.required "ended" Json.boolean?
  let endReason ← fields.optional "end_reason" (EndReason.ofJson? false)
  let history ← fields.required "history" (Json.list? TakenChoice.ofJson?)
  return { scene, dialogueIndex, dialogueId, ended, endReason, history }

end Progress

end BranchingStory
