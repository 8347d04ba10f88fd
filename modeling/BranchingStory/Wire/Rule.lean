import BranchingStory.Json.Record
import BranchingStory.Json.Writer
import BranchingStory.Rule

/-!
# Rules in JSON

Operators are written as their text, whether they are known or not.  Unset fields of effects, checks
and targets are left out.
-/

namespace BranchingStory

open Json (Fields)

def Comparison.toJson (comparison : Comparison) : Json := .string comparison.symbol

def Comparison.ofJson? (json : Json) : Option Comparison := Comparison.ofText <$> json.text?

def Operation.toJson (operation : Operation) : Json := .string operation.symbol

def Operation.ofJson? (json : Json) : Option Operation := Operation.ofText <$> json.text?

namespace Condition

def toJson (condition : Condition) : Json :=
  .object
    [("variable", .string condition.name), ("operator", condition.comparison.toJson),
      ("value", condition.threshold.toJson)]

def ofJson? (json : Json) : Option Condition := do
  let fields ← json.fields? [⟨"variable", false⟩, ⟨"operator", false⟩, ⟨"value", false⟩]
  let name ← fields.required "variable" Json.text?
  let comparison ← fields.required "operator" Comparison.ofJson?
  let threshold ← fields.required "value" Json.double?
  return { name, comparison, threshold }

end Condition

namespace Effect

def toJson (effect : Effect) : Json :=
  .ofMembers
    [("variable", some (.string effect.name)), ("operation", some effect.operation.toJson),
      ("value", effect.operand.map Binary64.toJson), ("min", effect.least.map Binary64.toJson),
      ("max", effect.greatest.map Binary64.toJson)]

def ofJson? (json : Json) : Option Effect := do
  let fields ← json.fields?
    [⟨"variable", false⟩, ⟨"operation", false⟩, ⟨"value", true⟩, ⟨"min", true⟩, ⟨"max", true⟩]
  let name ← fields.required "variable" Json.text?
  let operation ← fields.required "operation" Operation.ofJson?
  let operand ← fields.optional "value" Json.double?
  let least ← fields.optional "min" Json.double?
  let greatest ← fields.optional "max" Json.double?
  return { name, operation, operand, least, greatest }

end Effect

namespace Target

/-- The members of a target, also where it stands among those of a choice. -/
def toMembers (target : Target) : List (String × Option Json) :=
  [("nextSceneId", target.scene.map Json.string),
    ("nextDialogueId", target.dialogue.map Json.string)]

def toJson (target : Target) : Json := .ofMembers target.toMembers

def ofFields? (fields : Fields) : Option Target := do
  let scene ← fields.optional "nextSceneId" Json.text?
  let dialogue ← fields.optional "nextDialogueId" Json.text?
  return { scene, dialogue }

def ofJson? (json : Json) : Option Target := do
  let fields ← json.fields? [⟨"nextSceneId", true⟩, ⟨"nextDialogueId", true⟩]
  ofFields? fields

end Target

def UInt32.toJson (value : UInt32) : Json := .integer value.toNat

namespace DiceCheck

def toJson (check : DiceCheck) : Json :=
  .ofMembers
    [("stat", check.stat.map Json.string), ("difficulty", check.difficulty.map UInt32.toJson),
      ("sides", check.sides.map UInt32.toJson), ("success", check.success.map Target.toJson),
      ("failure", check.failure.map Target.toJson)]

def ofJson? (json : Json) : Option DiceCheck := do
  let fields ← json.fields?
    [⟨"stat", true⟩, ⟨"difficulty", true⟩, ⟨"sides", true⟩, ⟨"success", true⟩, ⟨"failure", true⟩]
  let stat ← fields.optional "stat" Json.text?
  let difficulty ← fields.optional "difficulty" Json.natural32?
  let sides ← fields.optional "sides" Json.natural32?
  let success ← fields.optional "success" Target.ofJson?
  let failure ← fields.optional "failure" Target.ofJson?
  return { stat, difficulty, sides, success, failure }

end DiceCheck

end BranchingStory
