import BranchingStory.Settings
import BranchingStory.Wire.Event

/-!
# Settings in JSON

Settings are written with all their fields.  On reading a missing field takes its standard value.
-/

namespace BranchingStory

namespace PenaltyScope

def toJson : PenaltyScope → Json
  | allTracked => .string "AllTracked"
  | checkedStat => .string "CheckedStat"

def named : List (String × PenaltyScope) :=
  [("AllTracked", allTracked), ("CheckedStat", checkedStat)]

def ofJson? : Json → Option PenaltyScope := Json.variantOf? false named

end PenaltyScope

namespace Penalty

def toJson (penalty : Penalty) : Json :=
  .object [("amount", penalty.amount.toJson), ("scope", penalty.scope.toJson)]

def ofJson? (json : Json) : Option Penalty := do
  let fields ← json.fields? [⟨"amount", false⟩, ⟨"scope", false⟩]
  let amount ← fields.required "amount" Json.double?
  let scope ← fields.required "scope" PenaltyScope.ofJson?
  return { amount, scope }

end Penalty

namespace DiceSettings

def toJson (dice : DiceSettings) : Json :=
  .object
    [("sides", UInt32.toJson dice.sides), ("default_difficulty", UInt32.toJson dice.difficulty),
      ("penalty", dice.penalty.toJson)]

def ofJson? (json : Json) : Option DiceSettings := do
  let fields ← json.fields?
    [⟨"sides", false⟩, ⟨"default_difficulty", false⟩, ⟨"penalty", true⟩]
  let sides ← fields.required "sides" Json.natural32?
  let difficulty ← fields.required "default_difficulty" Json.natural32?
  let penalty ← fields.withDefault "penalty" {} Penalty.ofJson?
  return { sides, difficulty, penalty }

end DiceSettings

namespace Ending

def toJson (ending : Ending) : Json :=
  .object
    [("min_score", ending.minScore.toJson), ("title", .string ending.title),
      ("message", .string ending.message), ("grade", .string ending.grade)]

def ofJson? (json : Json) : Option Ending := do
  let fields ← json.fields?
    [⟨"min_score", false⟩, ⟨"title", false⟩, ⟨"message", false⟩, ⟨"grade", false⟩]
  let minScore ← fields.required "min_score" Json.double?
  let title ← fields.required "title" Json.text?
  let message ← fields.required "message" Json.text?
  let grade ← fields.required "grade" Json.text?
  return { minScore, title, message, grade }

end Ending

namespace Settings

def toJson (settings : Settings) : Json :=
  .object
    [("tracked_variables", .array (settings.tracked.map Json.string)),
      ("tracked_start", settings.trackedStart.toJson),
      ("initial_variables", settings.initial.toJson),
      ("start_scene", .ofText? settings.startScene),
      ("seed", settings.seed.elim .null fun seed => .integer seed.toNat),
      ("dice", settings.dice.toJson),
      ("endings", .array (settings.endings.map Ending.toJson)),
      ("end_on_depleted_stat", .boolean settings.endOnDepletedStat)]

def ofJson? (json : Json) : Option Settings := do
  let standard : Settings := {}
  let fields ← json.fields?
    [⟨"tracked_variables", true⟩, ⟨"tracked_start", true⟩, ⟨"initial_variables", true⟩,
      ⟨"start_scene", true⟩, ⟨"seed", true⟩, ⟨"dice", true⟩, ⟨"endings", true⟩,
      ⟨"end_on_depleted_stat", true⟩]
  let tracked ←
    fields.withDefault "tracked_variables" standard.tracked (Json.list? Json.text?)
  let trackedStart ← fields.withDefault "tracked_start" standard.trackedStart Json.double?
  let initial ← fields.withDefault "initial_variables" standard.initial Variables.ofJson?
  let startScene ← fields.optional "start_scene" Json.text?
  let seed ← fields.optional "seed" Json.natural64?
  let dice ← fields.withDefault "dice" standard.dice DiceSettings.ofJson?
  let endings ← fields.withDefault "endings" standard.endings (Json.list? Ending.ofJson?)
  let endOnDepletedStat ←
    fields.withDefault "end_on_depleted_stat" standard.endOnDepletedStat Json.boolean?
  return { tracked, trackedStart, initial, startScene, seed, dice, endings, endOnDepletedStat }

end Settings

end BranchingStory
