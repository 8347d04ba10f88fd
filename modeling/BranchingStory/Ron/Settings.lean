import BranchingStory.Ron.Reader
import BranchingStory.Settings

/-!
# Settings in RON

The text of settings is a record; a missing field takes its standard value.  Settings that are read
from a text are validated.
-/

namespace BranchingStory

open Ron (Fields)

/-- Why a text is not the text of settings. -/
inductive SettingsTextError where
  | malformed
  | refused (error : SettingsError)
deriving DecidableEq

def Variables.ofRon? : Ron → Option Variables
  | .map entries => do
      let entries ← entries.mapM fun (name, value) => do
        return (← name.text?, ← Ron.double? value)
      return ofList entries
  | _ => none

def PenaltyScope.ofRon? : Ron → Option PenaltyScope
  | .symbol "AllTracked" => some allTracked
  | .symbol "CheckedStat" => some checkedStat
  | _ => none

def Penalty.ofRon? (value : Ron) : Option Penalty := do
  let fields ← value.fields? "DicePenalty" ["amount", "scope"]
  let amount ← fields.required "amount" Ron.double?
  let scope ← fields.required "scope" PenaltyScope.ofRon?
  return { amount, scope }

def DiceSettings.ofRon? (value : Ron) : Option DiceSettings := do
  let fields ← value.fields? "DiceConfig" ["sides", "default_difficulty", "penalty"]
  let sides ← fields.required "sides" Ron.natural32?
  let difficulty ← fields.required "default_difficulty" Ron.natural32?
  let penalty ← fields.withDefault "penalty" {} Penalty.ofRon?
  return { sides, difficulty, penalty }

def Ending.ofRon? (value : Ron) : Option Ending := do
  let fields ← value.fields? "EndingBand" ["min_score", "title", "message", "grade"]
  let minScore ← fields.required "min_score" Ron.double?
  let title ← fields.required "title" Ron.text?
  let message ← fields.required "message" Ron.text?
  let grade ← fields.required "grade" Ron.text?
  return { minScore, title, message, grade }

namespace Settings

/-- Settings from their record; `implicit` says that options are implicit in the document. -/
def ofRon? (implicit : Bool) (value : Ron) : Option Settings := do
  let standard : Settings := {}
  let fields ← value.fields? "DirectorConfig"
    ["tracked_variables", "tracked_start", "initial_variables", "start_scene", "seed", "dice",
      "endings", "end_on_depleted_stat"]
  let tracked ← fields.withDefault "tracked_variables" standard.tracked (Ron.list? Ron.text?)
  let trackedStart ← fields.withDefault "tracked_start" standard.trackedStart Ron.double?
  let initial ← fields.withDefault "initial_variables" standard.initial Variables.ofRon?
  let startScene ← fields.withDefault "start_scene" none (Ron.option? implicit Ron.text?)
  let seed ← fields.withDefault "seed" none (Ron.option? implicit Ron.natural64?)
  let dice ← fields.withDefault "dice" standard.dice DiceSettings.ofRon?
  let endings ← fields.withDefault "endings" standard.endings (Ron.list? Ending.ofRon?)
  let endOnDepletedStat ←
    fields.withDefault "end_on_depleted_stat" standard.endOnDepletedStat Ron.boolean?
  return { tracked, trackedStart, initial, startScene, seed, dice, endings, endOnDepletedStat }

/-- Reads settings from their text. -/
def ofText (text : String) : Except SettingsTextError Settings :=
  match (Ron.parse? text).bind fun document => ofRon? document.implicit document.value with
  | none => .error .malformed
  | some settings =>
      match settings.validate with
      | .ok () => .ok settings
      | .error error => .error (.refused error)

end Settings

end BranchingStory
