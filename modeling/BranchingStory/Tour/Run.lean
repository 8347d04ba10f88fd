import BranchingStory.Decimal.Layout
import BranchingStory.Director
import BranchingStory.Tour.Sample

/-!
# The city tour on its own

The tour is played without a player, by always taking the first choice, and prints what happens.
-/

namespace BranchingStory.Tour

/-- The seed of the tour. -/
def seed : UInt64 := 2026

def outcomeWord : DiceOutcome → String
  | .success => "Success"
  | .failure => "Failure"

def changeLine (change : Change) : String :=
  "    " ++ change.name ++ " " ++ change.delta.displaySigned ++ " -> " ++ change.value.display

/-- The lines that an event is printed as. -/
def linesOf : Event → List String
  | .sceneChanged scene => ["", "=== " ++ scene ++ " ==="]
  | .dialogueShow shown => [shown.speaker ++ ": " ++ shown.text]
  | .choicesShow choices => choices.map fun choice => "    - " ++ choice.text
  | .variablesDelta changes => changes.map changeLine
  | .diceRolled roll =>
      ["    rolled " ++ toString roll.face.toNat ++ " (needed " ++
        toString roll.difficulty.toNat ++ "): " ++ outcomeWord roll.outcome]
  | .diagnostic report => ["    ! " ++ report.message]
  | .variablesUpdated _ | .sceneComplete _ | .playbackEnded _ => []

/-- A channel whose only handler prints the lines of every event. -/
def channel : Channel (List String) :=
  (Channel.subscribeAll {} fun event lines => (.handled, lines ++ linesOf event)).2

/-- The lines after the last event. -/
def summary (director : Director (List String)) : List String :=
  let ending :=
    match director.ending? with
    | some ending => [ending.title ++ " [" ++ ending.grade ++ "]: " ++ ending.message]
    | none => []
  ["", "--- Tour complete ---",
    "Choices taken: " ++ toString director.progress.history.length,
    "Final score: " ++ director.score.display] ++ ending

/-- How many rounds a tour takes at most. -/
def roundLimit : Nat := 100

/-- All lines of a tour. -/
def lines (time : Timestamp) : List String :=
  match Director.build story settings (some seed) [] channel (.ofSeed seed) with
  | .error error => [error.message]
  | .ok director =>
      let (_, director, lines) := director.start []
      let (_, director, lines) := Director.autoplay time 0 roundLimit director lines
      lines ++ summary director

end BranchingStory.Tour
