import BranchingStory.Channel
import BranchingStory.Decimal.Layout

/-!
# The screen of the playtest shell

The screen is the text that was printed.  Handlers print the events on it that a player needs to
see; changes that leave a variable as it was are not shown.
-/

namespace BranchingStory.Playtest

/-- Lines, each with its end. -/
def printed (lines : List String) : String := String.join (lines.map (· ++ "\n"))

def severityWord : Severity → String
  | .warning => "Warning"
  | .fatal => "Fatal"

def reasonWord : EndReason → String
  | .scenarioComplete => "ScenarioComplete"
  | .referenceFailure => "ReferenceFailure"
  | .statDepleted => "StatDepleted"

def outcomeWord : DiceOutcome → String
  | .success => "success"
  | .failure => "failure"

def changeLine (change : Change) : String :=
  "  * " ++ change.name ++ " " ++ change.delta.displaySigned ++ " -> " ++ change.value.display

/-- The choices with their numbers, from `number` on. -/
def choiceLines (number : Nat) : List Choice → List String
  | [] => []
  | choice :: rest =>
      ("  " ++ toString number ++ ") " ++ choice.text) :: choiceLines (number + 1) rest

/-- The lines of a dialogue; one without choices invites to go on. -/
def dialogueLines (shown : DialogueShown) : List String :=
  let directions :=
    match shown.directions with
    | some directions => ["  (" ++ directions ++ ")"]
    | none => []
  directions ++ [shown.speaker ++ ": " ++ shown.text] ++
    if shown.choices.isEmpty then ["  [next]"] else []

/-- The lines that an event is printed as. -/
def linesOf : Event → List String
  | .sceneChanged scene => ["", "=== " ++ scene ++ " ==="]
  | .dialogueShow shown => dialogueLines shown
  | .choicesShow choices => choiceLines 1 choices
  | .variablesDelta changes =>
      (changes.filter fun change => !change.delta.equal 0).map changeLine
  | .diceRolled roll =>
      ["  * rolled " ++ toString roll.face.toNat ++ " on d" ++ toString roll.sides.toNat ++
        " (need " ++ toString roll.difficulty.toNat ++ "): " ++ outcomeWord roll.outcome]
  | .diagnostic report => ["  ! " ++ severityWord report.severity ++ ": " ++ report.message]
  | .playbackEnded reason =>
      ["", "--- The end (" ++ reasonWord reason ++ "). Type 'score' or 'reset'. ---"]
  | .variablesUpdated _ | .sceneComplete _ => []

/-- A channel that prints every event on the screen. -/
def channel : Channel String :=
  (Channel.subscribeAll {} fun event screen => (.handled, screen ++ printed (linesOf event))).2

end BranchingStory.Playtest
