import BranchingStory.Effect
import BranchingStory.Story

/-!
# Events

Playback tells the presentation everything through events.  Each event has a kind, by which
handlers choose what they receive, and every kind has one name.
-/

namespace BranchingStory

inductive EventKind where
  | dialogueShow
  | choicesShow
  | variablesDelta
  | variablesUpdated
  | sceneComplete
  | sceneChanged
  | diceRolled
  | diagnostic
  | playbackEnded
deriving DecidableEq

def EventKind.name : EventKind → String
  | dialogueShow => "dialogue:show"
  | choicesShow => "choices:show"
  | variablesDelta => "variables:delta"
  | variablesUpdated => "variables:updated"
  | sceneComplete => "scene:complete"
  | sceneChanged => "scene:changed"
  | diceRolled => "dice:rolled"
  | diagnostic => "playback:diagnostic"
  | playbackEnded => "playback:ended"

/-- A dialogue on screen; only the choices whose gates are open are listed. -/
structure DialogueShown where
  scene : String
  dialogue : Option String
  speaker : String
  text : String
  directions : Option String
  choices : List Choice
deriving DecidableEq

inductive DiceOutcome where
  | success
  | failure
deriving DecidableEq

structure DiceRoll where
  face : UInt32
  sides : UInt32
  difficulty : UInt32
  outcome : DiceOutcome
  stat : Option String
deriving DecidableEq

/-- A choice pointed at content that does not exist. -/
inductive ReferenceError where
  | missingScene (scene : String)
  | missingDialogue (scene dialogue : String)
deriving DecidableEq

def ReferenceError.message : ReferenceError → String
  | missingScene scene => "scene not found: " ++ scene
  | missingDialogue scene dialogue => "dialogue " ++ dialogue ++ " not found in scene " ++ scene

inductive Severity where
  /-- Playback went on with the next dialogue. -/
  | warning
  /-- Playback ended. -/
  | fatal
deriving DecidableEq

structure Diagnostic where
  severity : Severity
  error : ReferenceError
  message : String
deriving DecidableEq

def Diagnostic.ofError (severity : Severity) (error : ReferenceError) : Diagnostic :=
  { severity, error, message := error.message }

inductive EndReason where
  | scenarioComplete
  | referenceFailure
  | statDepleted
deriving DecidableEq

inductive Event where
  | dialogueShow (shown : DialogueShown)
  | choicesShow (choices : List Choice)
  | variablesDelta (changes : List Change)
  | variablesUpdated (snapshot : Variables)
  | sceneComplete (scene : String)
  | sceneChanged (scene : String)
  | diceRolled (roll : DiceRoll)
  | diagnostic (diagnostic : Diagnostic)
  | playbackEnded (reason : EndReason)
deriving DecidableEq

namespace Event

def kind : Event → EventKind
  | dialogueShow _ => .dialogueShow
  | choicesShow _ => .choicesShow
  | variablesDelta _ => .variablesDelta
  | variablesUpdated _ => .variablesUpdated
  | sceneComplete _ => .sceneComplete
  | sceneChanged _ => .sceneChanged
  | diceRolled _ => .diceRolled
  | diagnostic _ => .diagnostic
  | playbackEnded _ => .playbackEnded

def name (event : Event) : String := event.kind.name

end Event

end BranchingStory
