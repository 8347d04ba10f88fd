import BranchingStory.Director
import BranchingStory.Ron.Settings
import BranchingStory.Tour.Sample
import BranchingStory.Wire.Progress
import BranchingStory.Wire.Settings

/-!
# Sessions

A session plays a story for a presentation that asks instead of listening.  It keeps the events
until they are drained and answers with JSON texts.
-/

namespace BranchingStory

/-- Why no session was opened. -/
inductive SessionError where
  | story (error : StoryTextError)
  | settings (error : SettingsTextError)
  | refused (error : SettingsError)
deriving DecidableEq

structure Session where
  director : Director Recording
  /-- The events since the last drain. -/
  events : Recording := []

namespace Session

/-- A channel whose only handler keeps the events. -/
def channel : Channel Recording := Channel.record {} fun event recording => recording ++ [event]

/-- A session over a story.  `unseeded` is the random source of a session without a seed. -/
def ofStory (story : Story) (settings : Settings) (seed : Option UInt64) (unseeded : Generator) :
    Except SessionError Session :=
  match Director.build story settings seed [] channel unseeded with
  | .ok director => .ok { director }
  | .error error => .error (.refused error)

/-- A session over the texts of a story and of settings; the settings may be missing. -/
def ofTexts (story : String) (settings : Option String) (seed : Option UInt64)
    (unseeded : Generator) : Except SessionError Session := do
  let story ← (Story.ofText story).mapError .story
  let settings ←
    match settings with
    | some text => (Settings.ofText text).mapError .settings
    | none => .ok {}
  ofStory story settings seed unseeded

/-- A session over the city tour. -/
def demo (seed : Option UInt64) (unseeded : Generator) : Except SessionError Session :=
  ofStory Tour.story Tour.settings seed unseeded

/-- Performs a call of the director, keeping its events. -/
def perform {Value : Type} (call : Director Recording → Recording → Answer Recording Value)
    (session : Session) : Except PlaybackError Value × Session :=
  let (result, director, events) := call session.director session.events
  (result, { director, events })

def start (session : Session) : Except PlaybackError Unit × Session :=
  session.perform Director.start

def advance (session : Session) : Except PlaybackError Unit × Session :=
  session.perform Director.advance

def choose (session : Session) (time : Timestamp) (place : Nat) :
    Except PlaybackError Bool × Session :=
  session.perform fun director => director.choose time place

def loadScene (session : Session) (id : String) : Except PlaybackError Unit × Session :=
  session.perform fun director => director.loadScene id

/-- The events since the last drain, which are forgotten. -/
def drainEvents (session : Session) : String × Session :=
  (Json.render (.array (session.events.map Event.toJson)), { session with events := [] })

def values (session : Session) : String := session.director.store.toJson.render

def history (session : Session) : String :=
  Json.render (.array (session.director.progress.history.map TakenChoice.toJson))

def availableChoices (session : Session) : String :=
  Json.render (.array (session.director.cursor.offered.map Choice.toJson))

def currentDialogue (session : Session) : String :=
  (session.director.cursor.dialogue?.elim .null Dialogue.toJson : Json).render

def isEnded (session : Session) : Bool := session.director.isEnded

def score (session : Session) : Binary64 := session.director.score

def ending (session : Session) : String :=
  (session.director.ending?.elim .null Ending.toJson : Json).render

/-- Starts over and forgets the events. -/
def reset (session : Session) (unseeded : Generator) : Session :=
  { director := session.director.reset unseeded }

end Session

end BranchingStory
