import BranchingStory.Channel
import BranchingStory.Playthrough

/-!
# Directors

A director plays a story to an audience: it runs the steps of a playthrough and delivers their
events, in order, to the handlers of a channel.  Failures of handlers are kept until they are taken;
they have no influence on the playthrough.
-/

namespace BranchingStory

structure Director (World : Type) where
  script : Script
  playthrough : Playthrough
  audience : Audience World

/-- What a call of a director gives back. -/
abbrev Answer (World Value : Type) := Except PlaybackError Value × Director World × World

namespace Director

variable {World Value : Type}

/-- A director over a story.  A seed given here counts more than the one of the settings, and the
given variables count more than the starting values of the settings.  `unseeded` is the random
source of playthroughs without a seed. -/
def build (story : Story) (settings : Settings) (seed : Option UInt64)
    (store : List (String × Binary64)) (channel : Channel World) (unseeded : Generator) :
    Except SettingsError (Director World) :=
  let settings := { settings with seed := seed <|> settings.seed }
  match settings.validate with
  | .error error => .error error
  | .ok () =>
      let script : Script :=
        { story, settings, initial := settings.startingValues.setAll store }
      .ok { script, playthrough := script.fresh unseeded, audience := { channel } }

def cursor (director : Director World) : Cursor := director.playthrough.stage.cursor

def store (director : Director World) : Variables := director.playthrough.stage.store

def progress (director : Director World) : Progress := director.playthrough.progress

def isEnded (director : Director World) : Bool := director.progress.ended

def score (director : Director World) : Binary64 := director.playthrough.score director.script

def ending? (director : Director World) : Option Ending :=
  director.playthrough.ending? director.script

/-- Runs a step of the playthrough and delivers its events. -/
def perform (step : Playing Playthrough Value) (director : Director World) (world : World) :
    Answer World Value :=
  let reply := step.run director.playthrough
  let (audience, world) := director.audience.emitAll reply.events world
  (reply.result, { director with playthrough := reply.state, audience }, world)

def start (director : Director World) (world : World) : Answer World Unit :=
  director.perform (Playthrough.start director.script) world

def loadScene (director : Director World) (id : String) (world : World) : Answer World Unit :=
  director.perform (Playthrough.loadScene director.script id) world

def advance (director : Director World) (world : World) : Answer World Unit :=
  director.perform (Playthrough.advance director.script) world

def makeChoice (director : Director World) (time : Timestamp) (choice : Choice) (world : World) :
    Answer World Unit :=
  director.perform (Playthrough.makeChoice director.script time choice) world

def choose (director : Director World) (time : Timestamp) (place : Nat) (world : World) :
    Answer World Bool :=
  director.perform (Playthrough.choose director.script time place) world

/-- One round without a player: takes the offered choice at a place, or else moves on. -/
def playRound (director : Director World) (time : Timestamp) (place : Nat) (world : World) :
    Answer World Unit :=
  match director.choose time place world with
  | (.error error, director, world) => (.error error, director, world)
  | (.ok true, director, world) => (.ok (), director, world)
  | (.ok false, director, world) => director.advance world

/-- Plays at most `limit` rounds without a player, until the playthrough has ended; tells how many
rounds were played. -/
def autoplay (time : Timestamp) (place : Nat) :
    Nat → Director World → World → Answer World Nat
  | 0, director, world => (.ok 0, director, world)
  | limit + 1, director, world =>
      if director.isEnded then (.ok 0, director, world)
      else
        match director.playRound time place world with
        | (.error error, director, world) => (.error error, director, world)
        | (.ok (), director, world) =>
            let (rounds, director, world) := autoplay time place limit director world
            (rounds.map (· + 1), director, world)

/-- Starts over: no scene, no history, the initial variables and, with a seed, the same draws again.
Subscriptions stay and failures are forgotten. -/
def reset (director : Director World) (unseeded : Generator) : Director World :=
  { director with
    playthrough := director.script.fresh unseeded,
    audience := { channel := director.audience.channel } }

/-- Changes the channel, to subscribe handlers or to end subscriptions. -/
def withChannel (director : Director World) (channel : Channel World) : Director World :=
  { director with audience := { director.audience with channel } }

end Director

end BranchingStory
