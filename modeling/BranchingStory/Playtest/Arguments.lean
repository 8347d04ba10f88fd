import BranchingStory.Decimal.Basic

/-!
# Arguments of the playtest shell

The shell takes the file of a story and, optionally, a file of settings, a seed and a scene to start
with.  Arguments are judged from the first to the last, and of an argument given twice the last one
counts.
-/

namespace BranchingStory.Playtest

structure Arguments where
  story : String
  settings : Option String := none
  seed : Option UInt64 := none
  startScene : Option String := none
deriving DecidableEq

/-- Why arguments are refused. -/
inductive ArgumentError where
  | invalidSeed (written : String)
  | unknown (argument : String)
  | noStory
deriving DecidableEq

def ArgumentError.message : ArgumentError → String
  | invalidSeed written => "Invalid seed: " ++ written
  | unknown argument => "Unknown argument: " ++ argument
  | noStory => "--scenario is required"

/-- Whether the usage is shown along with the error. -/
def ArgumentError.showsUsage : ArgumentError → Bool
  | invalidSeed _ => false
  | unknown _ | noStory => true

def usage : String :=
  "Usage: playtest --scenario <file.json> [--config <file.ron>] [--seed <n>] [--start <scene>]"

/-- What the shell is asked to do. -/
inductive Invocation where
  | help
  | refused (error : ArgumentError)
  | play (arguments : Arguments)
deriving DecidableEq

/-- A whole number below `2 ^ 64`: digits, which a plus sign may precede. -/
def number? (written : String) : Option Nat :=
  let row :=
    match written.toList with
    | '+' :: row => row
    | row => row
  if row.isEmpty ∨ !row.all Decimal.isDigit then none
  else
    let value := Decimal.valueOfDigits row
    if value < UInt64.size then some value else none

/-- The arguments read so far; the story may still be missing. -/
structure Draft where
  story : Option String := none
  settings : Option String := none
  seed : Option UInt64 := none
  startScene : Option String := none

/-- Reads arguments on top of those read before. -/
def Draft.read (known : Draft) : List String → Except ArgumentError Draft
  | [] => .ok known
  | "--scenario" :: value :: rest => { known with story := some value }.read rest
  | "--config" :: value :: rest => { known with settings := some value }.read rest
  | "--seed" :: value :: rest =>
      match number? value with
      | some seed => { known with seed := some (UInt64.ofNat seed) }.read rest
      | none => .error (.invalidSeed value)
  | "--start" :: value :: rest => { known with startScene := some value }.read rest
  | argument :: _ => .error (.unknown argument)

/-- What a list of arguments asks for.  Help is given when it is asked for first, or when nothing is
asked for. -/
def Invocation.ofArguments (arguments : List String) : Invocation :=
  match arguments with
  | [] | "--help" :: _ | "-h" :: _ => .help
  | arguments =>
      match Draft.read {} arguments with
      | .error error => .refused error
      | .ok { story := none, .. } => .refused .noStory
      | .ok { story := some story, settings, seed, startScene } =>
          .play { story, settings, seed, startScene }

end BranchingStory.Playtest
