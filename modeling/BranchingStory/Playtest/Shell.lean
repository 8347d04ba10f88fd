import BranchingStory.Director
import BranchingStory.Loading
import BranchingStory.Playtest.Arguments
import BranchingStory.Playtest.Screen
import BranchingStory.Text.Lowercase

/-!
# The playtest shell

The shell opens a story and then answers commands, one on each line.  What it prints depends only on
the files, the commands, the time of each command and the random source of playthroughs without a
seed.
-/

namespace BranchingStory.Playtest

/-! ## Opening -/

/-- What the shell has printed and complained about, and the director it goes on with unless it
exits. -/
structure Opening where
  output : String := ""
  complaint : Option String := none
  director : Option (Director String) := none

/-- The line about the seed. -/
def seedLine (seed : Option UInt64) : String :=
  match seed with
  | some seed => "Seed: " ++ toString seed.toNat
  | none => "Seed: random"

/-- Starts a loaded story. -/
def startStory (arguments : Arguments) (story : Story) (settings : Settings)
    (unseeded : Generator) : Opening :=
  let settings := { settings with startScene := arguments.startScene <|> settings.startScene }
  let greeting :=
    printed
      ["Loaded " ++ toString story.size ++ " scenes from " ++ arguments.story,
        seedLine (arguments.seed <|> settings.seed), "Type 'help' for commands.", ""]
  match Director.build story settings arguments.seed [] channel unseeded with
  | .error error =>
      { output := greeting, complaint := some ("Invalid configuration: " ++ error.message) }
  | .ok director =>
      match director.start greeting with
      | (.error error, _, output) =>
          { output, complaint := some ("Playback error: " ++ error.message) }
      | (.ok (), director, output) => { output, director := some director }

/-- Loads the files that the arguments name and starts the story. -/
def openStory (arguments : Arguments) (file : String → Option ByteArray) (unseeded : Generator) :
    Opening :=
  let refuse (path message : String) : Opening :=
    { complaint := some ("Error loading " ++ path ++ ": " ++ message) }
  match Story.ofFile (file arguments.story) with
  | .error error => refuse arguments.story error.message
  | .ok story =>
      match arguments.settings with
      | none => startStory arguments story {} unseeded
      | some path =>
          match Settings.ofFile (file path) with
          | .error error => refuse path error.message
          | .ok settings => startStory arguments story settings unseeded

/-! ## Commands -/

inductive Command where
  | quit
  | help
  | next
  | values
  | history
  | score
  | reset
  /-- Takes an offered choice; they are numbered from one. -/
  | choice (number : Nat)
  | unknown (written : String)
deriving DecidableEq

/-- The command that a lowercase word is. -/
def Command.ofWord (word : String) : Command :=
  match word with
  | "quit" | "exit" | "q" => quit
  | "help" | "h" | "?" => help
  | "next" | "n" => next
  | "vars" => values
  | "history" => history
  | "score" => score
  | "reset" => reset
  | word =>
      match number? word with
      | some (number + 1) => choice (number + 1)
      | _ => unknown word

/-- The command on a line; a blank line has none. -/
def Command.ofLine? (line : String) : Option Command :=
  let trimmed := Text.trim line
  if trimmed.isEmpty then none else some (ofWord (Text.lowercase trimmed))

def helpLines : List String :=
  [ "Commands:", "  <n>       — take the n-th offered choice",
    "  next      — continue past a line without choices",
    "  vars      — print current variable values",
    "  history   — print the choices taken so far",
    "  score     — print the current score and ending",
    "  reset     — start the playthrough over", "  help      — list commands",
    "  quit      — exit" ]

/-- A text filled with blanks at its end. -/
def padRight (width : Nat) (text : String) : String :=
  text ++ String.ofList (List.replicate (width - text.length) ' ')

/-- A text filled with blanks at its beginning. -/
def padLeft (width : Nat) (text : String) : String :=
  String.ofList (List.replicate (width - text.length) ' ') ++ text

def variableLines (store : Variables) : List String :=
  store.toList.map fun (name, value) => "  " ++ padRight 16 name ++ " " ++ value.display

/-- The lines of the choices taken, numbered from `number` on. -/
def takenLines (number : Nat) : List TakenChoice → List String
  | [] => []
  | taken :: rest =>
      let scene := taken.scene.getD "-"
      ("  " ++ padLeft 2 (toString number) ++ ". [" ++ scene ++ "] " ++ taken.choice.text ++ " (" ++
        String.ofList taken.time.clockText ++ ")") :: takenLines (number + 1) rest

def historyLines (history : List TakenChoice) : List String :=
  if history.isEmpty then ["  (no choices yet)"] else takenLines 1 history

def scoreLines (director : Director String) : List String :=
  let ending :=
    match director.ending? with
    | some ending =>
        ["Ending: " ++ ending.title ++ " [" ++ ending.grade ++ "]", "  " ++ ending.message]
    | none => []
  ("Score: " ++ director.score.display) :: ending

/-- What a command prints and complains about, and the director after it. -/
structure Turn where
  output : String := ""
  complaint : Option String := none
  director : Director String
  isOver : Bool := false

/-- The turn of a call to the director, with the lines for its value. -/
def Turn.ofAnswer {Value : Type} (lines : Value → List String) (answer : Answer String Value) :
    Turn :=
  let (result, director, output) := answer
  match result with
  | .ok value => { output := output ++ printed (lines value), director }
  | .error error =>
      { output, complaint := some ("Playback error: " ++ error.message), director }

/-- Performs a command. -/
def Command.perform (director : Director String) (time : Timestamp) (unseeded : Generator) :
    Command → Turn
  | quit => { output := printed ["Goodbye."], director, isOver := true }
  | help => { output := printed helpLines, director }
  | next => .ofAnswer (fun _ => []) (director.advance "")
  | values => { output := printed (variableLines director.store), director }
  | history => { output := printed (historyLines director.progress.history), director }
  | score => { output := printed (scoreLines director), director }
  | reset =>
      .ofAnswer (fun _ => []) ((director.reset unseeded).start (printed ["--- reset ---"]))
  | choice number =>
      let missing := "No choice " ++ toString number ++ " here."
      .ofAnswer (fun taken => if taken then [] else [missing])
        (director.choose time (number - 1) "")
  | unknown written =>
      { output := printed ["Unknown command: " ++ written ++ ". Type 'help' for commands."],
        director }

/-- Answers a line; a blank one changes nothing. -/
def respond (director : Director String) (time : Timestamp) (unseeded : Generator)
    (line : String) : Turn :=
  match Command.ofLine? line with
  | none => { director }
  | some command => command.perform director time unseeded

def prompt : String := "playtest> "

/-! ## A whole run -/

/-- Everything that a run of the shell leaves behind. -/
structure Transcript where
  output : String := ""
  errors : String := ""
  exitCode : Nat := 0
deriving DecidableEq

/-- The text of a complaint, on a line of its own. -/
def complaintText (complaint : Option String) : String :=
  match complaint with
  | some complaint => complaint ++ "\n"
  | none => ""

/-- The lines of an input with their ends; bytes that are no text have no line. -/
def linesOfInput (input : List UInt8) : List (Option String) :=
  let line := input.takeWhile (· ≠ 10)
  match h : input.dropWhile (· ≠ 10) with
  | [] => if line.isEmpty then [] else [String.fromUTF8? (ByteArray.mk line.toArray)]
  | last :: rest =>
      have : rest.length < input.length := by
        have hlength := (List.dropWhile_sublist (· ≠ (10 : UInt8)) (l := input)).length_le
        rw [h] at hlength
        exact Nat.lt_of_lt_of_le (Nat.lt_succ_self _) hlength
      String.fromUTF8? (ByteArray.mk (line ++ [last]).toArray) :: linesOfInput rest
termination_by input.length

/-- Answers lines until the shell is quit, the input ends, or a line is no text. -/
def converse (time : Timestamp) (unseeded : Generator) (director : Director String) :
    List (Option String) → Transcript
  | [] | none :: _ => { output := prompt }
  | some line :: rest =>
      let turn := respond director time unseeded line
      let later := if turn.isOver then {} else converse time unseeded turn.director rest
      { later with
        output := prompt ++ turn.output ++ later.output,
        errors := complaintText turn.complaint ++ later.errors }

/-- A run of the shell at one moment. -/
def transcript (arguments : List String) (file : String → Option ByteArray)
    (input : List UInt8) (time : Timestamp) (unseeded : Generator) : Transcript :=
  match Invocation.ofArguments arguments with
  | .help => { output := printed [usage] }
  | .refused error =>
      { output := if error.showsUsage then printed [usage] else "",
        errors := error.message ++ "\n", exitCode := 1 }
  | .play arguments =>
      let opening := openStory arguments file unseeded
      match opening.director with
      | none =>
          { output := opening.output, errors := complaintText opening.complaint, exitCode := 1 }
      | some director =>
          let later := converse time unseeded director (linesOfInput input)
          { later with output := opening.output ++ later.output }

end BranchingStory.Playtest
