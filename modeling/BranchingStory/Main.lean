import BranchingStory.Playtest.Shell
import Std.Time.DateTime.Timestamp

/-!
# The playtest command

Runs the playtest shell on the terminal, with the clock and the randomness of the system.
-/

namespace BranchingStory.Playtest

/-- The present moment. -/
def readClock : IO Timestamp := do
  let now ← Std.Time.Timestamp.now
  let nanoseconds := now.toNanosecondsSinceUnixEpoch.val
  return { seconds := nanoseconds / 1000000000, nanoseconds := (nanoseconds % 1000000000).toNat }

/-- A random source that nobody chose. -/
def readEntropy : IO Generator := do
  let bytes ← IO.getRandomBytes 8
  return .ofSeed (UInt64.ofNat (bytes.toList.foldl (fun seed byte => 256 * seed + byte.toNat) 0))

/-- The bytes of a file, if it can be read. -/
def readFile (path : String) : IO (Option ByteArray) :=
  try return some (← IO.FS.readBinFile path) catch _ => return none

/-- The bytes of a line with its end. -/
partial def readLine (input : IO.FS.Stream) (line : ByteArray) : IO ByteArray := do
  let bytes ← input.read 1
  let line := line ++ bytes
  if bytes.isEmpty || bytes.toList.contains 10 then return line else readLine input line

def complain (complaint : Option String) : IO Unit :=
  match complaint with
  | some complaint => IO.eprintln complaint
  | none => pure ()

/-- Answers the lines of the input until the shell is over. -/
partial def runShell (director : Director String) : IO Unit := do
  IO.print prompt
  (← IO.getStdout).flush
  let bytes ← readLine (← IO.getStdin) .empty
  match String.fromUTF8? bytes with
  | none | some "" => pure ()
  | some line =>
      let turn := respond director (← readClock) (← readEntropy) line
      IO.print turn.output
      complain turn.complaint
      if turn.isOver then pure () else runShell turn.director

def runStory (arguments : Arguments) : IO UInt32 := do
  let story ← readFile arguments.story
  let settings ← (arguments.settings.mapM readFile)
  let file := fun path => if path = arguments.story then story else settings.join
  let opening := openStory arguments file (← readEntropy)
  IO.print opening.output
  complain opening.complaint
  match opening.director with
  | none => return 1
  | some director =>
      runShell director
      return 0

end BranchingStory.Playtest

open BranchingStory.Playtest in
def main (arguments : List String) : IO UInt32 :=
  match Invocation.ofArguments arguments with
  | .help => do
      IO.println usage
      return 0
  | .refused error => do
      complain (some error.message)
      if error.showsUsage then IO.println usage
      return 1
  | .play arguments => runStory arguments
