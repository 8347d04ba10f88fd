import BranchingStory.Ron.Settings
import BranchingStory.Wire.Story

/-!
# Loading files

Stories and settings are kept in text files.  A file that does not exist and a file whose bytes are
not UTF-8 are both unreadable.
-/

namespace BranchingStory

/-- The text of a file, if there is a file and it holds text. -/
def textOfFile? (contents : Option ByteArray) : Option String := contents.bind String.fromUTF8?

/-- Why no story was loaded. -/
inductive StoryLoadError where
  | unreadable
  | text (error : StoryTextError)
deriving DecidableEq

def StoryLoadError.message : StoryLoadError → String
  | unreadable => "IO error: the file cannot be read as text"
  | text .malformed => "JSON error: the text is not a story document"
  | text (.ambiguous error) => error.message

/-- Loads a story from the bytes of its file. -/
def Story.ofFile (contents : Option ByteArray) : Except StoryLoadError Story :=
  match textOfFile? contents with
  | none => .error .unreadable
  | some text => (ofText text).mapError .text

/-- Why no settings were loaded. -/
inductive SettingsLoadError where
  | unreadable
  | text (error : SettingsTextError)
deriving DecidableEq

def SettingsLoadError.message : SettingsLoadError → String
  | unreadable => "IO error: the file cannot be read as text"
  | text .malformed => "RON error: the text is not a settings document"
  | text (.refused error) => error.message

/-- Loads settings from the bytes of their file. -/
def Settings.ofFile (contents : Option ByteArray) : Except SettingsLoadError Settings :=
  match textOfFile? contents with
  | none => .error .unreadable
  | some text => (ofText text).mapError .text

end BranchingStory
