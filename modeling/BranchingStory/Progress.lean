import BranchingStory.Event
import BranchingStory.Timestamp

/-!
# Progress

Where a playthrough stands, and which choices the player took along the way.
-/

namespace BranchingStory

/-- A choice that was taken, with the scene and the dialogue it was taken in. -/
structure TakenChoice where
  scene : Option String
  dialogue : Option Dialogue
  choice : Choice
  time : Timestamp
deriving DecidableEq

structure Progress where
  scene : Option String := none
  dialogueIndex : Nat := 0
  dialogueId : Option String := none
  ended : Bool := false
  endReason : Option EndReason := none
  /-- The choices taken so far, in order. -/
  history : List TakenChoice := []
deriving DecidableEq

namespace Progress

def record (progress : Progress) (taken : TakenChoice) : Progress :=
  { progress with history := progress.history ++ [taken] }

/-- Marks the playthrough as ended; only the first reason counts. -/
def finish (progress : Progress) (reason : EndReason) : Progress :=
  if progress.ended then progress
  else { progress with ended := true, endReason := some reason }

end Progress

end BranchingStory
