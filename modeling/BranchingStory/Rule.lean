import BranchingStory.Binary64.Basic
import BranchingStory.Text.Blank

/-!
# Rules

The rule vocabulary that dialogues and choices share: conditions over variables, effects on them and
dice checks.  Both sets of operators are closed.  A name outside them is kept as it was written, so
that using it fails with that name instead of being taken for a gate that is shut.
-/

namespace BranchingStory

/-- How a condition compares a variable with its threshold. -/
inductive Comparison where
  | greater
  | greaterOrEqual
  | less
  | lessOrEqual
  | equal
  | notEqual
  | unrecognized (written : String)
deriving DecidableEq

namespace Comparison

def symbol : Comparison → String
  | greater => ">"
  | greaterOrEqual => ">="
  | less => "<"
  | lessOrEqual => "<="
  | equal => "=="
  | notEqual => "!="
  | unrecognized written => written

/-- Reads a symbol with blanks around it; any other text is kept whole. -/
def ofText (written : String) : Comparison :=
  match Text.trim written with
  | ">" => greater
  | ">=" => greaterOrEqual
  | "<" => less
  | "<=" => lessOrEqual
  | "==" => equal
  | "!=" => notEqual
  | _ => unrecognized written

def isRecognized : Comparison → Bool
  | unrecognized _ => false
  | _ => true

end Comparison

/-- A predicate over the variables. -/
structure Condition where
  name : String
  comparison : Comparison
  threshold : Binary64
deriving DecidableEq

/-- What an effect does to its variable. -/
inductive Operation where
  | set
  | add
  | multiply
  | random
  | unrecognized (written : String)
deriving DecidableEq

namespace Operation

def symbol : Operation → String
  | set => "set"
  | add => "add"
  | multiply => "multiply"
  | random => "random"
  | unrecognized written => written

/-- Reads a name with blanks around it; any other text is kept whole. -/
def ofText (written : String) : Operation :=
  match Text.trim written with
  | "set" => set
  | "add" => add
  | "multiply" => multiply
  | "random" => random
  | _ => unrecognized written

def isRecognized : Operation → Bool
  | unrecognized _ => false
  | _ => true

end Operation

/-- A change of one variable.  Assignments, sums and products take the operand; a random draw takes
the two bounds. -/
structure Effect where
  name : String
  operation : Operation
  operand : Option Binary64 := none
  least : Option Binary64 := none
  greatest : Option Binary64 := none
deriving DecidableEq

namespace Effect

def set (name : String) (value : Binary64) : Effect :=
  { name, operation := .set, operand := some value }

def add (name : String) (value : Binary64) : Effect :=
  { name, operation := .add, operand := some value }

def multiply (name : String) (value : Binary64) : Effect :=
  { name, operation := .multiply, operand := some value }

def random (name : String) (least greatest : Binary64) : Effect :=
  { name, operation := .random, least := some least, greatest := some greatest }

end Effect

/-- Where a choice leads: a dialogue of the current scene, another scene, or neither. -/
structure Target where
  scene : Option String := none
  dialogue : Option String := none
deriving DecidableEq

def Target.isEmpty (target : Target) : Bool := target.scene.isNone && target.dialogue.isNone

/-- A throw of a die attached to a choice.  Unset sides and difficulty come from the dice rules of
the playthrough; a set, non-empty branch replaces the target of the choice. -/
structure DiceCheck where
  stat : Option String := none
  difficulty : Option UInt32 := none
  sides : Option UInt32 := none
  success : Option Target := none
  failure : Option Target := none
deriving DecidableEq

end BranchingStory
