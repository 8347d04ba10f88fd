import BranchingStory.Rule
import BranchingStory.Variables

/-!
# Gates

A gate is a list of conditions that must all hold.  Before any comparison is made the whole list is
checked for operators outside the known set, so a malformed condition is reported even behind one
that is false.
-/

namespace BranchingStory

/-- Why a gate cannot be judged. -/
inductive GateError where
  | unknownOperator (name written : String)
deriving DecidableEq

def GateError.message : GateError → String
  | unknownOperator name written =>
      "unknown comparison operator '" ++ written ++ "' in condition on " ++ name

namespace Condition

/-- Whether a condition holds; only a known operator can be judged. -/
def check (store : Variables) (condition : Condition) : Except GateError Bool :=
  let current := store.get condition.name
  match condition.comparison with
  | .greater => .ok (condition.threshold.less current)
  | .greaterOrEqual => .ok (condition.threshold.atMost current)
  | .less => .ok (current.less condition.threshold)
  | .lessOrEqual => .ok (current.atMost condition.threshold)
  | .equal => .ok (current.equal condition.threshold)
  | .notEqual => .ok (!current.equal condition.threshold)
  | .unrecognized written => .error (.unknownOperator condition.name written)

end Condition

namespace Gate

/-- The first condition with an unknown operator, as an error. -/
def validate : List Condition → Except GateError Unit
  | [] => .ok ()
  | condition :: rest =>
      match condition.comparison with
      | .unrecognized written => .error (.unknownOperator condition.name written)
      | _ => validate rest

/-- Whether all conditions hold, from the first to the last. -/
def allHold (store : Variables) : List Condition → Except GateError Bool
  | [] => .ok true
  | condition :: rest =>
      match condition.check store with
      | .ok true => allHold store rest
      | judged => judged

/-- Whether a gate is open: its operators are all known and its conditions all hold. -/
def isOpen (store : Variables) (conditions : List Condition) : Except GateError Bool :=
  match validate conditions with
  | .ok () => allHold store conditions
  | .error error => .error error

end Gate

end BranchingStory
