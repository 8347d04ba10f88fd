import BranchingStory.Random.Generator
import BranchingStory.Rule
import BranchingStory.Variables

/-!
# Effects

Effects change variables.  Each successful effect reports the change it made.  Whether an effect can
be applied depends on the effect alone: `Effect.defect?` names what is wrong with it, before and
regardless of the store and the generator.
-/

namespace BranchingStory

/-- Why an effect cannot be applied. -/
inductive EffectError where
  | unknownOperation (name written : String)
  | missingOperand (name operation : String)
  | emptyRange (name : String) (least greatest : Int)
deriving DecidableEq

def EffectError.message : EffectError → String
  | unknownOperation name written => "unknown effect operation '" ++ written ++ "' on " ++ name
  | missingOperand name operation => "effect '" ++ operation ++ "' on " ++ name ++ " has no value"
  | emptyRange name least greatest =>
      "random effect on " ++ name ++ " has an empty range [" ++ toString least ++ ", " ++
        toString greatest ++ "]"

/-- One change of a variable: the new value, and the new value minus the old one. -/
structure Change where
  name : String
  operation : Operation
  delta : Binary64
  value : Binary64
deriving DecidableEq

namespace Effect

/-- The operand of an assignment, a sum or a product; it must be finite. -/
def finiteOperand (effect : Effect) : Except EffectError Binary64 :=
  match effect.operand with
  | some value =>
      if value.isFinite then .ok value
      else .error (.missingOperand effect.name effect.operation.symbol)
  | none => .error (.missingOperand effect.name effect.operation.symbol)

/-- The integers between which a random effect draws; unset bounds are those of the range. -/
def bounds (effect : Effect) : Except EffectError (Int × Int) :=
  let least := (effect.least.getD Variables.lowest).ceilInt64
  let greatest := (effect.greatest.getD Variables.highest).floorInt64
  if greatest < least then .error (.emptyRange effect.name least greatest)
  else .ok (least, greatest)

/-- What keeps an effect from being applied. -/
def defect? (effect : Effect) : Option EffectError :=
  match effect.operation with
  | .set | .add | .multiply =>
      match effect.finiteOperand with
      | .ok _ => none
      | .error error => some error
  | .random =>
      match effect.bounds with
      | .ok _ => none
      | .error error => some error
  | .unrecognized written => some (.unknownOperation effect.name written)

/-- The first defect of a list of effects, as an error. -/
def validate : List Effect → Except EffectError Unit
  | [] => .ok ()
  | effect :: rest =>
      match effect.defect? with
      | some error => .error error
      | none => validate rest

/-- The new value of the variable, and the generator after a draw. -/
def newValue (effect : Effect) (store : Variables) (generator : Generator) :
    Except EffectError (Binary64 × Generator) :=
  match effect.operation with
  | .set => do
      let operand ← effect.finiteOperand
      return (Variables.clamp operand, generator)
  | .add => do
      let operand ← effect.finiteOperand
      return ((store.modify effect.name operand).1, generator)
  | .multiply => do
      let operand ← effect.finiteOperand
      return (Variables.clamp (store.get effect.name * operand).roundToWhole, generator)
  | .random => do
      let (least, greatest) ← effect.bounds
      let (drawn, generator) := generator.between least greatest
      return (Variables.clamp (Binary64.ofInt drawn), generator)
  | .unrecognized written => .error (.unknownOperation effect.name written)

/-- What applying effects leaves behind. -/
structure Outcome (Report : Type) where
  report : Report
  store : Variables
  generator : Generator

/-- Applies one effect and reports the change. -/
def apply (effect : Effect) (store : Variables) (generator : Generator) :
    Except EffectError (Outcome Change) := do
  let before := store.get effect.name
  let (value, generator) ← effect.newValue store generator
  let report : Change :=
    { name := effect.name, operation := effect.operation, delta := value - before, value }
  return { report, store := store.set effect.name value, generator }

/-- Applies effects from the first to the last and reports their changes in this order. -/
def applyInOrder : List Effect → Variables → Generator →
    Except EffectError (Outcome (List Change))
  | [], store, generator => .ok { report := [], store, generator }
  | effect :: rest, store, generator => do
      let first ← effect.apply store generator
      let others ← applyInOrder rest first.store first.generator
      return { others with report := first.report :: others.report }

/-- Applies effects one by one and reports the result of each; one that fails changes nothing. -/
def applyEach : List Effect → Variables → Generator → Outcome (List (Except EffectError Change))
  | [], store, generator => { report := [], store, generator }
  | effect :: rest, store, generator =>
      match effect.apply store generator with
      | .ok first =>
          let others := applyEach rest first.store first.generator
          { others with report := .ok first.report :: others.report }
      | .error error =>
          let others := applyEach rest store generator
          { others with report := .error error :: others.report }

/-- Applies a list of effects as a whole: a defect of any of them is reported before the first one
is applied. -/
def applyAll (effects : List Effect) (store : Variables) (generator : Generator) :
    Except EffectError (Outcome (List Change)) := do
  validate effects
  applyInOrder effects store generator

end Effect

end BranchingStory
