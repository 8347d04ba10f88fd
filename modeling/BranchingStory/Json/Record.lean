import BranchingStory.Json.Basic

/-!
# Records in JSON

A record is an object whose members are its fields, or an array of the fields in the order of their
declaration.  Members with unknown keys are skipped and a repeated field is refused.  In an array,
only fields that have a default may be missing at the end, and nothing may follow the last one.
-/

namespace BranchingStory.Json

/-- A declared field; one with a default may be missing at the end of an array. -/
structure Field where
  name : String
  hasDefault : Bool := false

/-- The fields of a record that are there. -/
abbrev Fields := List (String × Json)

/-- Whether no key occurs twice. -/
def distinctKeys : Fields → Bool
  | [] => true
  | (key, _) :: rest => (rest.all fun member => member.1 != key) && distinctKeys rest

/-- The declared fields that a value has. -/
def fields? (declared : List Field) : Json → Option Fields
  | object members =>
      let known := members.filter fun member => declared.any fun field => field.name == member.1
      if distinctKeys known then some known else none
  | array items =>
      if items.length ≤ declared.length && (declared.drop items.length).all Field.hasDefault then
        some ((declared.map Field.name).zip items)
      else none
  | _ => none

namespace Fields

variable {Value : Type}

def get? (fields : Fields) (name : String) : Option Json :=
  (fields.find? fun member => member.1 == name).map Prod.snd

/-- A field that must be there. -/
def required (fields : Fields) (name : String) (read : Json → Option Value) : Option Value :=
  (fields.get? name).bind read

/-- A field that may be missing or null. -/
def optional (fields : Fields) (name : String) (read : Json → Option Value) :
    Option (Option Value) :=
  match fields.get? name with
  | some json => nullable? read json
  | none => some none

/-- A field with a value for when it is missing. -/
def withDefault (fields : Fields) (name : String) (default : Value)
    (read : Json → Option Value) : Option Value :=
  match fields.get? name with
  | some json => read json
  | none => some default

end Fields

/-- The name of a variant without content: a string, or an object that gives it a null.  In a stored
value an empty object is no content either. -/
def variant? (stored : Bool) : Json → Option String
  | string name => some name
  | object [(name, null)] => some name
  | object [(name, object [])] => if stored then some name else none
  | _ => none

/-- A value by the name of a variant. -/
def variantOf? {Value : Type} (stored : Bool) (values : List (String × Value)) (json : Json) :
    Option Value := do
  let name ← json.variant? stored
  (values.find? fun value => value.1 == name).map Prod.snd

end BranchingStory.Json
