import BranchingStory.Binary64.Basic

/-!
# Variables

The variables of a playthrough are numbers by name.  A name that was never written reads as zero.
Plain assignment stores any number, while changes made by the rules are moved into the range from 0
to 100.  The entries are kept in the order of their names, so that two stores with the same answers
are the same store.
-/

namespace BranchingStory

/-- The least value a rule leaves in a variable. -/
def Variables.lowest : Binary64 := 0

/-- The greatest value a rule leaves in a variable. -/
def Variables.highest : Binary64 := 100

/-- Moves a number into the range that rules respect. -/
def Variables.clamp (value : Binary64) : Binary64 :=
  Binary64.clampTo Variables.lowest Variables.highest value

/-- Numbers by name, in the order of the names. -/
structure Variables where
  entries : List (String × Binary64)
  ordered : entries.Pairwise fun left right => left.1 < right.1
deriving DecidableEq

namespace Variables

def empty : Variables := { entries := [], ordered := .nil }

instance : Inhabited Variables := ⟨empty⟩

/-- Writes an entry at its place in the order, over an entry of the same name. -/
def insertEntry (name : String) (value : Binary64) :
    List (String × Binary64) → List (String × Binary64)
  | [] => [(name, value)]
  | (key, old) :: rest =>
      if name < key then (name, value) :: (key, old) :: rest
      else if name = key then (name, value) :: rest
      else (key, old) :: insertEntry name value rest

theorem mem_insertEntry {name : String} {value : Binary64} {entry : String × Binary64}
    {entries : List (String × Binary64)} (hmem : entry ∈ insertEntry name value entries) :
    entry = (name, value) ∨ entry ∈ entries := by
  induction entries with
  | nil => simpa [insertEntry] using hmem
  | cons head tail ih =>
      obtain ⟨key, old⟩ := head
      simp only [insertEntry] at hmem
      split at hmem
      · simpa using hmem
      · split at hmem
        · rcases List.mem_cons.mp hmem with heq | htail
          · exact .inl heq
          · exact .inr (List.mem_cons_of_mem _ htail)
        · rcases List.mem_cons.mp hmem with heq | htail
          · exact .inr (heq ▸ List.mem_cons_self)
          · rcases ih htail with heq | hold
            · exact .inl heq
            · exact .inr (List.mem_cons_of_mem _ hold)

theorem ordered_insertEntry (name : String) (value : Binary64)
    {entries : List (String × Binary64)}
    (hordered : entries.Pairwise fun left right => left.1 < right.1) :
    (insertEntry name value entries).Pairwise fun left right => left.1 < right.1 := by
  induction entries with
  | nil => simp [insertEntry]
  | cons head tail ih =>
      obtain ⟨key, old⟩ := head
      obtain ⟨hhead, htail⟩ := List.pairwise_cons.mp hordered
      simp only [insertEntry]
      split
      · rename_i hless
        refine List.pairwise_cons.mpr ⟨fun entry hentry => ?_, hordered⟩
        rcases List.mem_cons.mp hentry with heq | hrest
        · exact heq ▸ hless
        · exact String.lt_trans hless (hhead entry hrest)
      · split
        · rename_i hnot heq
          subst heq
          exact List.pairwise_cons.mpr ⟨hhead, htail⟩
        · rename_i hnot hne
          refine List.pairwise_cons.mpr ⟨fun entry hentry => ?_, ih htail⟩
          rcases mem_insertEntry hentry with heq | hold
          · subst heq
            rcases Decidable.em (key < name) with hless | hge
            · exact hless
            · exact absurd (String.le_antisymm hge hnot) hne
          · exact hhead entry hold

/-- The value of a name, if it was ever written. -/
def find? (store : Variables) (name : String) : Option Binary64 :=
  (store.entries.find? fun entry => entry.1 == name).map Prod.snd

/-- The value of a name; one that was never written is zero. -/
def get (store : Variables) (name : String) : Binary64 := (store.find? name).getD 0

def contains (store : Variables) (name : String) : Bool := (store.find? name).isSome

/-- Writes a value as it is. -/
def set (store : Variables) (name : String) (value : Binary64) : Variables :=
  { entries := insertEntry name value store.entries,
    ordered := ordered_insertEntry name value store.ordered }

/-- Writes the sum of the value and a change, moved into the range; also tells the new value. -/
def modify (store : Variables) (name : String) (change : Binary64) : Binary64 × Variables :=
  let value := clamp (store.get name + change)
  (value, store.set name value)

/-- The names and values in the order of the names. -/
def toList (store : Variables) : List (String × Binary64) := store.entries

/-- Writes entries one after the other. -/
def setAll (store : Variables) (entries : List (String × Binary64)) : Variables :=
  entries.foldl (fun written entry => written.set entry.1 entry.2) store

def ofList (entries : List (String × Binary64)) : Variables := empty.setAll entries

def size (store : Variables) : Nat := store.entries.length

def isEmpty (store : Variables) : Bool := store.entries.isEmpty

/-- Whether two stores have the same names with numerically equal values. -/
def agrees (left right : Variables) : Bool :=
  left.size == right.size &&
    (left.entries.zip right.entries).all fun (first, second) =>
      first.1 == second.1 && first.2.equal second.2

end Variables

end BranchingStory
