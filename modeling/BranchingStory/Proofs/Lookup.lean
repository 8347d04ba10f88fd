import BranchingStory.Settings

/-!
# Looking variables up

What a name reads after writes is the last value that was written to it, or else what it read
before.  The names of a store occur once, so that writing the entries of one store over another
leaves the value of the first where it has one.  Where a variable starts follows from that.
-/

namespace BranchingStory

namespace Variables

theorem lookup_cons_eq {Value : Type} (key name : String) (value : Value)
    (rest : List (String × Value)) :
    ((key, value) :: rest).lookup name = if name = key then some value else rest.lookup name := by
  by_cases hname : name = key
  · subst hname
    rw [List.lookup_cons_self, if_pos rfl]
  · simp [List.lookup_cons, beq_false_of_ne hname, hname]

/-- Reading a store is looking its entries up. -/
theorem find?_eq_lookup (store : Variables) (name : String) :
    store.find? name = store.toList.lookup name := by
  rw [find?, toList]
  induction store.entries with
  | nil => rfl
  | cons head tail ih =>
      rw [lookup_cons_eq, ← ih]
      by_cases hname : name = head.1
      · simp [hname]
      · simp [Ne.symm hname, hname]

theorem lookup_insertEntry (name other : String) (value : Binary64)
    (entries : List (String × Binary64)) :
    (insertEntry name value entries).lookup other =
      if other = name then some value else entries.lookup other := by
  induction entries with
  | nil => exact lookup_cons_eq name other value []
  | cons head tail ih =>
      obtain ⟨key, old⟩ := head
      rw [insertEntry]
      split
      · exact lookup_cons_eq name other value _
      · split
        · next heq =>
            subst heq
            rw [lookup_cons_eq, lookup_cons_eq]
            by_cases hother : other = name
            · rw [if_pos hother, if_pos hother]
            · rw [if_neg hother, if_neg hother, if_neg hother]
        · next hne =>
            rw [lookup_cons_eq, lookup_cons_eq, ih]
            by_cases hother : other = key
            · -- The entry in front is not the one that is written.
              have hkept : other ≠ name := fun hname => hne (hname.symm.trans hother)
              rw [if_pos hother, if_neg hkept, if_pos hother]
            · rw [if_neg hother, if_neg hother]

/-- Writing changes what its name reads, and nothing else. -/
theorem find?_set (store : Variables) (name other : String) (value : Binary64) :
    (store.set name value).find? other =
      if other = name then some value else store.find? other := by
  rw [find?_eq_lookup, find?_eq_lookup]
  exact lookup_insertEntry name other value store.entries

theorem get_set (store : Variables) (name other : String) (value : Binary64) :
    (store.set name value).get other = if other = name then value else store.get other := by
  rw [get, find?_set, get]
  split <;> rfl

/-- After many writes a name reads the last value that was written to it. -/
theorem find?_setAll (store : Variables) (entries : List (String × Binary64)) (name : String) :
    (store.setAll entries).find? name = (entries.reverse.lookup name).or (store.find? name) := by
  rw [setAll]
  induction entries generalizing store with
  | nil => rfl
  | cons entry rest ih =>
      rw [List.foldl_cons, ih, find?_set, List.reverse_cons, List.lookup_append, lookup_cons_eq,
        List.lookup_nil, Option.or_assoc]
      split <;> rfl

/-- The entry of a name is the last one as well as the first, for there is no other. -/
theorem lookup_reverse_of_ordered {entries : List (String × Binary64)}
    (hordered : entries.Pairwise fun left right => left.1 < right.1) (name : String) :
    entries.reverse.lookup name = entries.lookup name := by
  induction entries with
  | nil => rfl
  | cons head tail ih =>
      obtain ⟨key, value⟩ := head
      obtain ⟨hhead, htail⟩ := List.pairwise_cons.mp hordered
      rw [List.reverse_cons, List.lookup_append, ih htail, lookup_cons_eq, lookup_cons_eq,
        List.lookup_nil]
      by_cases hname : name = key
      · have hmissing : tail.lookup name = none := by
          apply List.lookup_eq_none_iff.mpr
          intro entry hmem
          have hless := hhead entry hmem
          have hne : name ≠ entry.1 := by
            intro heq
            rw [← heq, hname] at hless
            exact String.lt_irrefl key hless
          exact bne_iff_ne.mpr hne
        rw [hmissing, if_pos hname, Option.none_or]
      · rw [if_neg hname, if_neg hname, Option.or_none]

/-- Every entry of a store is what its name reads, for no other entry has the name. -/
theorem lookup_of_mem {entries : List (String × Binary64)}
    (hordered : entries.Pairwise fun left right => left.1 < right.1) {entry : String × Binary64}
    (hmem : entry ∈ entries) : entries.lookup entry.1 = some entry.2 := by
  induction entries with
  | nil => cases hmem
  | cons head tail ih =>
      obtain ⟨hhead, htail⟩ := List.pairwise_cons.mp hordered
      rw [lookup_cons_eq]
      rcases List.mem_cons.mp hmem with rfl | hlater
      · rw [if_pos rfl]
      · have hother : entry.1 ≠ head.1 := by
          intro hname
          exact String.lt_irrefl entry.1 (hname ▸ hhead entry hlater)
        rw [if_neg hother]
        exact ih htail hlater

/-- Where a store that is written over another one has a value, that one counts. -/
theorem find?_setAll_toList (store other : Variables) (name : String) :
    (store.setAll other.toList).find? name = (other.find? name).or (store.find? name) := by
  rw [find?_setAll, find?_eq_lookup other]
  congr 1
  exact lookup_reverse_of_ordered other.ordered name

theorem lookup_map_const (names : List String) (value : Binary64) (name : String) :
    (names.map fun name => (name, value)).lookup name =
      if name ∈ names then some value else none := by
  induction names with
  | nil => rfl
  | cons head tail ih =>
      rw [List.map_cons, lookup_cons_eq, ih]
      by_cases hhead : name = head
      · simp [hhead]
      · simp [hhead]

/-- Where many names are given one value, each of them reads it and no other name reads any. -/
theorem find?_ofList_map_const (names : List String) (value : Binary64) (name : String) :
    (ofList (names.map fun name => (name, value))).find? name =
      if name ∈ names then some value else none := by
  have hempty : empty.find? name = none := rfl
  rw [ofList, find?_setAll, hempty, Option.or_none, ← List.map_reverse, lookup_map_const]
  simp only [List.mem_reverse]

end Variables

/-- A variable starts with its initial value, or else at the common start if it is tracked. -/
theorem Settings.find?_startingValues (settings : Settings) (name : String) :
    settings.startingValues.find? name =
      (settings.initial.find? name).or
        (if name ∈ settings.tracked then some settings.trackedStart else none) := by
  simp only [startingValues]
  rw [Variables.find?_setAll_toList, Variables.find?_ofList_map_const]

end BranchingStory
