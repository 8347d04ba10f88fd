import BranchingStory.Proofs.Numerals

/-!
# Spelling

What is written of a JSON value reads back as the value.  A string ends at its first bare quote and
a list at its bracket, and a written value begins neither with a blank nor with a closing bracket,
so that each part is read as far as it was written, whatever stands behind it.  A value takes at
least as many characters as levels, which the length of the text leaves room for.
-/

namespace BranchingStory

namespace Json

/-! ## Strings -/

theorem hexUnit?_hexDigit :
    ∀ code < 0x20, hexUnit? '0' '0' (hexDigit (code / 16)) (hexDigit code) = some code := by
  decide

/-- A character that is written as it is. -/
theorem readUnits_cons {character : Char} (hquote : character ≠ '"') (hescape : character ≠ '\\')
    (hprinted : ¬ character.toNat < 0x20) (rest : List Char) :
    readUnits (character :: rest) =
      (readUnits rest).map fun read => (character.toNat :: read.1, read.2) := by
  rw [readUnits]
  · simp only [hprinted, hescape, decide_false, Bool.or_self, Bool.false_eq_true, if_false]
    cases readUnits rest <;> rfl
  · exact hquote
  · intros
    simp_all
  · intros
    simp_all

theorem readUnits_escape {letter character : Char} (hescaped : escaped? letter = some character)
    (rest : List Char) :
    readUnits ('\\' :: letter :: rest) =
      (readUnits rest).map fun read => (character.toNat :: read.1, read.2) := by
  rw [readUnits]
  · simp only [hescaped]
    cases readUnits rest <;> rfl
  · rintro a b c d e rfl
    cases hescaped

theorem readUnits_writeCharacter (character : Char) (rest : List Char) :
    readUnits (writeCharacter character ++ rest) =
      (readUnits rest).map fun read => (character.toNat :: read.1, read.2) := by
  rw [writeCharacter]
  split
  · next hquote =>
      rw [hquote]
      exact readUnits_escape rfl rest
  split
  · next hescape =>
      rw [hescape]
      exact readUnits_escape rfl rest
  split
  · next hback =>
      rw [hback]
      exact readUnits_escape rfl rest
  split
  · next hfeed =>
      rw [hfeed]
      exact readUnits_escape rfl rest
  split
  · next hline =>
      rw [hline]
      exact readUnits_escape rfl rest
  split
  · next hreturn =>
      rw [hreturn]
      exact readUnits_escape rfl rest
  split
  · next htab =>
      rw [htab]
      exact readUnits_escape rfl rest
  split
  · next hcontrol =>
      have hunit := hexUnit?_hexDigit character.toNat hcontrol
      simp only [List.cons_append, List.nil_append, readUnits, hunit]
      cases readUnits rest <;> rfl
  · exact readUnits_cons ‹_› ‹_› ‹_› rest

theorem readUnits_flatMap (characters rest : List Char) :
    readUnits (characters.flatMap writeCharacter ++ '"' :: rest) =
      some (characters.map Char.toNat, rest) := by
  induction characters with
  | nil => rfl
  | cons character others ih =>
      rw [List.flatMap_cons, List.append_assoc, readUnits_writeCharacter, ih]
      rfl

/-- A character is no surrogate. -/
theorem not_isSurrogate (character : Char) :
    isHighSurrogate character.toNat = false ∧ isLowSurrogate character.toNat = false := by
  have hvalid : character.toNat < 0xd800 ∨ 0xdfff < character.toNat ∧ character.toNat < 0x110000 :=
    character.valid
  simp only [isHighSurrogate, isLowSurrogate, Bool.and_eq_false_iff, decide_eq_false_iff_not]
  omega

theorem charactersOf?_toNat (characters : List Char) :
    charactersOf? (characters.map Char.toNat) = some characters := by
  induction characters with
  | nil => rfl
  | cons character others ih =>
      obtain ⟨hhigh, hlow⟩ := not_isSurrogate character
      cases others with
      | nil => simp [charactersOf?, hhigh, hlow, Char.ofNat_toNat]
      | cons next rest =>
          rw [List.map_cons] at ih
          simp only [List.map_cons, charactersOf?, hhigh, hlow, ih, Bool.false_and, Bool.or_self,
            Bool.false_eq_true, if_false, Option.map_some, Char.ofNat_toNat]

/-- The text of a string behind its opening quote, with what stands behind the string. -/
def stringBody (value : String) (rest : List Char) : List Char :=
  value.toList.flatMap writeCharacter ++ '"' :: rest

theorem writeString_append (value : String) (rest : List Char) :
    writeString value ++ rest = '"' :: stringBody value rest := by
  rw [writeString, List.append_assoc]
  rfl

/-- The text of a string reads back up to its closing quote. -/
theorem readString_stringBody (value : String) (rest : List Char) :
    readString (stringBody value rest) = some (some value, rest) := by
  simp [readString, stringBody, readUnits_flatMap, charactersOf?_toNat]

/-! ## Values -/

/-- The values that are written so that they read back: no text lacks characters, and numerals are
in their normal form. -/
inductive IsWritable : Json → Prop where
  | null : IsWritable null
  | boolean (value : Bool) : IsWritable (boolean value)
  | integer (value : Int) : IsWritable (integer value)
  | decimal (value : Decimal) (hnormal : value.IsNormal) : IsWritable (decimal value)
  | string (value : String) : IsWritable (string value)
  | array (items : List Json) (hitems : ∀ item ∈ items, IsWritable item) : IsWritable (array items)
  | object (members : List (String × Json)) (hmembers : ∀ member ∈ members, IsWritable member.2) :
      IsWritable (object members)

/-- A text with a value at its start: no blank and no closing bracket. -/
def StartsValue (text : List Char) : Prop :=
  ∃ head tail, text = head :: tail ∧ isBlank head = false ∧ head ≠ ']'

/-- The written form of a value begins like a value and reads back, whatever it stands before. -/
structure IsSpelled (json : Json) : Prop where
  starts : StartsValue json.write
  reads : ∀ fuel rest, json.write.length ≤ fuel → Closes rest →
    readValue fuel (json.write ++ rest) = some (json, rest)

theorem StartsValue.append {text : List Char} (hstarts : StartsValue text) (rest : List Char) :
    StartsValue (text ++ rest) := by
  obtain ⟨head, tail, rfl, hhead⟩ := hstarts
  exact ⟨head, tail ++ rest, rfl, hhead⟩

theorem skipBlanks_cons {head : Char} (hhead : isBlank head = false) (tail : List Char) :
    skipBlanks (head :: tail) = head :: tail := by
  rw [skipBlanks, List.dropWhile_cons_of_neg (by simp [hhead])]

theorem StartsValue.skipBlanks_eq {text : List Char} (hstarts : StartsValue text) :
    skipBlanks text = text := by
  obtain ⟨head, tail, rfl, hblank, -⟩ := hstarts
  exact skipBlanks_cons hblank tail

theorem notBlank_of_digit {head : Char} (hdigit : Decimal.isDigit head = true) :
    isBlank head = false ∧ head ≠ ']' := by
  constructor
  · cases hblank : isBlank head with
    | false => rfl
    | true =>
        simp only [isBlank, Bool.or_eq_true, decide_eq_true_eq] at hblank
        rcases hblank with ((rfl | rfl) | rfl) | rfl <;> cases hdigit
  · rintro rfl
    cases hdigit

/-! ## Reading what begins in some way -/

section Beginnings

variable {fuel : Nat} {rest : List Char}

theorem readValue_digit {head : Char} (hdigit : Decimal.isDigit head = true) (fuel : Nat)
    (tail : List Char) : readValue (fuel + 1) (head :: tail) = readNumber false (head :: tail) := by
  rw [readValue]
  all_goals
    rintro rest htext
    obtain ⟨rfl, -⟩ := List.cons_eq_cons.mp htext
    cases hdigit

theorem readValue_array {text : List Char} {items : List Json} (hstarts : StartsValue text)
    (hitems : readItems fuel text = some (items, rest)) :
    readValue (fuel + 1) ('[' :: text) = some (array items, rest) := by
  rw [readValue, hstarts.skipBlanks_eq]
  obtain ⟨head, tail, rfl, -, hbracket⟩ := hstarts
  split
  · next htext => exact absurd (List.cons_eq_cons.mp htext).1 hbracket
  · simp [hitems]

theorem readValue_object {text : List Char} {members : List (Option String × Json)}
    (hmembers : readMembers fuel ('"' :: text) = some (members, rest)) :
    readValue (fuel + 1) ('\x7b' :: '"' :: text) = some (ofReadMembers members, rest) := by
  rw [readValue, skipBlanks_cons (by decide)]
  simp [hmembers]

theorem readItems_last {text : List Char} {item : Json}
    (hitem : readValue fuel text = some (item, ']' :: rest)) :
    readItems (fuel + 1) text = some ([item], rest) := by
  simp [readItems, hitem, skipBlanks_cons (by decide : isBlank ']' = false)]

theorem readItems_more {text more : List Char} {item : Json} {items : List Json}
    (hitem : readValue fuel text = some (item, ',' :: more)) (hmore : StartsValue more)
    (hitems : readItems fuel more = some (items, rest)) :
    readItems (fuel + 1) text = some (item :: items, rest) := by
  simp [readItems, hitem, skipBlanks_cons (by decide : isBlank ',' = false), hmore.skipBlanks_eq,
    hitems]

theorem readMembers_last {key text : List Char} {name : String} {value : Json}
    (hkey : readString key = some (some name, ':' :: text)) (htext : StartsValue text)
    (hvalue : readValue fuel text = some (value, '\x7d' :: rest)) :
    readMembers (fuel + 1) ('"' :: key) = some ([(some name, value)], rest) := by
  simp [readMembers, hkey, skipBlanks_cons (by decide : isBlank ':' = false), htext.skipBlanks_eq,
    hvalue, skipBlanks_cons (by decide : isBlank '\x7d' = false)]

theorem readMembers_more {key text more : List Char} {name : String} {value : Json}
    {members : List (Option String × Json)}
    (hkey : readString key = some (some name, ':' :: text)) (htext : StartsValue text)
    (hvalue : readValue fuel text = some (value, ',' :: more)) (hmore : StartsValue more)
    (hmembers : readMembers fuel more = some (members, rest)) :
    readMembers (fuel + 1) ('"' :: key) = some ((some name, value) :: members, rest) := by
  simp [readMembers, hkey, skipBlanks_cons (by decide : isBlank ':' = false), htext.skipBlanks_eq,
    hvalue, skipBlanks_cons (by decide : isBlank ',' = false), hmore.skipBlanks_eq, hmembers]

end Beginnings

/-! ## Every value -/

section Lists

variable {rest : List Char}

theorem closes_cons {head : Char} (hhead : head = ',' ∨ head = ']' ∨ head = '\x7d')
    (tail : List Char) : Closes (head :: tail) := by
  rintro other hother
  obtain rfl : head = other := Option.some.inj hother
  exact hhead

theorem startsValue_writeItems {item : Json} (hitem : item.IsSpelled) (others : List Json) :
    StartsValue (writeItems (item :: others)) := by
  cases others with
  | nil => exact hitem.starts.append _
  | cons next more => exact hitem.starts.append _

theorem readItems_writeItems {item : Json} {others : List Json}
    (hitems : ∀ each ∈ item :: others, IsSpelled each) {fuel : Nat}
    (hfuel : (writeItems (item :: others)).length ≤ fuel) :
    readItems fuel (writeItems (item :: others) ++ rest) = some (item :: others, rest) := by
  have hitem := hitems item List.mem_cons_self
  induction others generalizing item fuel with
  | nil =>
      simp only [writeItems, List.length_append, List.length_singleton] at hfuel
      obtain ⟨fuel, rfl⟩ := Nat.exists_eq_add_of_le' (Nat.le_trans (Nat.le_add_left 1 _) hfuel)
      rw [writeItems, List.append_assoc]
      exact readItems_last
        (hitem.reads fuel (']' :: rest) (by omega) (closes_cons (by decide) rest))
  | cons next more ih =>
      have hmore : ∀ each ∈ next :: more, IsSpelled each := fun each hmem =>
        hitems each (List.mem_cons_of_mem item hmem)
      have hnext := hmore next List.mem_cons_self
      simp only [writeItems, List.length_append, List.length_cons] at hfuel
      obtain ⟨fuel, rfl⟩ := Nat.exists_eq_add_of_le' (by omega : 1 ≤ fuel)
      rw [writeItems, List.append_assoc]
      exact readItems_more
        (hitem.reads fuel _ (by omega) (closes_cons (by decide) _))
        ((startsValue_writeItems hnext more).append rest) (ih hmore (by omega) hnext)

/-- Members with the keys that were read. -/
def keyed (members : List (String × Json)) : List (Option String × Json) :=
  members.map fun member => (some member.1, member.2)

theorem ofReadMembers_keyed (members : List (String × Json)) :
    ofReadMembers (keyed members) = object members := by
  have hkeys : (keyed members).mapM (fun read => read.1.map fun key => (key, read.2)) =
      some members := by
    induction members with
    | nil => rfl
    | cons member others ih =>
        rw [keyed, List.map_cons, List.mapM_cons]
        simp only [keyed] at ih
        simp [ih]
  rw [ofReadMembers]
  split
  · next read hread =>
      obtain rfl := Option.some.inj (hkeys.symm.trans hread)
      rfl
  · next hread => cases hkeys.symm.trans hread

theorem readMembers_writeMembers {member : String × Json} {others : List (String × Json)}
    (hmembers : ∀ each ∈ member :: others, IsSpelled each.2) {fuel : Nat}
    (hfuel : (writeMembers (member :: others)).length ≤ fuel) (rest : List Char) :
    ∃ text, writeMembers (member :: others) ++ rest = '"' :: text ∧
      readMembers fuel ('"' :: text) = some (keyed (member :: others), rest) := by
  obtain ⟨key, value⟩ := member
  have hvalue : value.IsSpelled := hmembers (key, value) List.mem_cons_self
  induction others generalizing key value fuel with
  | nil =>
      simp only [writeMembers, List.length_append, List.length_cons, List.length_nil] at hfuel
      obtain ⟨fuel, rfl⟩ := Nat.exists_eq_add_of_le' (by omega : 1 ≤ fuel)
      refine ⟨stringBody key (':' :: (value.write ++ '\x7d' :: rest)), ?_, ?_⟩
      · rw [← writeString_append]
        simp [writeMembers]
      · exact readMembers_last (readString_stringBody key _) (hvalue.starts.append _)
          (hvalue.reads fuel _ (by omega) (closes_cons (by decide) rest))
  | cons next more ih =>
      obtain ⟨nextKey, nextValue⟩ := next
      have hmore : ∀ each ∈ (nextKey, nextValue) :: more, IsSpelled each.2 := fun each hmem =>
        hmembers each (List.mem_cons_of_mem _ hmem)
      have hnext : nextValue.IsSpelled := hmore (nextKey, nextValue) List.mem_cons_self
      simp only [writeMembers, List.length_append, List.length_cons] at hfuel
      obtain ⟨fuel, rfl⟩ := Nat.exists_eq_add_of_le' (by omega : 1 ≤ fuel)
      obtain ⟨behind, hbehind, hrest⟩ :=
        ih nextKey nextValue hmore (by omega : _ ≤ fuel) hnext
      refine ⟨stringBody key (':' :: (value.write ++ ',' :: '"' :: behind)), ?_, ?_⟩
      · rw [← writeString_append, ← hbehind]
        simp [writeMembers]
      · exact readMembers_more (readString_stringBody key _) (hvalue.starts.append _)
          (hvalue.reads fuel _ (by omega) (closes_cons (by decide) _))
          ⟨'"', behind, rfl, by decide, by decide⟩ hrest

end Lists

/-- A value whose written form is read from its first character on. -/
theorem isSpelled_of_head {json : Json} {head : Char} {tail : List Char}
    (hwrite : json.write = head :: tail) (hhead : isBlank head = false ∧ head ≠ ']')
    (hread : ∀ fuel rest, tail.length ≤ fuel → Closes rest →
      readValue (fuel + 1) (head :: (tail ++ rest)) = some (json, rest)) : json.IsSpelled := by
  refine ⟨⟨head, tail, hwrite, hhead⟩, fun fuel rest hfuel hcloses => ?_⟩
  rw [hwrite] at hfuel ⊢
  cases fuel with
  | zero => exact absurd hfuel (Nat.not_succ_le_zero _)
  | succ fuel => exact hread fuel rest (Nat.le_of_succ_le_succ hfuel) hcloses

theorem isSpelled_number {value : Json} {negative : Bool} {text : List Char}
    (hwrite : value.write = if negative then '-' :: text else text)
    (hread : ∀ rest, Closes rest → readNumber negative (text ++ rest) = some (value, rest)) :
    value.IsSpelled := by
  cases negative with
  | true =>
      exact isSpelled_of_head hwrite (by decide) fun fuel rest _ hcloses => hread rest hcloses
  | false =>
      have hnothing := hread [] (by simp [Closes])
      rw [List.append_nil] at hnothing
      obtain ⟨head, tail, rfl, hdigit⟩ := exists_digit_of_readNumber hnothing
      refine isSpelled_of_head hwrite (notBlank_of_digit hdigit) fun fuel rest _ hcloses => ?_
      rw [readValue_digit hdigit]
      exact hread rest hcloses

theorem ofParts_digits (value : Int) :
    ofParts (decide (value < 0)) (Decimal.digits value.natAbs) none none = integer value := by
  have hsigned : (!(decide (value < 0) && decide (value.natAbs = 0))) = true := by
    simp only [Bool.not_eq_true', Bool.and_eq_false_iff, decide_eq_false_iff_not]
    omega
  have hvalue : (if value < 0 then -(value.natAbs : Int) else value.natAbs) = value := by
    split <;> omega
  simp only [ofParts, Decimal.valueOfDigits_digits, Option.isNone_none, hsigned, Bool.and_self,
    if_true, decide_eq_true_eq, hvalue]

theorem isSpelled_integer (value : Int) : (integer value).IsSpelled := by
  have hwrite : (integer value).write =
      if decide (value < 0) then '-' :: Decimal.digits value.natAbs
      else Decimal.digits value.natAbs := by
    simp [write, writeInteger]
  refine isSpelled_number hwrite fun rest hcloses => ?_
  rw [readNumber_integer _ _ hcloses, ofParts_digits]

theorem isSpelled_decimal {value : Decimal} (hnormal : value.IsNormal) :
    (decimal value).IsSpelled :=
  isSpelled_number (Layout.text_eq Layout.document value) fun _ hcloses =>
    Layout.readNumber_unsignedText hnormal hcloses

theorem isSpelled_string (value : String) : (string value).IsSpelled := by
  have hwrite : (string value).write = '"' :: stringBody value [] := by
    rw [write, ← writeString_append, List.append_nil]
  refine isSpelled_of_head hwrite (by decide) fun fuel rest _ _ => ?_
  have hbody : stringBody value [] ++ rest = stringBody value rest := by
    rw [stringBody, List.append_assoc]
    rfl
  rw [hbody, readValue, readString_stringBody]
  rfl

theorem isSpelled_array {items : List Json} (hitems : ∀ item ∈ items, IsSpelled item) :
    (array items).IsSpelled := by
  refine isSpelled_of_head rfl (by decide) fun fuel rest hfuel _ => ?_
  cases items with
  | nil => rfl
  | cons item others =>
      exact readValue_array
        ((startsValue_writeItems (hitems item List.mem_cons_self) others).append rest)
        (readItems_writeItems hitems hfuel)

theorem isSpelled_object {members : List (String × Json)}
    (hmembers : ∀ member ∈ members, IsSpelled member.2) : (object members).IsSpelled := by
  refine isSpelled_of_head rfl (by decide) fun fuel rest hfuel _ => ?_
  cases members with
  | nil => rfl
  | cons member others =>
      obtain ⟨text, htext, hread⟩ := readMembers_writeMembers hmembers hfuel rest
      rw [htext, readValue_object hread, ofReadMembers_keyed]

theorem IsWritable.isSpelled {json : Json} (hwritable : json.IsWritable) : json.IsSpelled := by
  induction hwritable with
  | null => exact isSpelled_of_head rfl (by decide) fun _ _ _ _ => rfl
  | boolean value =>
      cases value with
      | true => exact isSpelled_of_head rfl (by decide) fun _ _ _ _ => rfl
      | false => exact isSpelled_of_head rfl (by decide) fun _ _ _ _ => rfl
  | integer value => exact isSpelled_integer value
  | decimal value hnormal => exact isSpelled_decimal hnormal
  | string value => exact isSpelled_string value
  | array items hitems ih => exact isSpelled_array ih
  | object members hmembers ih => exact isSpelled_object ih

/-- A document is read as the value that it was written from. -/
theorem IsWritable.parse?_render {json : Json} (hwritable : json.IsWritable) :
    parse? json.render = some json := by
  obtain ⟨hstarts, hreads⟩ := hwritable.isSpelled
  have hread := hreads (json.write.length + 1) [] (Nat.le_succ _) (by simp [Closes])
  rw [List.append_nil] at hread
  have hend : skipBlanks [] = [] := rfl
  simp only [parse?, render, String.toList_ofList, hstarts.skipBlanks_eq, hread, hend,
    List.isEmpty_nil, if_true, Option.bind_eq_bind, Option.bind_some]

end Json

end BranchingStory
