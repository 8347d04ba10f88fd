import BranchingStory.Json.Reader
import BranchingStory.Json.Writer
import BranchingStory.Proofs.Rounding

/-!
# Numerals

A numeral that is written into a document reads back as itself.  A row of digits is read as far as
it goes, since what stands behind a number begins with no digit.  Whether the point stands behind
the digits, among them or before them, the row denotes the coefficient, with zeros that a layout may
have added behind it; normalizing takes these away again, and the place of the point gives the
exponent.
-/

namespace BranchingStory

/-! ## Rows of digits -/

/-- The text does not begin with a character of some kind. -/
def Stops (kind : Char → Bool) (text : List Char) : Prop :=
  ∀ head ∈ text.head?, kind head = false

theorem stops_cons {kind : Char → Bool} {head : Char} {tail : List Char}
    (hhead : kind head = false) : Stops kind (head :: tail) := by
  rintro other hother
  obtain rfl : head = other := Option.some.inj hother
  exact hhead

theorem takeWhile_append_of_stops {kind : Char → Bool} {row rest : List Char}
    (hrow : ∀ character ∈ row, kind character = true) (hrest : Stops kind rest) :
    (row ++ rest).takeWhile kind = row ∧ (row ++ rest).dropWhile kind = rest := by
  rw [List.takeWhile_append_of_pos hrow, List.dropWhile_append_of_pos hrow]
  cases rest with
  | nil => simp
  | cons head tail => simp [hrest head rfl]

namespace Decimal

/-- A row of digits with at least one of them. -/
structure IsRow (row : List Char) : Prop where
  nonempty : row ≠ []
  digits : ∀ character ∈ row, isDigit character = true

/-- A row of digits that stands before a point: a zero alone, or one that begins with another
digit. -/
structure IsWhole (row : List Char) : Prop extends IsRow row where
  leading : row = ['0'] ∨ row.head? ≠ some '0'

theorem isRow_digits (value : Nat) : IsRow (digits value) where
  nonempty := Nat.toDigits_ne_nil
  digits := fun _ hmem => Nat.isDigit_of_mem_toDigits (by decide) (by decide) hmem

theorem IsRow.append {row other : List Char} (hrow : IsRow row)
    (hother : ∀ character ∈ other, isDigit character = true) : IsRow (row ++ other) where
  nonempty := List.append_ne_nil_of_left_ne_nil hrow.nonempty other
  digits := fun character hmem => (List.mem_append.mp hmem).elim (hrow.digits character)
    (hother character)

theorem isDigit_of_mem_replicate {count : Nat} {character : Char}
    (hmem : character ∈ List.replicate count '0') : isDigit character = true := by
  rw [List.eq_of_mem_replicate hmem]
  decide

theorem head?_digits {value : Nat} (hvalue : value ≠ 0) : (digits value).head? ≠ some '0' := by
  induction value using Nat.strongRecOn with
  | ind value ih =>
      rw [digits, Nat.toDigits_eq_if (by decide)]
      split
      · next hsmall =>
          have hdigit : ∀ digit < 10, digit ≠ 0 → Nat.digitChar digit ≠ '0' := by decide
          simpa using hdigit value hsmall hvalue
      · next hlarge =>
          have hquotient := ih (value / 10) (by omega) (by omega)
          obtain ⟨head, tail, hrow⟩ :=
            List.exists_cons_of_ne_nil (Nat.toDigits_ne_nil (n := value / 10) (b := 10))
          rw [digits, hrow] at hquotient
          rwa [hrow]

theorem isWhole_digits (value : Nat) : IsWhole (digits value) where
  toIsRow := isRow_digits value
  leading := by
    by_cases hvalue : value = 0
    · exact .inl (hvalue ▸ Nat.toDigits_zero 10)
    · exact .inr (head?_digits hvalue)

theorem valueOfDigits_digits (value : Nat) : valueOfDigits (digits value) = value :=
  Nat.ofDigitChars_ten_toDigits

theorem valueOfDigits_append (row other : List Char) :
    valueOfDigits (row ++ other) = valueOfDigits row * 10 ^ other.length + valueOfDigits other := by
  have happend : valueOfDigits (row ++ other) = Nat.ofDigitChars 10 other (valueOfDigits row) :=
    Nat.ofDigitChars_append 0
  rw [happend, Nat.ofDigitChars_eq_ofDigitChars_zero, Nat.mul_comm]
  rfl

theorem valueOfDigits_replicate (count : Nat) : valueOfDigits (List.replicate count '0') = 0 :=
  Nat.ofDigitChars_replicate_zero.trans (Nat.mul_zero _)

/-- The zeros that were written behind a normal numeral are taken away again. -/
theorem IsNormal.normalize_padded {negative : Bool} {coefficient : Nat} {exponent : Int}
    (hnormal : IsNormal { negative, coefficient, exponent }) (count : Nat) :
    normalize { negative, coefficient := coefficient * 10 ^ count, exponent := exponent - count } =
      { negative, coefficient, exponent } := by
  by_cases hzero : coefficient = 0
  · have hexponent : exponent = 0 := hnormal.zero hzero
    simp [normalize, hzero, hexponent]
  · rw [normalize_mul_pow negative (hnormal.unpadded hzero), Int.sub_add_cancel]

/-- A row that shows the digits of a normal numeral and zeros behind them is read as the numeral. -/
theorem IsNormal.ofDigits_eq {negative : Bool} {coefficient : Nat} {exponent power : Int}
    (hnormal : IsNormal { negative, coefficient, exponent }) {whole fraction : List Char}
    {count : Nat} (hrow : valueOfDigits (whole ++ fraction) = coefficient * 10 ^ count)
    (hplace : power - fraction.length = exponent - count) :
    (ofDigits negative whole fraction power).normalize = { negative, coefficient, exponent } := by
  rw [ofDigits, hrow, hplace]
  exact hnormal.normalize_padded count

end Decimal

namespace Json

open Decimal

/-! ## Numbers -/

/-- What stands behind a value: nothing, a comma or a closing bracket. -/
def Closes (rest : List Char) : Prop :=
  ∀ head ∈ rest.head?, head = ',' ∨ head = ']' ∨ head = '\x7d'

theorem Closes.stops {rest : List Char} (hcloses : Closes rest) {kind : Char → Bool}
    (hkind : kind ',' = false ∧ kind ']' = false ∧ kind '\x7d' = false) : Stops kind rest := by
  intro head hhead
  rcases hcloses head hhead with rfl | rfl | rfl
  · exact hkind.1
  · exact hkind.2.1
  · exact hkind.2.2

section Numbers

variable {row whole fraction rest : List Char}

theorem readDigits_append (hrow : IsRow row) (hrest : Stops isDigit rest) :
    readDigits (row ++ rest) = some (row, rest) := by
  obtain ⟨htake, hdrop⟩ := takeWhile_append_of_stops hrow.digits hrest
  simp only [readDigits, htake, hdrop]
  rw [if_neg (by simpa using hrow.nonempty)]

theorem readWhole_append (hwhole : IsWhole whole) (hrest : Stops isDigit rest) :
    readWhole (whole ++ rest) = some (whole, rest) := by
  rcases hwhole.leading with rfl | hleading
  · rfl
  · rw [readWhole]
    · exact readDigits_append hwhole.toIsRow hrest
    · intro tail htext
      cases whole with
      | nil => exact hwhole.nonempty rfl
      | cons head others =>
          obtain ⟨rfl, -⟩ := List.cons_eq_cons.mp htext
          exact hleading rfl

theorem readFraction_append (hfraction : IsRow fraction) (hrest : Stops isDigit rest) :
    readFraction ('.' :: fraction ++ rest) = some (some fraction, rest) := by
  rw [List.cons_append, readFraction, readDigits_append hfraction hrest]
  rfl

theorem readFraction_of_stops (hrest : Stops (· = '.') rest) :
    readFraction rest = some (none, rest) := by
  rw [readFraction]
  rintro tail rfl
  simpa using hrest '.' rfl

theorem readExponent_of_stops (hrest : Stops (fun head => head = 'e' || head = 'E') rest) :
    readExponent rest = some (none, rest) := by
  rw [readExponent]
  · rintro tail rfl
    simpa using hrest 'e' rfl
  · rintro tail rfl
    simpa using hrest 'E' rfl

/-- The sign and the digits of a power of ten. -/
def powerText (power : Int) : List Char :=
  if power < 0 then '-' :: digits power.natAbs else '+' :: digits power.natAbs

theorem readPower_powerText (power : Int) (hrest : Stops isDigit rest) :
    readPower (powerText power ++ rest) = some (power, rest) := by
  have hdigits := readDigits_append (isRow_digits power.natAbs) hrest
  rw [powerText]
  split
  · next hnegative =>
      have hvalue : -(power.natAbs : Int) = power := by omega
      simp only [readPower, List.cons_append, hdigits, valueOfDigits_digits, hvalue,
        Option.bind_eq_bind, Option.bind_some, Option.pure_def]
  · next hpositive =>
      have hvalue : (power.natAbs : Int) = power := by omega
      simp only [readPower, List.cons_append, hdigits, valueOfDigits_digits, hvalue,
        Option.bind_eq_bind, Option.bind_some, Option.pure_def]

theorem readNumber_of_parts {negative : Bool} {text behindWhole behindFraction : List Char}
    {fraction : Option (List Char)} {power : Option Int}
    (hwhole : readWhole text = some (whole, behindWhole))
    (hfraction : readFraction behindWhole = some (fraction, behindFraction))
    (hpower : readExponent behindFraction = some (power, rest)) :
    readNumber negative text = some (ofParts negative whole fraction power, rest) := by
  simp only [readNumber, hwhole, hfraction, hpower, Option.pure_def, Option.bind_eq_bind,
    Option.bind_some]

theorem readNumber_integer (negative : Bool) (value : Nat) (hrest : Closes rest) :
    readNumber negative (digits value ++ rest) =
      some (ofParts negative (digits value) none none, rest) :=
  readNumber_of_parts (readWhole_append (isWhole_digits value) (hrest.stops (by decide)))
    (readFraction_of_stops (hrest.stops (by decide)))
    (readExponent_of_stops (hrest.stops (by decide)))

theorem readNumber_positional (negative : Bool) (hwhole : IsWhole whole)
    (hfraction : IsRow fraction) (hrest : Closes rest) :
    readNumber negative (whole ++ '.' :: fraction ++ rest) =
      some (decimal (Decimal.ofDigits negative whole fraction 0).normalize, rest) := by
  rw [List.append_assoc]
  exact readNumber_of_parts (readWhole_append hwhole (stops_cons (by decide)))
    (readFraction_append hfraction (hrest.stops (by decide)))
    (readExponent_of_stops (hrest.stops (by decide)))

theorem readNumber_scientific (negative : Bool) (hwhole : IsWhole whole) (power : Int)
    (hfraction : ∀ character ∈ fraction, isDigit character = true) (hrest : Closes rest) :
    readNumber negative (whole ++ ((if fraction = [] then [] else '.' :: fraction) ++
        ('e' :: powerText power ++ rest))) =
      some (decimal (Decimal.ofDigits negative whole fraction power).normalize, rest) := by
  have hpower : readExponent ('e' :: powerText power ++ rest) = some (some power, rest) := by
    rw [List.cons_append, readExponent, readPower_powerText power (hrest.stops (by decide))]
    rfl
  by_cases hnone : fraction = []
  · subst hnone
    rw [if_pos rfl, List.nil_append]
    exact readNumber_of_parts (readWhole_append hwhole (stops_cons (by decide)))
      (readFraction_of_stops (stops_cons (by decide))) hpower
  · rw [if_neg hnone]
    exact readNumber_of_parts (readWhole_append hwhole (stops_cons (by decide)))
      (readFraction_append ⟨hnone, hfraction⟩ (stops_cons (by decide))) hpower

/-- A number begins with a digit. -/
theorem exists_digit_of_readNumber {negative : Bool} {text : List Char} {result : Json × List Char}
    (hread : readNumber negative text = some result) :
    ∃ head tail, text = head :: tail ∧ isDigit head = true := by
  cases text with
  | nil => simp [readNumber, readWhole, readDigits] at hread
  | cons head tail =>
      refine ⟨head, tail, rfl, ?_⟩
      cases hhead : isDigit head with
      | true => rfl
      | false =>
          have hnone : readWhole (head :: tail) = none := by
            rw [readWhole]
            · simp [readDigits, hhead]
            · rintro rest hzero
              obtain ⟨rfl, -⟩ := List.cons_eq_cons.mp hzero
              cases hhead
          simp [readNumber, hnone] at hread

end Numbers

end Json

/-! ## Numerals of documents -/

namespace Layout

/-- The text of a numeral without its sign. -/
def unsignedText (layout : Layout) (numeral : Decimal) : List Char :=
  let leading := numeral.exponent + Decimal.digitCount numeral.coefficient - 1
  if layout.positional leading then
    layout.positionalText numeral.coefficient numeral.exponent
  else layout.scientificText numeral.coefficient leading

theorem text_eq (layout : Layout) (numeral : Decimal) :
    layout.text numeral =
      if numeral.negative then '-' :: layout.unsignedText numeral
      else layout.unsignedText numeral := rfl

section Document

open Decimal

variable {negative : Bool} {coefficient : Nat} {exponent : Int} {rest : List Char}

/-- A whole number is written with zeros up to its point. -/
theorem readNumber_whole (hnormal : IsNormal { negative, coefficient, exponent })
    (hwhole : 0 ≤ exponent) (hrest : Json.Closes rest) :
    Json.readNumber negative
        (digits coefficient ++ List.replicate exponent.toNat '0' ++ document.wholeEnding ++ rest) =
      some (.decimal { negative, coefficient, exponent }, rest) := by
  have hrow : IsWhole (digits coefficient ++ List.replicate exponent.toNat '0') := by
    refine ⟨(isRow_digits coefficient).append fun _ => isDigit_of_mem_replicate, ?_⟩
    by_cases hzero : coefficient = 0
    · have hexponent : exponent = 0 := hnormal.zero hzero
      simp [hzero, hexponent, digits]
    · have hleading := head?_digits hzero
      obtain ⟨head, tail, hdigits⟩ := List.exists_cons_of_ne_nil (isRow_digits coefficient).nonempty
      rw [hdigits] at hleading ⊢
      exact .inr hleading
  have hvalue : valueOfDigits ((digits coefficient ++ List.replicate exponent.toNat '0') ++ ['0']) =
      coefficient * 10 ^ (exponent.toNat + 1) := by
    rw [List.append_assoc, ← List.replicate_succ', valueOfDigits_append, valueOfDigits_digits,
      valueOfDigits_replicate, List.length_replicate, Nat.add_zero]
  have hplace : (0 : Int) - (['0'].length : Int) = exponent - (exponent.toNat + 1 : Nat) := by
    simp only [List.length_singleton]
    omega
  refine (Json.readNumber_positional negative hrow (isRow_digits 0) hrest).trans ?_
  rw [← hnormal.ofDigits_eq hvalue hplace]
  rfl

/-- A number whose point stands among its digits. -/
theorem readNumber_pointed (hnormal : IsNormal { negative, coefficient, exponent })
    (hcoefficient : coefficient ≠ 0) {before : Nat} (hbefore : 0 < before)
    (hplaces : (digits coefficient).length = before + (-exponent).toNat) (hexponent : exponent < 0)
    (hrest : Json.Closes rest) :
    Json.readNumber negative
        ((digits coefficient).take before ++ '.' :: (digits coefficient).drop before ++ rest) =
      some (.decimal { negative, coefficient, exponent }, rest) := by
  have hdigits := (isRow_digits coefficient).digits
  have hwhole : IsWhole ((digits coefficient).take before) := by
    refine ⟨⟨?_, fun character hmem => hdigits character (List.mem_of_mem_take hmem)⟩, .inr ?_⟩
    · rw [← List.length_pos_iff, List.length_take]
      omega
    · rw [List.head?_take, if_neg (Nat.ne_of_gt hbefore)]
      exact head?_digits hcoefficient
  have hfraction : IsRow ((digits coefficient).drop before) := by
    refine ⟨?_, fun character hmem => hdigits character (List.mem_of_mem_drop hmem)⟩
    rw [← List.length_pos_iff, List.length_drop]
    omega
  have hvalue : valueOfDigits ((digits coefficient).take before ++ (digits coefficient).drop before) =
      coefficient * 10 ^ 0 := by
    rw [List.take_append_drop, valueOfDigits_digits, Nat.pow_zero, Nat.mul_one]
  have hplace : (0 : Int) - ((digits coefficient).drop before).length = exponent - (0 : Nat) := by
    rw [List.length_drop]
    omega
  rw [Json.readNumber_positional negative hwhole hfraction hrest, hnormal.ofDigits_eq hvalue hplace]

/-- A number below one is written with zeros between its point and its digits. -/
theorem readNumber_small (hnormal : IsNormal { negative, coefficient, exponent })
    {zeros : Nat} (hzeros : (-exponent).toNat = zeros + (digits coefficient).length)
    (hexponent : exponent < 0) (hrest : Json.Closes rest) :
    Json.readNumber negative
        ('0' :: '.' :: (List.replicate zeros '0' ++ digits coefficient) ++ rest) =
      some (.decimal { negative, coefficient, exponent }, rest) := by
  have hfraction : IsRow (List.replicate zeros '0' ++ digits coefficient) := by
    refine ⟨List.append_ne_nil_of_right_ne_nil _ (isRow_digits coefficient).nonempty, ?_⟩
    intro character hmem
    rcases List.mem_append.mp hmem with hzero | hdigit
    · exact isDigit_of_mem_replicate hzero
    · exact (isRow_digits coefficient).digits character hdigit
  have hvalue : valueOfDigits (['0'] ++ (List.replicate zeros '0' ++ digits coefficient)) =
      coefficient * 10 ^ 0 := by
    rw [← List.append_assoc, valueOfDigits_append, valueOfDigits_digits]
    have hnothing : valueOfDigits (['0'] ++ List.replicate zeros '0') = 0 :=
      valueOfDigits_replicate (zeros + 1)
    rw [hnothing, Nat.zero_mul, Nat.zero_add, Nat.pow_zero, Nat.mul_one]
  have hplace : (0 : Int) - (List.replicate zeros '0' ++ digits coefficient).length =
      exponent - (0 : Nat) := by
    rw [List.length_append, List.length_replicate]
    omega
  refine (Json.readNumber_positional negative (isWhole_digits 0) hfraction hrest).trans ?_
  rw [← hnormal.ofDigits_eq hvalue hplace]
  rfl

theorem readNumber_positionalText (hnormal : IsNormal { negative, coefficient, exponent })
    (hrest : Json.Closes rest) :
    Json.readNumber negative (document.positionalText coefficient exponent ++ rest) =
      some (.decimal { negative, coefficient, exponent }, rest) := by
  simp only [positionalText]
  split
  · next hwhole => exact readNumber_whole hnormal hwhole hrest
  · next hfraction =>
      have hcoefficient : coefficient ≠ 0 := by
        intro hzero
        have hexponent : exponent = 0 := hnormal.zero hzero
        omega
      split
      · next hshort =>
          exact readNumber_pointed hnormal hcoefficient (by omega) (by omega) (by omega) hrest
      · next hlong => exact readNumber_small hnormal (by omega) (by omega) hrest

/-- A number far from one is written with its first digit before the point. -/
theorem readNumber_scientificText (hnormal : IsNormal { negative, coefficient, exponent })
    (hcoefficient : coefficient ≠ 0) (hrest : Json.Closes rest) :
    Json.readNumber negative
        (document.scientificText coefficient (exponent + digitCount coefficient - 1) ++ rest) =
      some (.decimal { negative, coefficient, exponent }, rest) := by
  have hrow := isRow_digits coefficient
  obtain ⟨head, others, hdigits⟩ := List.exists_cons_of_ne_nil hrow.nonempty
  have hleading := head?_digits hcoefficient
  have hcount : digitCount coefficient = others.length + 1 := congrArg List.length hdigits
  rw [hdigits] at hrow hleading
  have hwhole : IsWhole [head] := by
    refine ⟨⟨List.cons_ne_nil head [], fun character hmem => ?_⟩, .inr hleading⟩
    rw [List.mem_singleton.mp hmem]
    exact hrow.digits head List.mem_cons_self
  have hfraction : ∀ character ∈ others, isDigit character = true := fun character hmem =>
    hrow.digits character (List.mem_cons_of_mem head hmem)
  have hvalue : valueOfDigits ([head] ++ others) = coefficient * 10 ^ 0 := by
    rw [List.singleton_append, ← hdigits, valueOfDigits_digits, Nat.pow_zero, Nat.mul_one]
  have hplace : exponent + digitCount coefficient - 1 - others.length = exponent - (0 : Nat) := by
    omega
  have hread := Json.readNumber_scientific negative hwhole
    (exponent + digitCount coefficient - 1) hfraction hrest
  rw [hnormal.ofDigits_eq hvalue hplace] at hread
  rw [← hread, scientificText, hdigits, Json.powerText]
  congr 1
  cases others with
  | nil => rfl
  | cons second more => simp [document]

/-- A normal numeral reads back from its text without the sign. -/
theorem readNumber_unsignedText {numeral : Decimal} (hnormal : numeral.IsNormal)
    (hrest : Json.Closes rest) :
    Json.readNumber numeral.negative (document.unsignedText numeral ++ rest) =
      some (.decimal numeral, rest) := by
  rw [unsignedText]
  split
  · exact readNumber_positionalText hnormal hrest
  · next hfar =>
      refine readNumber_scientificText hnormal ?_ hrest
      intro hzero
      simp [hzero, hnormal.zero hzero, document, digitCount, digits] at hfar

end Document

end Layout

end BranchingStory
