import Mathlib.Algebra.Group.Nat.Defs
import BranchingStory.Decimal.Shortest

/-!
# Rounding

The rounded magnitude of a quotient depends on the value of the quotient alone.  A magnitude that a
double can have is its own rounding, a quotient below a half unit rounds to zero, and rounding does
not cross a power of two.  With these facts the shortest numeral of a double reads back to the
double: the search for it takes nothing that does not, and numerals so far from one that they are
settled by the place of their first digit are not among its results.
-/

namespace BranchingStory

namespace Binary64

/-! ## The nearest whole number -/

theorem roundHalfEven_scale (numerator denominator : Nat) {factor : Nat} (hfactor : 0 < factor) :
    roundHalfEven (numerator * factor) (denominator * factor) =
      roundHalfEven numerator denominator := by
  have hless : 2 * (numerator % denominator * factor) < denominator * factor ↔
      2 * (numerator % denominator) < denominator := by
    rw [← Nat.mul_assoc]
    exact Nat.mul_lt_mul_right hfactor
  have hequal : 2 * (numerator % denominator * factor) = denominator * factor ↔
      2 * (numerator % denominator) = denominator := by
    rw [← Nat.mul_assoc]
    exact Nat.mul_left_inj (Nat.ne_of_gt hfactor)
  simp only [roundHalfEven, Nat.mul_div_mul_right _ _ hfactor, Nat.mul_mod_mul_right, hless, hequal]

theorem roundHalfEven_of_dvd {numerator denominator : Nat} (hpos : 0 < denominator)
    (hdvd : denominator ∣ numerator) :
    roundHalfEven numerator denominator = numerator / denominator := by
  simp [roundHalfEven, Nat.mod_eq_zero_of_dvd hdvd, hpos]

theorem div_le_roundHalfEven (numerator denominator : Nat) :
    numerator / denominator ≤ roundHalfEven numerator denominator := by
  simp only [roundHalfEven]
  split <;> omega

/-- A number that lies more than half a gap below a multiple of the gap is not rounded up to it. -/
theorem roundHalfEven_lt {numerator half count : Nat} (hhalf : 0 < half)
    (hshort : numerator + half < count * (2 * half)) :
    roundHalfEven numerator (2 * half) < count := by
  have hparts := Nat.div_add_mod numerator (2 * half)
  simp only [roundHalfEven]
  split
  · exact (Nat.div_lt_iff_lt_mul (by omega)).mpr (by omega)
  · next hup =>
      have hremainder : half ≤ numerator % (2 * half) := by omega
      apply Nat.lt_of_mul_lt_mul_right
      calc
        (numerator / (2 * half) + 1) * (2 * half)
            = 2 * half * (numerator / (2 * half)) + 2 * half := by
          rw [Nat.add_mul, Nat.one_mul, Nat.mul_comm]
        _ ≤ numerator + half := by omega
        _ < count * (2 * half) := hshort

/-! ## The nearest magnitude -/

theorem nearest_scale (numerator denominator : Nat) {factor : Nat} (hfactor : 0 < factor) :
    nearest (numerator * factor) (denominator * factor) = nearest numerator denominator := by
  simp only [nearest, Nat.mul_div_mul_right _ _ hfactor, Nat.mul_right_comm denominator factor,
    roundHalfEven_scale _ _ hfactor]

/-- Equal quotients round alike. -/
theorem nearest_congr {numerator denominator other divisor : Nat} (hdenominator : 0 < denominator)
    (hdivisor : 0 < divisor) (hquotient : numerator * divisor = other * denominator) :
    nearest numerator denominator = nearest other divisor := by
  rw [← nearest_scale numerator denominator hdivisor, hquotient, Nat.mul_comm denominator,
    nearest_scale other divisor hdenominator]

theorem nearest_of_fits {magnitude : Nat} (hfits : Fits magnitude) :
    nearest magnitude 1 = magnitude := by
  simp only [nearest, Nat.div_one, Nat.one_mul,
    roundHalfEven_of_dvd (spacing_pos magnitude) hfits.2]
  exact Nat.div_mul_cancel hfits.2

theorem nearest_eq_zero {numerator denominator : Nat} (hsmall : 2 * numerator < denominator) :
    nearest numerator denominator = 0 := by
  have hquotient : numerator / denominator = 0 := Nat.div_eq_of_lt (by omega)
  have hremainder : numerator % denominator = numerator := Nat.mod_eq_of_lt (by omega)
  simp [nearest, hquotient, spacing, roundHalfEven, hremainder, hsmall]

theorem spacing_dvd_two_pow {magnitude power : Nat} (hpower : magnitude.log2 ≤ power) :
    spacing magnitude ∣ 2 ^ power :=
  Nat.pow_dvd_pow 2 (by omega)

/-- Rounding does not fall below a power of two. -/
theorem two_pow_le_nearest {numerator denominator power : Nat}
    (hquotient : 2 ^ power ≤ numerator / denominator) :
    2 ^ power ≤ nearest numerator denominator := by
  have hpositive : numerator / denominator ≠ 0 := by
    have := Nat.two_pow_pos power
    omega
  have hlog : power ≤ (numerator / denominator).log2 := (Nat.le_log2 hpositive).mpr hquotient
  obtain ⟨count, hcount⟩ := spacing_dvd_two_pow (Nat.le_refl (numerator / denominator).log2)
  have hself := Nat.log2_self_le hpositive
  have hspacing := spacing_pos (numerator / denominator)
  have hround := div_le_roundHalfEven numerator
    (denominator * spacing (numerator / denominator))
  rw [← Nat.div_div_eq_div_mul] at hround
  have hgrid : count ≤ numerator / denominator / spacing (numerator / denominator) := by
    rw [Nat.le_div_iff_mul_le hspacing, Nat.mul_comm, ← hcount]
    exact hself
  calc
    2 ^ power ≤ 2 ^ (numerator / denominator).log2 := Nat.pow_le_pow_right (by decide) hlog
    _ = count * spacing (numerator / denominator) := by rw [hcount, Nat.mul_comm]
    _ ≤ nearest numerator denominator :=
      Nat.mul_le_mul_right _ (Nat.le_trans hgrid hround)

/-- Rounding does not rise above a power of two. -/
theorem nearest_le_two_pow {numerator denominator power : Nat}
    (hquotient : numerator / denominator < 2 ^ power) :
    nearest numerator denominator ≤ 2 ^ power := by
  have hlog : (numerator / denominator).log2 ≤ power := by
    by_cases hzero : numerator / denominator = 0
    · simp [hzero]
    · exact Nat.le_of_lt ((Nat.log2_lt hzero).mpr hquotient)
  obtain ⟨count, hcount⟩ := spacing_dvd_two_pow hlog
  have hspacing := spacing_pos (numerator / denominator)
  have hround := roundHalfEven_le numerator (denominator * spacing (numerator / denominator))
  rw [← Nat.div_div_eq_div_mul] at hround
  have hgrid : numerator / denominator / spacing (numerator / denominator) < count := by
    rw [Nat.div_lt_iff_lt_mul hspacing, Nat.mul_comm, ← hcount]
    exact hquotient
  calc
    nearest numerator denominator ≤ count * spacing (numerator / denominator) :=
      Nat.mul_le_mul_right _ (Nat.le_trans hround hgrid)
    _ = 2 ^ power := by rw [hcount, Nat.mul_comm]

theorem spacing_of_lt {magnitude power : Nat} (hlow : 2 ^ power ≤ magnitude)
    (hhigh : magnitude < 2 ^ (power + 1)) : spacing magnitude = 2 ^ (power - 52) := by
  have hpositive : magnitude ≠ 0 := Nat.ne_of_gt (Nat.lt_of_lt_of_le (Nat.two_pow_pos power) hlow)
  rw [spacing, (Nat.log2_eq_iff hpositive).mpr ⟨hlow, hhigh⟩]
  rfl

/-- What lies more than half a gap below a power of two is not rounded up to it. -/
theorem nearest_lt_two_pow {magnitude power : Nat}
    (hshort : magnitude + 2 ^ power < 2 ^ (power + 54)) :
    nearest magnitude 1 < 2 ^ (power + 54) := by
  by_cases hlow : magnitude < 2 ^ (power + 53)
  · have hbelow : magnitude / 1 < 2 ^ (power + 53) := by rwa [Nat.div_one]
    exact Nat.lt_of_le_of_lt (nearest_le_two_pow hbelow)
      (Nat.pow_lt_pow_right (by decide) (by omega))
  · have hgap : spacing magnitude = 2 * 2 ^ power := by
      have hhigh : magnitude < 2 ^ (power + 53 + 1) :=
        Nat.lt_of_le_of_lt (Nat.le_add_right _ _) hshort
      rw [spacing_of_lt (Nat.not_lt.mp hlow) hhigh, ← Nat.pow_succ']
      rfl
    have hmultiple : 2 ^ (power + 54) = 2 ^ 53 * (2 * 2 ^ power) := by
      rw [← Nat.pow_succ', ← Nat.pow_add]
      congr 1
      omega
    rw [hmultiple] at hshort ⊢
    simp only [nearest, Nat.div_one, Nat.one_mul, hgap]
    exact Nat.mul_lt_mul_of_pos_right (roundHalfEven_lt (Nat.two_pow_pos power) hshort)
      (Nat.mul_pos (by decide) (Nat.two_pow_pos power))

/-- A double below a power of two lies a whole gap below it. -/
theorem add_two_pow_le {magnitude power : Nat} (hgrid : spacing magnitude ∣ magnitude)
    (hbound : magnitude < 2 ^ (power + 53)) : magnitude + 2 ^ power ≤ 2 ^ (power + 53) := by
  by_cases hlow : magnitude < 2 ^ (power + 52)
  · have hless : 2 ^ power ≤ 2 ^ (power + 52) := Nat.pow_le_pow_right (by decide) (by omega)
    have hdouble : 2 ^ (power + 53) = 2 ^ (power + 52) * 2 := by rw [← Nat.pow_succ]
    omega
  · rw [spacing_of_lt (Nat.not_lt.mp hlow) hbound, Nat.add_sub_cancel] at hgrid
    obtain ⟨count, rfl⟩ := hgrid
    rw [Nat.pow_add] at hbound ⊢
    have hcount : count + 1 ≤ 2 ^ 53 := Nat.lt_of_mul_lt_mul_left hbound
    exact Nat.mul_le_mul_left (2 ^ power) hcount

/-- Adding little to a double below a power of two does not reach the power, not even rounded. -/
theorem nearest_add_lt_two_pow {little magnitude sum power : Nat} (hlittle : little < 2 ^ power)
    (hgrid : spacing magnitude ∣ magnitude) (hbound : magnitude < 2 ^ (power + 54))
    (hsum : sum ≤ little + magnitude) : nearest sum 1 < 2 ^ (power + 54) := by
  have hroom : magnitude + 2 ^ (power + 1) ≤ 2 ^ (power + 54) := add_two_pow_le hgrid hbound
  have hdouble : 2 ^ (power + 1) = 2 ^ power * 2 := by rw [← Nat.pow_succ]
  exact nearest_lt_two_pow (by omega)

/-! ## Rounded doubles -/

theorem rounded_of_lt (negative : Bool) {numerator denominator : Nat}
    (hfinite : nearest numerator denominator < overflowUnits) :
    rounded negative numerator denominator =
      finite negative (nearest numerator denominator)
        ⟨hfinite, spacing_dvd_nearest numerator denominator⟩ := by
  rw [rounded, dif_pos hfinite]

theorem unitsPerOne_eq : unitsPerOne = 2 ^ 1074 := by decide +kernel

theorem unitsPerOne_pos : 0 < unitsPerOne := by decide +kernel

theorem overflowUnits_eq : overflowUnits = 2 ^ 2098 := by decide +kernel

theorem lt_of_le_two_pow {value limit small large : Nat} (hlimit : limit = 2 ^ large)
    (hvalue : value ≤ 2 ^ small) (hless : small < large) : value < limit := by
  rw [hlimit]
  exact Nat.lt_of_le_of_lt hvalue (Nat.pow_lt_pow_right (by decide) hless)

theorem nearest_whole_le {count bits : Nat} (hcount : count < 2 ^ bits) :
    nearest (count * unitsPerOne) 1 ≤ 2 ^ (bits + 1074) := by
  apply nearest_le_two_pow
  rw [Nat.div_one, pow_add, ← unitsPerOne_eq]
  exact Nat.mul_lt_mul_of_pos_right hcount unitsPerOne_pos

/-- A natural number of few bits does not overflow. -/
theorem nearest_whole_lt {count bits : Nat} (hcount : count < 2 ^ bits) (hbits : bits < 1024) :
    nearest (count * unitsPerOne) 1 < overflowUnits :=
  lt_of_le_two_pow overflowUnits_eq (nearest_whole_le hcount) (by omega)

/-- A natural number of few bits is a double of few bits. -/
theorem exists_ofNat_eq {count bits : Nat} (hcount : count < 2 ^ bits) (hbits : bits < 1024) :
    ∃ magnitude fits,
      ofNat count = finite false magnitude fits ∧ magnitude ≤ 2 ^ (bits + 1074) :=
  ⟨_, _, rounded_of_lt false (nearest_whole_lt hcount hbits), nearest_whole_le hcount⟩

theorem nearest_whole_pos {count : Nat} (hcount : 0 < count) :
    0 < nearest (count * unitsPerOne) 1 := by
  have hunits : 2 ^ 0 ≤ count * unitsPerOne / 1 := by
    rw [Nat.div_one]
    exact Nat.mul_pos hcount unitsPerOne_pos
  exact two_pow_le_nearest hunits

end Binary64

/-! ## Numerals without padding -/

namespace Decimal

theorem lt_pow_digitCount (value : Nat) : value < 10 ^ digitCount value :=
  (Nat.length_toDigits_le_iff (by decide) Nat.length_toDigits_pos).mp (Nat.le_refl _)

theorem pow_le_of_pos {value : Nat} (hvalue : 0 < value) : 10 ^ (digitCount value - 1) ≤ value := by
  rcases Nat.lt_or_ge value (10 ^ (digitCount value - 1)) with hless | hle
  · have hcount : digitCount value - 1 ≠ 0 := by
      intro hone
      rw [hone] at hless
      omega
    have hshort : digitCount value ≤ digitCount value - 1 :=
      (Nat.length_toDigits_le_iff (by decide) (Nat.pos_of_ne_zero hcount)).mpr hless
    omega
  · exact hle

/-- The numeral has no factor ten in its coefficient; zero has exponent zero. -/
structure IsNormal (numeral : Decimal) : Prop where
  zero : numeral.coefficient = 0 → numeral.exponent = 0
  unpadded : numeral.coefficient ≠ 0 → numeral.coefficient % 10 ≠ 0

theorem exists_unpadded {value : Nat} (hvalue : value ≠ 0) :
    ∃ unpadded count, value = unpadded * 10 ^ count ∧ unpadded % 10 ≠ 0 := by
  induction value using Nat.strongRecOn with
  | ind value ih =>
      by_cases hpadded : value % 10 = 0
      · obtain ⟨unpadded, count, hquotient, hunpadded⟩ := ih (value / 10) (by omega) (by omega)
        refine ⟨unpadded, count + 1, ?_, hunpadded⟩
        rw [Nat.pow_succ, ← Nat.mul_assoc, ← hquotient]
        omega
      · exact ⟨value, 0, by simp, hpadded⟩

theorem stripZeros_mul_pow {unpadded : Nat} (hunpadded : unpadded % 10 ≠ 0) {count limit : Nat}
    (hcount : count ≤ limit) (exponent : Int) :
    stripZeros limit (unpadded * 10 ^ count) exponent = (unpadded, exponent + count) := by
  induction count generalizing limit exponent with
  | zero =>
      cases limit with
      | zero => simp [stripZeros]
      | succ limit => simp [stripZeros, hunpadded]
  | succ count ih =>
      obtain ⟨limit, rfl⟩ := Nat.exists_eq_add_of_le' (Nat.le_trans (Nat.le_add_left 1 count) hcount)
      have hpadded : unpadded * 10 ^ (count + 1) = unpadded * 10 ^ count * 10 := by
        rw [Nat.pow_succ, Nat.mul_assoc]
      rw [hpadded, stripZeros, if_pos (Nat.mul_mod_left _ 10), Nat.mul_div_cancel _ (by decide),
        ih (Nat.le_of_succ_le_succ hcount)]
      congr 1
      omega

/-- Normalizing moves the zeros at the end of a coefficient into the exponent. -/
theorem normalize_mul_pow (negative : Bool) {unpadded : Nat} (hunpadded : unpadded % 10 ≠ 0)
    (count : Nat) (exponent : Int) :
    normalize { negative, coefficient := unpadded * 10 ^ count, exponent } =
      { negative, coefficient := unpadded, exponent := exponent + count } := by
  have hpos : 0 < unpadded := by
    rcases Nat.eq_zero_or_pos unpadded with rfl | hpos
    · simp at hunpadded
    · exact hpos
  have hnonzero : unpadded * 10 ^ count ≠ 0 :=
    Nat.ne_of_gt (Nat.mul_pos hpos (Nat.pow_pos (by decide)))
  have hcount : count ≤ digitCount (unpadded * 10 ^ count) := by
    have hpower : 10 ^ count < 10 ^ digitCount (unpadded * 10 ^ count) :=
      Nat.lt_of_le_of_lt (Nat.le_mul_of_pos_left _ hpos) (lt_pow_digitCount _)
    exact Nat.le_of_lt ((Nat.pow_lt_pow_iff_right (by decide)).mp hpower)
  simp only [normalize, if_neg hnonzero, stripZeros_mul_pow hunpadded hcount]

theorem isNormal_normalize (numeral : Decimal) : numeral.normalize.IsNormal := by
  obtain ⟨negative, coefficient, exponent⟩ := numeral
  by_cases hzero : coefficient = 0
  · simp only [normalize, hzero, if_true]
    exact ⟨fun _ => rfl, fun hnonzero => absurd rfl hnonzero⟩
  · obtain ⟨unpadded, count, rfl, hunpadded⟩ := exists_unpadded hzero
    rw [normalize_mul_pow negative hunpadded]
    refine ⟨fun hzero => ?_, fun _ => hunpadded⟩
    simp only at hzero
    simp [hzero] at hunpadded

end Decimal

/-! ## Reading numerals -/

namespace Binary64

theorem rounded_eq_finite (negative : Bool) {numerator denominator magnitude : Nat}
    (hfits : Fits magnitude) (hnearest : nearest numerator denominator = magnitude) :
    rounded negative numerator denominator = finite negative magnitude hfits := by
  subst hnearest
  exact rounded_of_lt negative hfits.1

/-- The magnitude that a numeral is rounded to. -/
def magnitudeOf (coefficient : Nat) (exponent : Int) : Nat :=
  nearest (coefficient * 10 ^ exponent.toNat * unitsPerOne) (10 ^ (-exponent).toNat)

theorem scaled_eq (negative : Bool) (coefficient : Nat) (exponent : Int) :
    scaled negative coefficient exponent =
      rounded negative (coefficient * 10 ^ exponent.toNat * unitsPerOne)
        (10 ^ (-exponent).toNat) := by
  rw [scaled]
  split
  · next hnegative =>
      rw [Int.toNat_of_nonpos (Int.le_of_lt hnegative), Nat.pow_zero, Nat.mul_one]
      rfl
  · next hnonneg =>
      rw [Int.toNat_of_nonpos (by omega : -exponent ≤ 0), Nat.pow_zero]
      rfl

theorem scaled_eq_finite (negative : Bool) {magnitude coefficient : Nat} {exponent : Int}
    (hfits : Fits magnitude) (hmagnitude : magnitudeOf coefficient exponent = magnitude) :
    scaled negative coefficient exponent = finite negative magnitude hfits := by
  rw [scaled_eq]
  exact rounded_eq_finite negative hfits hmagnitude

/-- Zeros at the end of the coefficient are powers of ten. -/
theorem magnitudeOf_mul_pow (coefficient count : Nat) (exponent : Int) :
    magnitudeOf (coefficient * 10 ^ count) exponent = magnitudeOf coefficient (exponent + count) := by
  have hten : ∀ power : Nat, 0 < 10 ^ power := fun power => Nat.pow_pos (by decide)
  apply nearest_congr (hten _) (hten _)
  have hpowers : 10 ^ count * 10 ^ exponent.toNat * 10 ^ (-(exponent + count)).toNat =
      10 ^ (exponent + count).toNat * 10 ^ (-exponent).toNat := by
    rw [← Nat.pow_add, ← Nat.pow_add, ← Nat.pow_add]
    congr 1
    omega
  generalize unitsPerOne = units
  calc
    coefficient * 10 ^ count * 10 ^ exponent.toNat * units * 10 ^ (-(exponent + count)).toNat =
        coefficient * units *
          (10 ^ count * 10 ^ exponent.toNat * 10 ^ (-(exponent + count)).toNat) := by
      ac_rfl
    _ = coefficient * units * (10 ^ (exponent + count).toNat * 10 ^ (-exponent).toNat) := by
      rw [hpowers]
    _ = coefficient * 10 ^ (exponent + count).toNat * units * 10 ^ (-exponent).toNat := by
      ac_rfl

/-- A numeral whose first digit stands far behind the point is rounded to zero. -/
theorem magnitudeOf_eq_zero {coefficient : Nat} {exponent : Int}
    (hsmall : exponent + Decimal.digitCount coefficient < -330) :
    magnitudeOf coefficient exponent = 0 := by
  have hunits : 2 * unitsPerOne ≤ 10 ^ 331 := by decide +kernel
  apply nearest_eq_zero
  rw [Int.toNat_of_nonpos (by omega : exponent ≤ 0), Nat.pow_zero, Nat.mul_one, Nat.mul_left_comm]
  calc
    coefficient * (2 * unitsPerOne) <
        10 ^ Decimal.digitCount coefficient * (2 * unitsPerOne) :=
      Nat.mul_lt_mul_of_pos_right (Decimal.lt_pow_digitCount coefficient)
        (Nat.mul_pos (by decide) unitsPerOne_pos)
    _ ≤ 10 ^ Decimal.digitCount coefficient * 10 ^ 331 := Nat.mul_le_mul_left _ hunits
    _ = 10 ^ (Decimal.digitCount coefficient + 331) := (pow_add 10 _ 331).symm
    _ ≤ 10 ^ (-exponent).toNat := Nat.pow_le_pow_right (by decide) (by omega)

/-- A numeral whose first digit stands far before the point is rounded to a large magnitude. -/
theorem two_pow_le_magnitudeOf {coefficient power places : Nat} {exponent : Int}
    (hunits : 2 ^ power ≤ 10 ^ places * unitsPerOne) (hcoefficient : 0 < coefficient)
    (hlarge : places < exponent + Decimal.digitCount coefficient) :
    2 ^ power ≤ magnitudeOf coefficient exponent := by
  apply two_pow_le_nearest
  rw [Nat.le_div_iff_mul_le (Nat.pow_pos (by decide))]
  calc
    2 ^ power * 10 ^ (-exponent).toNat ≤ 10 ^ places * unitsPerOne * 10 ^ (-exponent).toNat :=
      Nat.mul_le_mul_right _ hunits
    _ = 10 ^ (places + (-exponent).toNat) * unitsPerOne := by
      rw [Nat.pow_add, Nat.mul_right_comm]
    _ ≤ 10 ^ (Decimal.digitCount coefficient - 1 + exponent.toNat) * unitsPerOne :=
      Nat.mul_le_mul_right _ (Nat.pow_le_pow_right (by decide) (by omega))
    _ ≤ coefficient * 10 ^ exponent.toNat * unitsPerOne := by
      rw [Nat.pow_add]
      exact Nat.mul_le_mul_right _
        (Nat.mul_le_mul_right _ (Decimal.pow_le_of_pos hcoefficient))

theorem magnitudeOf_zero (exponent : Int) : magnitudeOf 0 exponent = 0 := by
  rw [magnitudeOf, Nat.zero_mul, Nat.zero_mul]
  exact nearest_eq_zero (Nat.pow_pos (by decide))

/-- Where rounding gives a positive double, the place of the first digit settles nothing. -/
theorem ofDecimal_eq_finite {numeral : Decimal} {magnitude : Nat} (hfits : Fits magnitude)
    (hpos : magnitude ≠ 0)
    (hmagnitude : magnitudeOf numeral.coefficient numeral.exponent = magnitude) :
    ofDecimal numeral = finite numeral.negative magnitude hfits := by
  have hcoefficient : numeral.coefficient ≠ 0 := by
    intro hzero
    rw [hzero, magnitudeOf_zero] at hmagnitude
    exact hpos hmagnitude.symm
  have hsmall : ¬ numeral.exponent + Decimal.digitCount numeral.coefficient < -330 := by
    intro hsmall
    exact hpos (hmagnitude.symm.trans (magnitudeOf_eq_zero hsmall))
  have hlarge : ¬ 310 < numeral.exponent + Decimal.digitCount numeral.coefficient := by
    intro hlarge
    have hunits : 2 ^ 2098 ≤ 10 ^ 310 * unitsPerOne := by decide +kernel
    have hover := two_pow_le_magnitudeOf hunits (Nat.pos_of_ne_zero hcoefficient) hlarge
    rw [hmagnitude, ← overflowUnits_eq] at hover
    exact absurd hfits.1 (Nat.not_lt.mpr hover)
  simp only [ofDecimal, hcoefficient, hsmall, or_self, if_false, hlarge]
  exact scaled_eq_finite numeral.negative hfits hmagnitude

theorem ofDecimal_zero (negative : Bool) (hfits : Fits 0) :
    ofDecimal { negative, coefficient := 0, exponent := 0 } = finite negative 0 hfits := by
  simp only [ofDecimal, true_or, if_true]
  exact rounded_eq_finite negative hfits (nearest_eq_zero (by decide))

/-- Normalizing a numeral does not change what it is read as. -/
theorem magnitudeOf_normalize (numeral : Decimal) :
    magnitudeOf numeral.normalize.coefficient numeral.normalize.exponent =
      magnitudeOf numeral.coefficient numeral.exponent := by
  obtain ⟨negative, coefficient, exponent⟩ := numeral
  by_cases hzero : coefficient = 0
  · simp only [Decimal.normalize, hzero, if_true, magnitudeOf_zero]
  · obtain ⟨unpadded, count, rfl, hunpadded⟩ := Decimal.exists_unpadded hzero
    simp only [Decimal.normalize_mul_pow negative hunpadded, magnitudeOf_mul_pow]

end Binary64

/-! ## The shortest numeral -/

namespace Decimal

theorem magnitudeOf_of_readsBack {magnitude coefficient : Nat} {exponent : Int}
    (hreads : readsBack magnitude coefficient exponent = true) :
    Binary64.magnitudeOf coefficient exponent = magnitude := by
  rw [readsBack, Binary64.scaled_eq, Binary64.rounded] at hreads
  split at hreads
  · next found hfits hrounded =>
      split at hrounded
      · cases hrounded
        exact of_decide_eq_true hreads
      · cases hrounded
  · cases hreads

theorem magnitudeOf_onGrid {tie : Tie} {magnitude : Nat} {exponent : Int} {numeral : Nat × Int}
    (hgrid : onGrid tie magnitude exponent = some numeral) :
    Binary64.magnitudeOf numeral.1 numeral.2 = magnitude := by
  simp only [onGrid] at hgrid
  split at hgrid
  · cases hgrid
  · next hbelow _ =>
      cases hgrid
      exact magnitudeOf_of_readsBack hbelow
  · next _ habove =>
      cases hgrid
      exact magnitudeOf_of_readsBack habove
  · next hbelow habove =>
      cases hgrid
      simp only
      split
      · exact magnitudeOf_of_readsBack hbelow
      · exact magnitudeOf_of_readsBack habove

theorem magnitudeOf_of_places {magnitude : Nat} (hfits : Binary64.Fits magnitude)
    {factor places : Nat} (hten : factor * Binary64.unitsPerOne = 10 ^ places) :
    Binary64.magnitudeOf (magnitude * factor) (-(places : Int)) = magnitude := by
  rw [Binary64.magnitudeOf, Int.toNat_of_nonpos (by omega), Nat.pow_zero, Nat.mul_one, Nat.mul_assoc,
    hten, Int.neg_neg, Int.toNat_natCast]
  have hscale := Binary64.nearest_scale magnitude 1 (Nat.pow_pos (by decide) : 0 < 10 ^ places)
  rw [Nat.one_mul] at hscale
  exact hscale.trans (Binary64.nearest_of_fits hfits)

theorem magnitudeOf_exact {magnitude : Nat} (hfits : Binary64.Fits magnitude) :
    Binary64.magnitudeOf (exact magnitude).1 (exact magnitude).2 = magnitude :=
  magnitudeOf_of_places hfits (by decide +kernel)

/-- Every numeral that the search can give reads back. -/
theorem magnitudeOf_shortestMagnitude (tie : Tie) {magnitude : Nat}
    (hfits : Binary64.Fits magnitude) :
    Binary64.magnitudeOf (shortestMagnitude tie magnitude).1 (shortestMagnitude tie magnitude).2 =
      magnitude := by
  rw [shortestMagnitude]
  cases hfound : (List.range 17).findSome? fun (further : Nat) =>
      onGrid tie magnitude (leadingExponent magnitude - further) with
  | none =>
      simp only [Option.getD_none]
      exact magnitudeOf_exact hfits
  | some numeral =>
      obtain ⟨further, -, hgrid⟩ := List.exists_of_findSome?_eq_some hfound
      simp only [Option.getD_some]
      exact magnitudeOf_onGrid hgrid

theorem isNormal_shortest (tie : Tie) (negative : Bool) (magnitude : Nat) :
    (shortest tie negative magnitude).IsNormal := by
  rw [shortest]
  generalize shortestMagnitude tie magnitude = found
  by_cases hzero : magnitude = 0
  · rw [if_pos hzero]
    exact ⟨fun _ => rfl, fun hnonzero => absurd rfl hnonzero⟩
  · rw [if_neg hzero]
    exact isNormal_normalize _

end Decimal

/-- The shortest numeral of a double reads back to the double, with the sign of a zero. -/
theorem Binary64.ofDecimal_shortest (tie : Decimal.Tie) (negative : Bool) {magnitude : Nat}
    (hfits : Fits magnitude) :
    ofDecimal (Decimal.shortest tie negative magnitude) = finite negative magnitude hfits := by
  rw [Decimal.shortest]
  by_cases hzero : magnitude = 0
  · subst hzero
    exact ofDecimal_zero negative hfits
  · have hreads := Decimal.magnitudeOf_shortestMagnitude tie hfits
    generalize Decimal.shortestMagnitude tie magnitude = found at hreads ⊢
    let numeral : Decimal := { negative, coefficient := found.1, exponent := found.2 }
    have hnegative : numeral.normalize.negative = negative := by
      rw [Decimal.normalize]
      split <;> rfl
    have hread := ofDecimal_eq_finite hfits hzero ((magnitudeOf_normalize numeral).trans hreads)
    rw [hnegative] at hread
    rw [if_neg hzero]
    exact hread

end BranchingStory
