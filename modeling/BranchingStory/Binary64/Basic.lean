/-!
# Binary64 values

Every number of a story is an IEEE double.  A finite double is a whole multiple of the smallest
positive one, so it is stored as a sign and a natural number of such units.  Sums, products and
quotients are formed exactly on the naturals and then rounded once, to the nearest double with ties
to even; `spacing_dvd_nearest` says that the rounded magnitude is again one that a double can have.
-/

namespace BranchingStory

namespace Binary64

/-- The number of units in one: the smallest positive double is `2 ^ (-1074)`. -/
def unitsPerOne : Nat := Nat.pow 2 1074

/-- The first magnitude beyond the finite doubles, `2 ^ 1024` in units. -/
def overflowUnits : Nat := Nat.pow 2 2098

/-- The gap between neighbouring doubles at a magnitude: significands have 53 bits. -/
def spacing (magnitude : Nat) : Nat := Nat.pow 2 (magnitude.log2 - 52)

/-- The magnitudes of finite doubles. -/
def Fits (magnitude : Nat) : Prop :=
  magnitude < overflowUnits ∧ spacing magnitude ∣ magnitude

instance (magnitude : Nat) : Decidable (Fits magnitude) :=
  inferInstanceAs (Decidable (_ ∧ _))

end Binary64

/-- An IEEE double.  All not-a-numbers are one value. -/
inductive Binary64 where
  | nan
  | infinite (negative : Bool)
  | finite (negative : Bool) (magnitude : Nat) (fits : Binary64.Fits magnitude)
deriving DecidableEq

namespace Binary64

/-- The natural number nearest to a quotient; a half goes to the even neighbour. -/
def roundHalfEven (numerator denominator : Nat) : Nat :=
  let quotient := numerator / denominator
  let remainder := numerator % denominator
  if 2 * remainder < denominator ∨ 2 * remainder = denominator ∧ quotient % 2 = 0 then quotient
  else quotient + 1

theorem roundHalfEven_le (numerator denominator : Nat) :
    roundHalfEven numerator denominator ≤ numerator / denominator + 1 := by
  simp only [roundHalfEven]
  split <;> omega

/-- The multiple of the spacing that is nearest to a quotient of units, before the check for
overflow. -/
def nearest (numerator denominator : Nat) : Nat :=
  let gap := spacing (numerator / denominator)
  roundHalfEven numerator (denominator * gap) * gap

theorem spacing_pos (magnitude : Nat) : 0 < spacing magnitude := Nat.two_pow_pos _

theorem quotient_div_spacing_lt (quotient : Nat) :
    quotient / spacing quotient < Nat.pow 2 53 := by
  rw [Nat.div_lt_iff_lt_mul (spacing_pos quotient)]
  unfold spacing
  simp only [Nat.pow_eq]
  rw [← Nat.pow_add]
  rcases Nat.eq_zero_or_pos quotient with hzero | hquotient
  · subst hzero
    exact Nat.two_pow_pos _
  · have hlog := Nat.lt_log2_self (n := quotient)
    exact Nat.lt_of_lt_of_le hlog (Nat.pow_le_pow_right (by decide) (by omega))

theorem spacing_dvd_mul_two_pow {significand : Nat} (exponent : Nat)
    (hbound : significand ≤ Nat.pow 2 53) :
    spacing (significand * Nat.pow 2 exponent) ∣ significand * Nat.pow 2 exponent := by
  unfold spacing
  simp only [Nat.pow_eq] at hbound ⊢
  rcases Nat.eq_zero_or_pos significand with hzero | hpos
  · simp [hzero]
  rcases Nat.lt_or_eq_of_le hbound with hlt | heq
  · have hproduct := Nat.ne_of_gt (Nat.mul_pos hpos (Nat.two_pow_pos exponent))
    have hlog := (Nat.log2_lt (k := 53 + exponent) hproduct).mpr <| by
      rw [Nat.pow_add]
      exact Nat.mul_lt_mul_of_pos_right hlt (Nat.two_pow_pos _)
    exact Nat.dvd_trans (Nat.pow_dvd_pow 2 (by omega)) (Nat.dvd_mul_left _ _)
  · rw [heq, ← Nat.pow_add, Nat.log2_two_pow]
    exact Nat.pow_dvd_pow 2 (by omega)

theorem spacing_dvd_nearest (numerator denominator : Nat) :
    spacing (nearest numerator denominator) ∣ nearest numerator denominator := by
  apply spacing_dvd_mul_two_pow
  have hround := roundHalfEven_le numerator (denominator * spacing (numerator / denominator))
  have hdiv := quotient_div_spacing_lt (numerator / denominator)
  rw [Nat.div_div_eq_div_mul] at hdiv
  exact Nat.le_trans hround hdiv

/-- The double nearest to a signed quotient of units, infinite when that is too large. -/
def rounded (negative : Bool) (numerator denominator : Nat) : Binary64 :=
  if hfinite : nearest numerator denominator < overflowUnits then
    finite negative (nearest numerator denominator)
      ⟨hfinite, spacing_dvd_nearest numerator denominator⟩
  else infinite negative

/-- The double nearest to a natural number. -/
def ofNat (value : Nat) : Binary64 := rounded false (value * unitsPerOne) 1

/-- The double nearest to an integer; zero is positive. -/
def ofInt (value : Int) : Binary64 := rounded (value < 0) (value.natAbs * unitsPerOne) 1

instance (value : Nat) : OfNat Binary64 value := ⟨ofNat value⟩

/-- The opposite sign, also of zeros and infinities. -/
def negate : Binary64 → Binary64
  | nan => nan
  | infinite negative => infinite (!negative)
  | finite negative magnitude fits => finite (!negative) magnitude fits

instance : Neg Binary64 := ⟨negate⟩

def isNan : Binary64 → Bool
  | nan => true
  | _ => false

def isFinite : Binary64 → Bool
  | finite .. => true
  | _ => false

/-- A sign and a magnitude as a number of units. -/
def signedUnits (negative : Bool) (magnitude : Nat) : Int :=
  if negative then -(magnitude : Int) else magnitude

/-- The rounded sum.  An exact zero is negative only when both terms are. -/
def add : Binary64 → Binary64 → Binary64
  | nan, _ => nan
  | _, nan => nan
  | infinite left, infinite right => if left = right then infinite left else nan
  | infinite left, finite .. => infinite left
  | finite .., infinite right => infinite right
  | finite leftNegative left _, finite rightNegative right _ =>
      let sum := signedUnits leftNegative left + signedUnits rightNegative right
      let negative := if sum = 0 then leftNegative && rightNegative else decide (sum < 0)
      rounded negative sum.natAbs 1

instance : Add Binary64 := ⟨add⟩

instance : Sub Binary64 := ⟨fun left right => left + -right⟩

/-- The rounded product; zero times an infinity is not a number. -/
def multiply : Binary64 → Binary64 → Binary64
  | nan, _ => nan
  | _, nan => nan
  | infinite left, infinite right => infinite (left ^^ right)
  | infinite left, finite right magnitude _ =>
      if magnitude = 0 then nan else infinite (left ^^ right)
  | finite left magnitude _, infinite right =>
      if magnitude = 0 then nan else infinite (left ^^ right)
  | finite leftNegative left _, finite rightNegative right _ =>
      rounded (leftNegative ^^ rightNegative) (left * right) unitsPerOne

instance : Mul Binary64 := ⟨multiply⟩

/-- The rounded quotient; zero by zero and infinity by infinity are not numbers. -/
def divide : Binary64 → Binary64 → Binary64
  | nan, _ => nan
  | _, nan => nan
  | infinite _, infinite _ => nan
  | infinite left, finite right _ _ => infinite (left ^^ right)
  | finite left _ _, infinite right => rounded (left ^^ right) 0 1
  | finite leftNegative left _, finite rightNegative right _ =>
      if right = 0 then
        if left = 0 then nan else infinite (leftNegative ^^ rightNegative)
      else rounded (leftNegative ^^ rightNegative) (left * unitsPerOne) right

instance : Div Binary64 := ⟨divide⟩

/-- The nearest whole number; a half goes away from zero, and the sign of zero stays. -/
def roundToWhole : Binary64 → Binary64
  | finite negative magnitude _ =>
      let quotient := magnitude / unitsPerOne
      let remainder := magnitude % unitsPerOne
      let whole := if 2 * remainder < unitsPerOne then quotient else quotient + 1
      rounded negative (whole * unitsPerOne) 1
  | value => value

/-- The numeric order; a not-a-number is below nothing and above nothing, and both zeros are
equal. -/
def less : Binary64 → Binary64 → Bool
  | nan, _ => false
  | _, nan => false
  | infinite left, infinite right => left && !right
  | infinite left, finite .. => left
  | finite .., infinite right => !right
  | finite leftNegative left _, finite rightNegative right _ =>
      decide (signedUnits leftNegative left < signedUnits rightNegative right)

/-- Numeric equality: both zeros are equal and a not-a-number equals nothing. -/
def equal (left right : Binary64) : Bool :=
  !left.isNan && !right.isNan && !less left right && !less right left

def atMost (left right : Binary64) : Bool := less left right || equal left right

/-- The total order in which a negative zero comes before the positive one and a not-a-number
comes last. -/
def comesBefore : Binary64 → Binary64 → Bool
  | nan, _ => false
  | _, nan => true
  | finite true 0 _, finite false 0 _ => true
  | left, right => less left right

/-- The value moved into an interval; a not-a-number stays. -/
def clampTo (lowest highest value : Binary64) : Binary64 :=
  if less value lowest then lowest else if less highest value then highest else value

/-- The range of signed 64-bit integers. -/
def minInt64 : Int := -9223372036854775808

def maxInt64 : Int := 9223372036854775807

/-- An integer moved into the range of signed 64-bit integers. -/
def saturate (value : Int) : Int := max minInt64 (min maxInt64 value)

/-- A whole number read off a double: finite values through `pick`, which sees the units, and the
nearest end of the 64-bit range for the others; a not-a-number counts as zero. -/
def toInt64 (pick : Int → Int) : Binary64 → Int
  | nan => 0
  | infinite negative => if negative then minInt64 else maxInt64
  | finite negative magnitude _ => saturate (pick (signedUnits negative magnitude))

/-- The least 64-bit integer that is not below the value, saturating. -/
def ceilInt64 : Binary64 → Int := toInt64 fun units => -((-units).fdiv unitsPerOne)

/-- The greatest 64-bit integer that is not above the value, saturating. -/
def floorInt64 : Binary64 → Int := toInt64 fun units => units.fdiv unitsPerOne

end Binary64

end BranchingStory
