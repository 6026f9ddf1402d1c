/-!
# Binary floating point

Formats of binary floating-point numbers, and their arithmetic on natural numbers. The magnitude of
a number (its bits without the sign) is a natural number, and magnitudes are ordered as the numbers
are. A finite number is a whole multiple of the least positive one; `units` says which. Every
operation computes its exact result as a quotient of such multiples and rounds once.

A decimal leads to the nearest magnitude, and a magnitude to the shortest decimal that leads back to
it. The search for that one tries one digit, two digits and so on; on each grid only the two
decimals around the exact value can lead back, and of two that do the nearer is taken. After so many
grids the decimal of exactly the magnitude's value is left (`exactDecimal`); single precision never
comes to that.

* `round_le`: rounding stays within the magnitudes, up to infinity.
-/

namespace TopicListeners.Numeral

/-- A format: the digits of its significands, the (negated) binary exponent of its least positive
number, and the magnitude that stands for infinity. Larger magnitudes are not numbers. -/
structure Format where
  precision : Nat
  scale : Nat
  infinity : Nat

/-- The 32-bit format. -/
def single : Format := ⟨24, 149, 0x7F800000⟩

/-- The 64-bit format. -/
def double : Format := ⟨53, 1074, 0x7FF0000000000000⟩

/-- A quotient rounded to the nearest whole number, a half to the even neighbour. -/
def roundQuotient (num den : Nat) : Nat :=
  if 2 * (num % den) < den then num / den
  else if den < 2 * (num % den) then num / den + 1
  else num / den + num / den % 2

namespace Format

variable (f : Format)

/-- The first magnitude with a full significand. -/
def normal : Nat := Nat.pow 2 (f.precision - 1)

/-- How many times the least positive number goes into one. -/
def one : Nat := Nat.pow 2 f.scale

/-- A magnitude as a multiple of the least positive number. -/
def units (m : Nat) : Nat :=
  if m < f.normal then m else (f.normal + m % f.normal) * Nat.pow 2 (m / f.normal - 1)

/-- The magnitude nearest to `num / den` times the least positive number, a tie going to the even
one, and infinity from half a step past the largest finite number on. -/
def round (num den : Nat) : Nat :=
  let dropped := (num / den).log2 + 1 - f.precision
  min (dropped * f.normal + roundQuotient num (den * Nat.pow 2 dropped)) f.infinity

/-- The nearest magnitude to a natural number. -/
def ofNat (n : Nat) : Nat := f.round (n * f.one) 1

/-- The product of two finite magnitudes. -/
def mul (a b : Nat) : Nat := f.round (f.units a * f.units b) f.one

/-- The quotient of two finite magnitudes, the second not zero. -/
def div (a b : Nat) : Nat := f.round (f.units a * f.one) (f.units b)

/-- Rounding stays within the magnitudes, up to infinity. -/
theorem round_le (num den : Nat) : f.round num den ≤ f.infinity := Nat.min_le_right _ _

end Format

/-! ## Double precision -/

/-- A double-precision number, by its bits. -/
structure Double where
  bits : UInt64
deriving DecidableEq, Repr

namespace Double

/-- The bit of the sign. -/
def signBit : Nat := 0x8000000000000000

/-- The number of a sign and a magnitude. -/
def ofMagnitude (negative : Bool) (m : Nat) : Double :=
  ⟨UInt64.ofNat (if negative then signBit + m else m)⟩

/-- The bits without the sign. -/
def magnitude (x : Double) : Nat := x.bits.toNat % signBit

/-- Whether this is a number and not infinite. -/
def isFinite (x : Double) : Bool := x.magnitude < double.infinity

end Double

/-! ## Decimals -/

/-- The decimal `digits * 10 ^ exponent`. -/
structure Decimal where
  digits : Nat
  exponent : Int
deriving DecidableEq, Repr

namespace Format

variable (f : Format)

/-- The magnitude nearest to a decimal, a tie going to the even one. -/
def ofDecimal (d : Decimal) : Nat :=
  match d.exponent with
  | .ofNat e => f.ofNat (d.digits * Nat.pow 10 e)
  | .negSucc e => f.round (d.digits * f.one) (Nat.pow 10 (e + 1))

/-- How many decimal digits a number has. -/
def width (n : Nat) : Nat := (Nat.toDigits 10 n).length

/-- The exponent of the first digit of a positive quotient: the `e` with
`10 ^ e ≤ num / den < 10 ^ (e + 1)`. -/
def leadingExponent (num den : Nat) : Int :=
  if den ≤ num then width (num / den) - 1 else -width ((den - 1) / num)

/-- The whole part of `num / den / 10 ^ e`, and whether the rest is at least one half. -/
def onGrid (num den : Nat) (e : Int) : Nat × Bool :=
  match e with
  | .ofNat e =>
    let d := den * Nat.pow 10 e
    (num / d, d ≤ 2 * (num % d))
  | .negSucc e =>
    let n := num * Nat.pow 10 (e + 1)
    (n / den, den ≤ 2 * (n % den))

/-- A decimal with as many digits as it takes to say the value of a magnitude exactly. -/
def exactDecimal (m : Nat) : Decimal := ⟨f.units m * Nat.pow 5 f.scale, -f.scale⟩

/-- The shortest decimal that leads back to `m`, looked for on `n` grids from exponent `e` down. -/
def search (m : Nat) : Nat → Int → Decimal
  | 0, _ => f.exactDecimal m
  | n + 1, e =>
    let (whole, up) := onGrid (f.units m) f.one e
    let below : Decimal := ⟨whole, e⟩
    let above : Decimal := ⟨whole + 1, e⟩
    match f.ofDecimal below == m, f.ofDecimal above == m with
    | true, true => if up then above else below
    | true, false => below
    | false, true => above
    | false, false => search m n (e - 1)

/-- The shortest decimal that leads back to a positive finite magnitude. -/
def shortest (m : Nat) : Decimal :=
  f.search m 17 (leadingExponent (f.units m) f.one)

end Format

end TopicListeners.Numeral
