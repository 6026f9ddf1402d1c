import TopicListeners.Numeral.Binary
import TopicListeners.Numeral.Digits

/-!
# Single-precision numbers

Numbers of the 32-bit format as their bits, read from text and written with the fewest digits that
read back.

A text is an optional sign and then `inf`, `infinity` or `nan` in any case, or digits with an
optional point and an optional exponent. It is rounded to the nearest number, a tie to the even
one. A number from `10 ^ -4` up to, but not including, `10 ^ 16` is written positionally and with
at least one digit after the point, any other one with an exponent.
-/

namespace TopicListeners.Numeral

/-- A single-precision number, by its bits. -/
structure Single where
  bits : UInt32
deriving DecidableEq, Repr

/-- The digits that stand in a text, point left out, and the exponent of the last one. -/
structure Spelling where
  digits : List Char
  exponent : Int
deriving DecidableEq, Repr

namespace Single

/-- The bit of the sign. -/
def signBit : Nat := 0x80000000

/-- The magnitude of the plain not-a-number. -/
def quietNaN : Nat := 0x7FC00000

/-- The number of a sign and a magnitude. -/
def ofMagnitude (negative : Bool) (m : Nat) : Single :=
  ⟨UInt32.ofNat (if negative then signBit + m else m)⟩

/-- Whether the sign is a minus. -/
def isNegative (x : Single) : Bool := signBit ≤ x.bits.toNat

/-- The bits without the sign. -/
def magnitude (x : Single) : Nat := x.bits.toNat % signBit

/-- Whether this is no number. -/
def isNaN (x : Single) : Bool := single.infinity < x.magnitude

/-! ## Reading -/

/-- A text without its sign, and whether the sign was a minus. -/
def splitSign : List Char → Bool × List Char
  | '-' :: cs => (true, cs)
  | '+' :: cs => (false, cs)
  | cs => (false, cs)

/-- A whole number with an optional sign. -/
def readWhole? (cs : List Char) : Option Int :=
  match splitSign cs with
  | (negative, ds) => (readDigits? ds).map fun n => if negative then -(n : Int) else n

/-- The exponent at the end of a number: `e` or `E` and a whole number, or nothing at all. -/
def readExponent? : List Char → Option Int
  | [] => some 0
  | c :: cs => if c = 'e' ∨ c = 'E' then readWhole? cs else none

/-- The digits after the point, if there is a point, and the rest. -/
def splitFraction : List Char → List Char × List Char
  | '.' :: cs => (cs.takeWhile Char.isDigit, cs.dropWhile Char.isDigit)
  | cs => ([], cs)

/-- Digits with an optional point, at least one digit on either side of it, and an exponent. -/
def readSpelling? (cs : List Char) : Option Spelling := do
  let whole := cs.takeWhile Char.isDigit
  let (fraction, rest) := splitFraction (cs.dropWhile Char.isDigit)
  if whole = [] ∧ fraction = [] then none
  else
    let e ← readExponent? rest
    some ⟨whole ++ fraction, e - fraction.length⟩

/-- Decimal exponents out of whose reach every number is zero or infinite. -/
def reach : Nat := 64

/-- The magnitude nearest to a spelled decimal. An exponent out of reach is cut down to the edge of
the reach: there the result is zero or infinity already. -/
def spelledMagnitude (s : Spelling) : Nat :=
  let n := Nat.ofDigitChars 10 s.digits 0
  single.ofDecimal ⟨n, max (-(s.digits.length + reach : Nat)) (min s.exponent reach)⟩

/-- The magnitude that a text without sign denotes. -/
def readMagnitude? (cs : List Char) : Option Nat :=
  let word := cs.map Char.toLower
  if word = "inf".toList ∨ word = "infinity".toList then some single.infinity
  else if word = "nan".toList then some quietNaN
  else (readSpelling? cs).map spelledMagnitude

/-- The number that a text denotes. -/
def read? (s : String) : Option Single :=
  match splitSign s.toList with
  | (negative, cs) => (readMagnitude? cs).map (ofMagnitude negative)

/-! ## Writing -/

/-- A number's digits without the zeros at its end, and how many those are. -/
def significant (n : Nat) : List Char × Nat :=
  let ds := (Nat.toDigits 10 n).reverse
  ((ds.dropWhile (· = '0')).reverse, (ds.takeWhile (· = '0')).length)

/-- One digit, a point, the other digits (or no point without them), and the exponent. -/
def writeScientific (ds : List Char) (e : Int) : List Char :=
  (match ds with
    | [] => []
    | [d] => [d]
    | d :: ds => d :: '.' :: ds) ++ 'e' :: (toString e).toList

/-- The digits with a point after the one of exponent zero, filled up with zeros. -/
def writePositional (ds : List Char) (e : Int) : List Char :=
  match e with
  | .ofNat e =>
    ds.take (e + 1) ++ List.replicate (e + 1 - ds.length) '0' ++
      '.' :: (if ds.length ≤ e + 1 then ['0'] else ds.drop (e + 1))
  | .negSucc e => '0' :: '.' :: List.replicate e '0' ++ ds

/-- The text of a positive finite magnitude. -/
def writeMagnitude (m : Nat) : List Char :=
  let d := single.shortest m
  let (ds, zeros) := significant d.digits
  let e := d.exponent + zeros + ds.length - 1
  if -4 ≤ e ∧ e < 16 then writePositional ds e else writeScientific ds e

/-- The text of a number: the fewest digits that read back. -/
def write (x : Single) : String :=
  if x.isNaN then "NaN"
  else
    let cs :=
      if x.magnitude = single.infinity then "inf".toList
      else if x.magnitude = 0 then "0.0".toList
      else writeMagnitude x.magnitude
    String.ofList (if x.isNegative then '-' :: cs else cs)

end Single

end TopicListeners.Numeral
