import TopicListeners.Payload.Reader

/-!
# The grammar of payloads

Which byte strings are JSON, and which values they stand for. The grammar does not say how a payload
is read: it builds byte strings up from their parts, and counts the arrays and objects around each
value.

* `Spells`: the inside of a string and its characters.
* `NumberText`: a number as it is written.
* `scale?`: a number times a power of ten, as it is rounded on the way.
* `NumberText.value?`: the value that a number has, if it is in range.
* `Writes`: a value, or a part of an array or object, as it is written inside so many others.
* `IsJson`: the byte strings that are JSON.
-/

namespace TopicListeners.Payload.Grammar

open Numeral

/-- Space between the parts of a payload. -/
def Blank (bs : List UInt8) : Prop := ∀ b ∈ bs, b ∈ [32, 9, 10, 13]

instance (bs : List UInt8) : Decidable (Blank bs) :=
  decidable_of_iff (bs.all ([32, 9, 10, 13].contains ·) = true) (by simp [Blank])

/-! ## Strings -/

/-- The characters that stand in a string as they are, in UTF-8. -/
def IsPlain (c : Char) : Prop := 32 ≤ c.toNat ∧ c ≠ '"' ∧ c ≠ '\\'

instance (c : Char) : Decidable (IsPlain c) :=
  inferInstanceAs (Decidable (32 ≤ c.toNat ∧ c ≠ '"' ∧ c ≠ '\\'))

/-- The letters of the short escapes, and the characters they stand for. -/
def shortEscapes : List (UInt8 × Char) :=
  [(34, '"'), (92, '\\'), (47, '/'), (98, '\x08'), (102, '\x0C'), (110, '\n'), (114, '\r'),
    (116, '\t')]

/-- Hexadecimal digits. -/
inductive HexDigit : UInt8 → Nat → Prop
  | decimal {n : Nat} (h : n < 10) : HexDigit (.ofNat (48 + n)) n
  | upper {n : Nat} (h : n < 6) : HexDigit (.ofNat (65 + n)) (10 + n)
  | lower {n : Nat} (h : n < 6) : HexDigit (.ofNat (97 + n)) (10 + n)

/-- Four hexadecimal digits. -/
inductive Quad : List UInt8 → Nat → Prop
  | mk {a b c d : UInt8} {i j k l : Nat} (ha : HexDigit a i) (hb : HexDigit b j)
    (hc : HexDigit c k) (hd : HexDigit d l) : Quad [a, b, c, d] (((i * 16 + j) * 16 + k) * 16 + l)

/-- The escapes, and the characters they stand for. A surrogate is half of a pair. -/
inductive Escape : List UInt8 → Char → Prop
  | short {b : UInt8} {c : Char} (h : (b, c) ∈ shortEscapes) : Escape [92, b] c
  | single {q : List UInt8} {n : Nat} (h : Quad q n) (hn : n < 0xD800 ∨ 0xDFFF < n) :
    Escape (92 :: 117 :: q) (.ofNat n)
  | pair {p q : List UInt8} {m n : Nat} (hp : Quad p m) (hq : Quad q n)
    (hm : 0xD800 ≤ m ∧ m ≤ 0xDBFF) (hn : 0xDC00 ≤ n ∧ n ≤ 0xDFFF) :
    Escape (92 :: 117 :: p ++ 92 :: 117 :: q)
      (.ofNat (0x10000 + (m - 0xD800) * 0x400 + (n - 0xDC00)))

/-- The inside of a string and its characters. -/
inductive Spells : List UInt8 → List Char → Prop
  | nil : Spells [] []
  | plain {c : Char} {bs : List UInt8} {cs : List Char} (h : IsPlain c) (hs : Spells bs cs) :
    Spells (String.utf8EncodeChar c ++ bs) (c :: cs)
  | escape {e : List UInt8} {c : Char} {bs : List UInt8} {cs : List Char} (h : Escape e c)
    (hs : Spells bs cs) : Spells (e ++ bs) (c :: cs)

/-! ## Numbers -/

/-- The byte of a digit. -/
def digitByte (d : Fin 10) : UInt8 := .ofNat (48 + d)

/-- The exponent of a number as it is written: with a capital mark or not, with a sign (`true` for
minus) or not. -/
structure ExponentText where
  capital : Bool
  sign : Option Bool
  digits : List (Fin 10)
  digits_ne_nil : digits ≠ []

namespace ExponentText

variable (e : ExponentText)

def mark : UInt8 := if e.capital then 69 else 101

def signBytes : List UInt8 :=
  match e.sign with
  | none => []
  | some false => [43]
  | some true => [45]

def text : List UInt8 := e.mark :: e.signBytes ++ e.digits.map digitByte

/-- Whether the number is made smaller. -/
def down : Bool := e.sign = some true

def magnitude : Nat := e.digits.foldl (fun (n : Nat) (d : Fin 10) => n * 10 + d) 0

end ExponentText

/-- A number as it is written. It has a point iff there are digits after it. -/
structure NumberText where
  negative : Bool
  whole : List (Fin 10)
  fraction : List (Fin 10)
  exponent : Option ExponentText
  whole_eq : whole = [0] ∨ ∃ d ds, whole = d :: ds ∧ d ≠ 0

/-- The value of a number that is whole and fits 64 bits without its sign. Minus zero, and what does
not fit with the sign, is a real. -/
def wholeValue (negative : Bool) (n : Nat) : Value :=
  if negative = true ∧ (n = 0 ∨ 9223372036854775808 < n) then
    .real (.ofMagnitude true (double.ofNat n))
  else .whole (if negative then -n else n)

/-- A power of ten cut into powers that are finite in double precision: the largest such as often as
it takes, and then what is left. -/
def cut (n : Nat) : List Nat := List.replicate ((n - 1) / 308) 308 ++ [n - (n - 1) / 308 * 308]

/-- A magnitude divided by each power of ten that a power is cut into, and rounded each time. -/
def divided (m n : Nat) : Nat :=
  (cut n).foldl (fun m k => double.div m (double.ofNat (Nat.pow 10 k))) m

/-- The magnitude of `n * 10 ^ e`, where `n` and the powers of ten are rounded, and what comes of
them is rounded again; nothing if that is not finite. -/
def scale? (n : Nat) (e : Int) : Option Nat :=
  if e < 0 then some (divided (double.ofNat n) e.natAbs)
  else if n = 0 then some 0
  else if 308 < e then none
  else
    let m := double.mul (double.ofNat n) (double.ofNat (Nat.pow 10 e.natAbs))
    if m < double.infinity then some m else none

/-- Takes digits into a number for as long as it fits 64 bits, and says which digits are left. -/
def gather (n : Nat) : List (Fin 10) → Nat × List (Fin 10)
  | [] => (n, [])
  | d :: ds => if n * 10 + d ≤ 18446744073709551615 then gather (n * 10 + d) ds else (n, d :: ds)

namespace NumberText

variable (x : NumberText)

def signBytes : List UInt8 := if x.negative then [45] else []

def fractionBytes : List UInt8 :=
  if x.fraction = [] then [] else 46 :: x.fraction.map digitByte

def exponentBytes : List UInt8 := (x.exponent.map ExponentText.text).getD []

def text : List UInt8 :=
  x.signBytes ++ x.whole.map digitByte ++ x.fractionBytes ++ x.exponentBytes

/-- The whole digits, as far as they fit. -/
def wholes : Nat × List (Fin 10) := gather 0 x.whole

/-- All digits, as far as they fit. -/
def fractions : Nat × List (Fin 10) := gather x.wholes.1 x.fraction

/-- The number without its sign and exponent. Whole digits that are left count as powers of ten, and
other digits count if they are taken. -/
def scaled : Scaled :=
  ⟨x.fractions.1, x.wholes.2.length - (x.fraction.length - x.fractions.2.length : Int)⟩

/-- The value of a number that is in range. A number without fraction and exponent whose digits fit
is whole; all others are scaled, by an exponent that is kept within 32 bits. An exponent that does
not fit 32 bits as it is written is out of range unless it makes no difference. -/
def value? : Option Value :=
  match x.exponent with
  | none =>
    if x.fraction = [] ∧ x.wholes.2 = [] then some (wholeValue x.negative x.wholes.1)
    else (scale? x.scaled.significand x.scaled.exponent).map fun m =>
      .real (.ofMagnitude x.negative m)
  | some e =>
    if e.magnitude ≤ 2147483647 then
      let exponent := x.scaled.exponent + if e.down then -(e.magnitude : Int) else e.magnitude
      (scale? x.scaled.significand (max (-2147483648) (min exponent 2147483647))).map fun m =>
        .real (.ofMagnitude x.negative m)
    else if x.scaled.significand = 0 ∨ e.down then some (.real (.ofMagnitude x.negative 0))
    else none

end NumberText

/-! ## Values -/

/-- What is written. -/
inductive Phrase
  /-- A value. -/
  | value (v : Value)
  /-- A value with the space around it. -/
  | element (v : Value)
  /-- The elements of an array, the last one first. -/
  | items (vs : List Value)
  /-- A member of an object. -/
  | member (key : String) (v : Value)
  /-- The members of an object. -/
  | members (ms : Members)

/-- How something is written inside `d` arrays and objects. At most 127 may be open at once. -/
inductive Writes : Nat → Phrase → List UInt8 → Prop
  | null {d : Nat} : Writes d (.value .null) [110, 117, 108, 108]
  | yes {d : Nat} : Writes d (.value (.flag true)) [116, 114, 117, 101]
  | no {d : Nat} : Writes d (.value (.flag false)) [102, 97, 108, 115, 101]
  | number {d : Nat} {v : Value} (x : NumberText) (hv : x.value? = some v) :
    Writes d (.value v) x.text
  | text {d : Nat} {bs : List UInt8} {cs : List Char} (hs : Spells bs cs) :
    Writes d (.value (.text (.ofList cs))) (34 :: bs ++ [34])
  | emptyArray {d : Nat} {ws : List UInt8} (hd : d < 127) (hw : Blank ws) :
    Writes d (.value (.array [])) (91 :: ws ++ [93])
  | array {d : Nat} {vs : List Value} {bs : List UInt8} (hd : d < 127)
    (hs : Writes (d + 1) (.items vs) bs) : Writes d (.value (.array vs.reverse)) (91 :: bs ++ [93])
  | emptyObject {d : Nat} {ws : List UInt8} (hd : d < 127) (hw : Blank ws) :
    Writes d (.value (.object [])) (123 :: ws ++ [125])
  | object {d : Nat} {ms : Members} {bs : List UInt8} (hd : d < 127)
    (hs : Writes (d + 1) (.members ms) bs) : Writes d (.value (.object ms)) (123 :: bs ++ [125])
  | element {d : Nat} {v : Value} {l bs r : List UInt8} (hl : Blank l)
    (h : Writes d (.value v) bs) (hr : Blank r) : Writes d (.element v) (l ++ bs ++ r)
  | item {d : Nat} {v : Value} {bs : List UInt8} (h : Writes d (.element v) bs) :
    Writes d (.items [v]) bs
  | nextItem {d : Nat} {v : Value} {vs : List Value} {as bs : List UInt8}
    (hs : Writes d (.items vs) as) (h : Writes d (.element v) bs) :
    Writes d (.items (v :: vs)) (as ++ 44 :: bs)
  | member {d : Nat} {v : Value} {l ks r bs : List UInt8} {cs : List Char} (hl : Blank l)
    (hk : Spells ks cs) (hr : Blank r) (h : Writes d (.element v) bs) :
    Writes d (.member (.ofList cs) v) (l ++ (34 :: ks ++ [34]) ++ r ++ 58 :: bs)
  | firstMember {d : Nat} {key : String} {v : Value} {bs : List UInt8}
    (h : Writes d (.member key v) bs) : Writes d (.members (Dictionary.set [] key v)) bs
  | nextMember {d : Nat} {key : String} {v : Value} {ms : Members} {as bs : List UInt8}
    (hs : Writes d (.members ms) as) (h : Writes d (.member key v) bs) :
    Writes d (.members (ms.set key v)) (as ++ 44 :: bs)

/-- A byte string that is JSON: a value with space around it, and nothing else. -/
def IsJson (bs : List UInt8) : Prop := ∃ v, Writes 0 (.element v) bs

end TopicListeners.Payload.Grammar
