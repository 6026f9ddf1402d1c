import TopicListeners.Payload.Value

/-!
# Strings in payloads

A string is read byte by byte up to its closing quote. Escapes are replaced on the way; that the
bytes are UTF-8 is checked at the end.

* `step_quote`: outside an escape a quote ends the string.
-/

namespace TopicListeners.Payload.Literal

open Text

/-- How far an escape has been read. -/
inductive Stage
  /-- Not inside an escape. -/
  | plain
  /-- The backslash has just come. -/
  | escape
  /-- Hexadecimal digits, after a leading surrogate if there is one. -/
  | hex (lead : Option Nat) (digits : List UInt8)
  /-- A leading surrogate that waits for a backslash. -/
  | lead (n : Nat)
  /-- A leading surrogate that waits for the `u` after a backslash. -/
  | leadEscape (n : Nat)
deriving DecidableEq, Repr

/-- A string read so far: its bytes, the last one first, and the escape that is open. -/
structure Progress where
  bytes : List UInt8
  stage : Stage
deriving DecidableEq, Repr

/-- A string of which only the opening quote has come. -/
def start : Progress := ⟨[], .plain⟩

/-- What a byte does to a string. -/
inductive Step
  /-- It belongs to the string. -/
  | more (p : Progress)
  /-- It is the closing quote. -/
  | ends (s : String)
  /-- The string is at fault, this many bytes before the end of what has been read. -/
  | fault (r : Reason) (back : Nat)
deriving DecidableEq, Repr

/-- The byte that a short escape stands for. -/
def short? (b : UInt8) : Option UInt8 :=
  if b = 34 ∨ b = 92 ∨ b = 47 then some b
  else if b = 98 then some 8
  else if b = 102 then some 12
  else if b = 110 then some 10
  else if b = 114 then some 13
  else if b = 116 then some 9
  else none

/-- The value of a hexadecimal digit. -/
def hexDigit? (b : UInt8) : Option Nat :=
  if 48 ≤ b ∧ b ≤ 57 then some (b.toNat - 48)
  else if 97 ≤ b ∧ b ≤ 102 then some (b.toNat - 87)
  else if 65 ≤ b ∧ b ≤ 70 then some (b.toNat - 55)
  else none

/-- The number that hexadecimal digits denote. -/
def hexNumber? (digits : List UInt8) : Option Nat :=
  (digits.mapM hexDigit?).map fun ds => ds.foldl (fun n d => n * 16 + d) 0

/-- A string with one more character. -/
def Progress.push (p : Progress) (c : Char) : Progress :=
  ⟨(String.utf8EncodeChar c).reverse ++ p.bytes, .plain⟩

/-- The code point of two surrogates. -/
def joinSurrogates (lead trail : Nat) : Nat := 0x10000 + (lead - 0xD800) * 0x400 + (trail - 0xDC00)

/-- A complete hexadecimal escape. -/
def hexEnds (p : Progress) (lead : Option Nat) (n : Nat) : Step :=
  let isTrail : Bool := 0xDC00 ≤ n && n ≤ 0xDFFF
  match lead with
  | none =>
    if isTrail then .fault .loneSurrogate 0
    else if 0xD800 ≤ n ∧ n ≤ 0xDBFF then .more ⟨p.bytes, .lead n⟩
    else .more (p.push (Char.ofNat n))
  | some m =>
    if isTrail then .more (p.push (Char.ofNat (joinSurrogates m n))) else .fault .loneSurrogate 0

/-- The closing quote. -/
def close (p : Progress) : Step :=
  match Utf8.decode p.bytes.reverse with
  | .ok cs => .ends (String.ofList cs)
  | .error rest => .fault .invalidText rest.length

/-- What a byte does to a string. -/
def step (p : Progress) (b : UInt8) : Step :=
  match p.stage with
  | .plain =>
    if b = 34 then close p
    else if b = 92 then .more ⟨p.bytes, .escape⟩
    else if b < 32 then .fault .controlCharacter 0
    else .more ⟨b :: p.bytes, .plain⟩
  | .escape =>
    if b = 117 then .more ⟨p.bytes, .hex none []⟩
    else match short? b with
      | some c => .more ⟨c :: p.bytes, .plain⟩
      | none => .fault .invalidEscape 0
  | .hex lead digits =>
    let digits := digits ++ [b]
    if digits.length < 4 then .more ⟨p.bytes, .hex lead digits⟩
    else match hexNumber? digits with
      | some n => hexEnds p lead n
      | none => .fault .invalidEscape 0
  | .lead n => if b = 92 then .more ⟨p.bytes, .leadEscape n⟩ else .fault .endOfEscape 0
  | .leadEscape n => if b = 117 then .more ⟨p.bytes, .hex (some n) []⟩ else .fault .endOfEscape 0

/-- Outside an escape a quote ends the string. -/
theorem step_quote (bytes : List UInt8) : step ⟨bytes, .plain⟩ 34 = close ⟨bytes, .plain⟩ := rfl

end TopicListeners.Payload.Literal
