/-!
# Decimal digits and machine words

Natural numbers as runs of ASCII digits. A word of 32 or 64 bits is written as an optional plus sign
and the digits of a number that fits, a flag as exactly `true` or `false`.

* `readDigits?_toDigits`: the digits of a number read back as that number.
* `toNat_readWord32`: a word is the number that its digits denote.
-/

namespace TopicListeners.Numeral

/-- The number that a run of digits denotes; nothing for any other text, the empty one included. -/
def readDigits? (cs : List Char) : Option Nat :=
  if cs ≠ [] ∧ cs.all Char.isDigit then some (Nat.ofDigitChars 10 cs 0) else none

/-- As `readDigits?`, for numbers up to a bound. -/
def readUpTo? (limit : Nat) (cs : List Char) : Option Nat :=
  (readDigits? cs).filter (· ≤ limit)

/-- A text without the plus sign it may start with. -/
def dropPlus : List Char → List Char
  | '+' :: cs => cs
  | cs => cs

/-- The digits of a number read back as that number. -/
theorem readDigits?_toDigits (n : Nat) : readDigits? (Nat.toDigits 10 n) = some n := by
  have hd : (Nat.toDigits 10 n).all Char.isDigit := by
    simp only [List.all_eq_true]
    exact fun c hc => Nat.isDigit_of_mem_toDigits (by decide) (by decide) hc
  simp [readDigits?, Nat.toDigits_ne_nil, hd]

/-! ## Machine words and flags -/

/-- The largest 32-bit word. -/
def maxWord32 : Nat := 0xFFFFFFFF

/-- The largest 64-bit word. -/
def maxWord64 : Nat := 0xFFFFFFFFFFFFFFFF

/-- The 32-bit word that a text denotes. -/
def readWord32? (s : String) : Option UInt32 :=
  (readUpTo? maxWord32 (dropPlus s.toList)).map UInt32.ofNat

/-- The 64-bit word that a text denotes. -/
def readWord64? (s : String) : Option UInt64 :=
  (readUpTo? maxWord64 (dropPlus s.toList)).map UInt64.ofNat

/-- The flag that a text denotes. -/
def readFlag? : String → Option Bool
  | "true" => some true
  | "false" => some false
  | _ => none

/-- A word is the number that its digits denote. -/
theorem toNat_readWord32 {s : String} {w : UInt32} (h : readWord32? s = some w) :
    readDigits? (dropPlus s.toList) = some w.toNat := by
  simp only [readWord32?, readUpTo?, Option.map_eq_some_iff, Option.filter_eq_some_iff] at h
  obtain ⟨n, ⟨hn, hle⟩, rfl⟩ := h
  have hle : n ≤ maxWord32 := by simpa using hle
  rw [hn, UInt32.toNat_ofNat_of_lt' (Nat.lt_succ_of_le hle)]

end TopicListeners.Numeral
