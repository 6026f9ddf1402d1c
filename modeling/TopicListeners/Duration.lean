import TopicListeners.Text.Characters
import TopicListeners.Numeral.Digits

/-!
# Durations

Exact lengths of time, their text, and the whole milliseconds and seconds that settings hold.

A text is a run of digits and a unit in any case, with blanks around either. Without a unit the
reader's own unit is meant.

* `toNat_millis`, `toInt_wholeSeconds`: settings hold whole units, the most if there are too many.
-/

namespace TopicListeners

/-- A length of time, exact to the nanosecond. -/
structure Duration where
  nanoseconds : Nat
deriving DecidableEq, Repr

/-- The units in which a duration can be written. -/
inductive TimeUnit
  | nanosecond | microsecond | millisecond | second | minute | hour | day
deriving DecidableEq, Repr

namespace TimeUnit

/-- How many nanoseconds a unit has. -/
def nanoseconds : TimeUnit → Nat
  | nanosecond => 1
  | microsecond => 1000
  | millisecond => 1000000
  | second => 1000000000
  | minute => 60 * 1000000000
  | hour => 3600 * 1000000000
  | day => 86400 * 1000000000

/-- How many whole seconds a unit has; none for the units below the second. -/
def seconds : TimeUnit → Nat
  | minute => 60
  | hour => 3600
  | day => 86400
  | second => 1
  | _ => 0

/-- The unit of a lower-case text; the empty text stands for `bare`. -/
def ofText? (bare : TimeUnit) : List Char → Option TimeUnit
  | [] => some bare
  | ['n', 's'] => some nanosecond
  | ['u', 's'] => some microsecond
  | ['m', 's'] => some millisecond
  | ['s'] => some second
  | ['m'] => some minute
  | ['h'] => some hour
  | ['d'] => some day
  | _ => none

end TimeUnit

namespace Duration

/-- The largest number of units, and of seconds, that a text may denote. -/
def limit : Nat := Numeral.maxWord64

/-- The largest number of whole seconds that settings hold. -/
def maxSeconds : Nat := 0x7FFFFFFF

/-- A number of units. -/
def of (n : Nat) (unit : TimeUnit) : Duration := ⟨n * unit.nanoseconds⟩

/-- A number of milliseconds. -/
def ofMillis (n : Nat) : Duration := of n .millisecond

/-- No time at all. -/
def zero : Duration := ⟨0⟩

/-- The whole seconds. -/
def seconds (d : Duration) : Nat := d.nanoseconds / 1000000000

/-- The nanoseconds beyond the whole seconds. -/
def subsecond (d : Duration) : Nat := d.nanoseconds % 1000000000

/-- The whole milliseconds, or as many as a 64-bit word holds. -/
def millis (d : Duration) : UInt64 :=
  UInt64.ofNat (min (d.nanoseconds / 1000000) Numeral.maxWord64)

/-- The whole seconds, or as many as a signed 32-bit word holds. -/
def wholeSeconds (d : Duration) : Int32 := Int32.ofNat (min d.seconds maxSeconds)

/-- The duration that a text denotes, numbers without a unit counting `bare` units. -/
def read? (bare : TimeUnit) (s : String) : Option Duration := do
  let cs := Text.trim s.toList
  let amount ← Numeral.readUpTo? limit (cs.takeWhile Char.isDigit)
  let unit ← TimeUnit.ofText? bare
    ((Text.trim (cs.dropWhile Char.isDigit)).map Char.toLower)
  if amount * unit.seconds ≤ limit then some (of amount unit) else none

/-! ## Description -/

/-- The digits of `n` after a point, `places` of them, without the zeros at the end. -/
def fraction (n places : Nat) : List Char :=
  let ds := Nat.toDigits 10 n
  let all := List.replicate (places - ds.length) '0' ++ ds
  match (all.reverse.dropWhile (· = '0')).reverse with
  | [] => []
  | kept => '.' :: kept

/-- A duration in the largest of seconds, milliseconds, microseconds and nanoseconds that it has a
whole one of. -/
def describe (d : Duration) : String :=
  let n := d.nanoseconds
  let written (unit places : Nat) (name : String) :=
    toString (n / unit) ++ String.ofList (fraction (n % unit) places) ++ name
  if 1000000000 ≤ n then written 1000000000 9 "s"
  else if 1000000 ≤ n then written 1000000 6 "ms"
  else if 1000 ≤ n then written 1000 3 "µs"
  else written 1 0 "ns"

/-- Settings hold the whole milliseconds, the largest number of them if there are too many. -/
theorem toNat_millis (d : Duration) :
    d.millis.toNat = min (d.nanoseconds / 1000000) Numeral.maxWord64 := by
  rw [millis, UInt64.toNat_ofNat']
  exact Nat.mod_eq_of_lt (by simp only [Numeral.maxWord64]; omega)

/-- Settings hold the whole seconds, the largest number of them if there are too many. -/
theorem toInt_wholeSeconds (d : Duration) :
    d.wholeSeconds.toInt = min d.seconds maxSeconds := by
  have h : min d.seconds maxSeconds < 0x80000000 := by simp only [maxSeconds]; omega
  rw [wholeSeconds, Int32.toInt_ofNat_of_lt h]

end Duration

end TopicListeners
