import TopicListeners.Payload.Value

/-!
# Numbers in payloads

A number is read digit by digit. Digits go into a significand as long as it fits 64 bits; whole
digits beyond that each count as a power of ten, and digits after the point that no longer fit are
dropped. The value is the significand, rounded to double precision, then multiplied or divided by
the power of ten, rounded again.
-/

namespace TopicListeners.Payload

open Numeral

/-- A significand and the power of ten that it is to be multiplied by. -/
structure Scaled where
  significand : Nat
  exponent : Int
deriving DecidableEq, Repr

namespace Scaled

/-- The magnitude of a power of ten. -/
def power (n : Nat) : Nat := double.ofNat (Nat.pow 10 n)

/-- The largest exponent whose power of ten is a finite number. -/
def maxPower : Nat := 308

/-- A magnitude divided by a power of ten, by the largest finite one for as long as it takes. -/
def shrink (m n : Nat) : Nat :=
  if n ≤ maxPower then double.div m (power n)
  else if m = 0 then 0
  else shrink (double.div m (power maxPower)) (n - maxPower)
termination_by n
decreasing_by simp only [maxPower] at *; omega

/-- The magnitude of a scaled significand; nothing if it is not finite. -/
def magnitude? (s : Scaled) : Option Nat :=
  let m := double.ofNat s.significand
  match s.exponent with
  | .ofNat n =>
    if n ≤ maxPower then
      let product := double.mul m (power n)
      if product < double.infinity then some product else none
    else if m = 0 then some 0
    else none
  | .negSucc n => some (shrink m (n + 1))

/-- A scaled significand times a power of ten, the exponent kept within 32 bits. -/
def shift (s : Scaled) (e : Int) : Scaled :=
  ⟨s.significand, max (-2147483648) (min (s.exponent + e) 2147483647)⟩

end Scaled

namespace Number

/-- The largest significand. -/
def significandLimit : Nat := 18446744073709551615

/-- The largest absolute value of a negative whole number. -/
def negativeLimit : Nat := 9223372036854775808

/-- The largest explicit exponent. -/
def exponentLimit : Nat := 2147483647

/-- How far a number has been read, its sign aside. -/
inductive Stage
  /-- Nothing but a minus sign. -/
  | minus
  /-- A zero, after which no digit may come. -/
  | zero
  /-- Whole digits that fit. -/
  | whole (significand : Nat)
  /-- More whole digits than fit. -/
  | long (s : Scaled)
  /-- The point has just come. -/
  | point (s : Scaled)
  /-- Digits after the point. -/
  | fraction (s : Scaled)
  /-- Digits after the point that are dropped. -/
  | spilled (s : Scaled)
  /-- The mark of an exponent has just come. -/
  | mark (s : Scaled)
  /-- The sign of an exponent has just come. -/
  | signed (s : Scaled) (down : Bool)
  /-- Digits of an exponent. -/
  | power (s : Scaled) (down : Bool) (n : Nat)
  /-- More digits of an exponent than fit, of a number that is zero all the same. -/
  | vanished
deriving DecidableEq, Repr

/-- The digit that a byte stands for. -/
def digit? (b : UInt8) : Option Nat :=
  if 48 ≤ b ∧ b ≤ 57 then some (b.toNat - 48) else none

/-- What a byte does to a number. -/
inductive Step
  /-- It belongs to the number. -/
  | more (s : Stage)
  /-- It comes after the number. -/
  | ends
  /-- The number is at fault. -/
  | fault (r : Reason)
deriving DecidableEq, Repr

/-- A byte after whole digits. -/
def afterWhole (s : Scaled) (b : UInt8) : Step :=
  if b = 46 then .more (.point s)
  else if b = 101 ∨ b = 69 then .more (.mark s)
  else .ends

/-- A byte after digits of the fraction. -/
def afterFraction (s : Scaled) (b : UInt8) : Step :=
  if b = 101 ∨ b = 69 then .more (.mark s) else .ends

/-- One more whole digit. -/
def addWhole (n d : Nat) : Stage :=
  if n * 10 + d ≤ significandLimit then .whole (n * 10 + d) else .long ⟨n, 1⟩

/-- One more digit after the point. -/
def addFraction (s : Scaled) (d : Nat) : Stage :=
  if s.significand * 10 + d ≤ significandLimit
  then .fraction ⟨s.significand * 10 + d, s.exponent - 1⟩
  else .spilled s

/-- One more digit of the exponent. -/
def addPower (s : Scaled) (down : Bool) (n d : Nat) : Step :=
  if n * 10 + d ≤ exponentLimit then .more (.power s down (n * 10 + d))
  else if s.significand ≠ 0 ∧ down = false then .fault .numberOutOfRange
  else .more .vanished

/-- What a digit does to a number at some stage. -/
def digitStep (s : Stage) (d : Nat) : Step :=
  match s with
  | .minus => .more (if d = 0 then .zero else .whole d)
  | .zero => .fault .invalidNumber
  | .whole n => .more (addWhole n d)
  | .long s => .more (.long ⟨s.significand, s.exponent + 1⟩)
  | .point s => .more (addFraction s d)
  | .fraction s => .more (addFraction s d)
  | .spilled s => .more (.spilled s)
  | .mark s => .more (.power s false d)
  | .signed s down => .more (.power s down d)
  | .power s down n => addPower s down n d
  | .vanished => .more .vanished

/-- What a byte that is no digit does to a number at some stage. -/
def otherStep (s : Stage) (b : UInt8) : Step :=
  match s with
  | .minus => .fault .invalidNumber
  | .zero => afterWhole ⟨0, 0⟩ b
  | .whole n => afterWhole ⟨n, 0⟩ b
  | .long s => afterWhole s b
  | .point _ => .fault .invalidNumber
  | .fraction s => afterFraction s b
  | .spilled s => afterFraction s b
  | .mark s =>
    if b = 43 then .more (.signed s false)
    else if b = 45 then .more (.signed s true)
    else .fault .invalidNumber
  | .signed _ _ => .fault .invalidNumber
  | .power _ _ _ => .ends
  | .vanished => .ends

/-- What a byte does to a number at some stage. -/
def step (s : Stage) (b : UInt8) : Step :=
  match digit? b with
  | some d => digitStep s d
  | none => otherStep s b

/-- The double-precision value of a scaled significand. -/
def real (negative : Bool) (s : Scaled) : Except Reason Value :=
  match s.magnitude? with
  | some m => .ok (.real (Double.ofMagnitude negative m))
  | none => .error .numberOutOfRange

/-- The value of a number without fraction and exponent. A negative one that does not fit 64 bits,
zero included, is double-precision. -/
def integer (negative : Bool) (n : Nat) : Value :=
  if negative then
    if n = 0 ∨ negativeLimit < n then .real (Double.ofMagnitude true (double.ofNat n)) else .whole (-n)
  else .whole n

/-- The value of a number that has ended. -/
def finish (negative : Bool) : Stage → Except Reason Value
  | .minus | .point _ | .mark _ | .signed _ _ => .error .endInValue
  | .zero => .ok (integer negative 0)
  | .whole n => .ok (integer negative n)
  | .long s | .fraction s | .spilled s => real negative s
  | .power s down n => real negative (s.shift (if down then -n else n))
  | .vanished => .ok (.real (Double.ofMagnitude negative 0))

end Number

end TopicListeners.Payload
