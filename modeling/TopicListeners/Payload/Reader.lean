import TopicListeners.Payload.Number
import TopicListeners.Payload.Literal

/-!
# Reading payloads

A payload is read in one sweep over its bytes. The state is what has been read of the innermost
open array or object and what may come next (`Mode`), under the stack of the ones around it. A
fault is found at one byte and depends on the bytes up to it only; what is missing at the end is
found at the end.

* `run_append`: reading a payload that goes on is reading on.
-/

namespace TopicListeners.Payload

/-- An array or object in which a value is being read. -/
inductive Frame
  /-- An array, with the elements before that value, the last one first. -/
  | array (items : List Value)
  /-- An object, with the members before that value and its key. -/
  | object (members : Members) (key : String)

/-- What may come next. -/
inductive Mode
  /-- A value, at the start or after a colon. -/
  | value
  /-- An element or the closing bracket, after the opening one. -/
  | firstItem
  /-- An element, after a comma. -/
  | nextItem (items : List Value)
  /-- A comma or the closing bracket. -/
  | afterItem (items : List Value)
  /-- A key or the closing brace, after the opening one. -/
  | firstKey
  /-- A key, after a comma. -/
  | nextKey (members : Members)
  /-- The rest of a key. -/
  | key (members : Members) (p : Literal.Progress)
  /-- A colon. -/
  | colon (members : Members) (key : String)
  /-- A comma or the closing brace. -/
  | afterMember (members : Members)
  /-- The rest of a word, which stands for a value. -/
  | word (next : UInt8) (rest : List UInt8) (v : Value)
  /-- The rest of a number. -/
  | number (negative : Bool) (s : Number.Stage)
  /-- The rest of a string. -/
  | text (p : Literal.Progress)
  /-- The end. -/
  | ended (v : Value)

/-- How far a payload has been read. -/
structure State where
  stack : List Frame
  mode : Mode

/-- A reason, and how many bytes before the end of what has been read it is blamed on. -/
structure Complaint where
  reason : Reason
  back : Nat
deriving DecidableEq, Repr

/-- A complaint about the byte just read. -/
abbrev complain (r : Reason) : Except Complaint State := .error ⟨r, 0⟩

/-- The bytes between values that mean nothing. -/
def isSpace (b : UInt8) : Bool := b = 32 || b = 10 || b = 9 || b = 13

/-- How many arrays and objects may be open at once. -/
def maxDepth : Nat := 127

namespace State

/-- Nothing has been read. -/
def start : State := ⟨[], .value⟩

/-- A value has ended. -/
def settle (stack : List Frame) (v : Value) : State :=
  match stack with
  | [] => ⟨[], .ended v⟩
  | .array items :: outer => ⟨outer, .afterItem (v :: items)⟩
  | .object members key :: outer => ⟨outer, .afterMember (members.set key v)⟩

/-- An array or object starts. -/
def enter (stack : List Frame) (mode : Mode) : Except Complaint State :=
  if stack.length < maxDepth then .ok ⟨stack, mode⟩ else complain .nestedTooDeep

/-- A value starts with the byte `b`. -/
def begin (stack : List Frame) (b : UInt8) : Except Complaint State :=
  if b = 34 then .ok ⟨stack, .text Literal.start⟩
  else if b = 91 then enter stack .firstItem
  else if b = 123 then enter stack .firstKey
  else if b = 45 then .ok ⟨stack, .number true .minus⟩
  else if b = 110 then .ok ⟨stack, .word 117 [108, 108] .null⟩
  else if b = 116 then .ok ⟨stack, .word 114 [117, 101] (.flag true)⟩
  else if b = 102 then .ok ⟨stack, .word 97 [108, 115, 101] (.flag false)⟩
  else match Number.digit? b with
    | some 0 => .ok ⟨stack, .number false .zero⟩
    | some d => .ok ⟨stack, .number false (.whole d)⟩
    | none => complain .valueExpected

/-- What a byte between values, other than a space, does. -/
def between (s : State) (b : UInt8) : Except Complaint State :=
  match s.mode with
  | .value => begin s.stack b
  | .firstItem =>
    if b = 93 then .ok (settle s.stack (.array [])) else begin (.array [] :: s.stack) b
  | .nextItem items => if b = 93 then complain .trailingComma else begin (.array items :: s.stack) b
  | .afterItem items =>
    if b = 44 then .ok ⟨s.stack, .nextItem items⟩
    else if b = 93 then .ok (settle s.stack (.array items.reverse))
    else complain .commaOrBracketExpected
  | .firstKey =>
    if b = 34 then .ok ⟨s.stack, .key [] Literal.start⟩
    else if b = 125 then .ok (settle s.stack (.object []))
    else complain .keyExpected
  | .nextKey members =>
    if b = 34 then .ok ⟨s.stack, .key members Literal.start⟩
    else if b = 125 then complain .trailingComma
    else complain .keyExpected
  | .colon members key =>
    if b = 58 then .ok ⟨.object members key :: s.stack, .value⟩ else complain .colonExpected
  | .afterMember members =>
    if b = 44 then .ok ⟨s.stack, .nextKey members⟩
    else if b = 125 then .ok (settle s.stack (.object members))
    else complain .commaOrBraceExpected
  | .ended _ => complain .trailingCharacters
  | .key _ _ | .word _ _ _ | .number _ _ | .text _ => .ok s

/-- What a byte between values does. -/
def pass (s : State) (b : UInt8) : Except Complaint State :=
  if isSpace b then .ok s else between s b

/-- What a byte does. A byte after a number is read again once the number has been settled, and a
number out of range is blamed on what comes before that byte. -/
def step (s : State) (b : UInt8) : Except Complaint State :=
  match s.mode with
  | .word next rest v =>
    if b ≠ next then complain .wordExpected
    else match rest with
      | [] => .ok (settle s.stack v)
      | next :: rest => .ok ⟨s.stack, .word next rest v⟩
  | .number negative n =>
    match Number.step n b with
    | .more n => .ok ⟨s.stack, .number negative n⟩
    | .fault r => complain r
    | .ends =>
      match Number.finish negative n with
      | .ok v => pass (settle s.stack v) b
      | .error r => .error ⟨r, 1⟩
  | .text p =>
    match Literal.step p b with
    | .more p => .ok ⟨s.stack, .text p⟩
    | .ends t => .ok (settle s.stack (.text t))
    | .fault r back => .error ⟨r, back⟩
  | .key members p =>
    match Literal.step p b with
    | .more p => .ok ⟨s.stack, .key members p⟩
    | .ends t => .ok ⟨s.stack, .colon members t⟩
    | .fault r back => .error ⟨r, back⟩
  | _ => pass s b

/-- The end between values. -/
def close (s : State) : Except Reason Value :=
  match s.mode with
  | .value | .nextItem _ | .nextKey _ | .word _ _ _ | .number _ _ => .error .endInValue
  | .firstItem | .afterItem _ => .error .endInArray
  | .firstKey | .colon _ _ | .afterMember _ => .error .endInObject
  | .key _ _ | .text _ => .error .endInString
  | .ended v => .ok v

/-- The end. -/
def finish (s : State) : Except Reason Value :=
  match s.mode with
  | .number negative n =>
    match Number.finish negative n with
    | .ok v => close (settle s.stack v)
    | .error r => .error r
  | _ => close s

end State

/-- Reads on from a state, with the reason of a fault and how many of the bytes it is blamed on,
`n` bytes having been read before. -/
def run (s : State) (n : Nat) : List UInt8 → Except (Reason × Nat) Value
  | [] =>
    match s.finish with
    | .ok v => .ok v
    | .error r => .error (r, n)
  | b :: bs =>
    match s.step b with
    | .ok s => run s (n + 1) bs
    | .error c => .error (c.reason, n + 1 - c.back)

/-- The value that a payload holds. -/
def read (bytes : List UInt8) : Except Fault Value :=
  match run State.start 0 bytes with
  | .ok v => .ok v
  | .error (r, n) => .error (Fault.locate r (bytes.take n))

/-- The states that a payload leads to, unless it is at fault. -/
def advance (s : State) : List UInt8 → Option State
  | [] => some s
  | b :: bs =>
    match s.step b with
    | .ok s => advance s bs
    | .error _ => none

/-- Reading a payload that goes on is reading on. -/
theorem run_append {s t : State} {n : Nat} {p q : List UInt8} (h : advance s p = some t) :
    run s n (p ++ q) = run t (n + p.length) q := by
  induction p generalizing s n with
  | nil => simp only [advance, Option.some.injEq] at h; simp [h]
  | cons b p ih =>
    simp only [advance] at h
    split at h
    · rename_i s' hs
      simp only [List.cons_append, run, hs]
      rw [ih h]
      simp [Nat.add_assoc, Nat.add_comm 1]
    · simp at h

end TopicListeners.Payload
