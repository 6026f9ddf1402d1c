import TopicListeners.Text.Characters

/-!
# Modes of a listener

When consumed offsets are committed back to the broker, and whether a listener is handed one record
at a time or the records of a poll together; both with the texts that say so. A text is brought into
normal form first: blanks around it do not count, nor does the case of ASCII letters, and in an
acknowledgment mode hyphens stand for underscores. A text that names no mode is rejected in that
form.
-/

namespace TopicListeners

/-! ## Acknowledgment modes -/

/-- When consumed offsets are committed back to the broker. -/
inductive AckMode
  /-- After each record. -/
  | record
  /-- Once all records of a poll are processed. -/
  | batch
  /-- Once the acknowledgment time has passed since the last commit. -/
  | time
  /-- Once the acknowledgment count is reached. -/
  | count
  /-- On the time or the count, whichever comes first. -/
  | countTime
  /-- When the listener acknowledges, together with the next batch. -/
  | manual
  /-- When the listener acknowledges, right away. -/
  | manualImmediate
deriving DecidableEq, Repr

namespace AckMode

/-- The name of a mode in settings. -/
def toText : AckMode → String
  | record => "RECORD"
  | batch => "BATCH"
  | time => "TIME"
  | count => "COUNT"
  | countTime => "COUNT_TIME"
  | manual => "MANUAL"
  | manualImmediate => "MANUAL_IMMEDIATE"

/-- The name of a mode in log lines. -/
def describe : AckMode → String
  | record => "Record"
  | batch => "Batch"
  | time => "Time"
  | count => "Count"
  | countTime => "CountTime"
  | manual => "Manual"
  | manualImmediate => "ManualImmediate"

/-- The normal form of a text. -/
def normalize (s : String) : String :=
  String.ofList ((Text.trim s.toList).map fun c => if c = '-' then '_' else c.toUpper)

/-- The mode that a normal form names. -/
def ofNormal? : String → Option AckMode
  | "RECORD" => some record
  | "BATCH" => some batch
  | "TIME" => some time
  | "COUNT" => some count
  | "COUNT_TIME" => some countTime
  | "MANUAL" => some manual
  | "MANUAL_IMMEDIATE" => some manualImmediate
  | _ => none

/-- The mode that a text names, or else the normal form of the text. -/
def ofText (s : String) : Except String AckMode :=
  match ofNormal? (normalize s) with
  | some m => .ok m
  | none => .error (normalize s)

/-- The name of a mode is in normal form. -/
theorem normalize_toText (m : AckMode) : normalize m.toText = m.toText := by
  cases m <;> decide +kernel

theorem ofNormal?_toText (m : AckMode) : ofNormal? m.toText = some m := by
  cases m <;> rfl

end AckMode

/-! ## Delivery -/

/-- How records reach a listener. -/
inductive Delivery
  /-- One by one. -/
  | single
  /-- All records of a poll at once. -/
  | batch
deriving DecidableEq, Repr

namespace Delivery

/-- The name of a delivery in settings. -/
def toText : Delivery → String
  | single => "single"
  | batch => "batch"

/-- The normal form of a text. -/
def normalize (s : String) : String := String.ofList ((Text.trim s.toList).map Char.toLower)

/-- The delivery that a normal form names. -/
def ofNormal? : String → Option Delivery
  | "single" => some single
  | "record" => some single
  | "batch" => some batch
  | _ => none

/-- The delivery that a text names, or else the normal form of the text. -/
def ofText (s : String) : Except String Delivery :=
  match ofNormal? (normalize s) with
  | some d => .ok d
  | none => .error (normalize s)

end Delivery

end TopicListeners
