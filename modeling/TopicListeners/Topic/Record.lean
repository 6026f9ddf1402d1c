import TopicListeners.Dictionary

/-!
# Records

What a consumer polls, and the copy of it that collaborators work on. A record comes from a
partition of a topic; partitions are in the order of the topics' bytes and then of their numbers.

* `topicPartition_eq_iff`: the partition of a record is its topic and number, nothing else.
-/

namespace TopicListeners

/-! ## Partitions -/

/-- A partition of a topic. -/
structure TopicPartition where
  topic : String
  partition : Int32
deriving DecidableEq, Repr

namespace TopicPartition

/-- The order of partitions: by topic, then by number. -/
def order : TopicPartition → TopicPartition → Ordering :=
  compareLex (fun p q => Text.Utf8.order p.topic q.topic) (compareOn TopicPartition.partition)

/-- Partitions in order, each once. -/
def sorted (ps : List TopicPartition) : List TopicPartition := Sorted.ofList order ps

/-- How many different partitions there are. -/
def count (ps : List TopicPartition) : Nat := ps.eraseDups.length

/-- A partition as topic and number. -/
def describe (p : TopicPartition) : String := p.topic ++ "/" ++ toString p.partition.toInt

end TopicPartition

/-! ## Records -/

/-- A sequence of bytes. -/
abbrev Bytes := List UInt8

/-- When a record was written, in milliseconds, and by whose clock. -/
inductive Timestamp
  | unavailable
  /-- By the clock of its producer. -/
  | created (millis : Int64)
  /-- By the clock of the broker. -/
  | appended (millis : Int64)
deriving DecidableEq, Repr

/-- The milliseconds of a timestamp. Minus one stands for none. -/
def Timestamp.millis? : Timestamp → Option Int64
  | unavailable => none
  | created n | appended n => if n = -1 then none else some n

/-- A record as the client hands it out. -/
structure PolledRecord where
  topic : String
  partition : Int32
  offset : Int64
  key : Option Bytes
  payload : Option Bytes
  timestamp : Timestamp
deriving DecidableEq, Repr

/-- A record on its own. -/
structure Record where
  topic : String
  partition : Int32
  offset : Int64
  key : Option Bytes
  payload : Option Bytes
  timestamp : Option Int64
deriving DecidableEq, Repr

namespace Record

/-- A copy of a polled record. -/
def ofPolled (r : PolledRecord) : Record where
  topic := r.topic
  partition := r.partition
  offset := r.offset
  key := r.key
  payload := r.payload
  timestamp := r.timestamp.millis?

/-- Where a record comes from. -/
def topicPartition (r : Record) : TopicPartition := ⟨r.topic, r.partition⟩

/-- The partition of a record is its topic and number, nothing else. -/
theorem topicPartition_eq_iff (r s : Record) :
    r.topicPartition = s.topicPartition ↔ r.topic = s.topic ∧ r.partition = s.partition := by
  simp [topicPartition]

end Record

end TopicListeners
