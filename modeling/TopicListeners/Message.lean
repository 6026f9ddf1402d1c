import TopicListeners.Topic.Record
import TopicListeners.Payload.Reader

/-!
# Messages and failures

What a listener is invoked with: a record whose payload has been read, and whose key has been
decoded leniently. And what can go wrong instead, with a record and between settings, a container
and its collaborators, with the wording of each.

* `ofRecord_absent`: a record without payload has no message.
-/

namespace TopicListeners

/-! ## Failures -/

/-- The states of a transactional producer that an operation may find it in. -/
inductive TransactionState
  | ready
  | inTransaction
deriving DecidableEq, Repr

namespace TransactionState

/-- The name of a state. -/
def describe : TransactionState → String
  | ready => "Ready"
  | inTransaction => "InTransaction"

end TransactionState

/-- What the client of the cluster reports. -/
inductive ClientError
  /-- Topics could not be subscribed to. -/
  | subscription (text : String)
  /-- A client could not be created. -/
  | creation (text : String)
  /-- A transaction was begun inside another, or ended outside any. -/
  | transactionState (found : TransactionState)
  /-- The cluster did not answer about a transaction in time. -/
  | transactionTimeout
  /-- A message could not be delivered in time. -/
  | deliveryTimeout
deriving DecidableEq, Repr

namespace ClientError

/-- The wording of a client error. -/
def message : ClientError → String
  | subscription text => "Subscription error: " ++ text
  | creation text => "Client creation error: " ++ text
  | transactionState found =>
    "Transaction error: Operation not valid in state " ++ found.describe
  | transactionTimeout =>
    "Transaction error: Timed out waiting for operation to finish, retry call to resume"
  | deliveryTimeout => "Message production error: MessageTimedOut (Local: Message timed out)"

end ClientError

/-- What goes wrong with a record, or with a reply to it. -/
inductive RecordError
  | client (e : ClientError)
  | payload (f : Payload.Fault)
  /-- A record without payload. -/
  | empty
  /-- A reply that names no topic, by a sender without a default one. -/
  | noReplyTopic
deriving DecidableEq, Repr

namespace RecordError

/-- The wording of a record error. -/
def message : RecordError → String
  | client e => "Kafka error: " ++ e.message
  | payload f => "Serde error: " ++ f.message
  | empty => "Received empty payload"
  | noReplyTopic => "no reply topic was given and the template has no default topic"

end RecordError

/-- Why a container cannot be built. -/
inductive BuildError
  /-- Nothing provides consumers. -/
  | noProvider
  /-- There is nothing to listen to. -/
  | noTopics
  /-- There would be no children. -/
  | concurrencyTooLow (n : UInt32)
deriving DecidableEq, Repr

namespace BuildError

/-- The wording of a build error. -/
def message : BuildError → String
  | noProvider =>
    "no consumer factory has been assigned to the listener container factory"
  | noTopics => "a listener container needs at least one topic"
  | concurrencyTooLow n => "container concurrency must be at least 1, got " ++ toString n.toNat

end BuildError

/-! ## Messages -/

/-- A record made ready for a listener. -/
structure Message where
  topic : String
  partition : Int32
  offset : Int64
  key : Option String
  payload : Payload.Value

namespace Message

/-- The text of a key. -/
def decodeKey (key : Bytes) : String := String.ofList (Text.Utf8.lenient key)

/-- The message of a record with a payload of JSON. -/
def ofRecord (r : Record) : Except RecordError Message :=
  match r.payload with
  | none => .error .empty
  | some bytes =>
    match Payload.read bytes with
    | .error f => .error (.payload f)
    | .ok v => .ok ⟨r.topic, r.partition, r.offset, r.key.map decodeKey, v⟩

/-- A record without payload has no message. -/
theorem ofRecord_absent {r : Record} (h : r.payload = none) : ofRecord r = .error .empty := by
  simp [ofRecord, h]

end Message

end TopicListeners
