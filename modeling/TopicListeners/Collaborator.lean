import TopicListeners.Action
import TopicListeners.Message

/-!
# Collaborators

What a listener container delegates to. Each collaborator has a label, by which it is known in
descriptions, and acts in a state `σ` that all of a container's collaborators share. What most of
them do alike is a field with a default.

The standard collaborators need nothing from the application: one converts payloads of JSON, the
others log what was not processed and let the container go on.
-/

namespace TopicListeners

/-- A client that polls records. -/
structure Consumer (σ : Type) where
  subscribe : List String → Action σ (Except ClientError Unit)

/-- The name of the entry that says whether the client commits offsets on its own. -/
def autoCommitKey : String := "enable.auto.commit"

/-- Whether consumers with these entries commit on their own, as they do unless told otherwise. -/
def commitsAutomatically (entries : Dictionary String) : Bool :=
  match entries.get? autoCommitKey with
  | none => true
  | some s => s == "true"

/-- Provides the children of a container with consumers. -/
structure ConsumerProvider (σ : Type) where
  label : String
  /-- The entries that every consumer is made with. -/
  properties : Dictionary String
  /-- A new consumer, with a group and a client id that go before those of the entries if given. -/
  connect : Option String → Option String → Action σ (Except ClientError (Consumer σ))
  autoCommits : Bool := commitsAutomatically properties

/-- Makes messages of records. -/
structure Converter (σ : Type) where
  label : String
  convert : Record → Action σ (Except RecordError Message)

/-- The records that a filter does not discard, in order. -/
def keep {σ : Type} (discards : Record → Action σ Bool) : List Record → Action σ (List Record)
  | [] => pure []
  | r :: rs => do
    let gone ← discards r
    let kept ← keep discards rs
    pure (if gone then kept else r :: kept)

/-- Decides which records never reach the listener. -/
structure RecordFilter (σ : Type) where
  label : String
  discards : Record → Action σ Bool
  keepBatch : List Record → Action σ (List Record) := keep discards

/-- Sends what a listener returns. -/
structure ReplySender (σ : Type) where
  label : String
  defaultTopic : Option String
  /-- Sends to a topic, or to the default one, a key if there is one and a payload. -/
  send : Option String → Option Bytes → Bytes → Action σ (Except RecordError Unit)

/-- Puts a transaction around the handling of records. -/
structure Transactor (σ : Type) where
  label : String
  transactionalId : String
  begin : Action σ (Except RecordError Unit)
  commit : Action σ (Except RecordError Unit)
  rollback : Action σ (Except RecordError Unit)

/-- Is told when partitions come and go. -/
structure RebalanceWatcher (σ : Type) where
  label : String
  /-- Partitions are taken away; their offsets will be committed. -/
  beforeCommit : List TopicPartition → Action σ Unit := fun _ => pure ()
  /-- Partitions are taken away; their offsets have been committed. -/
  afterCommit : List TopicPartition → Action σ Unit := fun _ => pure ()
  /-- Partitions have come. -/
  assigned : List TopicPartition → Action σ Unit := fun _ => pure ()
  /-- Partitions are gone without a chance to commit. -/
  lost : List TopicPartition → Action σ Unit := fun ps => do
    beforeCommit ps
    afterCommit ps

/-- Handles records in turn, up to the first one that is not dealt with. -/
def handleInTurn {σ : Type} (handle : Record → Action σ Bool) : List Record → Action σ Unit
  | [] => pure ()
  | r :: rs => do
    let done ← handle r
    if done then handleInTurn handle rs else pure ()

/-- Handles what goes wrong in a listener. -/
structure ErrorHandler (σ : Type) where
  label : String
  /-- Whether the record was dealt with. -/
  handle : RecordError → Record → Action σ Bool
  handleAll : RecordError → List Record → Action σ Unit := fun e =>
    handleInTurn (handle e)
  /-- Whether the offset of a handled record is to be committed. -/
  acknowledgesHandled : Bool := true

/-- Is told about the records of a transaction that has been rolled back. -/
structure RollbackHandler (σ : Type) where
  label : String
  handle : List Record → RecordError → Action σ Unit
  inTransaction : Bool := false

/-- Sees each record before a listener does, and may withhold it. -/
structure RecordInspector (σ : Type) where
  label : String
  inspect : Record → Action σ (Option Record)
  succeeded : Record → Action σ Unit := fun _ => pure ()
  failed : Record → RecordError → Action σ Unit := fun _ _ => pure ()

/-- Sees each batch before a listener does, and may withhold it. -/
structure BatchInspector (σ : Type) where
  label : String
  inspect : List Record → Action σ (Option (List Record))
  succeeded : List Record → Action σ Unit := fun _ => pure ()
  failed : List Record → RecordError → Action σ Unit := fun _ _ => pure ()

/-! ## Standard collaborators -/

variable {σ : Type}

/-- Reads payloads as JSON. -/
def Converter.json : Converter σ where
  label := "JsonMessageConverter"
  convert r := pure (Message.ofRecord r)

/-- The values that say which record an event is about. -/
def Record.fields (r : Record) : List (String × String) :=
  [("topic", r.topic), ("partition", toString r.partition.toInt),
    ("offset", toString r.offset.toInt)]

/-- The event of a record that is passed over. -/
def skipping (e : RecordError) (r : Record) : Event :=
  ⟨.warn, "skipping record after listener error: " ++ e.message, r.fields⟩

/-- The event of a record that was rolled back. -/
def rolledBack (e : RecordError) (r : Record) : Event :=
  ⟨.error, "record not processed, transaction rolled back: " ++ e.message, r.fields⟩

/-- Logs every record and passes over it. -/
def ErrorHandler.logging : ErrorHandler σ where
  label := "LoggingErrorHandler"
  handle e r := do
    .emit (skipping e r)
    pure true

/-- Logs events, one after the other. -/
def Action.emitAll : List Event → Action σ Unit
  | [] => pure ()
  | e :: es => do
    Action.emit e
    emitAll es

/-- Logs every record that was rolled back. -/
def RollbackHandler.logging : RollbackHandler σ where
  label := "LoggingAfterRollbackProcessor"
  handle rs e := .emitAll (rs.map (rolledBack e))

end TopicListeners
