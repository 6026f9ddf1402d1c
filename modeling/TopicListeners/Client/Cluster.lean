import TopicListeners.Client.Entries
import TopicListeners.Topic.Subscription
import TopicListeners.Text.Description

/-!
# Collaborators of a cluster

The collaborators whose counterpart is a cluster: senders of replies, transactors and providers of
consumers. What clients can see of a cluster is whether it answers, how many messages its topics
hold, which transactions are running and with which entries consumers have been made.

A sender of replies and a consumer can be made whether or not the cluster answers. A transactor
cannot.

* `consumers_connect`: a consumer is made with the entries of its group and client id.
-/

namespace TopicListeners

/-- A cluster, as far as its clients can see it. -/
structure Cluster where
  answers : Bool
  /-- How many messages each topic holds. Topics have one partition. -/
  topics : Dictionary Nat
  /-- The transactional producers that are inside a transaction. -/
  running : List String
  /-- The entries of the consumers that have been made, in order. -/
  consumers : List (Dictionary String)
deriving Repr

namespace Cluster

/-- A cluster with empty topics, which answers or does not. -/
def ofTopics (answers : Bool) (topics : List String) : Cluster :=
  ⟨answers, .ofEntries (topics.map fun t => (t, 0)), [], []⟩

/-- A cluster that never answers. -/
def unreachable : Cluster := ofTopics false []

end Cluster

open Text

namespace ReplySender

/-- The description of a sender of replies. -/
def describeSender (defaultTopic : Option String) (timeout : Duration) : String :=
  describePart "KafkaReplyTemplate"
    [("default_topic", describeOption (defaultTopic.map quoted)), ("timeout", timeout.describe)]

/-- The event of a reply that has arrived. -/
def sent (topic : String) (offset : Nat) : Event :=
  ⟨.debug, "sent listener reply",
    [("topic", topic), ("partition", "0"), ("offset", toString offset)]⟩

/-- Puts a message at the end of a topic. -/
def deliver (topic : String) : Action Cluster (Except RecordError Unit) := do
  let cluster ← Action.get
  if cluster.answers then
    let offset := (cluster.topics.get? topic).getD 0
    .modify fun c => { c with topics := c.topics.set topic (offset + 1) }
    .emit (sent topic offset)
    pure (.ok ())
  else pure (.error (.client .deliveryTimeout))

/-- Sends replies to a cluster. -/
def ofBroker (b : BrokerSettings) (defaultTopic : Option String) : ReplySender Cluster where
  label := describeSender defaultTopic (.ofMillis b.messageTimeout.toNat)
  defaultTopic := defaultTopic
  send topic _ _ :=
    match topic.or defaultTopic with
    | none => pure (.error .noReplyTopic)
    | some t => deliver t

end ReplySender

namespace Transactor

/-- The description of a transactor. -/
def describeTransactor (transactionalId : String) (timeout : Duration) : String :=
  describePart "KafkaTransactionManager"
    [("transactional_id", quoted transactionalId), ("timeout", timeout.describe)]

/-- The state that a transactional producer is in. -/
def stateOf (c : Cluster) (transactionalId : String) : TransactionState :=
  if transactionalId ∈ c.running then .inTransaction else .ready

/-- Goes from one state to another; any other state to start from is an error. -/
def move (transactionalId : String) (source : TransactionState) (f : List String → List String) :
    Action Cluster (Except RecordError Unit) := do
  let found := stateOf (← Action.get) transactionalId
  if found = source then
    .modify fun c => { c with running := f c.running }
    pure (.ok ())
  else pure (.error (.client (.transactionState found)))

/-- Begins a transaction. -/
def enter (transactionalId : String) : Action Cluster (Except RecordError Unit) :=
  move transactionalId .ready (transactionalId :: ·)

/-- Ends a transaction. -/
def leave (transactionalId : String) : Action Cluster (Except RecordError Unit) :=
  move transactionalId .inTransaction (·.filter (· ≠ transactionalId))

/-- The transactor of a transactional producer. -/
def ofId (transactionalId : String) (timeout : Duration) : Transactor Cluster where
  label := describeTransactor transactionalId timeout
  transactionalId := transactionalId
  begin := enter transactionalId
  commit := leave transactionalId
  rollback := leave transactionalId

/-- Registers a transactional producer with the cluster, which has to answer for that. -/
def register (transactionalId : String) (timeout : Duration) :
    Action Cluster (Except ClientError (Transactor Cluster)) := do
  let cluster ← Action.get
  if cluster.answers then
    .modify fun c => { c with running := c.running.filter (· ≠ transactionalId) }
    .emit ⟨.info, "initialized transactional producer", [("transactional_id", transactionalId)]⟩
    pure (.ok (ofId transactionalId timeout))
  else pure (.error .transactionTimeout)

end Transactor

/-- Provides consumers with the entries of a consumer client. -/
def ConsumerClient.provider (c : ConsumerClient) : ConsumerProvider Cluster where
  label := "KafkaConsumerFactory"
  properties := c.properties
  connect group clientId := do
    .modify fun cluster =>
      { cluster with consumers := cluster.consumers ++ [c.entries group clientId] }
    pure (.ok (.ofGroup (((c.entries group clientId).get? groupKey).getD "")))

/-- A consumer is made with the entries of its group and client id. -/
theorem consumers_connect (c : ConsumerClient) (group clientId : Option String)
    (cluster : Cluster) :
    ((c.provider.connect group clientId).run cluster).state.consumers =
      cluster.consumers ++ [c.entries group clientId] := rfl

end TopicListeners
