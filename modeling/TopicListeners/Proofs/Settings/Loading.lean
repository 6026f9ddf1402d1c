import TopicListeners.Settings.Deployment

/-!
# Loading settings

What a loader makes of an environment, in closed form. A loader *gives* a value for each
environment if its only error is the first of its variables, in order, that cannot be read, and if
without one it has that value.

* `Gives.seq`: two loaders one after the other give what both give, and the error of the first goes
  first.
* `Deployment.reads_loader`: the variables of a deployment, in order.
* `Deployment.loader_gives`: **loading a deployment** is reading each variable on its own.
-/

namespace TopicListeners

/-- What the variable of a name says, if it is there and can be read. -/
def Environment.value {α : Type} (env : Environment) (name : String) (read : String → Option α) :
    Option α := (env name).bind read

/-- Whether an environment does without a variable or has a text for it that can be read. -/
def Variable.accepts (v : Variable) (env : Environment) : Bool := (env v.name).all v.readable

/-- The first variable that cannot be read. -/
def Environment.firstUnreadable (env : Environment) (vs : List Variable) : Option Variable :=
  vs.find? fun v => !v.accepts env

theorem Environment.firstUnreadable_append (env : Environment) (vs ws : List Variable) :
    env.firstUnreadable (vs ++ ws) = (env.firstUnreadable vs).or (env.firstUnreadable ws) :=
  List.find?_append

/-- Every variable can be read if there is no first one that cannot. -/
theorem Environment.firstUnreadable_eq_none {env : Environment} {vs : List Variable} :
    env.firstUnreadable vs = none ↔ ∀ v ∈ vs, v.accepts env := by
  simp [firstUnreadable]

namespace Loader

variable {α β : Type}

/-- **What a loader gives**: the values `f`, or the first variable that cannot be read. -/
def Gives (l : Loader α) (f : Environment → α) : Prop :=
  ∀ env : Environment, l.run env =
    match env.firstUnreadable l.reads with
    | some v => .error ⟨v.name⟩
    | none => .ok (f env)

theorem Gives.optional (name : String) (read : String → Option α) :
    Gives (optional name read) fun env => env.value name read := by
  intro env
  rw [run_optional]
  simp only [Loader.optional, Environment.firstUnreadable, Variable.accepts, Environment.value,
    List.find?_cons, List.find?_nil]
  cases hs : env name with
  | none => rfl
  | some s => cases hr : read s <;> simp [hr]

theorem Gives.map {l : Loader α} {f : Environment → α} (g : α → β) (hl : Gives l f) :
    Gives (g <$> l) fun env => g (f env) := by
  intro env
  show (Loader.map g l).run env = _
  simp only [Loader.map, hl env]
  cases h : env.firstUnreadable l.reads <;> simp [Functor.map, Loader.map, h, Except.map]

theorem Gives.required (name : String) (read : String → Option α) (default : α) :
    Gives (required name read default) fun env => (env.value name read).getD default :=
  Gives.map (fun a : Option α => a.getD default) (Gives.optional name read)

/-- **Two loaders, one after the other.** -/
theorem Gives.seq {l : Loader (α → β)} {m : Loader α} {g : Environment → α → β}
    {f : Environment → α} (hl : Gives l g) (hm : Gives m f) :
    Gives (l <*> m) fun env => g env (f env) := by
  intro env
  rw [reads_seq, Environment.firstUnreadable_append]
  show (Loader.seq l fun _ => m).run env = _
  simp only [Loader.seq, hl env, hm env]
  cases env.firstUnreadable l.reads with
  | some v => rfl
  | none => cases env.firstUnreadable m.reads <;> rfl

end Loader

open Numeral

/-- A variable with the texts that a reader reads. -/
def Variable.of {α : Type} (name : String) (read : String → Option α) : Variable :=
  ⟨name, fun s => (read s).isSome⟩

/-! ## Broker settings -/

/-- The variables of broker settings, in order. -/
def BrokerSettings.variableList : List Variable :=
  [.of "KAFKA_PRODUCER_LINGER_MS" readWord32?,
    .of "KAFKA_PRODUCER_QUEUE_MIB" readWord32?,
    .of "KAFKA_PRODUCER_QUEUE_MESSAGES" readWord32?,
    .of "KAFKA_MESSAGE_TIMEOUT_MS" readWord32?,
    .of "KAFKA_COMPRESSION_CODEC" some,
    .of "KAFKA_TLS" readFlag?,
    .of "KAFKA_HOSTS" some]

/-- The broker settings that an environment denotes. -/
def BrokerSettings.denoted (env : Environment) : BrokerSettings where
  linger := (env.value "KAFKA_PRODUCER_LINGER_MS" readWord32?).getD 20
  queueMebibytes := (env.value "KAFKA_PRODUCER_QUEUE_MIB" readWord32?).getD 400
  queueMessages := (env.value "KAFKA_PRODUCER_QUEUE_MESSAGES" readWord32?).getD 10000000
  messageTimeout := (env.value "KAFKA_MESSAGE_TIMEOUT_MS" readWord32?).getD 20000
  compression := (env.value "KAFKA_COMPRESSION_CODEC" some).getD "none"
  tls := (env.value "KAFKA_TLS" readFlag?).getD false
  hosts := (env.value "KAFKA_HOSTS" some).getD "localhost:9092"

theorem BrokerSettings.loader_gives : loader.Gives denoted := by
  unfold loader
  exact (Loader.Gives.required _ _ _ |>.map _)
    |>.seq (.required _ _ _)
    |>.seq (.required _ _ _)
    |>.seq (.required _ _ _)
    |>.seq (.required _ _ _)
    |>.seq (.required _ _ _)
    |>.seq (.required _ _ _)

/-! ## Consumer settings -/

/-- The variables of consumer settings, in order. -/
def ConsumerSettings.variableList : List Variable :=
  [.of "KAFKA_CONSUMER_GROUP" some,
    .of "KAFKA_CONSUMER_TOPIC" some,
    .of "KAFKA_CONSUMER_OFFSET_RESET" some,
    .of "KAFKA_CONSUMER_AUTO_COMMIT" readFlag?,
    .of "KAFKA_CONSUMER_AUTO_COMMIT_INTERVAL_MS" readWord32?]

/-- The consumer settings that an environment denotes. -/
def ConsumerSettings.denoted (env : Environment) : ConsumerSettings where
  group := (env.value "KAFKA_CONSUMER_GROUP" some).getD "kafka-listener"
  topic := (env.value "KAFKA_CONSUMER_TOPIC" some).getD "events"
  offsetReset := (env.value "KAFKA_CONSUMER_OFFSET_RESET" some).getD "earliest"
  autoCommit := (env.value "KAFKA_CONSUMER_AUTO_COMMIT" readFlag?).getD false
  autoCommitInterval :=
    (env.value "KAFKA_CONSUMER_AUTO_COMMIT_INTERVAL_MS" readWord32?).getD 5000

theorem ConsumerSettings.loader_gives : loader.Gives denoted := by
  unfold loader
  exact (Loader.Gives.required _ _ _ |>.map _)
    |>.seq (.required _ _ _)
    |>.seq (.required _ _ _)
    |>.seq (.required _ _ _)
    |>.seq (.required _ _ _)

/-! ## Listener settings -/

namespace ListenerSettings

/-- The delivery that a text names. -/
def readDelivery? (s : String) : Option Delivery := (Delivery.ofText s).toOption

/-- The acknowledgment mode that a text names. -/
def readAckMode? (s : String) : Option AckMode := (AckMode.ofText s).toOption

/-- The variables of listener settings, in order. -/
def variableList : List Variable :=
  [.of "KAFKA_LISTENER_TYPE" readDelivery?,
    .of "KAFKA_LISTENER_CONCURRENCY" readWord32?,
    .of "KAFKA_LISTENER_AUTO_STARTUP" readFlag?,
    .of "KAFKA_LISTENER_ACK_MODE" readAckMode?,
    .of "KAFKA_LISTENER_ASYNC_ACKS" readFlag?,
    .of "KAFKA_LISTENER_CLIENT_ID" some,
    .of "KAFKA_LISTENER_ACK_COUNT" readWord32?,
    .of "KAFKA_LISTENER_ACK_TIME" readMillis?,
    .of "KAFKA_LISTENER_POLL_TIMEOUT" readMillis?,
    .of "KAFKA_LISTENER_NO_POLL_THRESHOLD" Single.read?,
    .of "KAFKA_LISTENER_IDLE_BETWEEN_POLLS" readMillis?,
    .of "KAFKA_LISTENER_IDLE_EVENT_INTERVAL" readMillis?,
    .of "KAFKA_LISTENER_IDLE_PARTITION_EVENT_INTERVAL" readMillis?,
    .of "KAFKA_LISTENER_MONITOR_INTERVAL" readSeconds?,
    .of "KAFKA_LISTENER_LOG_CONTAINER_CONFIG" readFlag?,
    .of "KAFKA_LISTENER_MISSING_TOPICS_FATAL" readFlag?,
    .of "KAFKA_LISTENER_IMMEDIATE_STOP" readFlag?]

/-- The listener settings that an environment denotes. -/
def denoted (env : Environment) : ListenerSettings where
  delivery := (env.value "KAFKA_LISTENER_TYPE" readDelivery?).getD .single
  concurrency := env.value "KAFKA_LISTENER_CONCURRENCY" readWord32?
  autoStartup := (env.value "KAFKA_LISTENER_AUTO_STARTUP" readFlag?).getD true
  ackMode := env.value "KAFKA_LISTENER_ACK_MODE" readAckMode?
  asyncAcks := env.value "KAFKA_LISTENER_ASYNC_ACKS" readFlag?
  clientId := env.value "KAFKA_LISTENER_CLIENT_ID" some
  ackCount := env.value "KAFKA_LISTENER_ACK_COUNT" readWord32?
  ackTime := env.value "KAFKA_LISTENER_ACK_TIME" readMillis?
  pollTimeout := env.value "KAFKA_LISTENER_POLL_TIMEOUT" readMillis?
  noPollThreshold := env.value "KAFKA_LISTENER_NO_POLL_THRESHOLD" Single.read?
  idleBetweenPolls := (env.value "KAFKA_LISTENER_IDLE_BETWEEN_POLLS" readMillis?).getD .zero
  idleEventInterval := env.value "KAFKA_LISTENER_IDLE_EVENT_INTERVAL" readMillis?
  idlePartitionEventInterval :=
    env.value "KAFKA_LISTENER_IDLE_PARTITION_EVENT_INTERVAL" readMillis?
  monitorInterval := env.value "KAFKA_LISTENER_MONITOR_INTERVAL" readSeconds?
  logContainerConfig := env.value "KAFKA_LISTENER_LOG_CONTAINER_CONFIG" readFlag?
  missingTopicsFatal := (env.value "KAFKA_LISTENER_MISSING_TOPICS_FATAL" readFlag?).getD false
  immediateStop := (env.value "KAFKA_LISTENER_IMMEDIATE_STOP" readFlag?).getD false

theorem loader_gives : loader.Gives denoted := by
  unfold loader
  exact (Loader.Gives.required _ _ _ |>.map _)
    |>.seq (.optional _ _)
    |>.seq (.required _ _ _)
    |>.seq (.optional _ _)
    |>.seq (.optional _ _)
    |>.seq (.optional _ _)
    |>.seq (.optional _ _)
    |>.seq (.optional _ _)
    |>.seq (.optional _ _)
    |>.seq (.optional _ _)
    |>.seq (.required _ _ _)
    |>.seq (.optional _ _)
    |>.seq (.optional _ _)
    |>.seq (.optional _ _)
    |>.seq (.optional _ _)
    |>.seq (.required _ _ _)
    |>.seq (.required _ _ _)

end ListenerSettings

/-! ## Deployments -/

namespace Deployment

/-- The variables of a deployment, in order. -/
def variableList : List Variable :=
  BrokerSettings.variableList ++ ConsumerSettings.variableList ++ ListenerSettings.variableList ++
    [.of "KAFKA_REPLY_TOPIC" some,
      .of "KAFKA_TRANSACTIONAL_ID" some,
      .of "KAFKA_TRANSACTION_TIMEOUT_MS" readWord64?]

/-- A loader takes the variables in the order of the settings. -/
theorem reads_loader : loader.reads = variableList := rfl

/-- The deployment that an environment denotes. -/
def denoted (env : Environment) : Deployment where
  broker := .denoted env
  consumer := .denoted env
  listener := .denoted env
  replyTopic := env.value "KAFKA_REPLY_TOPIC" some
  transactionalId := env.value "KAFKA_TRANSACTIONAL_ID" some
  transactionTimeout := (env.value "KAFKA_TRANSACTION_TIMEOUT_MS" readWord64?).getD 10000

/-- **Loading a deployment is reading each variable on its own**, and the first one that cannot be
read is the error. -/
theorem loader_gives : loader.Gives denoted := by
  unfold loader
  exact (BrokerSettings.loader_gives.map _)
    |>.seq ConsumerSettings.loader_gives
    |>.seq ListenerSettings.loader_gives
    |>.seq (.optional _ _)
    |>.seq (.optional _ _)
    |>.seq (.required _ _ _)

end Deployment

end TopicListeners
