import TopicListeners.Client.Cluster
import TopicListeners.Container.Build
import TopicListeners.Container.Wiring

/-!
# Starting up

From an environment to a container with its consumers: the settings are loaded, replies and
transactions are set up if they are asked for, a blueprint is wired up and one container is built.
-/

namespace TopicListeners

/-- What a start can fail at. -/
inductive StartupError
  | configuration (e : LoadError)
  | replies (e : ClientError)
  | transactions (e : ClientError)
  | container (e : BuildError)
  | consumers (e : ClientError)
deriving DecidableEq, Repr

namespace StartupError

/-- What was being done, and what went wrong with it. -/
def chain : StartupError → List String
  | configuration e => ["Invalid configuration", e.message]
  | replies e => ["failed to create reply template", e.message]
  | transactions e => ["failed to initialize transactions", e.message]
  | container e => ["failed to create listener container", e.message]
  | consumers e => ["failed to create consumers", e.message]

end StartupError

/-- How the clients of a cluster are made. -/
structure Connections (σ : Type) where
  replies : BrokerSettings → Option String → Action σ (Except ClientError (ReplySender σ))
  transactions :
    BrokerSettings → String → Duration → Action σ (Except ClientError (Transactor σ))
  consumers : ConsumerClient → ConsumerProvider σ

/-- The clients of a cluster. -/
def Connections.cluster : Connections Cluster where
  replies b topic := pure (.ok (.ofBroker b topic))
  transactions _ id timeout := Transactor.register id timeout
  consumers := ConsumerClient.provider

namespace Deployment

variable {σ : Type}

/-- The wiring of every listener process. -/
def plainWiring (d : Deployment) : Wiring σ :=
  (Wiring.ofSettings d.listener).supplyAll
    [.converter .json, .errorHandler .logging]

/-- The wiring with replies, if there is a topic for them. -/
def wireReplies (net : Connections σ) (d : Deployment) (w : Wiring σ) :
    Action σ (Except StartupError (Wiring σ)) :=
  match d.replyTopic with
  | none => pure (.ok w)
  | some topic => do
    match ← net.replies d.broker (some topic) with
    | .error e => pure (.error (.replies e))
    | .ok t => pure (.ok (w.supply (.replySender t)))

/-- The wiring with transactions, if there is a name for them. -/
def wireTransactions (net : Connections σ) (d : Deployment) (w : Wiring σ) :
    Action σ (Except StartupError (Wiring σ)) :=
  match d.transactionalId with
  | none => pure (.ok w)
  | some id => do
    match ← net.transactions d.broker id (.ofMillis d.transactionTimeout.toNat) with
    | .error e => pure (.error (.transactions e))
    | .ok m =>
      pure (.ok (w.supplyAll [.transactor m, .rollbackHandler .logging]))

/-- The consumer client of a deployment. -/
def consumerClient (d : Deployment) : ConsumerClient := .ofSettings d.broker d.consumer

/-- The blueprint of a deployment, wired up, and what is logged about it. -/
def blueprint (net : Connections σ) (d : Deployment) (w : Wiring σ) : Blueprint σ × List Event :=
  w.install (net.consumers d.consumerClient) .empty

/-- The container of a deployment, and what is logged about it. -/
def container (net : Connections σ) (d : Deployment) (w : Wiring σ) :
    Except BuildError (Container σ) × List Event :=
  (d.blueprint net w).1.build [d.consumer.topic]

end Deployment

/-- The event of a container with its consumers. -/
def Container.ready {σ : Type} (c : Container σ) (consumers : Nat) : Event :=
  ⟨.info, "listener container ready",
    [("topics", Text.describeList (c.topics.map Text.quoted)),
      ("consumers", toString consumers),
      ("ack_mode", c.settings.ackMode.toText),
      ("batch_listener", toString c.batchListener),
      ("auto_startup", toString c.autoStartup)]⟩

namespace Startup

variable {σ : Type}

/-- Goes on with what has been reached, if anything has. -/
def andThen {α β : Type} (x : Action σ (Except StartupError α))
    (f : α → Action σ (Except StartupError β)) : Action σ (Except StartupError β) := do
  match ← x with
  | .error e => pure (.error e)
  | .ok a => f a

/-- Builds the container of a deployment with a wiring, and connects its consumers. -/
def launch (net : Connections σ) (d : Deployment) (w : Wiring σ) :
    Action σ (Except StartupError (Container σ)) := do
  .emitAll (d.blueprint net w).2
  .emitAll (d.container net w).2
  match (d.container net w).1 with
  | .error e => pure (.error (.container e))
  | .ok c =>
    match ← c.connect with
    | .error e => pure (.error (.consumers e))
    | .ok consumers =>
      .emit (c.ready consumers.length)
      pure (.ok c)

/-- Starts a deployment. -/
def deploy (net : Connections σ) (d : Deployment) : Action σ (Except StartupError (Container σ)) :=
  andThen (d.wireReplies net d.plainWiring) fun w =>
    andThen (d.wireTransactions net w) fun w => launch net d w

/-- Starts what has been loaded, if it could be. -/
def deployLoaded (net : Connections σ) :
    Except LoadError Deployment → Action σ (Except StartupError (Container σ))
  | .error e => pure (.error (.configuration e))
  | .ok d => deploy net d

/-- Starts what an environment asks for. -/
def run (net : Connections σ) (env : Environment) : Action σ (Except StartupError (Container σ)) :=
  deployLoaded net (Deployment.loader.run env)

end Startup

/-- What is seen of a start from the outside. -/
structure Report where
  /-- The exit code. -/
  exit : UInt32
  /-- The events of at least the level information. -/
  log : List Event
  /-- Why the start failed, the outermost reason first. -/
  error : Option StartupError

/-- The report of a start in a state. -/
def Report.ofRun {σ : Type} (net : Connections σ) (s : σ) (env : Environment) : Report :=
  let o := (Startup.run net env).run s
  let log := o.events.filter fun e => Level.info.rank ≤ e.level.rank
  match o.value with
  | .ok _ => ⟨0, log, none⟩
  | .error e => ⟨1, log, some e⟩

end TopicListeners
