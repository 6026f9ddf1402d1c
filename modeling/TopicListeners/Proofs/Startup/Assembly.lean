import TopicListeners.Startup
import TopicListeners.Proofs.Container.Installing
import TopicListeners.Proofs.Settings.Loading

/-!
# Assembling a container

A start first assembles a container and then connects its consumers. Assembling needs nothing of the
cluster but that reply senders and transactors can be made, and then depends on the environment
alone.

* `run_eq`: a start is an assembly, and then the consumers.
* `assemble_ends`: **every environment ends in one of three ways**: a variable that cannot be read,
  a concurrency of zero, or a container that is what the variables say.
-/

namespace TopicListeners

variable {σ : Type}

namespace Startup

/-- Builds the container of a deployment with a wiring. -/
def outfit (net : Connections σ) (d : Deployment) (w : Wiring σ) :
    Action σ (Except StartupError (Container σ)) := do
  .emitAll (d.blueprint net w).2
  .emitAll (d.container net w).2
  pure ((d.container net w).1.mapError .container)

/-- Assembles the container that an environment asks for. -/
def assemble (net : Connections σ) (env : Environment) :
    Action σ (Except StartupError (Container σ)) :=
  match Deployment.loader.run env with
  | .error e => pure (.error (.configuration e))
  | .ok d =>
    andThen (d.wireReplies net d.plainWiring) fun w =>
      andThen (d.wireTransactions net w) fun w => outfit net d w

/-- Connects the consumers of a container. -/
def connectAll (c : Container σ) : Action σ (Except StartupError (Container σ)) := do
  match ← c.connect with
  | .error e => pure (.error (.consumers e))
  | .ok consumers =>
    .emit (c.ready consumers.length)
    pure (.ok c)

theorem andThen_assoc {α β γ : Type} (x : Action σ (Except StartupError α))
    (f : α → Action σ (Except StartupError β)) (g : β → Action σ (Except StartupError γ)) :
    andThen (andThen x f) g = andThen x fun a => andThen (f a) g := by
  unfold andThen
  rw [bind_assoc]
  congr 1
  funext r
  cases r with
  | error e => simp
  | ok a => rfl

theorem launch_eq (net : Connections σ) (d : Deployment) (w : Wiring σ) :
    launch net d w = andThen (outfit net d w) connectAll := by
  unfold launch outfit andThen
  simp only [bind_assoc, pure_bind]
  congr 1
  funext _
  congr 1
  funext _
  cases (d.container net w).1 <;> rfl

/-- **A start is an assembly**, and then the consumers are connected. -/
theorem run_eq (net : Connections σ) (env : Environment) :
    run net env = andThen (assemble net env) connectAll := by
  unfold run assemble deployLoaded
  cases Deployment.loader.run env with
  | error e => simp [andThen]
  | ok d =>
    simp only [deploy, andThen_assoc]
    congr 1
    funext w
    congr 1
    funext w
    exact launch_eq net d w

/-! ## What is assembled -/

theorem value_andThen {α β : Type} (x : Action σ (Except StartupError α))
    (f : α → Action σ (Except StartupError β)) (s : σ) :
    ((andThen x f).run s).value =
      match (x.run s).value with
      | .error e => .error e
      | .ok a => ((f a).run (x.run s).state).value := by
  simp only [andThen, Action.run_bind]
  cases (x.run s).value <;> rfl

theorem value_outfit (net : Connections σ) (d : Deployment) (w : Wiring σ) (s : σ) :
    ((outfit net d w).run s).value = (d.container net w).1.mapError .container := rfl

end Startup

/-- Reply senders and transactors can be made in the states `up`, which they keep to. -/
structure Connections.Working (net : Connections σ) (up : σ → Prop) : Prop where
  replies : ∀ b topic s, up s → ∃ t, ((net.replies b topic).run s).value = .ok t ∧
    up ((net.replies b topic).run s).state
  transactions : ∀ b id timeout s, up s →
    ∃ m, ((net.transactions b id timeout).run s).value = .ok m ∧
      up ((net.transactions b id timeout).run s).state

/-- The clients of a cluster can be made as long as it answers. -/
theorem Connections.cluster_working : cluster.Working fun c => c.answers = true := by
  constructor
  · intro b topic s hs
    exact ⟨_, rfl, hs⟩
  · intro b id timeout s hs
    refine ⟨.ofId id timeout, ?_, ?_⟩ <;>
      simp only [cluster, Transactor.register, Action.run_bind, Action.run_get, hs, if_true]
    · rfl
    · exact hs

namespace Deployment

/-- The wiring of a deployment with a reply sender and a transactor, if there are any. -/
def fullWiring (d : Deployment) (t : Option (ReplySender σ)) (m : Option (Transactor σ)) :
    Wiring σ where
  settings := d.listener
  converter := some .json
  recordFilter := none
  replySender := t
  transactor := m
  rebalanceWatcher := none
  errorHandler := some .logging
  rollbackHandler := m.map fun _ => .logging
  recordInspector := none
  batchInspector := none

variable {net : Connections σ} {up : σ → Prop}

theorem wireReplies_value (hnet : net.Working up) (d : Deployment) {s : σ} (hs : up s) :
    ∃ t : Option (ReplySender σ), t.isSome = d.replyTopic.isSome ∧
      ((d.wireReplies net d.plainWiring).run s).value = .ok (d.fullWiring t none) ∧
      up ((d.wireReplies net d.plainWiring).run s).state := by
  unfold wireReplies
  cases d.replyTopic with
  | none => exact ⟨none, rfl, rfl, hs⟩
  | some topic =>
    obtain ⟨t, ht, hup⟩ := hnet.replies d.broker (some topic) s hs
    refine ⟨some t, rfl, ?_, ?_⟩
    · simp only [Action.run_bind, ht]
      rfl
    · simp only [Action.run_bind, ht]
      exact hup

theorem wireTransactions_value (hnet : net.Working up) (d : Deployment)
    (t : Option (ReplySender σ)) {s : σ} (hs : up s) :
    ∃ m : Option (Transactor σ), m.isSome = d.transactionalId.isSome ∧
      ((d.wireTransactions net (d.fullWiring t none)).run s).value = .ok (d.fullWiring t m) := by
  unfold wireTransactions
  cases d.transactionalId with
  | none => exact ⟨none, rfl, rfl⟩
  | some id =>
    obtain ⟨m, hm, -⟩ := hnet.transactions d.broker id (.ofMillis d.transactionTimeout.toNat) s hs
    refine ⟨some m, rfl, ?_⟩
    simp only [Action.run_bind, hm]
    rfl

end Deployment

/-- **What is assembled**: the container of the deployment that the environment denotes. -/
theorem Startup.value_assemble {net : Connections σ} {up : σ → Prop} (hnet : net.Working up)
    {env : Environment} (henv : env.firstUnreadable Deployment.variableList = none) {s : σ}
    (hs : up s) :
    ∃ (t : Option (ReplySender σ)) (m : Option (Transactor σ)),
      t.isSome = (Deployment.denoted env).replyTopic.isSome ∧
      m.isSome = (Deployment.denoted env).transactionalId.isSome ∧
      ((assemble net env).run s).value =
        (Deployment.container net (.denoted env)
          ((Deployment.denoted env).fullWiring t m)).1.mapError .container := by
  have hload := Deployment.loader_gives env
  rw [Deployment.reads_loader, henv] at hload
  unfold assemble
  rw [hload]
  obtain ⟨t, ht, hvalue, hup⟩ := (Deployment.denoted env).wireReplies_value hnet hs
  obtain ⟨m, hm, hvalue'⟩ := (Deployment.denoted env).wireTransactions_value hnet t hup
  refine ⟨t, m, ht, hm, ?_⟩
  simp only [value_andThen, hvalue, hvalue', value_outfit]

/-! ## How it ends -/

open Numeral ListenerSettings

/-- Whether every variable of a deployment is missing or can be read. -/
def Environment.Readable (env : Environment) : Prop := ∀ v ∈ Deployment.variableList, v.accepts env

/-- The concurrency that an environment asks for, if it does. -/
def Environment.concurrency (env : Environment) : Option UInt32 :=
  env.value "KAFKA_LISTENER_CONCURRENCY" readWord32?

/-- What an environment says about a part of container settings. It has nothing to say about
collaborators. -/
def ContainerPart.said (env : Environment) : (p : ContainerPart) → Option (p.Value σ)
  | ackMode => env.value "KAFKA_LISTENER_ACK_MODE" readAckMode?
  | asyncAcks => env.value "KAFKA_LISTENER_ASYNC_ACKS" readFlag?
  | clientId => env.value "KAFKA_LISTENER_CLIENT_ID" some
  | ackCount => env.value "KAFKA_LISTENER_ACK_COUNT" readWord32?
  | ackTime => (env.value "KAFKA_LISTENER_ACK_TIME" readMillis?).map Duration.millis
  | pollTimeout => (env.value "KAFKA_LISTENER_POLL_TIMEOUT" readMillis?).map Duration.millis
  | noPollThreshold => env.value "KAFKA_LISTENER_NO_POLL_THRESHOLD" Single.read?
  | idleBetweenPolls =>
    (env.value "KAFKA_LISTENER_IDLE_BETWEEN_POLLS" readMillis?).map Duration.millis
  | idleEventInterval =>
    (env.value "KAFKA_LISTENER_IDLE_EVENT_INTERVAL" readMillis?).map Duration.millis
  | idlePartitionEventInterval =>
    (env.value "KAFKA_LISTENER_IDLE_PARTITION_EVENT_INTERVAL" readMillis?).map Duration.millis
  | monitorInterval =>
    (env.value "KAFKA_LISTENER_MONITOR_INTERVAL" readSeconds?).map Duration.wholeSeconds
  | logContainerConfig => env.value "KAFKA_LISTENER_LOG_CONTAINER_CONFIG" readFlag?
  | missingTopicsFatal => env.value "KAFKA_LISTENER_MISSING_TOPICS_FATAL" readFlag?
  | stopImmediate => env.value "KAFKA_LISTENER_IMMEDIATE_STOP" readFlag?
  | transactor => none
  | rebalanceWatcher => none

/-- **A container that is what an environment says.** Settings that the environment does not mention
are the standard ones. -/
structure Container.Reflects (net : Connections σ) (env : Environment) (c : Container σ) :
    Prop where
  topics : c.topics = [(env.value "KAFKA_CONSUMER_TOPIC" some).getD "events"]
  concurrency : c.concurrency = env.concurrency.getD 1
  children : c.children.length = c.concurrency.toNat
  batchListener : c.batchListener = true ↔
    env.value "KAFKA_LISTENER_TYPE" readDelivery? = some .batch
  autoStartup : c.autoStartup = (env.value "KAFKA_LISTENER_AUTO_STARTUP" readFlag?).getD true
  settings : ∀ p : ContainerPart, p ≠ .transactor →
    p.get c.settings = (p.said env).or (p.get .standard)
  provider : c.provider = net.consumers (.ofSettings (.denoted env) (.denoted env))
  converter : c.collaborators.converter = some .json
  errorHandler : c.collaborators.errorHandler = some .logging
  replySender : c.collaborators.replySender.isSome = (env "KAFKA_REPLY_TOPIC").isSome
  transactor : c.settings.transactor.isSome = (env "KAFKA_TRANSACTIONAL_ID").isSome
  rollbackHandler : c.collaborators.rollbackHandler = c.settings.transactor.map fun _ => .logging
  others : c.collaborators.recordFilter = none ∧ c.collaborators.recordInspector = none ∧
    c.collaborators.batchInspector = none

/-- **How an assembly ends.** -/
inductive Startup.Ends (net : Connections σ) (env : Environment) :
    Except StartupError (Container σ) → Prop
  /-- A variable cannot be read. -/
  | unreadable {v : Variable} (hv : v ∈ Deployment.variableList) (h : v.accepts env = false) :
    Ends net env (.error (.configuration ⟨v.name⟩))
  /-- There would be no consumers. -/
  | concurrencyTooLow (h : env.Readable) (h₀ : env.concurrency = some 0) :
    Ends net env (.error (.container (.concurrencyTooLow 0)))
  /-- A container has been built. -/
  | built (h : env.Readable) (h₀ : env.concurrency ≠ some 0) {c : Container σ}
    (hc : c.Reflects net env) : Ends net env (.ok c)

namespace Deployment

variable (net : Connections σ) (env : Environment) (t : Option (ReplySender σ))
  (m : Option (Transactor σ))

/-- The blueprint of a deployment, part by part. -/
theorem get_blueprint (p : BlueprintPart) :
    p.get ((denoted env).blueprint net ((denoted env).fullWiring t m)).1 =
      (((denoted env).fullWiring t m).writes (net.consumers (denoted env).consumerClient) p).or
        (p.get .empty) :=
  Wiring.get_install _ _ _ p

/-- The settings of a deployment are what the environment says. -/
theorem containerWrites_fullWiring {p : ContainerPart} (hp : p ≠ .transactor) :
    (((denoted env).fullWiring t m).containerWrites p).or (p.get .standard) =
      (p.said env).or (p.get .standard) := by
  -- the settings that are always there have the standard values as their defaults
  cases p with
  | transactor => exact absurd rfl hp
  | idleBetweenPolls =>
    show some (((env.value _ readMillis?).getD .zero).millis) = ((env.value _ _).map _).or (some _)
    cases env.value "KAFKA_LISTENER_IDLE_BETWEEN_POLLS" readMillis? <;> rfl
  | missingTopicsFatal =>
    show some ((env.value _ readFlag?).getD false) = (env.value _ _).or (some _)
    cases env.value "KAFKA_LISTENER_MISSING_TOPICS_FATAL" readFlag? <;> rfl
  | stopImmediate =>
    show some ((env.value _ readFlag?).getD false) = (env.value _ _).or (some _)
    cases env.value "KAFKA_LISTENER_IMMEDIATE_STOP" readFlag? <;> rfl
  | _ => rfl

end Deployment

/-- What is built of a blueprint with a provider, for any topics. -/
theorem Blueprint.build_fst {b : Blueprint σ} {provider : ConsumerProvider σ}
    (hp : b.provider = some provider) {topics : List String} (ht : topics ≠ []) :
    (b.build topics).1 =
      if b.concurrency.getD 1 = 0 then .error (.concurrencyTooLow 0)
      else .ok (b.snapshot provider (b.concurrency.getD 1) topics) := by
  unfold build
  simp only [hp, if_neg ht]
  by_cases h : b.concurrency.getD 1 = 0
  · simp only [h, if_true]
  · simp only [h, if_false]

/-- **A container of a deployment reflects the environment.** -/
theorem Deployment.reflects (net : Connections σ) (env : Environment)
    {t : Option (ReplySender σ)} {m : Option (Transactor σ)}
    (ht : t.isSome = (denoted env).replyTopic.isSome)
    (hm : m.isSome = (denoted env).transactionalId.isSome) :
    (((denoted env).blueprint net ((denoted env).fullWiring t m)).1.snapshot
      (net.consumers (denoted env).consumerClient) (env.concurrency.getD 1)
      [(denoted env).consumer.topic]).Reflects net env := by
  have hget := get_blueprint net env t m
  generalize ((denoted env).blueprint net ((denoted env).fullWiring t m)).1 = b at hget ⊢
  have hbatch : b.batchListener =
      if (env.value "KAFKA_LISTENER_TYPE" readDelivery?).getD .single = .batch then some true
      else none := (hget .batchListener).trans Option.or_none
  have hauto : b.autoStartup =
      some ((env.value "KAFKA_LISTENER_AUTO_STARTUP" readFlag?).getD true) := hget .autoStartup
  have hreply : b.collaborators.replySender = t := (hget .replySender).trans Option.or_none
  have hrollback : b.collaborators.rollbackHandler = m.map fun _ => .logging :=
    (hget .rollbackHandler).trans Option.or_none
  have htransactor : b.container.transactor = m :=
    (hget (.container .transactor)).trans Option.or_none
  have hvalue (name : String) : env.value name some = env name := Option.bind_fun_some _
  exact {
    topics := rfl
    concurrency := rfl
    children := length_childrenOf _ _
    batchListener := by
      simp only [Blueprint.snapshot, hbatch]
      cases env.value "KAFKA_LISTENER_TYPE" readDelivery? with
      | none => decide
      | some d => cases d <;> decide
    autoStartup := by simp only [Blueprint.snapshot, hauto, Option.getD_some]
    settings := fun p hp =>
      (hget (.container p)).trans (containerWrites_fullWiring env t m hp)
    provider := rfl
    converter := hget .converter
    errorHandler := hget .errorHandler
    replySender := by simp only [Blueprint.snapshot, hreply, ht, denoted, hvalue]
    transactor := by simp only [Blueprint.snapshot, htransactor, hm, denoted, hvalue]
    rollbackHandler := by simp only [Blueprint.snapshot, htransactor, hrollback]
    others := ⟨hget .recordFilter, hget .recordInspector, hget .batchInspector⟩ }

/-- **From an environment to a container.** A start is an assembly followed by the connection of the
consumers, and as long as reply senders and transactors can be made an assembly ends in one of three
ways. A missing provider or missing topics are not among them. -/
theorem Startup.assemble_ends {net : Connections σ} {up : σ → Prop} (hnet : net.Working up)
    (env : Environment) {s : σ} (hs : up s) :
    run net env = andThen (assemble net env) connectAll ∧
      Ends net env ((assemble net env).run s).value ∧
      ((assemble net env).run s).value ≠ .error (.container .noProvider) ∧
      ((assemble net env).run s).value ≠ .error (.container .noTopics) := by
  have hends : Ends net env ((assemble net env).run s).value := by
    cases henv : env.firstUnreadable Deployment.variableList with
    | some v =>
      have hload := Deployment.loader_gives env
      rw [Deployment.reads_loader, henv] at hload
      unfold assemble
      rw [hload]
      have hv := List.find?_some henv
      exact .unreadable (List.mem_of_find?_eq_some henv) (by simpa using hv)
    | none =>
      have hreadable : env.Readable := Environment.firstUnreadable_eq_none.1 henv
      obtain ⟨t, m, ht, hm, hvalue⟩ := value_assemble hnet henv hs
      have hprovider := Deployment.get_blueprint net env t m .provider
      have hconcurrency := Deployment.get_blueprint net env t m .concurrency
      rw [hvalue, Deployment.container, Blueprint.build_fst hprovider (List.cons_ne_nil _ _),
        show Blueprint.concurrency _ = env.concurrency from hconcurrency.trans Option.or_none]
      by_cases h₀ : env.concurrency = some 0
      · rw [h₀]
        exact .concurrencyTooLow hreadable h₀
      · rw [if_neg]
        · exact .built hreadable h₀ (Deployment.reflects net env ht hm)
        · cases hvalue : env.concurrency with
          | none => decide
          | some n =>
            rintro rfl
            exact h₀ hvalue
  refine ⟨run_eq net env, hends, ?_, ?_⟩ <;>
    · intro h
      rw [h] at hends
      cases hends

/-- An environment that asks for three consumers and for transactions. -/
def Environment.transactional : Environment := fun name =>
  if name = "KAFKA_LISTENER_CONCURRENCY" then some "3"
  else if name = "KAFKA_TRANSACTIONAL_ID" then some "tx"
  else none

theorem Startup.assemble_ends_transactional :
    Connections.cluster.Working (fun c => c.answers = true) ∧
      (Cluster.ofTopics true []).answers = true ∧
      run .cluster .transactional = andThen (assemble .cluster .transactional) connectAll ∧
      Ends .cluster .transactional
        ((assemble .cluster .transactional).run (.ofTopics true [])).value ∧
      ((assemble .cluster .transactional).run (.ofTopics true [])).value ≠
        .error (.container .noProvider) ∧
      ((assemble .cluster .transactional).run (.ofTopics true [])).value ≠
        .error (.container .noTopics) :=
  ⟨Connections.cluster_working, rfl,
    assemble_ends Connections.cluster_working .transactional (s := .ofTopics true []) rfl⟩

end TopicListeners
