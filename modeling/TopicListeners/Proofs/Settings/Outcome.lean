import Mathlib.Data.List.Nodup
import TopicListeners.Proofs.Settings.Loading

/-!
# What comes of an environment

When the settings of an environment load, what they are then, and which variable is named if they
do not. Every default has a text of its own that is declared for it, and the listener settings have
a second way to be built: the standard ones with some fields changed. Both are the same facts twice,
and they agree.

* `Gives.ok_iff`, `Gives.error_iff`: the two ends that loading has, for any loader.
* `Settled`: a loader to which it is all the same whether a default is spelled out.
* `ListenerSettings.loader_overlaid`: the listener settings are **the standard ones with the fields
  of the present variables changed**.
* `Deployment.loader_outcome`: **what comes of any environment.**
-/

namespace TopicListeners

theorem Variable.accepts_eq_false_iff {v : Variable} {env : Environment} :
    v.accepts env = false ↔ ∃ s, env v.name = some s ∧ v.readable s = false := by
  unfold accepts
  cases h : env v.name with
  | none => simp
  | some s => simp

namespace Environment

variable {env : Environment} {vs ws : List Variable} {name : String}

/-- The first of some variables that is there with a text that cannot be read is the one called
`name`. -/
def FailsAt (env : Environment) (vs : List Variable) (name : String) : Prop :=
  ∃ before v after, vs = before ++ v :: after ∧ v.name = name ∧ (∀ w ∈ before, w.accepts env) ∧
    v.accepts env = false

theorem failsAt_iff :
    env.FailsAt vs name ↔ ∃ v, env.firstUnreadable vs = some v ∧ v.name = name := by
  unfold FailsAt firstUnreadable
  simp only [List.find?_eq_some_iff_append, Bool.not_eq_true', Bool.not_not]
  constructor
  · rintro ⟨before, v, after, hvs, hname, hbefore, hv⟩
    exact ⟨v, ⟨hv, before, after, hvs, hbefore⟩, hname⟩
  · rintro ⟨v, ⟨hv, before, after, hvs, hbefore⟩, hname⟩
    exact ⟨before, v, after, hvs, hname, hbefore, hv⟩

/-- What another environment says of some variables is what this one says, or the text that is
declared for a variable that this one does without. -/
def Restates (declared : List (String × String)) (env env' : Environment) (vs : List Variable) :
    Prop :=
  ∀ v ∈ vs, env' v.name = env v.name ∨
    (env v.name = none ∧ env' v.name = declared.lookup v.name)

theorem restates_append {declared : List (String × String)} {env' : Environment} :
    Restates declared env env' (vs ++ ws) ↔
      Restates declared env env' vs ∧ Restates declared env env' ws :=
  List.forall_mem_append

end Environment

namespace Loader

variable {α β : Type} {l : Loader α} {f : Environment → α} {env : Environment}

/-- A loader comes to a value iff every variable that is there can be read. -/
theorem Gives.ok_iff (h : l.Gives f) {a : α} :
    l.run env = .ok a ↔ (∀ v ∈ l.reads, v.accepts env) ∧ a = f env := by
  rw [h env, ← Environment.firstUnreadable_eq_none]
  cases env.firstUnreadable l.reads with
  | some v => simp
  | none => simp [eq_comm]

/-- A loader comes to an error iff that names the first variable that cannot be read. -/
theorem Gives.error_iff (h : l.Gives f) {name : String} :
    l.run env = .error ⟨name⟩ ↔ env.FailsAt l.reads name := by
  rw [h env, Environment.failsAt_iff]
  cases env.firstUnreadable l.reads with
  | some v => simp
  | none => simp

/-! ## Declared texts -/

variable {declared : List (String × String)} {name : String} {read : String → Option α}

/-- A loader to which it is all the same whether a variable is missing or has the text that is
declared for it, and which looks at no variable but its own. -/
def Settled (declared : List (String × String)) (l : Loader α) : Prop :=
  ∀ env env' : Environment, env.Restates declared env' l.reads → l.run env' = l.run env

theorem Settled.optional (name : String) (read : String → Option α)
    (hnone : declared.lookup name = none) : Settled declared (optional name read) := by
  intro env env' h
  have hsame : env' name = env name := by
    rcases h _ List.mem_cons_self with h | ⟨hmissing, h⟩
    · exact h
    · exact h.trans (hnone.trans hmissing.symm)
  rw [run_optional, run_optional, hsame]

theorem Settled.required (text : String) {default : α} (htext : declared.lookup name = some text)
    (hread : read text = some default) : Settled declared (required name read default) := by
  intro env env' h
  rw [run_required, run_required]
  rcases h _ List.mem_cons_self with h | ⟨hmissing, h⟩
  · rw [show env' name = env name from h]
  · rw [show env' name = some text from h.trans htext, show env name = none from hmissing]
    simp only [hread]

theorem Settled.map (g : α → β) (h : Settled declared l) : Settled declared (g <$> l) := by
  intro env env' henv
  show (l.run env').map g = (l.run env).map g
  rw [h env env' henv]

theorem Settled.seq {l : Loader (α → β)} {m : Loader α} (hl : Settled declared l)
    (hm : Settled declared m) : Settled declared (l <*> m) := by
  intro env env' h
  rw [reads_seq, Environment.restates_append] at h
  show (Loader.seq l fun _ => m).run env' = (Loader.seq l fun _ => m).run env
  simp only [Loader.seq, hl env env' h.1, hm env env' h.2]

end Loader

/-- The texts that are declared for the settings that have a default. -/
def declaredTexts : List (String × String) :=
  [("KAFKA_PRODUCER_LINGER_MS", "20"),
    ("KAFKA_PRODUCER_QUEUE_MIB", "400"),
    ("KAFKA_PRODUCER_QUEUE_MESSAGES", "10000000"),
    ("KAFKA_MESSAGE_TIMEOUT_MS", "20000"),
    ("KAFKA_COMPRESSION_CODEC", "none"),
    ("KAFKA_TLS", "false"),
    ("KAFKA_HOSTS", "localhost:9092"),
    ("KAFKA_CONSUMER_GROUP", "kafka-listener"),
    ("KAFKA_CONSUMER_TOPIC", "events"),
    ("KAFKA_CONSUMER_OFFSET_RESET", "earliest"),
    ("KAFKA_CONSUMER_AUTO_COMMIT", "false"),
    ("KAFKA_CONSUMER_AUTO_COMMIT_INTERVAL_MS", "5000"),
    ("KAFKA_LISTENER_TYPE", "single"),
    ("KAFKA_LISTENER_AUTO_STARTUP", "true"),
    ("KAFKA_LISTENER_IDLE_BETWEEN_POLLS", "0"),
    ("KAFKA_LISTENER_MISSING_TOPICS_FATAL", "false"),
    ("KAFKA_LISTENER_IMMEDIATE_STOP", "false"),
    ("KAFKA_TRANSACTION_TIMEOUT_MS", "10000")]

theorem BrokerSettings.loader_settled : loader.Settled declaredTexts := by
  unfold loader
  exact (Loader.Settled.required "20" (by decide) (by decide) |>.map _)
    |>.seq (.required "400" (by decide) (by decide))
    |>.seq (.required "10000000" (by decide) (by decide))
    |>.seq (.required "20000" (by decide) (by decide))
    |>.seq (.required "none" (by decide) (by rfl))
    |>.seq (.required "false" (by decide) (by rfl))
    |>.seq (.required "localhost:9092" (by decide) (by rfl))

theorem ConsumerSettings.loader_settled : loader.Settled declaredTexts := by
  unfold loader
  exact (Loader.Settled.required "kafka-listener" (by decide) (by rfl) |>.map _)
    |>.seq (.required "events" (by decide) (by rfl))
    |>.seq (.required "earliest" (by decide) (by rfl))
    |>.seq (.required "false" (by decide) (by rfl))
    |>.seq (.required "5000" (by decide) (by decide))

namespace ListenerSettings

open Numeral

theorem loader_settled : loader.Settled declaredTexts := by
  unfold loader
  exact (Loader.Settled.required "single" (by decide) (by decide) |>.map _)
    |>.seq (.optional _ _ (by decide))
    |>.seq (.required "true" (by decide) (by rfl))
    |>.seq (.optional _ _ (by decide))
    |>.seq (.optional _ _ (by decide))
    |>.seq (.optional _ _ (by decide))
    |>.seq (.optional _ _ (by decide))
    |>.seq (.optional _ _ (by decide))
    |>.seq (.optional _ _ (by decide))
    |>.seq (.optional _ _ (by decide))
    |>.seq (.required "0" (by decide) (by decide))
    |>.seq (.optional _ _ (by decide))
    |>.seq (.optional _ _ (by decide))
    |>.seq (.optional _ _ (by decide))
    |>.seq (.optional _ _ (by decide))
    |>.seq (.required "false" (by decide) (by rfl))
    |>.seq (.required "false" (by decide) (by rfl))

/-! ## Listener settings of their own -/

/-- Listener settings with the fields changed whose variables an environment has. -/
def overlaid (s : ListenerSettings) (env : Environment) : ListenerSettings where
  delivery := (env.value "KAFKA_LISTENER_TYPE" readDelivery?).getD s.delivery
  concurrency := (env.value "KAFKA_LISTENER_CONCURRENCY" readWord32?).or s.concurrency
  autoStartup := (env.value "KAFKA_LISTENER_AUTO_STARTUP" readFlag?).getD s.autoStartup
  ackMode := (env.value "KAFKA_LISTENER_ACK_MODE" readAckMode?).or s.ackMode
  asyncAcks := (env.value "KAFKA_LISTENER_ASYNC_ACKS" readFlag?).or s.asyncAcks
  clientId := (env.value "KAFKA_LISTENER_CLIENT_ID" some).or s.clientId
  ackCount := (env.value "KAFKA_LISTENER_ACK_COUNT" readWord32?).or s.ackCount
  ackTime := (env.value "KAFKA_LISTENER_ACK_TIME" readMillis?).or s.ackTime
  pollTimeout := (env.value "KAFKA_LISTENER_POLL_TIMEOUT" readMillis?).or s.pollTimeout
  noPollThreshold :=
    (env.value "KAFKA_LISTENER_NO_POLL_THRESHOLD" Single.read?).or s.noPollThreshold
  idleBetweenPolls :=
    (env.value "KAFKA_LISTENER_IDLE_BETWEEN_POLLS" readMillis?).getD s.idleBetweenPolls
  idleEventInterval :=
    (env.value "KAFKA_LISTENER_IDLE_EVENT_INTERVAL" readMillis?).or s.idleEventInterval
  idlePartitionEventInterval :=
    (env.value "KAFKA_LISTENER_IDLE_PARTITION_EVENT_INTERVAL" readMillis?).or
      s.idlePartitionEventInterval
  monitorInterval := (env.value "KAFKA_LISTENER_MONITOR_INTERVAL" readSeconds?).or s.monitorInterval
  logContainerConfig :=
    (env.value "KAFKA_LISTENER_LOG_CONTAINER_CONFIG" readFlag?).or s.logContainerConfig
  missingTopicsFatal :=
    (env.value "KAFKA_LISTENER_MISSING_TOPICS_FATAL" readFlag?).getD s.missingTopicsFatal
  immediateStop := (env.value "KAFKA_LISTENER_IMMEDIATE_STOP" readFlag?).getD s.immediateStop

theorem denoted_eq_overlaid (env : Environment) : denoted env = standard.overlaid env := by
  simp only [denoted, overlaid, standard, Option.or_none]

theorem reads_loader : loader.reads = variableList := rfl

/-- Names are distinct, so a variable that can be read and all those of other names are all there
are. -/
theorem accepts_of_others {v : Variable} {env : Environment} (hv : v ∈ variableList)
    (hself : v.accepts env) (hothers : ∀ w ∈ variableList, w.name ≠ v.name → w.accepts env) :
    ∀ w ∈ variableList, w.accepts env := by
  have hnames : (variableList.map Variable.name).Nodup := by decide +kernel
  intro w hw
  by_cases hname : w.name = v.name
  · rwa [List.inj_on_of_nodup_map hnames hw hv hname]
  · exact hothers w hw hname

/-- **The two ways to build listener settings agree**, if every variable can be read. -/
theorem loader_overlaid {env : Environment} (h : ∀ v ∈ variableList, v.accepts env) :
    loader.run env = .ok (standard.overlaid env) := by
  rw [loader_gives.ok_iff, reads_loader, denoted_eq_overlaid]
  exact ⟨h, rfl⟩

end ListenerSettings

/-! ## Deployments -/

namespace Deployment

theorem loader_settled : loader.Settled declaredTexts := by
  unfold loader
  exact (BrokerSettings.loader_settled.map _)
    |>.seq ConsumerSettings.loader_settled
    |>.seq ListenerSettings.loader_settled
    |>.seq (.optional _ _ (by decide))
    |>.seq (.optional _ _ (by decide))
    |>.seq (.required "10000" (by decide) (by decide))

theorem nodup_variableList : (variableList.map Variable.name).Nodup := by
  decide +kernel

/-- The variables that are looked at before those of the listener. -/
def earlierList : List Variable := BrokerSettings.variableList ++ ConsumerSettings.variableList

/-- A deployment's listener settings are what is loaded for a listener on its own. -/
theorem run_listener {env : Environment} {d : Deployment} (h : loader.run env = .ok d) :
    ListenerSettings.loader.run env = .ok d.listener := by
  obtain ⟨haccepts, rfl⟩ := loader_gives.ok_iff.1 h
  rw [ListenerSettings.loader_gives.ok_iff]
  refine ⟨fun v hv => haccepts v ?_, rfl⟩
  rw [reads_loader, variableList]
  exact List.mem_append_left _ (List.mem_append_right _ hv)

/-- A variable that fails a listener on its own fails a deployment, unless one that is looked at
earlier does. -/
theorem run_listener_error {env : Environment} {name : String}
    (h : ListenerSettings.loader.run env = .error ⟨name⟩) :
    ((∀ v ∈ earlierList, v.accepts env) ∧ loader.run env = .error ⟨name⟩) ∨
      ∃ other, env.FailsAt earlierList other ∧ loader.run env = .error ⟨other⟩ := by
  rw [ListenerSettings.loader_gives.error_iff, Environment.failsAt_iff] at h
  obtain ⟨v, hv, rfl⟩ := h
  have hfirst :
      env.firstUnreadable loader.reads = (env.firstUnreadable earlierList).or (some v) := by
    rw [reads_loader, variableList, Environment.firstUnreadable_append,
      Environment.firstUnreadable_append, ← ListenerSettings.reads_loader, hv, earlierList]
    cases env.firstUnreadable _ <;> rfl
  cases hearlier : env.firstUnreadable earlierList with
  | none =>
    refine .inl ⟨Environment.firstUnreadable_eq_none.1 hearlier, ?_⟩
    rw [loader_gives.error_iff, Environment.failsAt_iff, hfirst, hearlier]
    exact ⟨v, rfl, rfl⟩
  | some w =>
    refine .inr ⟨w.name, Environment.failsAt_iff.2 ⟨w, hearlier, rfl⟩, ?_⟩
    rw [loader_gives.error_iff, Environment.failsAt_iff, hfirst, hearlier]
    exact ⟨w, rfl, rfl⟩

/-- **What comes of any environment.** Loading it fails just if one of its thirty-two variables is
there with a text that cannot be read, and names the first of these; otherwise every setting is what
its variable says, or its default. Nothing else in the environment matters, nor whether a default is
spelled out. The listener settings are the standard ones with the fields of the present variables
changed, on their own as well as within a deployment, and a variable that fails them on their own
fails the deployment unless one before them does. -/
theorem loader_outcome (env : Environment) :
    variableList.length = 32 ∧ (variableList.map Variable.name).Nodup ∧
    ((∃ e, loader.run env = .error e) ↔
      ∃ v ∈ variableList, ∃ s, env v.name = some s ∧ v.readable s = false) ∧
    (∀ name, loader.run env = .error ⟨name⟩ ↔ env.FailsAt variableList name) ∧
    (∀ d, loader.run env = .ok d ↔ (∀ v ∈ variableList, v.accepts env) ∧ d = denoted env) ∧
    (∀ env', env.Restates declaredTexts env' variableList → loader.run env' = loader.run env) ∧
    ((∀ v ∈ ListenerSettings.variableList, v.accepts env) →
      ListenerSettings.loader.run env = .ok (ListenerSettings.standard.overlaid env)) ∧
    (∀ d, loader.run env = .ok d → ListenerSettings.loader.run env = .ok d.listener) ∧
    (∀ name, ListenerSettings.loader.run env = .error ⟨name⟩ →
      ((∀ v ∈ earlierList, v.accepts env) ∧ loader.run env = .error ⟨name⟩) ∨
      ∃ other, env.FailsAt earlierList other ∧ loader.run env = .error ⟨other⟩) := by
  refine ⟨rfl, nodup_variableList, ?_, fun name => loader_gives.error_iff,
    fun d => loader_gives.ok_iff, fun env' h => loader_settled env env' h,
    ListenerSettings.loader_overlaid, fun d => run_listener, fun name => run_listener_error⟩
  simp only [← Variable.accepts_eq_false_iff]
  constructor
  · rintro ⟨⟨name⟩, he⟩
    obtain ⟨before, v, after, hvs, -, -, hv⟩ := loader_gives.error_iff.1 he
    refine ⟨v, ?_, hv⟩
    rw [← reads_loader, hvs]
    exact List.mem_append_right _ List.mem_cons_self
  · rintro ⟨v, hmem, hv⟩
    cases hrun : loader.run env with
    | error e => exact ⟨e, rfl⟩
    | ok d =>
      have haccepts := (loader_gives.ok_iff.1 hrun).1 v hmem
      rw [hv] at haccepts
      cases haccepts

/-- Records are acknowledged one by one; the other variable is nobody's. -/
def perRecord : Environment :=
  fun name => [("KAFKA_LISTENER_ACK_MODE", "record"), ("HOME", "/root")].lookup name

/-- Records are acknowledged one by one, and the hosts are spelled out. -/
def perRecordSpelled : Environment :=
  fun name => [("KAFKA_LISTENER_ACK_MODE", "record"), ("KAFKA_HOSTS", "localhost:9092")].lookup name

/-- A flag that is none, and a delivery that is there but empty. -/
def mistyped : Environment :=
  fun name => [("KAFKA_LISTENER_TYPE", ""), ("KAFKA_TLS", "maybe")].lookup name

/-- Two environments that load alike, and one where the flag is named although the delivery cannot
be read either. -/
theorem loader_outcome_perRecord_mistyped :
    loader.run perRecordSpelled = loader.run perRecord ∧
    ListenerSettings.loader.run perRecord = .ok (ListenerSettings.standard.overlaid perRecord) ∧
    ListenerSettings.loader.run perRecord = .ok (denoted perRecord).listener ∧
    (denoted perRecord).listener.ackMode = some .record ∧
    loader.run mistyped = .error ⟨"KAFKA_TLS"⟩ ∧
    ∃ other, mistyped.FailsAt earlierList other ∧ loader.run mistyped = .error ⟨other⟩ := by
  obtain ⟨-, -, -, -, hok, hrestates, hoverlaid, hlistener, -⟩ := loader_outcome perRecord
  obtain ⟨-, -, -, herror, -, -, -, -, hearlier⟩ := loader_outcome mistyped
  refine ⟨hrestates _ ?_, hoverlaid (by decide), hlistener _ ((hok _).2 ⟨by decide, rfl⟩),
    by decide, (herror _).2 ?_, ?_⟩
  · unfold Environment.Restates
    decide
  · exact ⟨BrokerSettings.variableList.take 5, .of "KAFKA_TLS" Numeral.readFlag?,
      variableList.drop 6, rfl, rfl, by decide, by decide⟩
  · rcases hearlier "KAFKA_LISTENER_TYPE" (by rfl) with ⟨haccepts, -⟩ | h
    · exact absurd haccepts (by decide)
    · exact h

end Deployment

end TopicListeners
