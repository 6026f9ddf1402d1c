import Mathlib.Data.List.Nodup
import TopicListeners.Proofs.Container.Installing

/-!
# The log of an installation

Installing a wiring makes one change for each part that the wiring writes to, in a fixed order, and
logs each of them under the property that it comes from. Which ones these are is up to the wiring
alone: neither the blueprint nor the provider of consumers has a say in it.

* `blueprintAssignments_eq`, `containerAssignments_eq`: what is copied, part by part.
* `install_eq_run`: **an installation is one change for each part that is written.**
* `install_snd`: the log, event by event.
* `install_logged`: **a part is written iff its event is in the log**, and no part is twice.
-/

namespace TopicListeners

variable {σ : Type}

/-! ## Parts and their properties -/

namespace ContainerPart

/-- The property that is copied to a part. -/
def property : ContainerPart → String
  | ackMode => "ack_mode"
  | asyncAcks => "async_acks"
  | clientId => "client_id"
  | ackCount => "ack_count"
  | ackTime => "ack_time"
  | pollTimeout => "poll_timeout"
  | noPollThreshold => "no_poll_threshold"
  | idleBetweenPolls => "idle_between_polls"
  | idleEventInterval => "idle_event_interval"
  | idlePartitionEventInterval => "idle_partition_event_interval"
  | monitorInterval => "monitor_interval"
  | logContainerConfig => "log_container_config"
  | missingTopicsFatal => "missing_topics_fatal"
  | stopImmediate => "immediate_stop"
  | transactor => "transaction_manager"
  | rebalanceWatcher => "rebalance_listener"

/-- The parts in the order in which they are copied to. -/
def order : List ContainerPart :=
  [ackMode, asyncAcks, clientId, ackCount, ackTime, pollTimeout, noPollThreshold, idleBetweenPolls,
    idleEventInterval, idlePartitionEventInterval, monitorInterval, logContainerConfig,
    missingTopicsFatal, stopImmediate, transactor, rebalanceWatcher]

/-- The change that gives a part a value. -/
def toChange : (p : ContainerPart) → p.Value σ → ContainerChange σ
  | ackMode, m => .ackMode m
  | asyncAcks, b => .asyncAcks b
  | clientId, t => .clientId t
  | ackCount, n => .ackCount n
  | ackTime, n => .ackTime n
  | pollTimeout, n => .pollTimeout n
  | noPollThreshold, x => .noPollThreshold x
  | idleBetweenPolls, n => .idleBetweenPolls n
  | idleEventInterval, n => .idleEventInterval n
  | idlePartitionEventInterval, n => .idlePartitionEventInterval n
  | monitorInterval, n => .monitorInterval n
  | logContainerConfig, b => .logContainerConfig b
  | missingTopicsFatal, b => .missingTopicsFatal b
  | stopImmediate, b => .stopImmediate b
  | transactor, m => .transactor m
  | rebalanceWatcher, l => .rebalanceWatcher l

theorem part_toChange (p : ContainerPart) (v : p.Value σ) : (p.toChange v).part = p := by
  cases p <;> rfl

theorem mem_order (p : ContainerPart) : p ∈ order := by cases p <;> decide

end ContainerPart

namespace BlueprintPart

/-- The property that is copied to a part, or the name of the provider, which is not copied. -/
def property : BlueprintPart → String
  | provider => "consumer_factory"
  | concurrency => "concurrency"
  | autoStartup => "auto_startup"
  | batchListener => "listener_type"
  | converter => "message_converter"
  | recordFilter => "record_filter_strategy"
  | replySender => "reply_template"
  | errorHandler => "common_error_handler"
  | rollbackHandler => "after_rollback_processor"
  | recordInspector => "record_interceptor"
  | batchInspector => "batch_interceptor"
  | container p => p.property

/-- The parts beside container settings, in the order in which they are copied to. -/
def ownOrder : List BlueprintPart :=
  [concurrency, autoStartup, converter, recordFilter, replySender, batchListener, errorHandler,
    rollbackHandler, recordInspector, batchInspector]

/-- All parts that are copied to, in order. -/
def order : List BlueprintPart := ownOrder ++ ContainerPart.order.map container

/-- The change that gives a part a value. -/
def toChange : (p : BlueprintPart) → p.Value σ → BlueprintChange σ
  | provider, c => .provider c
  | concurrency, n => .concurrency n
  | autoStartup, b => .autoStartup b
  | batchListener, b => .batchListener b
  | converter, c => .converter c
  | recordFilter, f => .recordFilter f
  | replySender, t => .replySender t
  | errorHandler, h => .errorHandler h
  | rollbackHandler, p => .rollbackHandler p
  | recordInspector, i => .recordInspector i
  | batchInspector, i => .batchInspector i
  | container p, v => .container (p.toChange v)

theorem part_toChange (p : BlueprintPart) (v : p.Value σ) : (p.toChange v).part = p := by
  cases p with
  | container p => exact congrArg container (p.part_toChange v)
  | _ => rfl

theorem mem_order {p : BlueprintPart} : p ∈ order ↔ p ≠ provider := by
  cases p with
  | container p => simp [order, ownOrder, p.mem_order]
  | _ => decide

theorem nodup_order : order.Nodup := by decide

/-- What is logged when a part is written. -/
def event : BlueprintPart → Event
  | container p => ⟨.debug, "applying listener property",
      [("target_object", "container_properties"), ("property", p.property)]⟩
  | p => ⟨.debug, "applying listener property",
      [("target_object", "listener_factory"), ("property", p.property)]⟩

theorem message_event (p : BlueprintPart) : p.event.message = "applying listener property" := by
  cases p <;> rfl

/-- Each part has an event of its own. -/
theorem nodup_map_event : ((provider :: order).map event).Nodup := by decide

theorem event_injective : Function.Injective event := by
  intro p q h
  have hmem (p : BlueprintPart) : p ∈ provider :: order := by
    by_cases hp : p = provider
    · exact hp ▸ List.mem_cons_self
    · exact List.mem_cons_of_mem _ (mem_order.2 hp)
  exact List.inj_on_of_nodup_map nodup_map_event (hmem p) (hmem q) h

end BlueprintPart

/-! ## Copies -/

namespace Copying

variable {τ ι κ : Type}

/-- Copies of which each makes one change, if there is one to make. -/
theorem foldl_present {f : ι → Assignment τ} {change? : ι → Option κ} {change : τ → κ → τ}
    (h : ∀ i, (f i).update = (change? i).map fun c d => change d c) (is : List ι) (d : τ) :
    (present (is.map f)).foldl Assignment.perform d = (is.filterMap change?).foldl change d := by
  induction is generalizing d with
  | nil => rfl
  | cons i is ih =>
    have hi := h i
    cases hc : change? i with
    | none =>
      rw [hc, Option.map_none] at hi
      rw [List.filterMap_cons_none hc, ← ih]
      simp [present, hi]
    | some c =>
      rw [hc, Option.map_some] at hi
      rw [List.filterMap_cons_some hc, List.foldl_cons, ← ih]
      simp [present, Assignment.perform, hi]

/-- The events of copies, and how many there are. -/
theorem log_run {f : ι → Assignment τ} {written : ι → Bool} {event : ι → Event} {target : String}
    {is : List ι} (hwritten : ∀ i, (f i).update.isSome = written i)
    (hevent : ∀ i ∈ is, applying target (f i).property = event i) (d : τ) :
    ((start target d).run (is.map f)).events = (is.filter written).map event ∧
      ((start target d).run (is.map f)).applied = (is.filter written).length := by
  have hpresent : present (is.map f) = (is.filter written).map f := by
    rw [present, List.filter_map]
    exact congrArg _ (List.filter_congr fun i _ => hwritten i)
  rw [events_eq, applied_eq, hpresent, List.map_map, List.length_map]
  refine ⟨?_, Nat.zero_add _⟩
  exact List.map_congr_left fun i hi => hevent i (List.mem_of_mem_filter hi)

end Copying

namespace Wiring

/-- The change of a part of container settings that a wiring asks for. -/
def containerChange? (w : Wiring σ) (p : ContainerPart) : Option (ContainerChange σ) :=
  (w.containerWrites p).map p.toChange

/-- The change of a part beside container settings that a wiring asks for. -/
def blueprintChange? (w : Wiring σ) (p : BlueprintPart) : Option (BlueprintChange σ) :=
  (w.blueprintWrites p).map p.toChange

/-- What is copied to a part of container settings. -/
def containerAssignment (w : Wiring σ) (p : ContainerPart) : Assignment (ContainerSettings σ) :=
  ⟨p.property, (w.containerChange? p).map fun c s => s.change c⟩

/-- What is copied to a part beside container settings. -/
def blueprintAssignment (w : Wiring σ) (p : BlueprintPart) : Assignment (Blueprint σ) :=
  ⟨p.property, (w.blueprintChange? p).map fun c b => b.change c⟩

/-- **What is copied onto container settings, part by part.** -/
theorem containerAssignments_eq (w : Wiring σ) :
    w.containerAssignments = ContainerPart.order.map w.containerAssignment := by
  simp [containerAssignments, toContainer, Offer.toAssignment, Offer.property_convert, Offer.of,
    ContainerPart.order, containerAssignment, containerChange?, containerWrites,
    ContainerPart.property, ContainerPart.toChange, Function.comp_def]

/-- **What is copied onto a blueprint, part by part.** -/
theorem blueprintAssignments_eq (w : Wiring σ) :
    w.blueprintAssignments = BlueprintPart.ownOrder.map w.blueprintAssignment := by
  have hdelivery : (some w.settings.delivery).filter (· == .batch) =
      if w.settings.delivery = .batch then some .batch else none := by
    by_cases hd : w.settings.delivery = .batch <;> simp [Option.filter, hd]
  simp [blueprintAssignments, toBlueprint, Offer.toAssignment, Offer.property_require, Offer.of,
    BlueprintPart.ownOrder, blueprintAssignment, blueprintChange?, blueprintWrites,
    BlueprintPart.property, BlueprintPart.toChange, Function.comp_def, hdelivery]

/-! ## What is written -/

/-- The parts beside container settings that a wiring writes to, in order. -/
def ownParts (w : Wiring σ) : List BlueprintPart :=
  BlueprintPart.ownOrder.filter fun p => (w.blueprintWrites p).isSome

/-- The parts of container settings that a wiring writes to, in order. -/
def containerParts (w : Wiring σ) : List ContainerPart :=
  ContainerPart.order.filter fun p => (w.containerWrites p).isSome

/-- The parts that a wiring writes to, in order. -/
def parts (w : Wiring σ) : List BlueprintPart :=
  w.ownParts ++ w.containerParts.map BlueprintPart.container

/-- The changes that installing a wiring makes, in order. -/
def changes (w : Wiring σ) (provider : ConsumerProvider σ) : List (BlueprintChange σ) :=
  .provider provider ::
    BlueprintPart.order.filterMap fun p => (w.writes provider p).map p.toChange

theorem writes_own (w : Wiring σ) (provider : ConsumerProvider σ) {p : BlueprintPart}
    (hp : p ∈ BlueprintPart.ownOrder) : w.writes provider p = w.blueprintWrites p := by
  cases p with
  | provider | container => simp [BlueprintPart.ownOrder] at hp
  | _ => rfl

theorem parts_eq (w : Wiring σ) (provider : ConsumerProvider σ) :
    w.parts = BlueprintPart.order.filter fun p => (w.writes provider p).isSome := by
  have hown : w.ownParts =
      BlueprintPart.ownOrder.filter fun p => (w.writes provider p).isSome :=
    List.filter_congr fun p hp => by rw [w.writes_own provider hp]
  rw [BlueprintPart.order, List.filter_append, parts, hown, List.filter_map]
  rfl

theorem mem_parts_iff (w : Wiring σ) (provider : ConsumerProvider σ) {p : BlueprintPart} :
    p ∈ w.parts ↔ p ≠ .provider ∧ (w.writes provider p).isSome := by
  rw [w.parts_eq provider, List.mem_filter, BlueprintPart.mem_order]

/-- What is written to a part does not depend on the provider. -/
theorem exists_writes (w : Wiring σ) {p : BlueprintPart} (hp : p ∈ w.parts) :
    ∃ v, ∀ provider : ConsumerProvider σ, w.writes provider p = some v := by
  rcases List.mem_append.1 hp with h | h
  · obtain ⟨hown, hsome⟩ := List.mem_filter.1 h
    obtain ⟨v, hv⟩ := Option.isSome_iff_exists.1 hsome
    exact ⟨v, fun provider => (w.writes_own provider hown).trans hv⟩
  · obtain ⟨q, hq, rfl⟩ := List.mem_map.1 h
    obtain ⟨v, hv⟩ := Option.isSome_iff_exists.1 (List.mem_filter.1 hq).2
    exact ⟨v, fun _ => hv⟩

/-- No part is written twice. -/
theorem nodup_parts (w : Wiring σ) : w.parts.Nodup := by
  have hsublist : w.parts.Sublist BlueprintPart.order :=
    List.filter_sublist.append (List.filter_sublist.map _)
  exact BlueprintPart.nodup_order.sublist hsublist

/-- There is one change for each part that is written. -/
theorem map_part_changes (w : Wiring σ) (provider : ConsumerProvider σ) :
    (w.changes provider).map BlueprintChange.part = .provider :: w.parts := by
  have hpart (p : BlueprintPart) :
      ((w.writes provider p).map p.toChange).map BlueprintChange.part =
        Option.guard (fun p => (w.writes provider p).isSome) p := by
    cases h : w.writes provider p with
    | none => simp [Option.guard, h]
    | some v => simp [Option.guard, h, p.part_toChange]
  rw [changes, List.map_cons, List.map_filterMap, w.parts_eq provider,
    ← List.filterMap_eq_filter]
  simp only [hpart]
  rfl

/-- What is always written, and batch delivery, which is written iff there is to be any. -/
theorem mem_parts_always (w : Wiring σ) :
    .autoStartup ∈ w.parts ∧ (.batchListener ∈ w.parts ↔ w.settings.delivery = .batch) ∧
      .container .idleBetweenPolls ∈ w.parts ∧ .container .missingTopicsFatal ∈ w.parts ∧
      .container .stopImmediate ∈ w.parts := by
  have hown (p : BlueprintPart) (hp : p ∈ BlueprintPart.ownOrder) :
      p ∈ w.parts ↔ (w.blueprintWrites p).isSome := by
    have hcontainer : p ∉ w.containerParts.map BlueprintPart.container := by
      intro h
      obtain ⟨q, -, rfl⟩ := List.mem_map.1 h
      simp [BlueprintPart.ownOrder] at hp
    simp [parts, ownParts, hp, hcontainer]
  have hsettings (p : ContainerPart) (hp : (w.containerWrites p).isSome) :
      .container p ∈ w.parts :=
    List.mem_append_right _ (List.mem_map_of_mem (List.mem_filter.2 ⟨p.mem_order, hp⟩))
  refine ⟨(hown _ (by decide)).2 rfl, ?_, hsettings _ rfl, hsettings _ rfl, hsettings _ rfl⟩
  rw [hown _ (by decide), blueprintWrites]
  split <;> simp [*]

/-! ## Installing -/

/-- **An installation is one change for each part that is written.** -/
theorem install_eq_run (w : Wiring σ) (provider : ConsumerProvider σ) (b : Blueprint σ) :
    (w.install provider b).1 = b.run (w.changes provider) := by
  have hcontainer (b : Blueprint σ) (cs : List (ContainerChange σ)) :
      b.run (cs.map .container) = { b with container := cs.foldl .change b.container } := by
    induction cs generalizing b with
    | nil => rfl
    | cons c cs ih => exact ih (b.change (.container c))
  have hinner (s : ContainerSettings σ) : (w.copyToContainer s).destination =
      (ContainerPart.order.filterMap w.containerChange?).foldl .change s := by
    rw [copyToContainer, containerAssignments_eq, Copying.destination_eq]
    exact Copying.foldl_present (fun _ => rfl) _ s
  have houter (b : Blueprint σ) : (w.copyToBlueprint b).destination =
      b.run (BlueprintPart.ownOrder.filterMap w.blueprintChange?) := by
    rw [copyToBlueprint, blueprintAssignments_eq, Copying.destination_eq]
    exact Copying.foldl_present (fun _ => rfl) _ b
  have hown : BlueprintPart.ownOrder.filterMap w.blueprintChange? =
      BlueprintPart.ownOrder.filterMap fun p => (w.writes provider p).map p.toChange :=
    List.filterMap_congr fun p hp => by rw [w.writes_own provider hp, blueprintChange?]
  have hsettings : (ContainerPart.order.filterMap w.containerChange?).map .container =
      (ContainerPart.order.map .container).filterMap
        fun p => (w.writes provider p).map p.toChange := by
    rw [List.map_filterMap, List.filterMap_map]
    refine List.filterMap_congr fun p _ => ?_
    rw [containerChange?, Option.map_map]
    rfl
  calc (w.install provider b).1
      = (b.change (.provider provider)).run
          (BlueprintPart.ownOrder.filterMap w.blueprintChange? ++
            (ContainerPart.order.filterMap w.containerChange?).map .container) := by
        rw [Blueprint.run_append, hcontainer, ← houter, ← hinner]
        rfl
    _ = b.run (w.changes provider) := by
        rw [hown, hsettings, ← List.filterMap_append]
        rfl

/-! ## Events -/

/-- What installing a wiring logs: an event for each part that is written, and after the parts
beside container settings and after those of container settings how many there were. -/
def log (w : Wiring σ) : List Event :=
  w.ownParts.map BlueprintPart.event ++
    ⟨.debug, "configured listener container factory",
      [("applied", toString w.ownParts.length)]⟩ ::
    (w.containerParts.map fun p => BlueprintPart.event (.container p)) ++
    [⟨.debug, "configured container properties",
      [("applied", toString w.containerParts.length)]⟩]

/-- **What is logged**, whatever the blueprint and the provider. -/
theorem install_snd (w : Wiring σ) (provider : ConsumerProvider σ) (b : Blueprint σ) :
    (w.install provider b).2 = w.log := by
  have houter (b : Blueprint σ) : (w.copyToBlueprint b).events =
      w.ownParts.map BlueprintPart.event ∧ (w.copyToBlueprint b).applied = w.ownParts.length := by
    rw [copyToBlueprint, blueprintAssignments_eq]
    refine Copying.log_run (fun p => ?_) (fun p hp => ?_) b
    · simp [blueprintAssignment, blueprintChange?]
    · cases p with
      | container => simp [BlueprintPart.ownOrder] at hp
      | _ => rfl
  have hinner (s : ContainerSettings σ) : (w.copyToContainer s).events =
        w.containerParts.map (fun p => BlueprintPart.event (.container p)) ∧
      (w.copyToContainer s).applied = w.containerParts.length := by
    rw [copyToContainer, containerAssignments_eq]
    refine Copying.log_run (fun p => ?_) (fun _ _ => rfl) s
    simp [containerAssignment, containerChange?]
  simp only [install, houter, hinner, log]
  rfl

/-- The events of copies are those of the parts that are written. -/
theorem filter_log (w : Wiring σ) :
    w.log.filter (fun e => e.message == "applying listener property") =
      w.parts.map BlueprintPart.event := by
  have hkeep (ps : List BlueprintPart) :
      (ps.map BlueprintPart.event).filter (fun e => e.message == "applying listener property") =
        ps.map BlueprintPart.event := by
    rw [List.filter_eq_self, List.forall_mem_map]
    intro p _
    rw [p.message_event, beq_self_eq_true]
  have hsettings : w.containerParts.map (fun p => BlueprintPart.event (.container p)) =
      (w.containerParts.map .container).map BlueprintPart.event := by
    rw [List.map_map]
    rfl
  have hcounts : ("configured listener container factory" == "applying listener property") = false ∧
      ("configured container properties" == "applying listener property") = false := by decide
  rw [log, hsettings, parts, List.map_append]
  simp only [List.filter_append, List.filter_cons, List.filter_nil, hkeep, hcounts,
    Bool.false_eq_true, if_false, List.append_nil]

/-- **A part is written iff its event is in the log.** -/
theorem event_mem_log_iff (w : Wiring σ) {p : BlueprintPart} : p.event ∈ w.log ↔ p ∈ w.parts := by
  rw [← List.mem_map_of_injective BlueprintPart.event_injective, ← filter_log, List.mem_filter,
    p.message_event]
  simp

/-- No part is logged twice. -/
theorem count_event_le (w : Wiring σ) (p : BlueprintPart) : w.log.count p.event ≤ 1 := by
  have hmessage : (p.event.message == "applying listener property") = true := by
    rw [p.message_event, beq_self_eq_true]
  rw [← List.count_filter (p := fun e => e.message == "applying listener property") hmessage,
    filter_log]
  exact List.nodup_iff_count_le_one.1 (w.nodup_parts.map BlueprintPart.event_injective) _

/-- **The log of an installation is faithful.** From any blueprint and with any provider the log is
the same, the one of `log`, in which four properties always are and that of batch delivery is iff it
is wanted. Each part but the provider's is changed once if its event is in the log, to what the
wiring has for it, and left as it was if not. -/
theorem install_logged (w : Wiring σ) :
    (∀ (provider : ConsumerProvider σ) (b : Blueprint σ), (w.install provider b).2 = w.log ∧
      (w.install provider b).1 = b.run (w.changes provider) ∧
      (w.changes provider).map BlueprintChange.part = .provider :: w.parts) ∧
    (.autoStartup ∈ w.parts ∧ (.batchListener ∈ w.parts ↔ w.settings.delivery = .batch) ∧
      .container .idleBetweenPolls ∈ w.parts ∧ .container .missingTopicsFatal ∈ w.parts ∧
      .container .stopImmediate ∈ w.parts) ∧
    w.parts.Nodup ∧
    (∀ p : BlueprintPart, p ≠ .provider →
      (p ∈ w.parts ↔ p.event ∈ w.log) ∧ w.log.count p.event ≤ 1 ∧
      (p.event ∈ w.log → ∃ v, ∀ (provider : ConsumerProvider σ) (b : Blueprint σ),
        p.get (w.install provider b).1 = some v) ∧
      (p.event ∉ w.log → ∀ (provider : ConsumerProvider σ) (b : Blueprint σ),
        p.get (w.install provider b).1 = p.get b)) ∧
    ∀ (first second : ConsumerProvider σ) (b c : Blueprint σ),
      (w.install first b).2 = (w.install second c).2 := by
  refine ⟨fun provider b => ⟨w.install_snd provider b, w.install_eq_run provider b,
    w.map_part_changes provider⟩, w.mem_parts_always, w.nodup_parts,
    fun p hp => ⟨w.event_mem_log_iff.symm, w.count_event_le p, ?_, ?_⟩,
    fun first second b c => ?_⟩
  · intro hlog
    obtain ⟨v, hv⟩ := w.exists_writes (w.event_mem_log_iff.1 hlog)
    refine ⟨v, fun provider b => ?_⟩
    rw [get_install, hv, Option.some_or]
  · intro hlog provider b
    have hnone : w.writes provider p = none := by
      rw [event_mem_log_iff, w.mem_parts_iff provider] at hlog
      simpa [hp] using hlog
    rw [get_install, hnone, Option.none_or]
  · rw [install_snd, install_snd]

/-- A wiring for batches, with a converter and acknowledgements by time. -/
def timedBatches : Wiring Unit :=
  (ofSettings { ListenerSettings.standard with delivery := .batch, ackMode := some .time }).supply
    (.converter .json)

/-- Batch delivery is written and logged, the client id is neither. -/
theorem install_logged_timedBatches :
    (BlueprintPart.batchListener ≠ .provider ∧
      BlueprintPart.batchListener.event ∈ timedBatches.log ∧
      ∃ v, ∀ (provider : ConsumerProvider Unit) (b : Blueprint Unit),
        BlueprintPart.batchListener.get (timedBatches.install provider b).1 = some v) ∧
    (BlueprintPart.container .clientId ≠ .provider ∧
      BlueprintPart.event (.container .clientId) ∉ timedBatches.log ∧
      ∀ (provider : ConsumerProvider Unit) (b : Blueprint Unit),
        (BlueprintPart.container .clientId).get (timedBatches.install provider b).1 =
          (BlueprintPart.container .clientId).get b) := by
  have hbatch : BlueprintPart.batchListener.event ∈ timedBatches.log := by decide
  have hclientId : BlueprintPart.event (.container .clientId) ∉ timedBatches.log := by decide
  obtain ⟨-, -, -, hparts, -⟩ := timedBatches.install_logged
  exact ⟨⟨nofun, hbatch, (hparts .batchListener nofun).2.2.1 hbatch⟩,
    ⟨nofun, hclientId, (hparts (.container .clientId) nofun).2.2.2 hclientId⟩⟩

end Wiring

end TopicListeners
