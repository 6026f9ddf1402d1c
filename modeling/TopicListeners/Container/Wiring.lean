import TopicListeners.Container.Blueprint
import TopicListeners.Copying
import TopicListeners.Settings.Listener

/-!
# Wiring

Listener settings and collaborators, to be put into a blueprint. Settings and collaborators that
are missing leave the blueprint as it is; the ones that are there are copied in a fixed order, and
each copy is logged.
-/

namespace TopicListeners

/-- Listener settings and the collaborators that have been supplied. -/
structure Wiring (σ : Type) where
  settings : ListenerSettings
  converter : Option (Converter σ)
  recordFilter : Option (RecordFilter σ)
  replySender : Option (ReplySender σ)
  transactor : Option (Transactor σ)
  rebalanceWatcher : Option (RebalanceWatcher σ)
  errorHandler : Option (ErrorHandler σ)
  rollbackHandler : Option (RollbackHandler σ)
  recordInspector : Option (RecordInspector σ)
  batchInspector : Option (BatchInspector σ)

/-- A collaborator to be supplied. -/
inductive Supply (σ : Type)
  | converter (c : Converter σ)
  | recordFilter (f : RecordFilter σ)
  | replySender (t : ReplySender σ)
  | transactor (m : Transactor σ)
  | rebalanceWatcher (l : RebalanceWatcher σ)
  | errorHandler (h : ErrorHandler σ)
  | rollbackHandler (p : RollbackHandler σ)
  | recordInspector (i : RecordInspector σ)
  | batchInspector (i : BatchInspector σ)

namespace Wiring

variable {σ : Type}

/-- Settings without any collaborators. -/
def ofSettings (s : ListenerSettings) : Wiring σ :=
  ⟨s, none, none, none, none, none, none, none, none, none⟩

/-- A wiring with one more collaborator, instead of the one of its kind that was there. -/
def supply (w : Wiring σ) : Supply σ → Wiring σ
  | .converter c => { w with converter := some c }
  | .recordFilter f => { w with recordFilter := some f }
  | .replySender t => { w with replySender := some t }
  | .transactor m => { w with transactor := some m }
  | .rebalanceWatcher l => { w with rebalanceWatcher := some l }
  | .errorHandler h => { w with errorHandler := some h }
  | .rollbackHandler p => { w with rollbackHandler := some p }
  | .recordInspector i => { w with recordInspector := some i }
  | .batchInspector i => { w with batchInspector := some i }

/-- A wiring with all the collaborators of a list. -/
def supplyAll (w : Wiring σ) (cs : List (Supply σ)) : Wiring σ := cs.foldl supply w

/-- Hands an offer over as a change of a blueprint. -/
def toBlueprint {α : Type} (o : Offer α) (c : α → BlueprintChange σ) : Assignment (Blueprint σ) :=
  o.toAssignment fun a b => b.change (c a)

/-- Hands an offer over as a change of container settings. -/
def toContainer {α : Type} (o : Offer α) (c : α → ContainerChange σ) :
    Assignment (ContainerSettings σ) :=
  o.toAssignment fun a s => s.change (c a)

/-- What is copied onto the blueprint itself. Of the deliveries only batch delivery is: a blueprint
that says batches is not told otherwise. -/
def blueprintAssignments (w : Wiring σ) : List (Assignment (Blueprint σ)) :=
  [toBlueprint (.of "concurrency" w.settings.concurrency) .concurrency,
    toBlueprint (.of "auto_startup" (some w.settings.autoStartup)) .autoStartup,
    toBlueprint (.of "message_converter" w.converter) .converter,
    toBlueprint (.of "record_filter_strategy" w.recordFilter) .recordFilter,
    toBlueprint (.of "reply_template" w.replySender) .replySender,
    toBlueprint ((Offer.of "listener_type" (some w.settings.delivery)).require (· == .batch))
      fun _ => .batchListener true,
    toBlueprint (.of "common_error_handler" w.errorHandler) .errorHandler,
    toBlueprint (.of "after_rollback_processor" w.rollbackHandler) .rollbackHandler,
    toBlueprint (.of "record_interceptor" w.recordInspector) .recordInspector,
    toBlueprint (.of "batch_interceptor" w.batchInspector) .batchInspector]

/-- What is copied onto the container settings of the blueprint. -/
def containerAssignments (w : Wiring σ) : List (Assignment (ContainerSettings σ)) :=
  let s := w.settings
  [toContainer (.of "ack_mode" s.ackMode) .ackMode,
    toContainer (.of "async_acks" s.asyncAcks) .asyncAcks,
    toContainer (.of "client_id" s.clientId) .clientId,
    toContainer (.of "ack_count" s.ackCount) .ackCount,
    toContainer ((Offer.of "ack_time" s.ackTime).convert Duration.millis) .ackTime,
    toContainer ((Offer.of "poll_timeout" s.pollTimeout).convert Duration.millis) .pollTimeout,
    toContainer (.of "no_poll_threshold" s.noPollThreshold) .noPollThreshold,
    toContainer ((Offer.of "idle_between_polls" (some s.idleBetweenPolls)).convert Duration.millis)
      .idleBetweenPolls,
    toContainer ((Offer.of "idle_event_interval" s.idleEventInterval).convert Duration.millis)
      .idleEventInterval,
    toContainer
      ((Offer.of "idle_partition_event_interval" s.idlePartitionEventInterval).convert
        Duration.millis)
      .idlePartitionEventInterval,
    toContainer ((Offer.of "monitor_interval" s.monitorInterval).convert Duration.wholeSeconds)
      .monitorInterval,
    toContainer (.of "log_container_config" s.logContainerConfig) .logContainerConfig,
    toContainer (.of "missing_topics_fatal" (some s.missingTopicsFatal)) .missingTopicsFatal,
    toContainer (.of "immediate_stop" (some s.immediateStop)) .stopImmediate,
    toContainer (.of "transaction_manager" w.transactor) .transactor,
    toContainer (.of "rebalance_listener" w.rebalanceWatcher) .rebalanceWatcher]

/-- The event at the end of copying. -/
def installed (message : String) (applied : Nat) : Event :=
  ⟨.debug, message, [("applied", toString applied)]⟩

/-- The copying onto the blueprint itself. -/
def copyToBlueprint (w : Wiring σ) (b : Blueprint σ) : Copying (Blueprint σ) :=
  (Copying.start "listener_factory" b).run w.blueprintAssignments

/-- The copying onto container settings. -/
def copyToContainer (w : Wiring σ) (s : ContainerSettings σ) : Copying (ContainerSettings σ) :=
  (Copying.start "container_properties" s).run w.containerAssignments

/-- Gives a blueprint a provider of consumers, the settings and the collaborators. -/
def install (w : Wiring σ) (provider : ConsumerProvider σ) (b : Blueprint σ) :
    Blueprint σ × List Event :=
  let outer := w.copyToBlueprint (b.change (.provider provider))
  let inner := w.copyToContainer outer.destination.container
  ({ outer.destination with container := inner.destination },
    outer.events ++ installed "configured listener container factory" outer.applied ::
      inner.events ++ [installed "configured container properties" inner.applied])

end Wiring

end TopicListeners
