import TopicListeners.Settings.Modes
import TopicListeners.Collaborator
import TopicListeners.Numeral.Single
import TopicListeners.Text.Description

/-!
# Container settings

What every container of a blueprint is run with, and the changes that can be made to it.
-/

namespace TopicListeners

/-- The settings of a container. Times are in milliseconds unless they say otherwise. -/
structure ContainerSettings (σ : Type) where
  ackMode : AckMode
  asyncAcks : Bool
  /-- What the client ids of the children start with; empty for no client ids. -/
  clientId : String
  ackCount : UInt32
  ackTime : UInt64
  pollTimeout : UInt64
  noPollThreshold : Numeral.Single
  idleBetweenPolls : UInt64
  idleEventInterval : Option UInt64
  idlePartitionEventInterval : Option UInt64
  /-- In seconds. -/
  monitorInterval : Int32
  logContainerConfig : Bool
  missingTopicsFatal : Bool
  stopImmediate : Bool
  transactor : Option (Transactor σ)
  rebalanceWatcher : Option (RebalanceWatcher σ)

/-- One setting of a container that gets a new value. -/
inductive ContainerChange (σ : Type)
  | ackMode (m : AckMode)
  | asyncAcks (b : Bool)
  | clientId (s : String)
  | ackCount (n : UInt32)
  | ackTime (n : UInt64)
  | pollTimeout (n : UInt64)
  | noPollThreshold (x : Numeral.Single)
  | idleBetweenPolls (n : UInt64)
  | idleEventInterval (n : UInt64)
  | idlePartitionEventInterval (n : UInt64)
  | monitorInterval (n : Int32)
  | logContainerConfig (b : Bool)
  | missingTopicsFatal (b : Bool)
  | stopImmediate (b : Bool)
  | transactor (m : Transactor σ)
  | rebalanceWatcher (l : RebalanceWatcher σ)

namespace ContainerSettings

variable {σ : Type}

/-- Three, the default threshold. -/
def three : Numeral.Single := ⟨0x40400000⟩

/-- The settings without any choice made. -/
def standard : ContainerSettings σ where
  ackMode := .batch
  asyncAcks := false
  clientId := ""
  ackCount := 1
  ackTime := 5000
  pollTimeout := 5000
  noPollThreshold := three
  idleBetweenPolls := 0
  idleEventInterval := none
  idlePartitionEventInterval := none
  monitorInterval := 30
  logContainerConfig := false
  missingTopicsFatal := false
  stopImmediate := false
  transactor := none
  rebalanceWatcher := none

/-- The settings after a change. -/
def change (s : ContainerSettings σ) : ContainerChange σ → ContainerSettings σ
  | .ackMode m => { s with ackMode := m }
  | .asyncAcks b => { s with asyncAcks := b }
  | .clientId t => { s with clientId := t }
  | .ackCount n => { s with ackCount := n }
  | .ackTime n => { s with ackTime := n }
  | .pollTimeout n => { s with pollTimeout := n }
  | .noPollThreshold x => { s with noPollThreshold := x }
  | .idleBetweenPolls n => { s with idleBetweenPolls := n }
  | .idleEventInterval n => { s with idleEventInterval := some n }
  | .idlePartitionEventInterval n => { s with idlePartitionEventInterval := some n }
  | .monitorInterval n => { s with monitorInterval := n }
  | .logContainerConfig b => { s with logContainerConfig := b }
  | .missingTopicsFatal b => { s with missingTopicsFatal := b }
  | .stopImmediate b => { s with stopImmediate := b }
  | .transactor m => { s with transactor := some m }
  | .rebalanceWatcher l => { s with rebalanceWatcher := some l }

open Text

/-- The fields of the description, in order. -/
def fields (s : ContainerSettings σ) : List (String × String) :=
  [("ack_mode", s.ackMode.describe),
    ("async_acks", toString s.asyncAcks),
    ("client_id", quoted s.clientId),
    ("ack_count", toString s.ackCount.toNat),
    ("ack_time_ms", toString s.ackTime.toNat),
    ("poll_timeout_ms", toString s.pollTimeout.toNat),
    ("no_poll_threshold", s.noPollThreshold.write),
    ("idle_between_polls_ms", toString s.idleBetweenPolls.toNat),
    ("idle_event_interval_ms", describeOption (s.idleEventInterval.map fun n => toString n.toNat)),
    ("idle_partition_event_interval_ms",
      describeOption (s.idlePartitionEventInterval.map fun n => toString n.toNat)),
    ("monitor_interval_secs", toString s.monitorInterval.toInt),
    ("log_container_config", toString s.logContainerConfig),
    ("missing_topics_fatal", toString s.missingTopicsFatal),
    ("stop_immediate", toString s.stopImmediate),
    ("transaction_manager", describeOption (s.transactor.map Transactor.label)),
    ("rebalance_listener", describeOption (s.rebalanceWatcher.map RebalanceWatcher.label))]

/-- The settings in one line. -/
def describe (s : ContainerSettings σ) : String :=
  describeStructure "ContainerProperties" s.fields

end ContainerSettings

end TopicListeners
