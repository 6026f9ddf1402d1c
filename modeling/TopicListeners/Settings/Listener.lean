import TopicListeners.Environment
import TopicListeners.Numeral.Single
import TopicListeners.Settings.Modes
import TopicListeners.Duration

/-!
# Listener settings

How a listener is to be run. A setting that is missing leaves a blueprint as it is.
-/

namespace TopicListeners

/-- Listener settings, the optional ones to be applied only if they are there. -/
structure ListenerSettings where
  delivery : Delivery
  /-- How many consumers share the partitions. -/
  concurrency : Option UInt32
  autoStartup : Bool
  ackMode : Option AckMode
  asyncAcks : Option Bool
  clientId : Option String
  ackCount : Option UInt32
  ackTime : Option Duration
  pollTimeout : Option Duration
  /-- How many poll timeouts a consumer may be silent for. -/
  noPollThreshold : Option Numeral.Single
  idleBetweenPolls : Duration
  idleEventInterval : Option Duration
  idlePartitionEventInterval : Option Duration
  /-- The time between checks on the consumers. -/
  monitorInterval : Option Duration
  logContainerConfig : Option Bool
  missingTopicsFatal : Bool
  immediateStop : Bool
deriving DecidableEq, Repr

namespace ListenerSettings

open Numeral

/-- A duration, in milliseconds unless it says otherwise. -/
def readMillis? : String → Option Duration := Duration.read? .millisecond

/-- A duration, in seconds unless it says otherwise. -/
def readSeconds? : String → Option Duration := Duration.read? .second

/-- The settings without any choice made. -/
def standard : ListenerSettings where
  delivery := .single
  concurrency := none
  autoStartup := true
  ackMode := none
  asyncAcks := none
  clientId := none
  ackCount := none
  ackTime := none
  pollTimeout := none
  noPollThreshold := none
  idleBetweenPolls := .zero
  idleEventInterval := none
  idlePartitionEventInterval := none
  monitorInterval := none
  logContainerConfig := none
  missingTopicsFatal := false
  immediateStop := false

/-- The listener settings of an environment. -/
def loader : Loader ListenerSettings :=
  ListenerSettings.mk
    <$> .required "KAFKA_LISTENER_TYPE" (fun s => (Delivery.ofText s).toOption) .single
    <*> .optional "KAFKA_LISTENER_CONCURRENCY" readWord32?
    <*> .required "KAFKA_LISTENER_AUTO_STARTUP" readFlag? true
    <*> .optional "KAFKA_LISTENER_ACK_MODE" (fun s => (AckMode.ofText s).toOption)
    <*> .optional "KAFKA_LISTENER_ASYNC_ACKS" readFlag?
    <*> .optional "KAFKA_LISTENER_CLIENT_ID" some
    <*> .optional "KAFKA_LISTENER_ACK_COUNT" readWord32?
    <*> .optional "KAFKA_LISTENER_ACK_TIME" readMillis?
    <*> .optional "KAFKA_LISTENER_POLL_TIMEOUT" readMillis?
    <*> .optional "KAFKA_LISTENER_NO_POLL_THRESHOLD" Single.read?
    <*> .required "KAFKA_LISTENER_IDLE_BETWEEN_POLLS" readMillis? .zero
    <*> .optional "KAFKA_LISTENER_IDLE_EVENT_INTERVAL" readMillis?
    <*> .optional "KAFKA_LISTENER_IDLE_PARTITION_EVENT_INTERVAL" readMillis?
    <*> .optional "KAFKA_LISTENER_MONITOR_INTERVAL" readSeconds?
    <*> .optional "KAFKA_LISTENER_LOG_CONTAINER_CONFIG" readFlag?
    <*> .required "KAFKA_LISTENER_MISSING_TOPICS_FATAL" readFlag? false
    <*> .required "KAFKA_LISTENER_IMMEDIATE_STOP" readFlag? false

end ListenerSettings

end TopicListeners
