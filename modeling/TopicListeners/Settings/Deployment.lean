import TopicListeners.Settings.Listener

/-!
# Deployments

All that a listener process is told by its environment: how to reach the cluster, and how replies
and transactions are produced; what is consumed, on whose behalf and from where on; and how the
listener is to be run.
-/

namespace TopicListeners

/-! ## The broker -/

/-- Connection and producer settings. -/
structure BrokerSettings where
  /-- How long a producer waits for more messages, in milliseconds. -/
  linger : UInt32
  /-- The size of a producer's queue, in mebibytes. -/
  queueMebibytes : UInt32
  /-- The length of a producer's queue. -/
  queueMessages : UInt32
  /-- How long a message may take, in milliseconds. -/
  messageTimeout : UInt32
  compression : String
  tls : Bool
  hosts : String
deriving DecidableEq, Repr

namespace BrokerSettings

open Numeral

/-- The broker settings of an environment. -/
def loader : Loader BrokerSettings :=
  BrokerSettings.mk
    <$> .required "KAFKA_PRODUCER_LINGER_MS" readWord32? 20
    <*> .required "KAFKA_PRODUCER_QUEUE_MIB" readWord32? 400
    <*> .required "KAFKA_PRODUCER_QUEUE_MESSAGES" readWord32? 10000000
    <*> .required "KAFKA_MESSAGE_TIMEOUT_MS" readWord32? 20000
    <*> .required "KAFKA_COMPRESSION_CODEC" some "none"
    <*> .required "KAFKA_TLS" readFlag? false
    <*> .required "KAFKA_HOSTS" some "localhost:9092"

end BrokerSettings

/-! ## Consumers -/

/-- Group, topic and offset settings. -/
structure ConsumerSettings where
  group : String
  topic : String
  offsetReset : String
  /-- Whether the client commits offsets on its own. -/
  autoCommit : Bool
  /-- How often it does, in milliseconds. -/
  autoCommitInterval : UInt32
deriving DecidableEq, Repr

namespace ConsumerSettings

open Numeral

/-- The consumer settings of an environment. -/
def loader : Loader ConsumerSettings :=
  ConsumerSettings.mk
    <$> .required "KAFKA_CONSUMER_GROUP" some "kafka-listener"
    <*> .required "KAFKA_CONSUMER_TOPIC" some "events"
    <*> .required "KAFKA_CONSUMER_OFFSET_RESET" some "earliest"
    <*> .required "KAFKA_CONSUMER_AUTO_COMMIT" readFlag? false
    <*> .required "KAFKA_CONSUMER_AUTO_COMMIT_INTERVAL_MS" readWord32? 5000

end ConsumerSettings

/-! ## Deployments -/

/-- The settings of a listener process. -/
structure Deployment where
  broker : BrokerSettings
  consumer : ConsumerSettings
  listener : ListenerSettings
  /-- The topic that replies go to, if there are to be any. -/
  replyTopic : Option String
  /-- The name under which transactions are run, if they are. -/
  transactionalId : Option String
  /-- How long a transaction's operation may take, in milliseconds. -/
  transactionTimeout : UInt64
deriving DecidableEq, Repr

namespace Deployment

/-- The settings of an environment. -/
def loader : Loader Deployment :=
  Deployment.mk
    <$> BrokerSettings.loader
    <*> ConsumerSettings.loader
    <*> ListenerSettings.loader
    <*> .optional "KAFKA_REPLY_TOPIC" some
    <*> .optional "KAFKA_TRANSACTIONAL_ID" some
    <*> .required "KAFKA_TRANSACTION_TIMEOUT_MS" Numeral.readWord64? 10000

end Deployment

end TopicListeners
