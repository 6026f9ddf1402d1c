import TopicListeners.Settings.Deployment
import TopicListeners.Collaborator

/-!
# Client entries

The configuration entries of the clients of a cluster: of consumers in layers, of reply producers,
and of transactional producers, which have one entry more.
-/

namespace TopicListeners

namespace BrokerSettings

/-- The entries of an encrypted connection, if the connection is to be. -/
def tlsEntries (b : BrokerSettings) : List (String × String) :=
  if b.tls then
    [("security.protocol", "ssl"), ("enable.ssl.certificate.verification", "false")]
  else []

/-- The size of a producer's queue in kibibytes, counted in 64 bits. -/
def queueKibibytes (b : BrokerSettings) : UInt64 := b.queueMebibytes.toUInt64 * 1024

/-- The entries of producers. -/
def producerEntries (b : BrokerSettings) : Dictionary String :=
  .ofEntries <|
    [("bootstrap.servers", b.hosts),
      ("linger.ms", toString b.linger.toNat),
      ("message.timeout.ms", toString b.messageTimeout.toNat),
      ("compression.codec", b.compression),
      ("queue.buffering.max.kbytes", toString b.queueKibibytes.toNat),
      ("queue.buffering.max.messages", toString b.queueMessages.toNat)] ++ b.tlsEntries

/-- The entries of producers that run transactions. -/
def transactionalEntries (b : BrokerSettings) (transactionalId : String) : Dictionary String :=
  b.producerEntries.set "transactional.id" transactionalId

end BrokerSettings

/-- The name of the entry that says which group a consumer belongs to. -/
def groupKey : String := "group.id"

/-- The entries of consumers, and those added or changed afterwards. -/
structure ConsumerClient where
  properties : Dictionary String
deriving DecidableEq, Repr

namespace ConsumerClient

/-- The entries that settings call for. Offsets are not stored automatically: a container stores
them once a record is acknowledged. -/
def ofSettings (b : BrokerSettings) (c : ConsumerSettings) : ConsumerClient :=
  ⟨.ofEntries <|
    [("bootstrap.servers", b.hosts),
      ("statistics.interval.ms", "10000"),
      (groupKey, c.group),
      ("auto.offset.reset", c.offsetReset),
      (autoCommitKey, toString c.autoCommit),
      ("auto.commit.interval.ms", toString c.autoCommitInterval.toNat),
      ("enable.auto.offset.store", "false")] ++ b.tlsEntries⟩

/-- The consumers that an environment asks for. -/
def loader : Loader ConsumerClient :=
  ofSettings <$> BrokerSettings.loader <*> ConsumerSettings.loader

/-- With an entry added or changed. -/
def withProperty (c : ConsumerClient) (key value : String) : ConsumerClient :=
  ⟨c.properties.set key value⟩

/-- With entries added or changed, one after the other. -/
def withProperties (c : ConsumerClient) (entries : List (String × String)) : ConsumerClient :=
  entries.foldl (fun c e => c.withProperty e.1 e.2) c

/-- An entry in place of the one under its key, if there is a value for it. -/
def overriding (key : String) (value : Option String) (d : Dictionary String) :
    Dictionary String :=
  match value with
  | none => d
  | some v => d.set key v

/-- The entries of one consumer, for a group and under a client id of its own if given. -/
def entries (c : ConsumerClient) (group clientId : Option String) : Dictionary String :=
  overriding "client.id" clientId (overriding groupKey group c.properties)

end ConsumerClient

end TopicListeners
