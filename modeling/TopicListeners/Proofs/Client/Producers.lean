import TopicListeners.Proofs.Client.Layers
import TopicListeners.Proofs.Settings.Outcome

/-!
# Entries of producers

The entries of reply producers and of transactional producers, and what they share with those of
consumers. Where to connect and whether the connection is encrypted is written down for producers
and for consumers apart, and so are the entries that say so. Numbers come as texts, are kept as words
and leave as texts again.

* `Counts`: an entry that counts what a variable says, however that is spelled.
* `counts_required`: the text of a word that was loaded is such an entry, unless it wraps.
* `producerEntries_perm`, `transactionalEntries_perm`: all entries of producers.
* `producers_agree`: **the clients of a deployment agree** with its settings and with each other.
-/

namespace TopicListeners

open Numeral

/-- The text of a number as a variable may have it: digits, with a plus sign or not, and with any
number of zeros in front. -/
def SpellsNumber (s : String) (n : Nat) : Prop :=
  ∃ ds : List Char, (s.toList = ds ∨ s.toList = '+' :: ds) ∧ ds ≠ [] ∧ (∀ d ∈ ds, d.isDigit) ∧
    Nat.ofDigitChars 10 ds 0 = n

/-- **An entry counts what a variable says** in units of which `factor` make one of the variable's:
it is the decimal text of that number and reads back as it. The variable says `word`, in whatever
spelling, or is missing and stands for `default`. -/
def Counts (env : Environment) (name : String) (default factor : Nat) (word : UInt32)
    (entry : Option String) : Prop :=
  (∀ s, env name = some s → SpellsNumber s word.toNat) ∧
    (env name = none → word.toNat = default) ∧
    ∃ text, entry = some text ∧ IsDecimal (factor * word.toNat) text ∧
      ∃ w, readWord64? text = some w ∧ w.toNat = factor * word.toNat

/-! ## Numbers -/

theorem spellsNumber_of_readWord32 {s : String} {w : UInt32} (h : readWord32? s = some w) :
    SpellsNumber s w.toNat := by
  have hdigits := toNat_readWord32 h
  unfold readDigits? at hdigits
  split_ifs at hdigits with hds
  obtain ⟨hne, hall⟩ := hds
  refine ⟨dropPlus s.toList, ?_, hne, List.all_eq_true.1 hall, Option.some.inj hdigits⟩
  unfold dropPlus
  split
  · exact .inr (by assumption)
  · exact .inl rfl

/-- The text of a number that fits 64 bits reads back as it. -/
theorem readWord64_toString {n : Nat} (h : n ≤ maxWord64) :
    ∃ w, readWord64? (toString n) = some w ∧ w.toNat = n := by
  have htext : (toString n).toList = Nat.toDigits 10 n := Nat.toList_repr
  have hplus : dropPlus (Nat.toDigits 10 n) = Nat.toDigits 10 n := by
    unfold dropPlus
    split
    · -- a plus sign is no digit
      rename_i cs heq
      have hdigit : '+'.isDigit := by
        refine Nat.isDigit_of_mem_toDigits (b := 10) (n := n) (by decide) (by decide) ?_
        rw [heq]
        exact List.mem_cons_self
      cases hdigit
    · rfl
  refine ⟨.ofNat n, ?_, UInt64.toNat_ofNat_of_lt' (Nat.lt_succ_of_le h)⟩
  rw [readWord64?, htext, hplus, readUpTo?, readDigits?_toDigits]
  simp [Option.filter, h]

variable {env : Environment}

/-- **The text of a word that was loaded counts what its variable says**, in any units in which it
fits 64 bits. -/
theorem counts_required {name : String} {default : UInt32} {factor : Nat} {entry : Option String}
    (haccepts : (Variable.of name readWord32?).accepts env) (hfactor : factor ≤ 1024)
    (hentry : entry =
      some (toString (factor * ((env.value name readWord32?).getD default).toNat))) :
    Counts env name default.toNat factor ((env.value name readWord32?).getD default) entry := by
  refine ⟨?_, ?_, _, hentry, isDecimal_toString _, readWord64_toString ?_⟩
  · intro s hs
    obtain ⟨w, hw⟩ : ∃ w, readWord32? s = some w := by
      rw [← Option.isSome_iff_exists]
      simpa [Variable.accepts, Variable.of, hs] using haccepts
    have hvalue : env.value name readWord32? = some w := by
      simp [Environment.value, hs, hw]
    rw [hvalue]
    exact spellsNumber_of_readWord32 hw
  · intro hnone
    simp [Environment.value, hnone]
  · have hword := ((env.value name readWord32?).getD default).toNat_lt
    calc factor * ((env.value name readWord32?).getD default).toNat
        ≤ 1024 * 4294967295 := Nat.mul_le_mul hfactor (by omega)
      _ ≤ maxWord64 := by decide

/-! ## Entries -/

namespace BrokerSettings

/-- The keys that every producer has. -/
def producerKeys : List String :=
  ["bootstrap.servers", "linger.ms", "message.timeout.ms", "compression.codec",
    "queue.buffering.max.kbytes", "queue.buffering.max.messages"]

/-- The keys that encrypted connections have. -/
def tlsKeys : List String := ["security.protocol", "enable.ssl.certificate.verification"]

/-- The entries that every producer has. -/
def producerBase (b : BrokerSettings) : List (String × String) :=
  [("bootstrap.servers", b.hosts),
    ("linger.ms", toString b.linger.toNat),
    ("message.timeout.ms", toString b.messageTimeout.toNat),
    ("compression.codec", b.compression),
    ("queue.buffering.max.kbytes", toString b.queueKibibytes.toNat),
    ("queue.buffering.max.messages", toString b.queueMessages.toNat)]

variable (b : BrokerSettings)

/-- A queue of any number of mebibytes can be counted in kibibytes. -/
theorem toNat_queueKibibytes : b.queueKibibytes.toNat = 1024 * b.queueMebibytes.toNat := by
  have hlt := b.queueMebibytes.toNat_lt
  have hfactor : (1024 : UInt64).toNat = 1024 := rfl
  rw [queueKibibytes, UInt64.toNat_mul, UInt32.toNat_toUInt64, hfactor]
  omega

theorem map_fst_tlsEntries : b.tlsEntries.map Prod.fst = if b.tls then tlsKeys else [] := by
  unfold tlsEntries
  split <;> rfl

theorem nodup_producerKeys : ((b.producerBase ++ b.tlsEntries).map Prod.fst).Nodup := by
  rw [List.map_append, map_fst_tlsEntries]
  change (producerKeys ++ _).Nodup
  split <;> decide

theorem producerEntries_perm : b.producerEntries.Perm (b.producerBase ++ b.tlsEntries) :=
  Dictionary.ofEntries_perm b.nodup_producerKeys

theorem get?_producerEntries (key : String) :
    b.producerEntries.get? key = (b.producerBase.lookup key).or (b.tlsEntries.lookup key) := by
  rw [← List.lookup_append]
  exact Dictionary.get?_ofEntries_of_nodup b.nodup_producerKeys key

/-- A transactional producer has one entry more. -/
theorem transactionalEntries_perm (transactionalId : String) :
    (b.transactionalEntries transactionalId).Perm
      (("transactional.id", transactionalId) :: b.producerEntries) := by
  refine Dictionary.set_perm (Dictionary.ordered_ofEntries _) ?_ transactionalId
  change b.producerEntries.get? "transactional.id" = none
  have hbase : b.producerBase.lookup "transactional.id" = none := rfl
  rw [get?_producerEntries, hbase, Option.none_or, tlsEntries]
  split <;> rfl

/-! ## Encrypted connections -/

/-- **What clients have to agree on**: where to connect, and how. -/
structure Connects (d : Dictionary String) : Prop where
  hosts : d.get? "bootstrap.servers" = some b.hosts
  protocol : d.get? "security.protocol" = if b.tls then some "ssl" else none
  verification : d.get? "enable.ssl.certificate.verification" = if b.tls then some "false" else none

theorem lookup_tlsEntries (key : String) : b.tlsEntries.lookup key =
    if b.tls then [("security.protocol", "ssl"),
      ("enable.ssl.certificate.verification", "false")].lookup key else none := by
  unfold tlsEntries
  split <;> rfl

theorem connects_producerEntries : b.Connects b.producerEntries := by
  refine ⟨?_, ?_, ?_⟩ <;> rw [get?_producerEntries, lookup_tlsEntries] <;> rfl

theorem connects_transactionalEntries (transactionalId : String) :
    b.Connects (b.transactionalEntries transactionalId) := by
  obtain ⟨hhosts, hprotocol, hverification⟩ := b.connects_producerEntries
  refine ⟨?_, ?_, ?_⟩ <;> rw [transactionalEntries, Dictionary.get?_set, if_neg (by decide)] <;>
    assumption

theorem connects_ofSettings (c : ConsumerSettings) :
    b.Connects (ConsumerClient.ofSettings b c).properties := by
  refine ⟨?_, ?_, ?_⟩ <;> rw [ConsumerClient.get?_ofSettings, lookup_tlsEntries]
  · split <;> rfl
  · split <;> rfl
  · split <;> rfl

/-! ## Loaded settings -/

variable {b} {c : ConsumerSettings}

theorem counts_producerEntries (hb : loader.run env = .ok b) :
    Counts env "KAFKA_PRODUCER_LINGER_MS" 20 1 b.linger (b.producerEntries.get? "linger.ms") ∧
      Counts env "KAFKA_MESSAGE_TIMEOUT_MS" 20000 1 b.messageTimeout
        (b.producerEntries.get? "message.timeout.ms") ∧
      Counts env "KAFKA_PRODUCER_QUEUE_MIB" 400 1024 b.queueMebibytes
        (b.producerEntries.get? "queue.buffering.max.kbytes") ∧
      Counts env "KAFKA_PRODUCER_QUEUE_MESSAGES" 10000000 1 b.queueMessages
        (b.producerEntries.get? "queue.buffering.max.messages") := by
  obtain ⟨haccepts, rfl⟩ := loader_gives.ok_iff.1 hb
  have hvariables : loader.reads = variableList := rfl
  simp only [hvariables, variableList, List.forall_mem_cons] at haccepts
  obtain ⟨hlinger, hqueue, hmessages, htimeout, -⟩ := haccepts
  have hkibibytes : toString (denoted env).queueKibibytes.toNat =
      toString (1024 * ((env.value "KAFKA_PRODUCER_QUEUE_MIB" readWord32?).getD 400).toNat) := by
    rw [toNat_queueKibibytes]
    rfl
  refine ⟨counts_required hlinger (by decide) ?_, counts_required htimeout (by decide) ?_,
    counts_required hqueue (by decide) ?_, counts_required hmessages (by decide) ?_⟩
  · rw [get?_producerEntries, Nat.one_mul]
    rfl
  · rw [get?_producerEntries, Nat.one_mul]
    rfl
  · rw [get?_producerEntries, ← hkibibytes]
    rfl
  · rw [get?_producerEntries, Nat.one_mul]
    rfl

theorem counts_ofSettings (b : BrokerSettings) (hc : ConsumerSettings.loader.run env = .ok c) :
    Counts env "KAFKA_CONSUMER_AUTO_COMMIT_INTERVAL_MS" 5000 1 c.autoCommitInterval
      ((ConsumerClient.ofSettings b c).properties.get? "auto.commit.interval.ms") := by
  obtain ⟨haccepts, rfl⟩ := ConsumerSettings.loader_gives.ok_iff.1 hc
  have hvariables : ConsumerSettings.loader.reads = ConsumerSettings.variableList := rfl
  simp only [hvariables, ConsumerSettings.variableList, List.forall_mem_cons] at haccepts
  obtain ⟨-, -, -, -, hinterval, -⟩ := haccepts
  refine counts_required hinterval (by decide) ?_
  rw [ConsumerClient.get?_ofSettings, lookup_tlsEntries, Nat.one_mul]
  split <;> rfl

end BrokerSettings

/-- **The clients of a deployment agree** with its settings and with each other. A reply producer
has just the entries that are known for producers, and those of an encrypted connection if there is
to be one; its numbers are those that the variables say, and the size of its queue does not wrap. A
transactional producer has its id in addition and nothing else. Both connect as the consumers do,
before anything is added to these. -/
theorem BrokerSettings.producers_agree {env : Environment} {b : BrokerSettings}
    {c : ConsumerSettings} (hb : BrokerSettings.loader.run env = .ok b)
    (hc : ConsumerSettings.loader.run env = .ok c) (transactionalId : String) :
    ((b.producerEntries.map Prod.fst).Perm (producerKeys ++ if b.tls then tlsKeys else []) ∧
        b.producerEntries.get? "compression.codec" = some b.compression) ∧
      (Counts env "KAFKA_PRODUCER_LINGER_MS" 20 1 b.linger (b.producerEntries.get? "linger.ms") ∧
        Counts env "KAFKA_MESSAGE_TIMEOUT_MS" 20000 1 b.messageTimeout
          (b.producerEntries.get? "message.timeout.ms") ∧
        Counts env "KAFKA_PRODUCER_QUEUE_MIB" 400 1024 b.queueMebibytes
          (b.producerEntries.get? "queue.buffering.max.kbytes") ∧
        Counts env "KAFKA_PRODUCER_QUEUE_MESSAGES" 10000000 1 b.queueMessages
          (b.producerEntries.get? "queue.buffering.max.messages")) ∧
      Counts env "KAFKA_CONSUMER_AUTO_COMMIT_INTERVAL_MS" 5000 1 c.autoCommitInterval
        ((ConsumerClient.ofSettings b c).properties.get? "auto.commit.interval.ms") ∧
      (b.transactionalEntries transactionalId).Perm
        (("transactional.id", transactionalId) :: b.producerEntries) ∧
      ∀ d ∈ [b.producerEntries, b.transactionalEntries transactionalId,
          (ConsumerClient.ofSettings b c).properties],
        d.get? "bootstrap.servers" = some b.hosts ∧
          d.get? "security.protocol" = (if b.tls then some "ssl" else none) ∧
          d.get? "enable.ssl.certificate.verification" =
            (if b.tls then some "false" else none) := by
  refine ⟨⟨?_, ?_⟩, counts_producerEntries hb, counts_ofSettings b hc,
    b.transactionalEntries_perm transactionalId, ?_⟩
  · have hkeys := b.producerEntries_perm.map Prod.fst
    rw [List.map_append, map_fst_tlsEntries] at hkeys
    exact hkeys
  · rw [get?_producerEntries]
    rfl
  · intro d hd
    have hconnects : b.Connects d := by
      simp only [List.mem_cons, List.not_mem_nil, or_false] at hd
      rcases hd with rfl | rfl | rfl
      · exact b.connects_producerEntries
      · exact b.connects_transactionalEntries transactionalId
      · exact b.connects_ofSettings c
    exact ⟨hconnects.hosts, hconnects.protocol, hconnects.verification⟩

/-- An environment with an encrypted connection, a number with a sign and zeros in front, and a
queue of as many mebibytes as there can be. -/
def Environment.encrypted (name : String) : Option String :=
  [("KAFKA_TLS", "true"), ("KAFKA_PRODUCER_LINGER_MS", "+007"),
    ("KAFKA_PRODUCER_QUEUE_MIB", "4294967295")].lookup name

theorem BrokerSettings.producers_agree_encrypted :
    BrokerSettings.loader.run .encrypted = .ok (.denoted .encrypted) ∧
      ConsumerSettings.loader.run .encrypted = .ok (.denoted .encrypted) ∧
      ((BrokerSettings.denoted .encrypted).producerEntries.map Prod.fst).Perm
        (producerKeys ++ tlsKeys) ∧
      Counts .encrypted "KAFKA_PRODUCER_LINGER_MS" 20 1 7 (some "7") ∧
      Counts .encrypted "KAFKA_PRODUCER_QUEUE_MIB" 400 1024 4294967295 (some "4398046510080") ∧
      (("transactional.id", "") ∈ (BrokerSettings.denoted .encrypted).transactionalEntries "") := by
  have hb : BrokerSettings.loader.run .encrypted = .ok (.denoted .encrypted) := by rfl
  have hc : ConsumerSettings.loader.run .encrypted = .ok (.denoted .encrypted) := by rfl
  obtain ⟨⟨hkeys, -⟩, ⟨hlinger, -, hqueue, -⟩, -, htransactional, -⟩ := producers_agree hb hc ""
  exact ⟨hb, hc, hkeys, hlinger, hqueue, htransactional.mem_iff.2 List.mem_cons_self⟩

end TopicListeners
