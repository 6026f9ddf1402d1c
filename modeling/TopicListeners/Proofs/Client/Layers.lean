import TopicListeners.Client.Cluster
import TopicListeners.Proofs.Container.Building
import TopicListeners.Proofs.Dictionary

/-!
# Layers of consumer entries

The entries of a consumer come in layers: the group and the client id it is made with, what has been
added to its client, the entries of an encrypted connection, and the base entries. Of the layers
that have a value for a key the highest one counts.

* `get?_properties`: the entries of a client, key by key.
* `consumers_connectChildren`: the consumers that are made for children, whether or not one of them
  fails to subscribe.
* `layered_entries`: **a consumer's entries are those of the highest layers**, in whatever order the
  entries of its client are copied, and so are those of the children of a container.
-/

namespace TopicListeners

namespace ConsumerClient

/-- The entries that every consumer has unless another layer has them too. -/
def baseEntries (b : BrokerSettings) (c : ConsumerSettings) : List (String × String) :=
  [("bootstrap.servers", b.hosts),
    ("statistics.interval.ms", "10000"),
    ("group.id", c.group),
    ("auto.offset.reset", c.offsetReset),
    ("enable.auto.commit", toString c.autoCommit),
    ("auto.commit.interval.ms", toString c.autoCommitInterval.toNat),
    ("enable.auto.offset.store", "false")]

/-- The client of settings, with entries added to it one after the other. -/
def customized (b : BrokerSettings) (c : ConsumerSettings) (added : List (String × String)) :
    ConsumerClient := (ofSettings b c).withProperties added

/-- The layers of a consumer's entries, the highest one first. -/
def layers (b : BrokerSettings) (c : ConsumerSettings) (added : List (String × String))
    (group clientId : Option String) : List (String → Option String) :=
  [fun key => if key = "group.id" then group else none,
    fun key => if key = "client.id" then clientId else none,
    fun key => added.reverse.lookup key,
    fun key => if b.tls then
      [("security.protocol", "ssl"), ("enable.ssl.certificate.verification", "false")].lookup key
      else none,
    fun key => (baseEntries b c).lookup key]

/-- The value of the highest layer that has one. -/
def layered (b : BrokerSettings) (c : ConsumerSettings) (added : List (String × String))
    (group clientId : Option String) (key : String) : Option String :=
  (layers b c added group clientId).findSome? fun layer => layer key

/-- The entries of one consumer if those of the client are copied one by one. -/
def copied (order : List (String × String)) (group clientId : Option String) :
    Dictionary String :=
  overriding "client.id" clientId (overriding groupKey group (.ofEntries order))

/-! ## Entries of a client -/

theorem properties_withProperties (client : ConsumerClient) (added : List (String × String)) :
    (client.withProperties added).properties =
      added.foldl (fun d e => d.set e.1 e.2) client.properties := by
  induction added generalizing client with
  | nil => rfl
  | cons e added ih => exact ih (client.withProperty e.1 e.2)

variable (b : BrokerSettings) (c : ConsumerSettings) (added : List (String × String))

theorem properties_ofSettings :
    (ofSettings b c).properties = .ofEntries (baseEntries b c ++ b.tlsEntries) := by
  simp only [ofSettings, baseEntries, groupKey, autoCommitKey]

theorem ordered_properties : (customized b c added).properties.Ordered := by
  rw [customized, properties_withProperties, properties_ofSettings]
  exact Dictionary.ordered_foldl_set (Dictionary.ordered_ofEntries _) added

/-- The entries of settings are under distinct keys, so it does not matter which come first. -/
theorem get?_ofSettings (key : String) :
    (ofSettings b c).properties.get? key =
      (b.tlsEntries.lookup key).or ((baseEntries b c).lookup key) := by
  have hkeys : ((b.tlsEntries ++ baseEntries b c).map Prod.fst).Nodup := by
    unfold BrokerSettings.tlsEntries baseEntries
    split <;> simp
  have hperm : (b.tlsEntries ++ baseEntries b c).Perm (baseEntries b c ++ b.tlsEntries).reverse :=
    List.perm_append_comm.trans (List.reverse_perm _).symm
  rw [properties_ofSettings, Dictionary.get?_ofEntries, ← Dictionary.lookup_eq_of_perm hkeys hperm,
    List.lookup_append]

theorem findSome?_layers {layer : String → Option String} {rest : List (String → Option String)}
    (key : String) : (layer :: rest).findSome? (fun layer => layer key) =
      (layer key).or (rest.findSome? fun layer => layer key) := by
  rw [List.findSome?_cons]
  cases layer key <;> rfl

/-- The value of the highest layer is the value of the topmost two layers, or else that of the
client. -/
theorem layered_eq (group clientId : Option String) (key : String) :
    layered b c added group clientId key =
      (if key = "group.id" then group else none).or
        ((if key = "client.id" then clientId else none).or (layered b c added none none key)) := by
  simp only [layered, layers, findSome?_layers, ite_self, Option.none_or]

/-- **The entries of a client, key by key.** -/
theorem get?_properties (key : String) :
    (customized b c added).properties.get? key = layered b c added none none key := by
  have htls : b.tlsEntries.lookup key = if b.tls then
      [("security.protocol", "ssl"), ("enable.ssl.certificate.verification", "false")].lookup key
      else none := by
    unfold BrokerSettings.tlsEntries
    split <;> rfl
  rw [customized, properties_withProperties, Dictionary.get?_foldl_set, get?_ofSettings, htls]
  simp only [layered, layers, findSome?_layers, ite_self, Option.none_or, List.findSome?_nil,
    Option.or_none]

/-! ## Entries of a consumer -/

theorem get?_overriding (name : String) (value : Option String) (d : Dictionary String)
    (key : String) :
    (overriding name value d).get? key = (if key = name then value else none).or (d.get? key) := by
  cases value with
  | none => simp [overriding]
  | some v =>
    rw [overriding, Dictionary.get?_set]
    by_cases h : key = name <;> simp [h]

theorem ordered_overriding {d : Dictionary String} (h : d.Ordered) (name : String)
    (value : Option String) : (overriding name value d).Ordered := by
  cases value with
  | none => exact h
  | some v => exact Dictionary.ordered_set h name v

variable (group clientId : Option String)

theorem ordered_entries : ((customized b c added).entries group clientId).Ordered :=
  ordered_overriding (ordered_overriding (ordered_properties b c added) _ _) _ _

/-- **The entries of a consumer, key by key.** No key is both that of the group and that of the
client id, so these two layers do not meet. -/
theorem get?_entries (key : String) :
    ((customized b c added).entries group clientId).get? key =
      layered b c added group clientId key := by
  rw [entries, get?_overriding, get?_overriding, get?_properties,
    layered_eq b c added group clientId, groupKey]
  by_cases hgroup : key = "group.id"
  · simp [hgroup]
  · simp [hgroup]

/-- A consumer's entries are exactly those that some layer has. -/
theorem mem_entries_iff (key value : String) :
    (key, value) ∈ (customized b c added).entries group clientId ↔
      layered b c added group clientId key = some value := by
  rw [Dictionary.mem_iff_get? (ordered_entries b c added group clientId), get?_entries]

/-- The entries of a client can be copied in any order. -/
theorem copied_eq {order : List (String × String)}
    (h : order.Perm (customized b c added).properties) :
    copied order group clientId = (customized b c added).entries group clientId := by
  rw [copied, Dictionary.ofEntries_eq_of_perm (ordered_properties b c added) h, entries]

/-- The group of a consumer that is made without one is that of its client. -/
theorem get?_group : ((customized b c added).entries none clientId).get? "group.id" =
    (customized b c added).properties.get? "group.id" := by
  rw [get?_entries, get?_properties, layered_eq]
  simp

/-- No settings call for a client id: it comes with the consumer or has been added to the client. -/
theorem get?_clientId : ((customized b c added).entries group clientId).get? "client.id" =
    clientId.or (added.reverse.lookup "client.id") := by
  have hbase : (baseEntries b c).lookup "client.id" = none := rfl
  have htls : List.lookup "client.id"
    [("security.protocol", "ssl"), ("enable.ssl.certificate.verification", "false")] = none := rfl
  rw [get?_entries]
  simp [layered, layers, findSome?_layers, hbase, htls]

end ConsumerClient

/-! ## Consumers of a container -/

variable (client : ConsumerClient) (topics : List String)

/-- A consumer is made for a child, whether or not it can subscribe. -/
theorem consumers_connectChild (child : Child) (s : Cluster) :
    ((connectChild client.provider topics child).run s).state.consumers =
      s.consumers ++ [client.entries none child.clientId] := by
  obtain ⟨group, hconnect⟩ : ∃ group, (client.provider.connect none child.clientId).run s =
      ⟨.ok (.ofGroup group),
        { s with consumers := s.consumers ++ [client.entries none child.clientId] }, []⟩ :=
    ⟨_, rfl⟩
  obtain ⟨r, hsubscribe⟩ : ∃ r : Except ClientError Unit,
      (Consumer.ofGroup group : Consumer Cluster).subscribe topics = pure r := ⟨_, rfl⟩
  unfold connectChild
  rw [Action.run_bind, hconnect]
  dsimp only
  rw [Action.run_bind, hsubscribe]
  cases r <;> rfl

/-- **Consumers are made for children in turn**, up to one that cannot subscribe. -/
theorem consumers_connectChildren (children : List Child) (s : Cluster) :
    ∃ made ≤ children.length,
      ((connectChildren client.provider topics children).run s).state.consumers =
        s.consumers ++
          (children.take made).map (fun child => client.entries none child.clientId) ∧
      (children ≠ [] → 0 < made) ∧
      ∀ consumers, ((connectChildren client.provider topics children).run s).value =
        .ok consumers → made = children.length := by
  induction children generalizing s with
  | nil => exact ⟨0, by simp [connectChildren]⟩
  | cons child children ih =>
    have hchild := consumers_connectChild client topics child s
    unfold connectChildren
    rw [Action.run_bind]
    cases hvalue : ((connectChild client.provider topics child).run s).value with
    | error e =>
      refine ⟨1, by simp, ?_, by simp, ?_⟩
      · simp [hchild]
      · simp
    | ok consumer =>
      obtain ⟨made, hmade, hconsumers, -, hall⟩ :=
        ih ((connectChild client.provider topics child).run s).state
      dsimp only
      rw [Action.run_bind]
      -- the rest of the children decide, whatever they lead to
      cases hrest : ((connectChildren client.provider topics children).run
          ((connectChild client.provider topics child).run s).state).value with
      | error e =>
        refine ⟨made + 1, by simpa using hmade, ?_, by simp, by simp⟩
        simpa [hchild] using hconsumers
      | ok consumers =>
        refine ⟨made + 1, by simpa using hmade, ?_, by simp, ?_⟩
        · simpa [hchild] using hconsumers
        · intro _ _
          rw [hall consumers hrest, List.length_cons]

/-- The consumers of a container of a client. -/
theorem Container.consumers_connect {client : ConsumerClient} {blueprint : Blueprint Cluster}
    (hprovider : blueprint.provider = some client.provider) {topics : List String}
    {container : Container Cluster} (h : (blueprint.build topics).1 = .ok container)
    (s : Cluster) :
    ∃ made, 0 < made ∧ made ≤ container.concurrency.toNat ∧
      (container.connect.run s).state.consumers =
        s.consumers ++ (List.range made).map (fun i =>
          client.entries none (childClientId blueprint.container.clientId i)) ∧
      ∀ consumers, (container.connect.run s).value = .ok consumers →
        made = container.concurrency.toNat := by
  obtain ⟨provider, n, hprovider', hn, rfl⟩ := Blueprint.snapshot_of_build h
  obtain rfl : provider = client.provider := Option.some.inj (hprovider'.symm.trans hprovider)
  have hlength := length_childrenOf blueprint.container.clientId n
  have hpos : 0 < n.toNat := by
    rw [Nat.pos_iff_ne_zero]
    intro h0
    exact hn (UInt32.toNat_inj.1 h0)
  obtain ⟨made, hmade, hconsumers, hne, hall⟩ := consumers_connectChildren client topics
    (childrenOf blueprint.container.clientId n) s
  rw [hlength] at hmade hall
  refine ⟨made, hne ?_, hmade, ?_, hall⟩
  · intro hnil
    rw [hnil, List.length_nil] at hlength
    omega
  · refine hconsumers.trans ?_
    rw [childrenOf, ← List.map_take, List.take_range, Nat.min_eq_left hmade, List.map_map]
    rfl

/-- **A consumer's entries are those of the highest layers** that have a value, and there are no
others. It does not matter in which `order` the entries of its client are copied. The consumers of a
container keep the group of the client, and each has a client id of its own if the container has a
stem for them. -/
theorem ConsumerClient.layered_entries (b : BrokerSettings) (c : ConsumerSettings)
    (added : List (String × String)) {order : List (String × String)}
    (horder : order.Perm (customized b c added).properties) :
    (∀ group clientId s,
      (((customized b c added).provider.connect group clientId).run s).state.consumers =
          s.consumers ++ [copied order group clientId] ∧
        ∀ key value, (key, value) ∈ copied order group clientId ↔
          layered b c added group clientId key = some value) ∧
      (∀ key value, (key, value) ∈ (customized b c added).provider.properties ↔
        layered b c added none none key = some value) ∧
      ∀ (blueprint : Blueprint Cluster) (topics : List String) (container : Container Cluster),
        blueprint.provider = some (customized b c added).provider →
        (blueprint.build topics).1 = .ok container →
        (∀ s, ∃ made, 0 < made ∧ made ≤ container.concurrency.toNat ∧
          (container.connect.run s).state.consumers = s.consumers ++ (List.range made).map (fun i =>
            copied order none (childClientId blueprint.container.clientId i)) ∧
          ∀ consumers, (container.connect.run s).value = .ok consumers →
            made = container.concurrency.toNat) ∧
        ∀ i, (copied order none (childClientId blueprint.container.clientId i)).get? "group.id" =
            (customized b c added).provider.properties.get? "group.id" ∧
          (copied order none (childClientId blueprint.container.clientId i)).get? "client.id" =
            if blueprint.container.clientId = "" then added.reverse.lookup "client.id"
            else some (blueprint.container.clientId ++ "-" ++ toString i) := by
  have hproperties : (customized b c added).provider.properties =
    (customized b c added).entries none none := rfl
  simp only [copied_eq b c added _ _ horder]
  refine ⟨?_, ?_, ?_⟩
  · intro group clientId s
    refine ⟨consumers_connect (customized b c added) group clientId s, ?_⟩
    exact mem_entries_iff b c added group clientId
  · rw [hproperties]
    exact mem_entries_iff b c added none none
  · intro blueprint topics container hprovider hbuild
    refine ⟨Container.consumers_connect hprovider hbuild, fun i => ⟨get?_group b c added _, ?_⟩⟩
    rw [get?_clientId, childClientId]
    by_cases hstem : blueprint.container.clientId = "" <;> simp [hstem]

/-- A client with a TLS entry and twice a client id of its own. -/
def ConsumerClient.billing : ConsumerClient :=
  customized ⟨20, 400, 10000, 20000, "none", true, "kafka:9093"⟩
    ⟨"billing", "orders", "latest", false, 1000⟩
    [("client.id", "own"), ("security.protocol", "plaintext"), ("client.id", "mine")]

/-- What two consumers of that client are built from. -/
def Blueprint.billing : Blueprint Cluster :=
  { empty with
    provider := some ConsumerClient.billing.provider
    concurrency := some 2
    container := { ContainerSettings.standard with clientId := "app" } }

/-- The second consumer has the client id of its container, and not the one of the client. -/
theorem ConsumerClient.layered_entries_billing :
    billing.properties.reverse.Perm billing.properties ∧
      Blueprint.billing.provider = some billing.provider ∧
      (Blueprint.billing.build ["orders"]).1 =
        .ok (Blueprint.billing.snapshot billing.provider 2 ["orders"]) ∧
      (copied billing.properties.reverse none (childClientId "app" 1)).get? "client.id" =
        some "app-1" ∧
      ("security.protocol", "plaintext") ∈
        copied billing.properties.reverse (some "audit") none :=
  have horder : billing.properties.reverse.Perm billing.properties := List.reverse_perm _
  have hprovider : Blueprint.billing.provider = some billing.provider := rfl
  have hbuild : (Blueprint.billing.build ["orders"]).1 =
    .ok (Blueprint.billing.snapshot billing.provider 2 ["orders"]) := rfl
  have hlayered := layered_entries _ _ _ horder
  have hchildren := (hlayered.2.2 Blueprint.billing ["orders"] _ hprovider hbuild).2 1
  have hentries := (hlayered.1 (some "audit") none .unreachable).2
  ⟨horder, hprovider, hbuild, hchildren.2, (hentries _ _).2 rfl⟩

end TopicListeners
