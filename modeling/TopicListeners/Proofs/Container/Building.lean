import TopicListeners.Collaborator.Recording
import TopicListeners.Proofs.Container.ClientIds

/-!
# Building containers

What comes of building a container from any blueprint for any topics. Three things can be missing,
and what is looked at first is the error; without an error the container is the blueprint with its
gaps filled, and its making is logged.

* `build_builds`: the four ways in which building ends, each with all that it leads to.
* `build_outcome`: **what comes of building**, with all that is logged.
* `shows_of_build`: the one event that shows a container in full.
* `clientIds_distinct`: **the client ids of containers never collide.**
-/

namespace TopicListeners

variable {σ τ : Type}

open Text

namespace Blueprint

/-- **How building ends.** -/
inductive Builds (b : Blueprint σ) (topics : List String) :
    Except BuildError (Container σ) × List Event → Prop
  | noProvider (hprovider : b.provider = none) : Builds b topics (.error .noProvider, [])
  | noTopics {provider : ConsumerProvider σ} (hprovider : b.provider = some provider)
    (htopics : topics = []) : Builds b topics (.error .noTopics, [])
  | concurrencyTooLow {provider : ConsumerProvider σ} (hprovider : b.provider = some provider)
    (htopics : topics ≠ []) (hconcurrency : b.concurrency = some 0) :
    Builds b topics (.error (.concurrencyTooLow 0), [])
  | built {provider : ConsumerProvider σ} (hprovider : b.provider = some provider)
    (htopics : topics ≠ []) (hconcurrency : b.concurrency ≠ some 0) {c : Container σ}
    (hc : c = b.snapshot provider (b.concurrency.getD 1) topics) :
    Builds b topics (.ok c, ignored c.batchListener c.collaborators ++ [created c])

/-- The default concurrency is not too low. -/
theorem concurrency_getD {b : Blueprint σ} : b.concurrency.getD 1 = 0 ↔ b.concurrency = some 0 := by
  cases b.concurrency with
  | none => decide
  | some n => simp

theorem build_builds (b : Blueprint σ) (topics : List String) : b.Builds topics (b.build topics) := by
  unfold build
  split
  case h_1 hprovider => exact .noProvider hprovider
  case h_2 provider hprovider =>
    by_cases htopics : topics = []
    · rw [if_pos htopics]
      exact .noTopics hprovider htopics
    · rw [if_neg htopics]
      by_cases hconcurrency : b.concurrency.getD 1 = 0
      · simp only [hconcurrency, if_true]
        exact .concurrencyTooLow hprovider htopics (concurrency_getD.1 hconcurrency)
      · simp only [hconcurrency, if_false]
        exact .built hprovider htopics (fun h => hconcurrency (concurrency_getD.2 h)) rfl

/-- A container is built of a provider and a number of consumers. -/
theorem snapshot_of_build {b : Blueprint σ} {topics : List String} {c : Container σ}
    (h : (b.build topics).1 = .ok c) :
    ∃ provider concurrency, b.provider = some provider ∧ concurrency ≠ 0 ∧
      c = b.snapshot provider concurrency topics := by
  have hbuilds := b.build_builds topics
  generalize b.build topics = r at h hbuilds
  cases hbuilds with
  | built hprovider _ hconcurrency hc =>
    obtain rfl := Except.ok.inj h
    exact ⟨_, _, hprovider, fun h => hconcurrency (concurrency_getD.1 h), hc⟩
  | _ => cases h

end Blueprint

/-! ## New containers -/

namespace Container

/-- **A container that is a blueprint with its gaps filled**: one consumer instead of no number of
them, single records instead of no choice, and a start at once. -/
structure BuiltFrom (b : Blueprint σ) (topics : List String) (c : Container σ) : Prop where
  topics_eq : c.topics = topics
  concurrency : c.concurrency = b.concurrency.getD 1
  batchListener : c.batchListener = b.batchListener.getD false
  autoStartup : c.autoStartup = b.autoStartup.getD true
  provider : b.provider = some c.provider
  collaborators : c.collaborators = b.collaborators
  settings : c.settings = b.container
  children : c.children.map Child.index = List.range c.concurrency.toNat
  anonymous : b.container.clientId = "" → ∀ child ∈ c.children, child.clientId = none
  named : b.container.clientId ≠ "" → ∀ child ∈ c.children, ∃ index,
    IsDecimal child.index index ∧ child.clientId = some (b.container.clientId ++ "-" ++ index)

theorem builtFrom_snapshot {b : Blueprint σ} {provider : ConsumerProvider σ}
    (hprovider : b.provider = some provider) (topics : List String) :
    (b.snapshot provider (b.concurrency.getD 1) topics).BuiltFrom b topics where
  topics_eq := rfl
  concurrency := rfl
  batchListener := rfl
  autoStartup := rfl
  provider := hprovider
  collaborators := rfl
  settings := rfl
  children := map_index_childrenOf _ _
  anonymous := by
    intro hstem child hchild
    rw [clientId_of_mem hchild, childClientId_eq_none]
    exact hstem
  named := by
    intro hstem child hchild
    refine ⟨_, isDecimal_toString child.index, ?_⟩
    rw [clientId_of_mem hchild, childClientId_of_ne hstem]

/-- The warning about an inspector of records that only sees batches. -/
def recordsIgnored : Event := ⟨.warn, "record interceptor is ignored by a batch listener", []⟩

/-- The warning about an inspector of batches that only sees records. -/
def batchesIgnored : Event := ⟨.warn, "batch interceptor is ignored by a record listener", []⟩

/-- **What is logged about a new container**: at most one warning, and then the container itself, in
full if its settings say so. -/
structure Announced (c : Container σ) (warnings : List Event) (announcement : Event) : Prop where
  length_le : warnings.length ≤ 1
  only : ∀ w ∈ warnings, w = recordsIgnored ∨ w = batchesIgnored
  records : recordsIgnored ∈ warnings ↔
    c.batchListener = true ∧ c.collaborators.recordInspector.isSome
  batches : batchesIgnored ∈ warnings ↔
    c.batchListener = false ∧ c.collaborators.batchInspector.isSome
  message : announcement.message = "created listener container"
  level : announcement.level = if c.settings.logContainerConfig then .info else .debug
  fields : announcement.fields =
    [("topics", describeList (c.topics.map quoted)),
      ("concurrency", toString c.concurrency.toNat)] ++
    if c.settings.logContainerConfig then
      [("batch_listener", toString c.batchListener), ("properties", c.settings.describe)]
    else []

theorem announced (c : Container σ) :
    c.Announced (Blueprint.ignored c.batchListener c.collaborators) (Blueprint.created c) := by
  constructor
  -- first the warnings, whichever inspectors there are, and then the container
  case length_le | only | records | batches =>
    unfold Blueprint.ignored
    cases c.batchListener <;> cases c.collaborators.recordInspector.isSome <;>
      cases c.collaborators.batchInspector.isSome <;> decide
  case message | level | fields =>
    unfold Blueprint.created
    cases c.settings.logContainerConfig <;> rfl

/-- Events of which just one has level INFO, and that shows these texts for the topics and the
settings of a container. -/
def Shows (events : List Event) (topics properties : String) : Prop :=
  ∃ e, events.filter (fun e => e.level = .info) = [e] ∧
    e.fields.lookup "topics" = some topics ∧ e.fields.lookup "properties" = some properties

/-- **A container that is to be logged in full is shown** when it is built. -/
theorem shows_of_build {b : Blueprint σ} {topics : List String} {c : Container σ}
    (h : (b.build topics).1 = .ok c) (hlog : c.settings.logContainerConfig = true) :
    Shows (b.build topics).2 (describeList (c.topics.map quoted)) c.settings.describe := by
  have hbuilds := b.build_builds topics
  generalize b.build topics = r at h hbuilds
  cases hbuilds with
  | @built _ _ _ _ c' _ =>
    obtain rfl : c' = c := Except.ok.inj h
    have hannounced := announced c'
    have hwarnings : (Blueprint.ignored c'.batchListener c'.collaborators).filter
        (fun e => e.level = .info) = [] := by
      refine List.filter_eq_nil_iff.2 fun w hw => ?_
      rcases hannounced.only w hw with rfl | rfl
      · decide
      · decide
    have hlevel := hannounced.level
    have hfields := hannounced.fields
    rw [hlog, if_pos rfl] at hlevel hfields
    refine ⟨Blueprint.created c', ?_, ?_, ?_⟩
    · rw [List.filter_append, hwarnings, List.nil_append, List.filter_cons, hlevel]
      rfl
    · rw [hfields]
      rfl
    · rw [hfields]
      rfl
  | _ => cases h

end Container

/-- **What comes of building.** Without a provider that is the error, whatever else there is or not;
else without topics, and else with a concurrency of zero. Nothing is logged about an error. Otherwise
there is a container, the blueprint with its gaps filled, and what is logged is one warning at most
and then the container. -/
theorem Blueprint.build_outcome (b : Blueprint σ) (topics : List String) :
    ((b.build topics).1 = .error .noProvider ↔ b.provider = none) ∧
    ((b.build topics).1 = .error .noTopics ↔ b.provider ≠ none ∧ topics = []) ∧
    (∀ n, (b.build topics).1 = .error (.concurrencyTooLow n) ↔
      n = 0 ∧ b.provider ≠ none ∧ topics ≠ [] ∧ b.concurrency = some 0) ∧
    ((∃ c, (b.build topics).1 = .ok c) ↔
      b.provider ≠ none ∧ topics ≠ [] ∧ b.concurrency ≠ some 0) ∧
    (∀ e, (b.build topics).1 = .error e → (b.build topics).2 = []) ∧
    ∀ c, (b.build topics).1 = .ok c → c.BuiltFrom b topics ∧
      ∃ warnings announcement, (b.build topics).2 = warnings ++ [announcement] ∧
        c.Announced warnings announcement := by
  have hbuilds := b.build_builds topics
  generalize b.build topics = r at hbuilds
  cases hbuilds with
  | noProvider hprovider => simp [hprovider]
  | noTopics hprovider htopics => simp [hprovider, htopics]
  | concurrencyTooLow hprovider htopics hconcurrency =>
    simp [hprovider, htopics, hconcurrency, @eq_comm UInt32 0]
  | built hprovider htopics hconcurrency hc =>
    refine ⟨by simp [hprovider], by simp [htopics], by simp [hconcurrency], ?_, by simp, ?_⟩
    · simp [hprovider, htopics, hconcurrency]
    · rintro _ ⟨⟩
      refine ⟨?_, _, _, rfl, Container.announced _⟩
      rw [hc]
      exact Container.builtFrom_snapshot hprovider topics

/-- For batches, with inspectors of both kinds, and to be logged in full. -/
def Blueprint.inspected : Blueprint Ledger :=
  empty.run
    [.provider (.recording "cluster" [] 0 none), .concurrency 2, .batchListener true,
      .recordInspector (.silent "records"), .batchInspector (.silent "batches"),
      .container (.clientId "app"), .container (.logContainerConfig true)]

/-- With everything missing it is the provider that is missed; and a container for batches is made
with one warning, about the inspector of records. -/
theorem Blueprint.build_outcome_inspected :
    let nothing : Blueprint Ledger := empty.change (.concurrency 0)
    ((nothing.build []).1 = .error .noProvider ∧ (nothing.build []).2 = []) ∧
    ∃ c, (inspected.build ["orders", "orders"]).1 = .ok c ∧
      c.BuiltFrom inspected ["orders", "orders"] ∧
      ∃ warnings announcement,
        (inspected.build ["orders", "orders"]).2 = warnings ++ [announcement] ∧
        c.Announced warnings announcement := by
  obtain ⟨hnone, -, -, -, hsilent, -⟩ :=
    build_outcome ((empty : Blueprint Ledger).change (.concurrency 0)) []
  obtain ⟨-, -, -, hok, -, hbuilt⟩ := build_outcome inspected ["orders", "orders"]
  obtain ⟨c, hc⟩ := hok.2 ⟨nofun, by decide, by decide⟩
  exact ⟨⟨hnone.2 rfl, hsilent _ (hnone.2 rfl)⟩, c, hc, hbuilt c hc⟩

/-! ## Client ids of built containers -/

namespace Container

theorem children_of_build {b : Blueprint σ} {topics : List String} {c : Container σ}
    (h : (b.build topics).1 = .ok c) : ∃ n, c.children = childrenOf c.settings.clientId n := by
  obtain ⟨provider, n, -, -, rfl⟩ := Blueprint.snapshot_of_build h
  exact ⟨n, rfl⟩

/-- **Client ids never collide.** An id says which stem and which index it is made of, so children
of any two containers share one just if they share both. Within a container all ids differ, and
either every child has one or none has. -/
theorem clientIds_distinct :
    (∀ (p q : String) (i j : Nat), p ≠ "" → q ≠ "" →
      childClientId p i = childClientId q j → p = q ∧ i = j) ∧
    (∀ (b : Blueprint σ) (b' : Blueprint τ) (topics topics' : List String) (c : Container σ)
      (c' : Container τ), (b.build topics).1 = .ok c → (b'.build topics').1 = .ok c' →
      c.settings.clientId ≠ "" → c'.settings.clientId ≠ "" →
      ∀ child ∈ c.children, ∀ child' ∈ c'.children, child.clientId = child'.clientId ↔
        c.settings.clientId = c'.settings.clientId ∧ child.index = child'.index) ∧
    ∀ (b : Blueprint σ) (topics : List String) (c : Container σ), (b.build topics).1 = .ok c →
      (c.children.filterMap Child.clientId).Nodup ∧
        ((∀ child ∈ c.children, child.clientId.isSome) ∨
          ∀ child ∈ c.children, child.clientId = none) := by
  refine ⟨fun p q i j hp hq h => childClientId_inj hp hq h, ?_, ?_⟩
  · intro b b' topics topics' c c' hc hc' hstem hstem' child hchild child' hchild'
    obtain ⟨n, hn⟩ := children_of_build hc
    obtain ⟨n', hn'⟩ := children_of_build hc'
    rw [hn] at hchild
    rw [hn'] at hchild'
    rw [clientId_of_mem hchild, clientId_of_mem hchild']
    constructor
    · intro h
      exact childClientId_inj hstem hstem' h
    · rintro ⟨hstems, hindices⟩
      rw [hstems, hindices]
  · intro b topics c hc
    obtain ⟨n, hn⟩ := children_of_build hc
    rw [hn]
    refine ⟨nodup_clientIds _ n, ?_⟩
    by_cases hstem : c.settings.clientId = ""
    · refine .inr fun child hchild => ?_
      rw [clientId_of_mem hchild, childClientId_eq_none]
      exact hstem
    · refine .inl fun child hchild => ?_
      rw [clientId_of_mem hchild, childClientId_of_ne hstem]
      rfl

end Container

/-- What eleven consumers with a stem for their ids are built from. -/
def Blueprint.ofStem (stem : String) : Blueprint Ledger :=
  empty.run
    [.provider (.recording "cluster" [] 0 none), .concurrency 11, .container (.clientId stem)]

/-- The eleventh child of `a` and the first one of `a-1` have different ids. -/
theorem Container.clientIds_distinct_hyphens :
    ∃ c c' child child', ((Blueprint.ofStem "a").build ["orders"]).1 = .ok c ∧
      ((Blueprint.ofStem "a-1").build ["orders"]).1 = .ok c' ∧
      child ∈ c.children ∧ child' ∈ c'.children ∧
      child.clientId = some "a-10" ∧ child'.clientId = some "a-1-0" ∧
      child.clientId ≠ child'.clientId ∧ (c.children.filterMap Child.clientId).Nodup := by
  obtain ⟨-, hshared, hwithin⟩ := @clientIds_distinct Ledger Ledger
  have ha : ((Blueprint.ofStem "a").build ["orders"]).1 =
    .ok ((Blueprint.ofStem "a").snapshot (.recording "cluster" [] 0 none) 11 ["orders"]) := rfl
  have ha' : ((Blueprint.ofStem "a-1").build ["orders"]).1 =
    .ok ((Blueprint.ofStem "a-1").snapshot (.recording "cluster" [] 0 none) 11 ["orders"]) := rfl
  have hchild : (⟨10, some "a-10"⟩ : Child) ∈ childrenOf "a" 11 := by decide
  have hchild' : (⟨0, some "a-1-0"⟩ : Child) ∈ childrenOf "a-1" 11 := by decide
  refine ⟨_, _, _, _, ha, ha', hchild, hchild', rfl, rfl, ?_, (hwithin _ _ _ ha).1⟩
  intro h
  have hstems := (hshared _ _ _ _ _ _ ha ha' nofun nofun _ hchild _ hchild').1 h
  exact absurd hstems.1 (by decide)

end TopicListeners
