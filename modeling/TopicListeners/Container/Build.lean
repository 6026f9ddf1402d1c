import TopicListeners.Container.Blueprint

/-!
# Building containers

A container is a snapshot of a blueprint for some topics, with one child for each consumer that it
is to have. Later changes to the blueprint do not reach it.

Its consumers are made in the order of the children, each subscribed to all topics of the container
before the next one is made. The first failure is the answer, and nothing is done after it.

* `length_childrenOf`: a container has as many children as its concurrency says.
-/

namespace TopicListeners

/-- One consumer's share of a container. -/
structure Child where
  index : Nat
  clientId : Option String
deriving DecidableEq, Repr

/-- A listener container. -/
structure Container (σ : Type) where
  topics : List String
  concurrency : UInt32
  batchListener : Bool
  autoStartup : Bool
  provider : ConsumerProvider σ
  collaborators : Collaborators σ
  settings : ContainerSettings σ
  children : List Child

/-- The client id of a child: none without a stem, and else the stem and the index of the child. -/
def childClientId (stem : String) (index : Nat) : Option String :=
  if stem = "" then none else some (stem ++ "-" ++ toString index)

/-- The children of a container with client ids that start with a stem. -/
def childrenOf (stem : String) (concurrency : UInt32) : List Child :=
  (List.range concurrency.toNat).map fun i => ⟨i, childClientId stem i⟩

namespace Blueprint

variable {σ : Type}

open Text

/-- The warning about an inspector that the kind of delivery leaves unused. -/
def ignored (batchListener : Bool) (a : Collaborators σ) : List Event :=
  if batchListener then
    if a.recordInspector.isSome
    then [⟨.warn, "record interceptor is ignored by a batch listener", []⟩] else []
  else
    if a.batchInspector.isSome
    then [⟨.warn, "batch interceptor is ignored by a record listener", []⟩] else []

/-- The event of a new container, with all of its settings if they say so. -/
def created (c : Container σ) : Event :=
  let topics := ("topics", describeList (c.topics.map quoted))
  let concurrency := ("concurrency", toString c.concurrency.toNat)
  if c.settings.logContainerConfig then
    ⟨.info, "created listener container",
      [topics, concurrency, ("batch_listener", toString c.batchListener),
        ("properties", c.settings.describe)]⟩
  else ⟨.debug, "created listener container", [topics, concurrency]⟩

/-- The container of a blueprint, with all that may be missing there. -/
def snapshot (b : Blueprint σ) (provider : ConsumerProvider σ) (concurrency : UInt32)
    (topics : List String) : Container σ where
  topics := topics
  concurrency := concurrency
  batchListener := b.batchListener.getD false
  autoStartup := b.autoStartup.getD true
  provider := provider
  collaborators := b.collaborators
  settings := b.container
  children := childrenOf b.container.clientId concurrency

/-- A container for topics, and what is logged about it. -/
def build (b : Blueprint σ) (topics : List String) :
    Except BuildError (Container σ) × List Event :=
  match b.provider with
  | none => (.error .noProvider, [])
  | some provider =>
    if topics = [] then (.error .noTopics, [])
    else
      let concurrency := b.concurrency.getD 1
      if concurrency = 0 then (.error (.concurrencyTooLow concurrency), [])
      else
        let c := b.snapshot provider concurrency topics
        (.ok c, ignored c.batchListener c.collaborators ++ [created c])

end Blueprint

/-- A container has as many children as its concurrency says. -/
theorem length_childrenOf (stem : String) (n : UInt32) : (childrenOf stem n).length = n.toNat := by
  simp [childrenOf]

/-! ## Consumers -/

variable {σ : Type}

/-- The event of a consumer that has been subscribed. -/
def subscribed (c : Child) : Event :=
  ⟨.debug, "subscribed child consumer",
    [("child", toString c.index), ("client_id", c.clientId.getD "")]⟩

/-- Makes and subscribes one consumer. -/
def connectChild (provider : ConsumerProvider σ) (topics : List String) (c : Child) :
    Action σ (Except ClientError (Consumer σ)) := do
  match ← provider.connect none c.clientId with
  | .error e => pure (.error e)
  | .ok consumer =>
    match ← consumer.subscribe topics with
    | .error e => pure (.error e)
    | .ok () =>
      .emit (subscribed c)
      pure (.ok consumer)

/-- Makes and subscribes consumers for children, up to the first failure. -/
def connectChildren (provider : ConsumerProvider σ) (topics : List String) :
    List Child → Action σ (Except ClientError (List (Consumer σ)))
  | [] => pure (.ok [])
  | c :: cs => do
    match ← connectChild provider topics c with
    | .error e => pure (.error e)
    | .ok consumer =>
      match ← connectChildren provider topics cs with
      | .error e => pure (.error e)
      | .ok consumers => pure (.ok (consumer :: consumers))

/-- Makes and subscribes the consumers of a container. -/
def Container.connect (c : Container σ) :
    Action σ (Except ClientError (List (Consumer σ))) :=
  connectChildren c.provider c.topics c.children

end TopicListeners
