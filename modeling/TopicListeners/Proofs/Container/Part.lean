import TopicListeners.Container.Wiring

/-!
# The parts of a blueprint

A blueprint is looked at part by part, the settings of its containers included. A part has one kind
of value and either holds one or is empty; whatever is done to a blueprint is described by what it
writes to each part.

* `get_change`: a change writes one part and leaves all others as they were.
* `ext_get`: blueprints that agree in every part are equal.
* `get_foldl`: **after a run a part holds what was written to it last**, whatever the steps are.
-/

namespace TopicListeners

/-- The parts of container settings. -/
inductive ContainerPart
  | ackMode
  | asyncAcks
  | clientId
  | ackCount
  | ackTime
  | pollTimeout
  | noPollThreshold
  | idleBetweenPolls
  | idleEventInterval
  | idlePartitionEventInterval
  | monitorInterval
  | logContainerConfig
  | missingTopicsFatal
  | stopImmediate
  | transactor
  | rebalanceWatcher
deriving DecidableEq, Repr

/-- The parts of a blueprint. -/
inductive BlueprintPart
  | provider
  | concurrency
  | autoStartup
  | batchListener
  | converter
  | recordFilter
  | replySender
  | errorHandler
  | rollbackHandler
  | recordInspector
  | batchInspector
  | container (p : ContainerPart)
deriving DecidableEq, Repr

variable {σ : Type}

namespace ContainerPart

/-- What a part of container settings can hold. -/
abbrev Value (σ : Type) : ContainerPart → Type
  | ackMode => AckMode
  | asyncAcks => Bool
  | clientId => String
  | ackCount => UInt32
  | ackTime => UInt64
  | pollTimeout => UInt64
  | noPollThreshold => Numeral.Single
  | idleBetweenPolls => UInt64
  | idleEventInterval => UInt64
  | idlePartitionEventInterval => UInt64
  | monitorInterval => Int32
  | logContainerConfig => Bool
  | missingTopicsFatal => Bool
  | stopImmediate => Bool
  | transactor => Transactor σ
  | rebalanceWatcher => RebalanceWatcher σ

/-- What a part holds. Only four of them can be empty. -/
def get : (p : ContainerPart) → ContainerSettings σ → Option (p.Value σ)
  | ackMode, s => some s.ackMode
  | asyncAcks, s => some s.asyncAcks
  | clientId, s => some s.clientId
  | ackCount, s => some s.ackCount
  | ackTime, s => some s.ackTime
  | pollTimeout, s => some s.pollTimeout
  | noPollThreshold, s => some s.noPollThreshold
  | idleBetweenPolls, s => some s.idleBetweenPolls
  | idleEventInterval, s => s.idleEventInterval
  | idlePartitionEventInterval, s => s.idlePartitionEventInterval
  | monitorInterval, s => some s.monitorInterval
  | logContainerConfig, s => some s.logContainerConfig
  | missingTopicsFatal, s => some s.missingTopicsFatal
  | stopImmediate, s => some s.stopImmediate
  | transactor, s => s.transactor
  | rebalanceWatcher, s => s.rebalanceWatcher

end ContainerPart

namespace ContainerChange

/-- The part that a change is about. -/
def part : ContainerChange σ → ContainerPart
  | ackMode _ => .ackMode
  | asyncAcks _ => .asyncAcks
  | clientId _ => .clientId
  | ackCount _ => .ackCount
  | ackTime _ => .ackTime
  | pollTimeout _ => .pollTimeout
  | noPollThreshold _ => .noPollThreshold
  | idleBetweenPolls _ => .idleBetweenPolls
  | idleEventInterval _ => .idleEventInterval
  | idlePartitionEventInterval _ => .idlePartitionEventInterval
  | monitorInterval _ => .monitorInterval
  | logContainerConfig _ => .logContainerConfig
  | missingTopicsFatal _ => .missingTopicsFatal
  | stopImmediate _ => .stopImmediate
  | transactor _ => .transactor
  | rebalanceWatcher _ => .rebalanceWatcher

/-- The new value of that part. -/
def value : (c : ContainerChange σ) → c.part.Value σ
  | ackMode m => m
  | asyncAcks b => b
  | clientId t => t
  | ackCount n => n
  | ackTime n => n
  | pollTimeout n => n
  | noPollThreshold x => x
  | idleBetweenPolls n => n
  | idleEventInterval n => n
  | idlePartitionEventInterval n => n
  | monitorInterval n => n
  | logContainerConfig b => b
  | missingTopicsFatal b => b
  | stopImmediate b => b
  | transactor m => m
  | rebalanceWatcher l => l

/-- What a change writes to a part. -/
def writes (c : ContainerChange σ) (p : ContainerPart) : Option (p.Value σ) :=
  if h : c.part = p then some (h ▸ c.value) else none

end ContainerChange

/-- **A change of container settings writes one part.** -/
theorem ContainerPart.get_change (s : ContainerSettings σ) (c : ContainerChange σ)
    (p : ContainerPart) : p.get (s.change c) = (c.writes p).or (p.get s) := by
  cases c <;> cases p <;> rfl

/-- Container settings that agree in every part are equal. -/
theorem ContainerPart.ext_get {s t : ContainerSettings σ}
    (h : ∀ p : ContainerPart, p.get s = p.get t) : s = t := by
  cases s
  cases t
  rw [ContainerSettings.mk.injEq]
  have plain {α : Type} {a b : α} : some a = some b → a = b := Option.some.inj
  exact ⟨plain (h .ackMode), plain (h .asyncAcks), plain (h .clientId), plain (h .ackCount),
    plain (h .ackTime), plain (h .pollTimeout), plain (h .noPollThreshold),
    plain (h .idleBetweenPolls), h .idleEventInterval, h .idlePartitionEventInterval,
    plain (h .monitorInterval), plain (h .logContainerConfig), plain (h .missingTopicsFatal),
    plain (h .stopImmediate), h .transactor, h .rebalanceWatcher⟩

namespace BlueprintPart

/-- What a part of a blueprint can hold. -/
abbrev Value (σ : Type) : BlueprintPart → Type
  | provider => ConsumerProvider σ
  | concurrency => UInt32
  | autoStartup => Bool
  | batchListener => Bool
  | converter => Converter σ
  | recordFilter => RecordFilter σ
  | replySender => ReplySender σ
  | errorHandler => ErrorHandler σ
  | rollbackHandler => RollbackHandler σ
  | recordInspector => RecordInspector σ
  | batchInspector => BatchInspector σ
  | container p => p.Value σ

/-- What a part holds, if it is not empty. -/
def get : (p : BlueprintPart) → Blueprint σ → Option (p.Value σ)
  | provider, b => b.provider
  | concurrency, b => b.concurrency
  | autoStartup, b => b.autoStartup
  | batchListener, b => b.batchListener
  | converter, b => b.collaborators.converter
  | recordFilter, b => b.collaborators.recordFilter
  | replySender, b => b.collaborators.replySender
  | errorHandler, b => b.collaborators.errorHandler
  | rollbackHandler, b => b.collaborators.rollbackHandler
  | recordInspector, b => b.collaborators.recordInspector
  | batchInspector, b => b.collaborators.batchInspector
  | container p, b => p.get b.container

end BlueprintPart

namespace BlueprintChange

/-- The part that a change is about. -/
def part : BlueprintChange σ → BlueprintPart
  | provider _ => .provider
  | concurrency _ => .concurrency
  | autoStartup _ => .autoStartup
  | batchListener _ => .batchListener
  | converter _ => .converter
  | recordFilter _ => .recordFilter
  | replySender _ => .replySender
  | errorHandler _ => .errorHandler
  | rollbackHandler _ => .rollbackHandler
  | recordInspector _ => .recordInspector
  | batchInspector _ => .batchInspector
  | container c => .container c.part

/-- The new value of that part. -/
def value : (c : BlueprintChange σ) → c.part.Value σ
  | provider c => c
  | concurrency n => n
  | autoStartup b => b
  | batchListener b => b
  | converter c => c
  | recordFilter f => f
  | replySender t => t
  | errorHandler h => h
  | rollbackHandler p => p
  | recordInspector i => i
  | batchInspector i => i
  | container c => c.value

/-- What a change writes to a part. -/
def writes (c : BlueprintChange σ) (p : BlueprintPart) : Option (p.Value σ) :=
  if h : c.part = p then some (h ▸ c.value) else none

/-- A change of container settings writes to their parts alone. -/
theorem writes_container (c : ContainerChange σ) (p : ContainerPart) :
    (container c).writes (.container p) = c.writes p := by
  cases c <;> cases p <;> rfl

end BlueprintChange

namespace BlueprintPart

/-- **A change writes one part** and leaves all others as they were. -/
theorem get_change (b : Blueprint σ) (c : BlueprintChange σ) (p : BlueprintPart) :
    p.get (b.change c) = (c.writes p).or (p.get b) := by
  cases p with
  | container p =>
    cases c with
    | container c => rw [BlueprintChange.writes_container]; exact p.get_change b.container c
    | _ => rfl
  | _ => cases c <;> rfl

/-- Blueprints that agree in every part are equal. -/
theorem ext_get {b c : Blueprint σ} (h : ∀ p : BlueprintPart, p.get b = p.get c) : b = c := by
  obtain ⟨_, _, _, _, ⟨⟩, s⟩ := b
  obtain ⟨_, _, _, _, ⟨⟩, t⟩ := c
  have hst : s = t := ContainerPart.ext_get fun p => h (.container p)
  rw [Blueprint.mk.injEq, Collaborators.mk.injEq]
  exact ⟨h .provider, h .concurrency, h .autoStartup, h .batchListener,
    ⟨h .converter, h .recordFilter, h .replySender, h .errorHandler, h .rollbackHandler,
      h .recordInspector, h .batchInspector⟩, hst⟩

end BlueprintPart

/-- **After a run a part holds what was written to it last**, and what it held before if nothing
was. The run is one of any steps `step`, of which each writes `writes i`. -/
theorem get_foldl {τ ι α : Type} {step : τ → ι → τ} {get : τ → Option α} {writes : ι → Option α}
    (hstep : ∀ t i, get (step t i) = (writes i).or (get t)) (t : τ) (is : List ι) :
    get (is.foldl step t) = ((is.filterMap writes).getLast?).or (get t) := by
  induction is generalizing t with
  | nil => rfl
  | cons i is ih =>
    rw [List.foldl_cons, ih, hstep]
    cases hi : writes i with
    | none => rw [List.filterMap_cons_none hi]; rfl
    | some a =>
      rw [List.filterMap_cons_some hi, List.getLast?_cons]
      cases (is.filterMap writes).getLast? <;> rfl

end TopicListeners
