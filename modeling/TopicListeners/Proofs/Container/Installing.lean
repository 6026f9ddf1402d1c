import TopicListeners.Proofs.Container.Part

/-!
# Installing a wiring

What a wiring writes to the parts of a blueprint when it is installed: a setting or collaborator
that is there goes to its own part, durations as the whole units that containers are run with; one
that is missing writes nothing. Four settings are always there, and batch delivery is only ever
switched on.

* `get_install`: a part holds what installing writes to it, and else what it held before.
* `writes_supplyAll`: of the collaborators of one kind the last one supplied counts.
* `install_supplied`: **the blueprint after installing, part by part**, from any settings, any
  collaborators supplied in any order, and any blueprint before.
-/

namespace TopicListeners

variable {σ : Type}

namespace Offer

variable {α β : Type}

@[simp] theorem value_of (property : String) (v : Option α) : (of property v).value = v := rfl

@[simp] theorem value_convert (f : α → β) (o : Offer α) :
    (o.convert f).value = o.value.map f := by
  unfold convert
  split <;> simp [*]

@[simp] theorem value_require (p : α → Bool) (o : Offer α) :
    (o.require p).value = o.value.filter p := by
  unfold require
  split <;> simp [*, Option.filter]

end Offer

namespace Wiring

/-! ## What is written -/

/-- What a wiring writes to the parts of container settings. -/
def containerWrites (w : Wiring σ) : (p : ContainerPart) → Option (p.Value σ)
  | .ackMode => w.settings.ackMode
  | .asyncAcks => w.settings.asyncAcks
  | .clientId => w.settings.clientId
  | .ackCount => w.settings.ackCount
  | .ackTime => w.settings.ackTime.map Duration.millis
  | .pollTimeout => w.settings.pollTimeout.map Duration.millis
  | .noPollThreshold => w.settings.noPollThreshold
  | .idleBetweenPolls => some w.settings.idleBetweenPolls.millis
  | .idleEventInterval => w.settings.idleEventInterval.map Duration.millis
  | .idlePartitionEventInterval => w.settings.idlePartitionEventInterval.map Duration.millis
  | .monitorInterval => w.settings.monitorInterval.map Duration.wholeSeconds
  | .logContainerConfig => w.settings.logContainerConfig
  | .missingTopicsFatal => some w.settings.missingTopicsFatal
  | .stopImmediate => some w.settings.immediateStop
  | .transactor => w.transactor
  | .rebalanceWatcher => w.rebalanceWatcher

/-- What a wiring writes to the parts of a blueprint beside the container settings. -/
def blueprintWrites (w : Wiring σ) : (p : BlueprintPart) → Option (p.Value σ)
  | .concurrency => w.settings.concurrency
  | .autoStartup => some w.settings.autoStartup
  | .batchListener => if w.settings.delivery = .batch then some true else none
  | .converter => w.converter
  | .recordFilter => w.recordFilter
  | .replySender => w.replySender
  | .errorHandler => w.errorHandler
  | .rollbackHandler => w.rollbackHandler
  | .recordInspector => w.recordInspector
  | .batchInspector => w.batchInspector
  | .provider => none
  | .container _ => none

/-- What installing a wiring, together with a provider of consumers, writes to a part. -/
def writes (w : Wiring σ) (provider : ConsumerProvider σ) : (p : BlueprintPart) → Option (p.Value σ)
  | .provider => some provider
  | .container p => w.containerWrites p
  | p => w.blueprintWrites p

/-! ## What is left in the parts -/

/-- One copy onto a blueprint. -/
theorem get_assign_toBlueprint {α : Type} (c : Copying (Blueprint σ)) (o : Offer α)
    (k : α → BlueprintChange σ) (p : BlueprintPart) :
    p.get (c.assign (toBlueprint o k)).destination =
      (o.value.bind fun a => (k a).writes p).or (p.get c.destination) := by
  obtain ⟨property, value, steps⟩ := o
  cases value with
  | none => rfl
  | some a => exact p.get_change c.destination (k a)

/-- One copy onto container settings. -/
theorem get_assign_toContainer {α : Type} (c : Copying (ContainerSettings σ)) (o : Offer α)
    (k : α → ContainerChange σ) (p : ContainerPart) :
    p.get (c.assign (toContainer o k)).destination =
      (o.value.bind fun a => (k a).writes p).or (p.get c.destination) := by
  obtain ⟨property, value, steps⟩ := o
  cases value with
  | none => rfl
  | some a => exact p.get_change c.destination (k a)

theorem get_copyToContainer (w : Wiring σ) (s : ContainerSettings σ) (p : ContainerPart) :
    p.get (w.copyToContainer s).destination = (w.containerWrites p).or (p.get s) := by
  unfold copyToContainer containerAssignments
  simp only [Copying.run_cons]
  show p.get (Copying.assign _ _).destination = _
  simp only [get_assign_toContainer]
  -- of the sixteen copies one is about `p`, and all others vanish
  cases p <;>
    simp [containerWrites, ContainerChange.writes, ContainerChange.part, ContainerChange.value,
      Copying.start, Option.map_eq_bind]

theorem get_copyToBlueprint (w : Wiring σ) (b : Blueprint σ) (p : BlueprintPart) :
    p.get (w.copyToBlueprint b).destination = (w.blueprintWrites p).or (p.get b) := by
  unfold copyToBlueprint blueprintAssignments
  simp only [Copying.run_cons]
  show p.get (Copying.assign _ _).destination = _
  simp only [get_assign_toBlueprint]
  by_cases hd : w.settings.delivery = .batch <;>
    cases p <;>
      simp [blueprintWrites, BlueprintChange.writes, BlueprintChange.part, BlueprintChange.value,
        Copying.start, Option.filter, hd]

/-- **Installing, part by part.** -/
theorem get_install (w : Wiring σ) (provider : ConsumerProvider σ) (b : Blueprint σ)
    (p : BlueprintPart) :
    p.get (w.install provider b).1 = (w.writes provider p).or (p.get b) := by
  have houter := w.get_copyToBlueprint (b.change (.provider provider)) p
  rw [p.get_change] at houter
  cases p with
  | container p =>
    show p.get (w.copyToContainer _).destination = _
    rw [get_copyToContainer]
    exact congrArg _ houter
  | provider => exact houter
  | _ => exact houter

end Wiring

/-! ## Supplied collaborators -/

/-- Supplying a collaborator as a change of the blueprint that it is meant for. -/
def Supply.change : Supply σ → BlueprintChange σ
  | converter c => .converter c
  | recordFilter f => .recordFilter f
  | replySender t => .replySender t
  | transactor m => .container (.transactor m)
  | rebalanceWatcher l => .container (.rebalanceWatcher l)
  | errorHandler h => .errorHandler h
  | rollbackHandler p => .rollbackHandler p
  | recordInspector i => .recordInspector i
  | batchInspector i => .batchInspector i

/-- The last of the collaborators for a part. -/
def Supply.last (cs : List (Supply σ)) (p : BlueprintPart) : Option (p.Value σ) :=
  (cs.filterMap fun c => c.change.writes p).getLast?

/-- For a part that no collaborator is meant for, there is no last one. -/
theorem Supply.last_eq_none (cs : List (Supply σ)) {p : BlueprintPart}
    (h : ∀ c : Supply σ, c.change.writes p = none) : Supply.last cs p = none := by
  simp [Supply.last, h]

namespace Wiring

theorem writes_supply (w : Wiring σ) (provider : ConsumerProvider σ) (p : BlueprintPart)
    (c : Supply σ) :
    (w.supply c).writes provider p = (c.change.writes p).or (w.writes provider p) := by
  cases p with
  | container p => cases c <;> cases p <;> rfl
  | _ => cases c <;> rfl

/-- **Of the collaborators of one kind the last one supplied counts.** -/
theorem writes_supplyAll (w : Wiring σ) (provider : ConsumerProvider σ) (p : BlueprintPart)
    (cs : List (Supply σ)) :
    (w.supplyAll cs).writes provider p = (Supply.last cs p).or (w.writes provider p) := by
  let get (w : Wiring σ) := w.writes provider p
  have hstep (w : Wiring σ) (c : Supply σ) : get (w.supply c) = (c.change.writes p).or (get w) :=
    w.writes_supply provider p c
  exact get_foldl hstep w cs

/-- **Installing settings and collaborators.** -/
theorem install_supplied (s : ListenerSettings) (cs : List (Supply σ))
    (provider : ConsumerProvider σ) (b : Blueprint σ) :
    (((ofSettings s).supplyAll cs).install provider b).1 =
      { provider := some provider
        concurrency := s.concurrency.or b.concurrency
        autoStartup := some s.autoStartup
        batchListener := if s.delivery = .batch then some true else b.batchListener
        collaborators :=
          { converter := (Supply.last cs .converter).or b.collaborators.converter
            recordFilter := (Supply.last cs .recordFilter).or b.collaborators.recordFilter
            replySender := (Supply.last cs .replySender).or b.collaborators.replySender
            errorHandler := (Supply.last cs .errorHandler).or b.collaborators.errorHandler
            rollbackHandler := (Supply.last cs .rollbackHandler).or b.collaborators.rollbackHandler
            recordInspector := (Supply.last cs .recordInspector).or b.collaborators.recordInspector
            batchInspector := (Supply.last cs .batchInspector).or b.collaborators.batchInspector }
        container :=
          { ackMode := s.ackMode.getD b.container.ackMode
            asyncAcks := s.asyncAcks.getD b.container.asyncAcks
            clientId := s.clientId.getD b.container.clientId
            ackCount := s.ackCount.getD b.container.ackCount
            ackTime := (s.ackTime.map Duration.millis).getD b.container.ackTime
            pollTimeout := (s.pollTimeout.map Duration.millis).getD b.container.pollTimeout
            noPollThreshold := s.noPollThreshold.getD b.container.noPollThreshold
            idleBetweenPolls := s.idleBetweenPolls.millis
            idleEventInterval :=
              (s.idleEventInterval.map Duration.millis).or b.container.idleEventInterval
            idlePartitionEventInterval :=
              (s.idlePartitionEventInterval.map Duration.millis).or
                b.container.idlePartitionEventInterval
            monitorInterval :=
              (s.monitorInterval.map Duration.wholeSeconds).getD b.container.monitorInterval
            logContainerConfig := s.logContainerConfig.getD b.container.logContainerConfig
            missingTopicsFatal := s.missingTopicsFatal
            stopImmediate := s.immediateStop
            transactor := (Supply.last cs (.container .transactor)).or b.container.transactor
            rebalanceWatcher := (Supply.last cs (.container .rebalanceWatcher)).or
              b.container.rebalanceWatcher } } := by
  -- part by part; where no collaborator is meant for a part, there is no last one
  apply BlueprintPart.ext_get
  intro p
  rw [get_install, writes_supplyAll]
  cases p with
  | converter | recordFilter | replySender | errorHandler | rollbackHandler | recordInspector
  | batchInspector => simp [writes, blueprintWrites, ofSettings, BlueprintPart.get]
  | provider | concurrency | autoStartup =>
    rw [Supply.last_eq_none cs (by rintro ⟨⟩ <;> rfl)]
    simp [writes, blueprintWrites, ofSettings, BlueprintPart.get]
  | batchListener =>
    rw [Supply.last_eq_none cs (by rintro ⟨⟩ <;> rfl)]
    by_cases hd : s.delivery = .batch <;>
      simp [writes, blueprintWrites, ofSettings, BlueprintPart.get, hd]
  | container p =>
    cases p with
    | transactor | rebalanceWatcher =>
      simp [writes, containerWrites, ofSettings, BlueprintPart.get, ContainerPart.get]
    | _ =>
      rw [Supply.last_eq_none cs (by rintro ⟨⟩ <;> rfl)]
      simp [writes, containerWrites, ofSettings, BlueprintPart.get, ContainerPart.get]

end Wiring

end TopicListeners
