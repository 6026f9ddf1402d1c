import TopicListeners.Collaborator.Recording
import TopicListeners.Proofs.Container.Installing

/-!
# Histories of a blueprint

A blueprint is changed and wired up again and again, in any order. Each operation is known by what
it writes, so a history is known by the last write to each part.

* `get_perform`: **the last writer of a part wins.**
* `install_install`: installing two wirings is installing one, which takes from the second wiring
  whatever that has.
* `isSome_get_perform`: no part is ever emptied.
* `batchListener_perform`: only a change can take batch delivery back.
-/

namespace TopicListeners

variable {σ : Type}

/-- What can be done to a blueprint. -/
inductive Operation (σ : Type)
  | change (c : BlueprintChange σ)
  | install (w : Wiring σ) (provider : ConsumerProvider σ)

namespace Operation

/-- A blueprint after an operation. -/
def apply (b : Blueprint σ) : Operation σ → Blueprint σ
  | change c => b.change c
  | install w provider => (w.install provider b).1

/-- What an operation writes to a part. -/
def writes (o : Operation σ) (p : BlueprintPart) : Option (p.Value σ) :=
  match o with
  | change c => c.writes p
  | install w provider => w.writes provider p

/-- One operation, part by part. -/
theorem get_apply (b : Blueprint σ) (o : Operation σ) (p : BlueprintPart) :
    p.get (apply b o) = (o.writes p).or (p.get b) := by
  cases o with
  | change c => exact p.get_change b c
  | install w provider => exact w.get_install provider b p

end Operation

/-- A blueprint after operations, one after the other. -/
def Blueprint.perform (b : Blueprint σ) (os : List (Operation σ)) : Blueprint σ :=
  os.foldl Operation.apply b

namespace Blueprint

theorem perform_append (b : Blueprint σ) (os ps : List (Operation σ)) :
    b.perform (os ++ ps) = (b.perform os).perform ps := by
  simp [perform]

/-- **The last writer of a part wins.** -/
theorem get_perform (b : Blueprint σ) (os : List (Operation σ)) (p : BlueprintPart) :
    p.get (b.perform os) = ((os.filterMap fun o => o.writes p).getLast?).or (p.get b) :=
  get_foldl (fun b o => Operation.get_apply b o p) b os

/-- **No part is ever emptied.** -/
theorem isSome_get_perform {b : Blueprint σ} {p : BlueprintPart} (h : (p.get b).isSome)
    (os : List (Operation σ)) : (p.get (b.perform os)).isSome := by
  rw [get_perform, Option.isSome_or, h, Bool.or_true]

/-- Installing switches batch delivery on or leaves it alone, and so does every change but one. -/
theorem batchListener_apply {b : Blueprint σ} (h : b.batchListener = some true)
    {o : Operation σ} (ho : o ≠ .change (.batchListener false)) :
    (Operation.apply b o).batchListener = some true := by
  cases o with
  | change c =>
    cases c with
    | batchListener on =>
      cases on with
      | false => exact absurd rfl ho
      | true => rfl
    | _ => exact h
  | install w provider =>
    have hget := w.get_install provider b .batchListener
    simp only [BlueprintPart.get, h] at hget
    rw [Operation.apply, hget]
    by_cases hd : w.settings.delivery = .batch <;> simp [Wiring.writes, Wiring.blueprintWrites, hd]

/-- **Batch delivery is sticky**: as long as no change takes it back, it stays. -/
theorem batchListener_perform {b : Blueprint σ} (h : b.batchListener = some true)
    {os : List (Operation σ)} (hos : .change (.batchListener false) ∉ os) :
    (b.perform os).batchListener = some true := by
  induction os generalizing b with
  | nil => exact h
  | cons o os ih =>
    rw [List.mem_cons, not_or] at hos
    exact ih (batchListener_apply h fun ho => hos.1 ho.symm) hos.2

end Blueprint

namespace Wiring

/-- Two wirings in one: the settings and collaborators of the second where it has them, those of the
first where it does not, and batch delivery if either asks for it. -/
def merge (v w : Wiring σ) : Wiring σ where
  settings :=
    { delivery := if w.settings.delivery = .batch then .batch else v.settings.delivery
      concurrency := w.settings.concurrency.or v.settings.concurrency
      autoStartup := w.settings.autoStartup
      ackMode := w.settings.ackMode.or v.settings.ackMode
      asyncAcks := w.settings.asyncAcks.or v.settings.asyncAcks
      clientId := w.settings.clientId.or v.settings.clientId
      ackCount := w.settings.ackCount.or v.settings.ackCount
      ackTime := w.settings.ackTime.or v.settings.ackTime
      pollTimeout := w.settings.pollTimeout.or v.settings.pollTimeout
      noPollThreshold := w.settings.noPollThreshold.or v.settings.noPollThreshold
      idleBetweenPolls := w.settings.idleBetweenPolls
      idleEventInterval := w.settings.idleEventInterval.or v.settings.idleEventInterval
      idlePartitionEventInterval :=
        w.settings.idlePartitionEventInterval.or v.settings.idlePartitionEventInterval
      monitorInterval := w.settings.monitorInterval.or v.settings.monitorInterval
      logContainerConfig := w.settings.logContainerConfig.or v.settings.logContainerConfig
      missingTopicsFatal := w.settings.missingTopicsFatal
      immediateStop := w.settings.immediateStop }
  converter := w.converter.or v.converter
  recordFilter := w.recordFilter.or v.recordFilter
  replySender := w.replySender.or v.replySender
  transactor := w.transactor.or v.transactor
  rebalanceWatcher := w.rebalanceWatcher.or v.rebalanceWatcher
  errorHandler := w.errorHandler.or v.errorHandler
  rollbackHandler := w.rollbackHandler.or v.rollbackHandler
  recordInspector := w.recordInspector.or v.recordInspector
  batchInspector := w.batchInspector.or v.batchInspector

/-- What two wirings write, one after the other. -/
theorem writes_merge (v w : Wiring σ) (first second : ConsumerProvider σ) (p : BlueprintPart) :
    (v.merge w).writes second p = (w.writes second p).or (v.writes first p) := by
  cases p with
  | batchListener =>
    by_cases hw : w.settings.delivery = .batch <;> simp [writes, blueprintWrites, merge, hw]
  | container p => cases p <;> simp [writes, containerWrites, merge, Option.map_or]
  | _ => simp [writes, blueprintWrites, merge]

/-- **Installing two wirings is installing both in one.** -/
theorem install_install (v w : Wiring σ) (first second : ConsumerProvider σ) (b : Blueprint σ) :
    (w.install second (v.install first b).1).1 = ((v.merge w).install second b).1 := by
  apply BlueprintPart.ext_get
  intro p
  rw [get_install, get_install, get_install, writes_merge v w first, Option.or_assoc]

/-- Installing a wiring once more changes nothing. -/
theorem install_self (w : Wiring σ) (provider : ConsumerProvider σ) (b : Blueprint σ) :
    (w.install provider (w.install provider b).1).1 = (w.install provider b).1 := by
  apply BlueprintPart.ext_get
  intro p
  rw [get_install, get_install, ← Option.or_assoc, Option.or_self]

end Wiring

/-- **Histories of a blueprint.** After any operations in any order a part holds what the last of
them to write to it wrote, and else what it held at first. Two installations one after the other
are one installation of both wirings merged, and a repeated one is idle. No part is emptied along
the way, and batch delivery, once on, stays on until a change takes it back. -/
theorem last_writer_wins :
    (∀ (b : Blueprint σ) (os : List (Operation σ)) (p : BlueprintPart),
      p.get (b.perform os) = ((os.filterMap fun o => o.writes p).getLast?).or (p.get b)) ∧
    (∀ (v w : Wiring σ) (first second : ConsumerProvider σ) (b : Blueprint σ),
      (w.install second (v.install first b).1).1 = ((v.merge w).install second b).1) ∧
    (∀ (w : Wiring σ) (provider : ConsumerProvider σ) (b : Blueprint σ),
      (w.install provider (w.install provider b).1).1 = (w.install provider b).1) ∧
    (∀ (b : Blueprint σ) (os later : List (Operation σ)) (p : BlueprintPart),
      (p.get (b.perform os)).isSome → (p.get (b.perform (os ++ later))).isSome) ∧
    (∀ (b : Blueprint σ) (os : List (Operation σ)), b.batchListener = some true →
      .change (.batchListener false) ∉ os → (b.perform os).batchListener = some true) := by
  refine ⟨Blueprint.get_perform, Wiring.install_install, Wiring.install_self, ?_, ?_⟩
  · intro b os later p h
    rw [Blueprint.perform_append]
    exact Blueprint.isSome_get_perform h later
  · intro b os h hos
    exact Blueprint.batchListener_perform h hos

/-- A blueprint for batches that is wired up for single records keeps its batches, and a concurrency
that has been given stays given. -/
theorem last_writer_wins_single :
    let batches : Blueprint Ledger := .change .empty (.batchListener true)
    let three : Operation Ledger := .change (.concurrency 3)
    let single : Operation Ledger :=
      .install (.ofSettings .standard) (.recording "cluster" [] 0 none)
    (batches.batchListener = some true ∧ .change (.batchListener false) ∉ [three, single] ∧
      (batches.perform [three, single]).batchListener = some true) ∧
    ((BlueprintPart.concurrency.get (batches.perform [three])).isSome ∧
      (BlueprintPart.concurrency.get (batches.perform ([three] ++ [single]))).isSome) :=
  ⟨⟨rfl, by simp, last_writer_wins.2.2.2.2 _ _ rfl (by simp)⟩,
    ⟨rfl, last_writer_wins.2.2.2.1 _ _ _ .concurrency rfl⟩⟩

end TopicListeners
