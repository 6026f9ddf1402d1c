import TopicListeners.Topic.Subscription

/-!
# Recording collaborators

Collaborators that write down how they are called and do next to nothing else. They show what a
container does with its collaborators.
-/

namespace TopicListeners

/-- A call for a consumer: the provider's label, the group and the client id. -/
structure ConsumerCall where
  provider : String
  group : Option String
  clientId : Option String
deriving DecidableEq, Repr

/-- What recording collaborators write down. -/
structure Ledger where
  notes : List String
  calls : List ConsumerCall
  /-- How many consumers each provider has been asked for, by the number of the provider. -/
  asked : List Nat
deriving DecidableEq, Repr

namespace Ledger

/-- Nothing has been written down. -/
def blank : Ledger := ⟨[], [], []⟩

/-- Writes down a note. -/
def note (s : String) : Action Ledger Unit := .modify fun l => { l with notes := l.notes ++ [s] }

end Ledger

open Ledger

/-- Partitions in a note. -/
def describePartitions (ps : List TopicPartition) : String :=
  ",".intercalate (ps.map TopicPartition.describe)

/-- Discards the records whose offset leaves a remainder. -/
def RecordFilter.recording (label : String) (modulus remainder : Int) : RecordFilter Ledger where
  label := label
  discards r := do
    note ("filter:" ++ toString r.offset.toInt)
    pure (r.offset.toInt % modulus = remainder)

/-- Deals with every record but the one at an offset. -/
def ErrorHandler.recording (label : String) (stopAt : Option Int) : ErrorHandler Ledger where
  label := label
  handle e r := do
    note ("handle:" ++ toString r.offset.toInt ++ ":" ++ e.message)
    pure (stopAt ≠ some r.offset.toInt)

/-- Counts the records. -/
def RollbackHandler.recording (label : String) : RollbackHandler Ledger where
  label := label
  handle rs e := note ("rollback:" ++ toString rs.length ++ ":" ++ e.message)

/-- Writes down every change of partitions. -/
def RebalanceWatcher.recording (label : String) : RebalanceWatcher Ledger where
  label := label
  beforeCommit ps := note ("before:" ++ describePartitions ps)
  afterCommit ps := note ("after:" ++ describePartitions ps)
  assigned ps := note ("assigned:" ++ describePartitions ps)

/-- Writes down nothing. -/
def RebalanceWatcher.silent (label : String) : RebalanceWatcher Ledger where
  label := label

/-- Writes down the loss of partitions only. -/
def RebalanceWatcher.recordingLoss (label : String) : RebalanceWatcher Ledger where
  label := label
  lost ps := note ("lost:" ++ describePartitions ps)

/-- Has no message for any record. -/
def Converter.refusing (label : String) : Converter Ledger where
  label := label
  convert _ := pure (.error .empty)

/-- Sends nothing anywhere. -/
def ReplySender.silent (label : String) (defaultTopic : Option String) : ReplySender Ledger where
  label := label
  defaultTopic := defaultTopic
  send _ _ _ := pure (.ok ())

/-- Runs no transactions. -/
def Transactor.silent (label : String) : Transactor Ledger where
  label := label
  transactionalId := label
  begin := pure (.ok ())
  commit := pure (.ok ())
  rollback := pure (.ok ())

/-- Lets every record pass. -/
def RecordInspector.silent (label : String) : RecordInspector Ledger where
  label := label
  inspect r := pure (some r)

/-- Lets every batch pass. -/
def BatchInspector.silent (label : String) : BatchInspector Ledger where
  label := label
  inspect rs := pure (some rs)

/-- The provider of a number: counts and writes down the calls for consumers, and fails at one of
them. -/
def ConsumerProvider.recording (label : String) (properties : Dictionary String) (number : Nat)
    (failAt : Option Nat) : ConsumerProvider Ledger where
  label := label
  properties := properties
  connect group clientId := do
    let asked := (← Action.get).asked[number]?.getD 0
    .modify fun l =>
      { l with
        calls := l.calls ++ [⟨label, group, clientId⟩]
        asked := l.asked.set number (asked + 1) }
    if failAt = some asked then pure (.error (.creation "stub failure"))
    else pure (.ok (.ofGroup (group.getD "recording")))

end TopicListeners
