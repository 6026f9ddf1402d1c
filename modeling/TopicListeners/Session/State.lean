import TopicListeners.Collaborator.Recording
import TopicListeners.Container.Build
import TopicListeners.Container.Wiring

/-!
# Sessions

A session holds blueprints and wirings by name, the containers built so far, and the ledger of its
recording collaborators. A blueprint exists, empty, as soon as it is mentioned. Each command leads
from one state to the next and has one answer.
-/

namespace TopicListeners.Session

/-! ## Commands -/

/-- The provider of consumers that a command calls for. -/
structure ConsumerSource where
  label : String
  properties : Dictionary String
  failAt : Option Nat
deriving DecidableEq, Repr

/-- Where the settings of a wiring come from. -/
inductive SettingsSource
  | environment (env : Environment)
  | given (s : ListenerSettings)

/-- What a rebalance watcher can be told. -/
inductive Rebalance
  | beforeCommit | afterCommit | assigned | lost
deriving DecidableEq, Repr

/-- What can be asked of the collaborators of a blueprint. -/
inductive Request
  | convert (r : Record)
  | filterBatch (rs : List Record)
  | handle (e : RecordError) (r : Record)
  | handleAll (e : RecordError) (rs : List Record)
  | rollback (e : RecordError) (rs : List Record)
  | rebalance (c : Rebalance) (ps : List TopicPartition)
  /-- Success and failure, of the inspectors that there are. -/
  | inspected (r : Record) (e : RecordError)
  | autoCommits

/-- What can be asked of a session. -/
inductive Command
  | state (name : String)
  | change (name : String) (c : BlueprintChange Ledger)
  | setProvider (name : String) (c : ConsumerSource)
  /-- Makes one blueprint a copy of another. -/
  | copy (source name : String)
  /-- Stores a wiring. -/
  | wire (wiring : String) (s : SettingsSource) (cs : List (Supply Ledger))
  | install (wiring name : String) (c : ConsumerSource)
  | build (name : String) (topics : List String)
  | container (index : Nat)
  | connect (index : Nat)
  | ask (name : String) (r : Request)

/-- What a collaborator answers. -/
inductive Reply
  | message (m : Except RecordError Message)
  | records (rs : List Record)
  | flag (b : Bool)
  | done

/-- What a session answers. -/
inductive Answer
  | blueprint (b : Blueprint Ledger) (events : List Event)
  | wired (s : Except LoadError ListenerSettings)
  | noSuchWiring
  | built (c : Except BuildError (Container Ledger)) (events : List Event)
  | container (c : Option (Container Ledger))
  | noConsumers
  | consumers (n : Except ClientError Nat) (calls : List ConsumerCall) (events : List Event)
  | replied (r : Option Reply) (notes : List String) (events : List Event)

/-! ## States -/

/-- The state of a session. -/
structure State where
  blueprints : List (String × Blueprint Ledger)
  wirings : List (String × Wiring Ledger)
  containers : List (Container Ledger)
  ledger : Ledger

namespace State

/-- Nothing has been mentioned. -/
def start : State := ⟨[], [], [], .blank⟩

/-- The blueprint of a name. -/
def blueprint (s : State) (name : String) : Blueprint Ledger :=
  (s.blueprints.lookup name).getD .empty

/-- With another blueprint under a name. -/
def setBlueprint (s : State) (name : String) (b : Blueprint Ledger) : State :=
  { s with blueprints := (name, b) :: s.blueprints.filter (·.1 ≠ name) }

/-- With another wiring under a name. -/
def setWiring (s : State) (name : String) (w : Wiring Ledger) : State :=
  { s with wirings := (name, w) :: s.wirings.filter (·.1 ≠ name) }

/-- A provider that is new to the ledger. -/
def newProvider (s : State) (c : ConsumerSource) : ConsumerProvider Ledger × State :=
  (.recording c.label c.properties s.ledger.asked.length c.failAt,
    { s with ledger := { s.ledger with asked := s.ledger.asked ++ [0] } })

/-- Does something in the ledger. -/
def perform {α : Type} (s : State) (x : Action Ledger α) : Outcome Ledger α × State :=
  let o := x.run s.ledger
  (o, { s with ledger := o.state })

end State

/-- What the settings of a wiring are. -/
def SettingsSource.settings : SettingsSource → Except LoadError ListenerSettings
  | environment env => ListenerSettings.loader.run env
  | given s => .ok s

/-- Tells a rebalance watcher about partitions. -/
def Rebalance.tell (l : RebalanceWatcher Ledger) : Rebalance → List TopicPartition →
    Action Ledger Unit
  | beforeCommit => l.beforeCommit
  | afterCommit => l.afterCommit
  | assigned => l.assigned
  | lost => l.lost

/-- Does something with a collaborator, if there is one. -/
def withCollaborator {κ : Type} (c : Option κ) (f : κ → Action Ledger Reply) :
    Action Ledger (Option Reply) :=
  match c with
  | none => pure none
  | some c => some <$> f c

/-- Tells the inspectors that there are about a success and a failure. -/
def notifyInspectors (a : Collaborators Ledger) (r : Record) (e : RecordError) :
    Action Ledger Unit := do
  match a.recordInspector with
  | none => pure ()
  | some i => do
    i.succeeded r
    i.failed r e
  match a.batchInspector with
  | none => pure ()
  | some i => do
    i.succeeded [r]
    i.failed [r] e

/-- Asks the collaborators of a blueprint. There is no reply if the one that is asked is missing. -/
def Request.ask (b : Blueprint Ledger) : Request → Action Ledger (Option Reply)
  | convert r => withCollaborator b.collaborators.converter fun c => .message <$> c.convert r
  | filterBatch rs =>
    withCollaborator b.collaborators.recordFilter fun c => .records <$> c.keepBatch rs
  | handle e r =>
    withCollaborator b.collaborators.errorHandler fun h => .flag <$> h.handle e r
  | handleAll e rs =>
    withCollaborator b.collaborators.errorHandler fun h => (fun _ => .done) <$> h.handleAll e rs
  | rollback e rs =>
    withCollaborator b.collaborators.rollbackHandler fun p => (fun _ => .done) <$> p.handle rs e
  | rebalance c ps =>
    withCollaborator b.container.rebalanceWatcher fun l => (fun _ => .done) <$> c.tell l ps
  | inspected r e => (fun _ => some .done) <$> notifyInspectors b.collaborators r e
  | autoCommits => withCollaborator b.provider fun c => pure (.flag c.autoCommits)

/-- What has come to a list since it was `n` long. -/
def since {α : Type} (n : Nat) (as : List α) : List α := as.drop n

/-- One command. -/
def step (s : State) : Command → Answer × State
  | .state name => (.blueprint (s.blueprint name) [], s)
  | .change name c =>
    let b := (s.blueprint name).change c
    (.blueprint b [], s.setBlueprint name b)
  | .setProvider name source =>
    let (p, s) := s.newProvider source
    let b := (s.blueprint name).change (.provider p)
    (.blueprint b [], s.setBlueprint name b)
  | .copy source name =>
    let b := s.blueprint source
    (.blueprint b [], s.setBlueprint name b)
  | .wire wiring source cs =>
    match source.settings with
    | .error e => (.wired (.error e), s)
    | .ok settings =>
      (.wired (.ok settings), s.setWiring wiring ((Wiring.ofSettings settings).supplyAll cs))
  | .install wiring name source =>
    match s.wirings.lookup wiring with
    | none => (.noSuchWiring, s)
    | some w =>
      let (p, s) := s.newProvider source
      let (b, events) := w.install p (s.blueprint name)
      (.blueprint b events, s.setBlueprint name b)
  | .build name topics =>
    match (s.blueprint name).build topics with
    | (.error e, events) => (.built (.error e) events, s)
    | (.ok c, events) => (.built (.ok c) events, { s with containers := s.containers ++ [c] })
  | .container index => (.container s.containers[index]?, s)
  | .connect index =>
    match s.containers[index]? with
    | none => (.noConsumers, s)
    | some c =>
      let (o, t) := s.perform c.connect
      let count := o.value.map List.length
      (.consumers count (since s.ledger.calls.length t.ledger.calls) o.events, t)
  | .ask name r =>
    let (o, t) := s.perform (r.ask (s.blueprint name))
    (.replied o.value (since s.ledger.notes.length t.ledger.notes) o.events, t)

/-- The answers to commands, one after the other. -/
def run (s : State) : List Command → List Answer
  | [] => []
  | c :: cs => (step s c).1 :: run (step s c).2 cs

end TopicListeners.Session
