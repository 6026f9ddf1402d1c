import TopicListeners.Container.Settings

/-!
# Blueprints

What containers are built from. Anything that a blueprint does not say gets a default when a
container is built.

* `run_append`: a history of changes can be cut anywhere.
-/

namespace TopicListeners

/-- The collaborators between a polled record and the listener. -/
structure Collaborators (σ : Type) where
  converter : Option (Converter σ)
  recordFilter : Option (RecordFilter σ)
  replySender : Option (ReplySender σ)
  errorHandler : Option (ErrorHandler σ)
  rollbackHandler : Option (RollbackHandler σ)
  recordInspector : Option (RecordInspector σ)
  batchInspector : Option (BatchInspector σ)

/-- No collaborators. -/
def Collaborators.none {σ : Type} : Collaborators σ :=
  ⟨.none, .none, .none, .none, .none, .none, .none⟩

/-- What is known about the containers to be built. -/
structure Blueprint (σ : Type) where
  provider : Option (ConsumerProvider σ)
  concurrency : Option UInt32
  autoStartup : Option Bool
  batchListener : Option Bool
  collaborators : Collaborators σ
  container : ContainerSettings σ

/-- One part of a blueprint that gets a new value. -/
inductive BlueprintChange (σ : Type)
  | provider (c : ConsumerProvider σ)
  | concurrency (n : UInt32)
  | autoStartup (b : Bool)
  | batchListener (b : Bool)
  | converter (c : Converter σ)
  | recordFilter (f : RecordFilter σ)
  | replySender (t : ReplySender σ)
  | errorHandler (h : ErrorHandler σ)
  | rollbackHandler (p : RollbackHandler σ)
  | recordInspector (i : RecordInspector σ)
  | batchInspector (i : BatchInspector σ)
  | container (c : ContainerChange σ)

namespace Blueprint

variable {σ : Type}

/-- A blueprint that says nothing. -/
def empty : Blueprint σ := ⟨none, none, none, none, .none, .standard⟩

/-- The blueprint with its collaborators changed. -/
def mapCollaborators (b : Blueprint σ) (f : Collaborators σ → Collaborators σ) : Blueprint σ :=
  { b with collaborators := f b.collaborators }

/-- The blueprint after a change. -/
def change (b : Blueprint σ) : BlueprintChange σ → Blueprint σ
  | .provider c => { b with provider := some c }
  | .concurrency n => { b with concurrency := some n }
  | .autoStartup on => { b with autoStartup := some on }
  | .batchListener on => { b with batchListener := some on }
  | .converter c => b.mapCollaborators fun cs => { cs with converter := some c }
  | .recordFilter r => b.mapCollaborators fun cs => { cs with recordFilter := some r }
  | .replySender t => b.mapCollaborators fun cs => { cs with replySender := some t }
  | .errorHandler h => b.mapCollaborators fun cs => { cs with errorHandler := some h }
  | .rollbackHandler p => b.mapCollaborators fun cs => { cs with rollbackHandler := some p }
  | .recordInspector i => b.mapCollaborators fun cs => { cs with recordInspector := some i }
  | .batchInspector i => b.mapCollaborators fun cs => { cs with batchInspector := some i }
  | .container c => { b with container := b.container.change c }

/-- The blueprint after changes, one after the other. -/
def run (b : Blueprint σ) (cs : List (BlueprintChange σ)) : Blueprint σ := cs.foldl change b

/-- A history of changes can be cut anywhere. -/
theorem run_append (b : Blueprint σ) (cs ds : List (BlueprintChange σ)) :
    b.run (cs ++ ds) = (b.run cs).run ds := by
  simp [run]

end Blueprint

end TopicListeners
