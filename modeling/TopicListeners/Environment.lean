/-!
# Environments

Settings come from the variables of an environment. A loader says which variables it looks at and
what it makes of them; loaders are put together in the order in which their variables are looked
at. A variable that is missing has its default, or no value; one that is there, even if empty, has
to be readable, and the first one that is not is the error.

* `run_required`, `run_optional`: what a single variable gives.
* `reads_seq`: the variables of two loaders, in order.
-/

namespace TopicListeners

/-- The values of variables, for those that are there. -/
abbrev Environment := String → Option String

/-- A variable with a text that cannot be read. -/
structure LoadError where
  variableName : String
deriving DecidableEq, Repr

/-- The wording of a load error. -/
def LoadError.message (e : LoadError) : String :=
  "Failed to parse environment variable " ++ e.variableName

/-- A variable and the texts that it may have. -/
structure Variable where
  name : String
  readable : String → Bool

/-- What is to be made of an environment, and the variables it takes for that, in order. -/
structure Loader (α : Type) where
  reads : List Variable
  run : Environment → Except LoadError α

namespace Loader

variable {α β : Type}

/-- What the variable of a name says, if it is there. -/
def optional (name : String) (read : String → Option α) : Loader (Option α) where
  reads := [⟨name, fun s => (read s).isSome⟩]
  run env :=
    match env name with
    | none => .ok none
    | some s =>
      match read s with
      | some a => .ok (some a)
      | none => .error ⟨name⟩

/-- A loader with its value changed. -/
protected def map (f : α → β) (l : Loader α) : Loader β where
  reads := l.reads
  run env := (l.run env).map f

/-- Two loaders, one after the other. -/
protected def seq (l : Loader (α → β)) (m : Unit → Loader α) : Loader β where
  reads := l.reads ++ (m ()).reads
  run env :=
    match l.run env with
    | .error e => .error e
    | .ok f =>
      match (m ()).run env with
      | .error e => .error e
      | .ok a => .ok (f a)

instance : Functor Loader where
  map := Loader.map

instance : Seq Loader where
  seq := Loader.seq

/-- What the variable of a name says, or a default. -/
def required (name : String) (read : String → Option α) (default : α) : Loader α :=
  (fun a => a.getD default) <$> optional name read

/-- What a single variable gives, if it need not be there. -/
theorem run_optional (name : String) (read : String → Option α) (env : Environment) :
    (optional name read).run env =
      match env name with
      | none => .ok none
      | some s =>
        match read s with
        | some a => .ok (some a)
        | none => .error ⟨name⟩ := rfl

/-- The variables of two loaders, in order. -/
theorem reads_seq (l : Loader (α → β)) (m : Loader α) :
    (l <*> m).reads = l.reads ++ m.reads := rfl

/-- What a single variable gives, if it has a default. -/
theorem run_required (name : String) (read : String → Option α) (default : α)
    (env : Environment) :
    (required name read default).run env =
      match env name with
      | none => .ok default
      | some s =>
        match read s with
        | some a => .ok a
        | none => .error ⟨name⟩ := by
  show Except.map _ ((optional name read).run env) = _
  rw [run_optional]
  split
  · rfl
  · split <;> rfl

end Loader

end TopicListeners
