/-!
# Events and actions

What is logged while a container is set up and run is an event: a level, a message and named values,
each already in the form in which it is shown. What a collaborator does when it is called is an
action: it may change a state of its own kind and log events, and it gives a value. An action
neither sees nor takes back what has been logged before.

* the monad laws: actions are done one after the other, their events in that order.
* `run_emit`, `run_get`, `run_modify`: what the three basic actions do.
-/

namespace TopicListeners

/-! ## Events -/

/-- How important an event is. -/
inductive Level
  | debug | info | warn | error
deriving DecidableEq, Repr

namespace Level

/-- The name of a level. -/
def toText : Level → String
  | debug => "DEBUG"
  | info => "INFO"
  | warn => "WARN"
  | error => "ERROR"

/-- The position of a level among the levels. -/
def rank : Level → Nat
  | debug => 0
  | info => 1
  | warn => 2
  | error => 3

end Level

/-- Something worth logging. -/
structure Event where
  level : Level
  message : String
  fields : List (String × String)
deriving DecidableEq, Repr

namespace Event

/-- An event as one line: the message and then its fields. -/
def line (e : Event) : String :=
  " ".intercalate (e.message :: e.fields.map fun f => f.1 ++ "=" ++ f.2)

end Event

/-! ## Actions -/

/-- What an action leads to. -/
structure Outcome (σ α : Type) where
  value : α
  state : σ
  events : List Event

/-- Something to do in a state. -/
structure Action (σ α : Type) where
  run : σ → Outcome σ α

namespace Action

variable {σ α β : Type}

/-- Nothing but a value. -/
protected def pure (a : α) : Action σ α := ⟨fun s => ⟨a, s, []⟩⟩

/-- One action and then the one that its value calls for. -/
protected def bind (x : Action σ α) (f : α → Action σ β) : Action σ β :=
  ⟨fun s =>
    let o := x.run s
    let p := (f o.value).run o.state
    ⟨p.value, p.state, o.events ++ p.events⟩⟩

instance : Monad (Action σ) where
  pure := Action.pure
  bind := Action.bind

/-- Logs an event. -/
def emit (e : Event) : Action σ Unit := ⟨fun s => ⟨(), s, [e]⟩⟩

/-- The state. -/
def get : Action σ σ := ⟨fun s => ⟨s, s, []⟩⟩

/-- Changes the state. -/
def modify (f : σ → σ) : Action σ Unit := ⟨fun s => ⟨(), f s, []⟩⟩

/-- The outcomes of actions that are done one after the other. -/
def outcomes (s : σ) : List (Action σ α) → List (Outcome σ α)
  | [] => []
  | x :: xs => x.run s :: outcomes (x.run s).state xs

@[simp] theorem run_pure (a : α) (s : σ) : (pure a : Action σ α).run s = ⟨a, s, []⟩ := rfl

@[simp] theorem run_bind (x : Action σ α) (f : α → Action σ β) (s : σ) :
    (x >>= f).run s =
      ⟨((f (x.run s).value).run (x.run s).state).value,
        ((f (x.run s).value).run (x.run s).state).state,
        (x.run s).events ++ ((f (x.run s).value).run (x.run s).state).events⟩ := rfl

@[simp] theorem run_emit (e : Event) (s : σ) : (emit e).run s = ⟨(), s, [e]⟩ := rfl

@[simp] theorem run_get (s : σ) : (get : Action σ σ).run s = ⟨s, s, []⟩ := rfl

@[simp] theorem run_modify (f : σ → σ) (s : σ) : (modify f).run s = ⟨(), f s, []⟩ := rfl

instance : LawfulMonad (Action σ) := LawfulMonad.mk' (Action σ)
  (by
    intro α x
    show Action.mk _ = x
    simp [Action.pure])
  (by
    intro α β a f
    show Action.mk _ = f a
    simp [Pure.pure, Action.pure])
  (by
    intro α β γ x f g
    show Action.mk _ = Action.mk _
    simp [Bind.bind, Action.bind, List.append_assoc])

end Action

end TopicListeners
