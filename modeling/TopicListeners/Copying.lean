import TopicListeners.Action

/-!
# Copying optional values

Settings are copied one by one onto a destination that already has values. A value is offered
under a name, may be converted or rejected on the way, and is handed to the destination if it is
still there at the end; only then is the copy counted and logged. A value that is missing leaves
the destination as it was.

* `destination_eq`, `events_eq`, `applied_eq`: the assignments with an update are carried out,
  logged and counted, in order.
-/

namespace TopicListeners

/-- A value on its way to a destination. -/
structure Offer (α : Type) where
  property : String
  value : Option α
  /-- How many steps the value has been through. -/
  steps : Nat
deriving DecidableEq, Repr

/-- What an offer does to a destination, if anything. -/
structure Assignment (τ : Type) where
  property : String
  update : Option (τ → τ)

/-- The destination after an assignment. -/
def Assignment.perform {τ : Type} (d : τ) (a : Assignment τ) : τ :=
  match a.update with
  | none => d
  | some f => f d

namespace Offer

variable {α β τ : Type}

/-- A value as it is offered. -/
def of (property : String) (value : Option α) : Offer α := ⟨property, value, 0⟩

/-- Converts a value that is there. -/
def convert (f : α → β) (o : Offer α) : Offer β :=
  match o.value with
  | none => ⟨o.property, none, o.steps⟩
  | some a => ⟨o.property, some (f a), o.steps + 1⟩

/-- Drops a value that is there, unless it satisfies the condition. -/
def require (p : α → Bool) (o : Offer α) : Offer α :=
  match o.value with
  | none => o
  | some a => ⟨o.property, if p a then some a else none, o.steps + 1⟩

theorem property_convert (f : α → β) (o : Offer α) : (o.convert f).property = o.property := by
  unfold convert
  split <;> rfl

theorem property_require (p : α → Bool) (o : Offer α) : (o.require p).property = o.property := by
  unfold require
  split <;> rfl

/-- Hands the value, if it is still there, to a setter. -/
def toAssignment (set : α → τ → τ) (o : Offer α) : Assignment τ := ⟨o.property, o.value.map set⟩

end Offer

/-- A destination while values are copied onto it. -/
structure Copying (τ : Type) where
  /-- The name of the destination in events. -/
  target : String
  destination : τ
  /-- How many values have been handed over. -/
  applied : Nat
  events : List Event

namespace Copying

variable {τ : Type}

/-- Nothing has been copied yet. -/
def start (target : String) (destination : τ) : Copying τ := ⟨target, destination, 0, []⟩

/-- The event of one copy. -/
def applying (target property : String) : Event :=
  ⟨.debug, "applying listener property", [("target_object", target), ("property", property)]⟩

/-- One assignment. -/
def assign (c : Copying τ) (a : Assignment τ) : Copying τ :=
  match a.update with
  | none => c
  | some f => ⟨c.target, f c.destination, c.applied + 1, c.events ++ [applying c.target a.property]⟩

/-- Assignments, one after the other. -/
def run (c : Copying τ) (as : List (Assignment τ)) : Copying τ := as.foldl assign c

/-- The assignments that have an update. -/
def present (as : List (Assignment τ)) : List (Assignment τ) := as.filter fun a => a.update.isSome

theorem target_assign (c : Copying τ) (a : Assignment τ) : (c.assign a).target = c.target := by
  unfold assign
  split <;> rfl

theorem run_cons (c : Copying τ) (a : Assignment τ) (as : List (Assignment τ)) :
    c.run (a :: as) = (c.assign a).run as := rfl

/-- Every assignment with an update is carried out, in order. -/
theorem destination_eq (c : Copying τ) (as : List (Assignment τ)) :
    (c.run as).destination = (present as).foldl Assignment.perform c.destination := by
  induction as generalizing c with
  | nil => rfl
  | cons a as ih =>
    rw [run_cons, ih]
    unfold assign
    cases h : a.update <;> simp [present, Assignment.perform, h]

/-- Every assignment with an update is logged, in order. -/
theorem events_eq (c : Copying τ) (as : List (Assignment τ)) :
    (c.run as).events = c.events ++ (present as).map fun a => applying c.target a.property := by
  induction as generalizing c with
  | nil => simp [run, present]
  | cons a as ih =>
    rw [run_cons, ih, target_assign]
    unfold assign
    cases h : a.update <;> simp [present, h]

/-- Every assignment with an update is counted. -/
theorem applied_eq (c : Copying τ) (as : List (Assignment τ)) :
    (c.run as).applied = c.applied + (present as).length := by
  induction as generalizing c with
  | nil => simp [run, present]
  | cons a as ih =>
    rw [run_cons, ih]
    unfold assign
    cases h : a.update <;> simp [present, h]
    omega

end Copying

end TopicListeners
