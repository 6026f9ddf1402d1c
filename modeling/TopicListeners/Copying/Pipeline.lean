import TopicListeners.Copying

/-!
# Pipelines

Offers whose steps are listed: each step converts the value, perhaps to another type, or checks it,
and at the end the value is handed over or dropped.

* `run_absent`: no step is taken without a value.
-/

namespace TopicListeners

/-- Steps that lead from a value of one type to a value of another. -/
inductive OfferSteps : Type → Type → Type 1
  | done {α : Type} : OfferSteps α α
  | convert {α β γ : Type} (f : α → β) (rest : OfferSteps β γ) : OfferSteps α γ
  | require {α β : Type} (p : α → Bool) (rest : OfferSteps α β) : OfferSteps α β

namespace OfferSteps

/-- An offer after steps, one after the other. -/
def run {α β : Type} : OfferSteps α β → Offer α → Offer β
  | done, o => o
  | convert f rest, o => rest.run (o.convert f)
  | require p rest, o => rest.run (o.require p)

/-- No step is taken without a value. -/
theorem run_absent {α β : Type} (s : OfferSteps α β) (property : String) (n : Nat) :
    s.run ⟨property, none, n⟩ = ⟨property, none, n⟩ := by
  induction s with
  | done => rfl
  | convert f rest ih => exact ih
  | require p rest ih => exact ih

end OfferSteps

/-- A value to be copied onto a destination of type `τ`, and what happens to it on the way. -/
structure Pipeline (τ : Type) where
  {α β : Type}
  property : String
  value : Option α
  steps : OfferSteps α β
  set : β → τ → τ
  /-- Whether the value is handed over in the end. -/
  handedOver : Bool

namespace Pipeline

variable {τ : Type}

/-- The offer after all its steps. -/
def offer (p : Pipeline τ) : Offer p.β := p.steps.run (.of p.property p.value)

/-- How many steps the value goes through. -/
def taken (p : Pipeline τ) : Nat := p.offer.steps

/-- What a pipeline does to a destination. -/
def assignment (p : Pipeline τ) : Assignment τ :=
  if p.handedOver then p.offer.toAssignment p.set else ⟨p.property, none⟩

/-- Copying by pipelines, one after the other. -/
def copy (c : Copying τ) (ps : List (Pipeline τ)) : Copying τ := c.run (ps.map assignment)

/-- The progress after each pipeline. -/
def trace (c : Copying τ) : List (Pipeline τ) → List (Copying τ)
  | [] => []
  | p :: ps => copy c [p] :: trace (copy c [p]) ps

end Pipeline

/-- Steps on 64-bit integers. Sums and products wrap around. -/
inductive IntegerStep
  | add (n : Int64)
  | multiply (n : Int64)
  | greater (n : Int64)
  | divisible (n : Int64)
  /-- The length of the decimal text, the sign included. -/
  | width
deriving DecidableEq, Repr

namespace IntegerStep

/-- A step before others. -/
def before (rest : OfferSteps Int64 Int64) : IntegerStep → OfferSteps Int64 Int64
  | add n => .convert (fun x => x + n) rest
  | multiply n => .convert (fun x => x * n) rest
  | greater n => .require (fun x => n < x) rest
  | divisible n => .require (fun x => x.toInt % n.toInt = 0) rest
  | width => .convert (fun x => Int64.ofNat (toString x.toInt).length) rest

/-- The steps of a list. -/
def steps (ss : List IntegerStep) : OfferSteps Int64 Int64 :=
  ss.foldr (fun s rest => s.before rest) .done

end IntegerStep

end TopicListeners
