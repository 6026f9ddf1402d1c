import TopicListeners.Copying.Pipeline

/-!
# Pipelines, step by step

A value goes through the steps of its pipeline from left to right, up to the first condition that
fails; if none does, it is handed over, unless it is dropped. What comes of it is compared with what
the steps say when all of them are asked: `transform` is what the conversions make of the value,
`verdicts` what each step says about it as it has become by then. To see which functions are called,
each of them is made to note the number of its step.

* `run_present`: **the run of a value ends at the first condition that fails.**
* `runBy_noting_present`: the steps up to there are called, in order, each once.
* `copy_eq`: each value that is handed over is set, counted and logged, in order.
* `Pipeline.copy_outcome`: all of it for any pipelines, after each of them.
-/

namespace TopicListeners

namespace Offer

variable {α : Type} {p : α → Bool} {a : α}

theorem require_of_true (h : p a = true) (property : String) (n : Nat) :
    require p ⟨property, some a, n⟩ = ⟨property, some a, n + 1⟩ := by
  simp [require, h]

theorem require_of_false (h : p a = false) (property : String) (n : Nat) :
    require p ⟨property, some a, n⟩ = ⟨property, none, n + 1⟩ := by
  simp [require, h]

end Offer

namespace OfferSteps

variable {α β : Type}

/-- How many steps there are. -/
def length {α β : Type} : OfferSteps α β → Nat
  | done => 0
  | convert _ rest => rest.length + 1
  | require _ rest => rest.length + 1

/-- What the conversions make of a value, whatever the conditions say. -/
def transform {α β : Type} : OfferSteps α β → α → β
  | done, a => a
  | convert f rest, a => rest.transform (f a)
  | require _ rest, a => rest.transform a

/-- What each step says about a value as it has become by then. A conversion has no objections. -/
def verdicts {α β : Type} : OfferSteps α β → α → List Bool
  | done, _ => []
  | convert f rest, a => true :: rest.verdicts (f a)
  | require p rest, a => p a :: rest.verdicts a

/-- The number of steps that a value goes through: the position of the first condition that fails,
counted from one, or the number of all steps if none fails. -/
def reach (s : OfferSteps α β) (a : α) : Nat :=
  match (s.verdicts a).findIdx? (! ·) with
  | some i => i + 1
  | none => s.length

theorem reach_convert {γ : Type} (f : α → β) (rest : OfferSteps β γ) (a : α) :
    (convert f rest).reach a = rest.reach (f a) + 1 := by
  simp only [reach, verdicts, List.findIdx?_cons, length]
  cases (rest.verdicts (f a)).findIdx? (! ·) <;> rfl

theorem reach_require_true {p : α → Bool} {a : α} (h : p a = true) (rest : OfferSteps α β) :
    (require p rest).reach a = rest.reach a + 1 := by
  simp only [reach, verdicts, List.findIdx?_cons, length, h]
  cases (rest.verdicts a).findIdx? (! ·) <;> rfl

theorem reach_require_false {p : α → Bool} {a : α} (h : p a = false) (rest : OfferSteps α β) :
    (require p rest).reach a = 1 := by
  simp [reach, verdicts, List.findIdx?_cons, h]

theorem property_run (s : OfferSteps α β) (o : Offer α) : (s.run o).property = o.property := by
  induction s with
  | done => rfl
  | convert f rest ih => rw [run, ih, Offer.property_convert]
  | require p rest ih => rw [run, ih, Offer.property_require]

/-- **The run of a value** ends at the first condition that fails. -/
theorem run_present (s : OfferSteps α β) (property : String) (a : α) (n : Nat) :
    s.run ⟨property, some a, n⟩ =
      ⟨property, if ∀ v ∈ s.verdicts a, v = true then some (s.transform a) else none,
        n + s.reach a⟩ := by
  induction s generalizing n with
  | done => rfl
  | convert f rest ih =>
    have hrest := ih (f a) (n + 1)
    rw [Nat.add_assoc, Nat.add_comm 1, ← reach_convert f rest a] at hrest
    simpa [run, Offer.convert, verdicts, transform] using hrest
  | require p rest ih =>
    cases hp : p a with
    | true =>
      rw [run, Offer.require_of_true hp, ih, reach_require_true hp, Nat.add_assoc, Nat.add_comm 1]
      simp [verdicts, transform, hp]
    | false =>
      rw [run, Offer.require_of_false hp, run_absent, reach_require_false hp]
      simp [verdicts, hp]

end OfferSteps

/-! ## Calls of steps -/

namespace Offer

variable {σ α β : Type}

/-- Converts a value that is there by a function that acts. -/
def convertBy (f : α → Action σ β) (o : Offer α) : Action σ (Offer β) :=
  match o.value with
  | none => pure ⟨o.property, none, o.steps⟩
  | some a => do
    let b ← f a
    pure ⟨o.property, some b, o.steps + 1⟩

/-- Drops a value that is there, unless a function that acts says that it may stay. -/
def requireBy (p : α → Action σ Bool) (o : Offer α) : Action σ (Offer α) :=
  match o.value with
  | none => pure o
  | some a => do
    let stays ← p a
    pure ⟨o.property, if stays then some a else none, o.steps + 1⟩

/-- A function that does nothing else converts as before. -/
theorem convertBy_pure (f : α → β) (o : Offer α) :
    o.convertBy (fun a => pure (f a) : α → Action σ β) = pure (o.convert f) := by
  obtain ⟨property, value, n⟩ := o
  cases value <;> rfl

/-- A condition that does nothing else drops as before. -/
theorem requireBy_pure (p : α → Bool) (o : Offer α) :
    o.requireBy (fun a => pure (p a) : α → Action σ Bool) = pure (o.require p) := by
  obtain ⟨property, value, n⟩ := o
  cases value <;> rfl

end Offer

namespace OfferSteps

variable {α β : Type}

/-- The run of steps of which the function of each does something when it is called: `call` gets
the number of the step, from `n` on, and the answer of the function. -/
def runBy {α β σ : Type} (call : Nat → (γ : Type) → γ → Action σ γ) :
    OfferSteps α β → Nat → Offer α → Action σ (Offer β)
  | done, _, o => pure o
  | convert f rest, n, o => do
    let o ← o.convertBy fun a => call n _ (f a)
    rest.runBy call (n + 1) o
  | require p rest, n, o => do
    let o ← o.requireBy fun a => call n _ (p a)
    rest.runBy call (n + 1) o

/-- Functions that do nothing else run as before. -/
theorem runBy_pure {σ : Type} (s : OfferSteps α β) (n : Nat) (o : Offer α) :
    (s.runBy (fun _ _ b => pure b) n o : Action σ (Offer β)) = pure (s.run o) := by
  induction s generalizing n with
  | done => rfl
  | convert f rest ih => rw [runBy, Offer.convertBy_pure, pure_bind, ih, run]
  | require p rest ih => rw [runBy, Offer.requireBy_pure, pure_bind, ih, run]

/-- Notes the number of a step that is called. -/
def noting (n : Nat) (γ : Type) (b : γ) : Action (List Nat) γ := do
  .modify (· ++ [n])
  pure b

theorem run_requireBy_noting {p : α → Bool} {a : α} {b : Bool} (h : p a = b) (n : Nat)
    (property : String) (k : Nat) (notes : List Nat) :
    ((Offer.mk property (some a) k).requireBy fun a => noting n _ (p a)).run notes =
      ⟨⟨property, if b then some a else none, k + 1⟩, notes ++ [n], []⟩ := by
  rw [← h]
  rfl

theorem runBy_noting_absent (s : OfferSteps α β) (n : Nat) (property : String) (k : Nat)
    (notes : List Nat) :
    (s.runBy noting n ⟨property, none, k⟩).run notes = ⟨⟨property, none, k⟩, notes, []⟩ := by
  induction s generalizing n with
  | done => rfl
  | convert f rest ih => exact ih (n + 1)
  | require p rest ih => exact ih (n + 1)

/-- **The steps that are called**, in order and each once, are those up to the first condition that
fails. -/
theorem runBy_noting_present (s : OfferSteps α β) (n : Nat) (property : String) (a : α) (k : Nat)
    (notes : List Nat) :
    (s.runBy noting n ⟨property, some a, k⟩).run notes =
      ⟨s.run ⟨property, some a, k⟩, notes ++ List.range' n (s.reach a), []⟩ := by
  induction s generalizing n k notes with
  | done => simp [runBy, run, reach, verdicts, length]
  | convert f rest ih =>
    have hrest := ih (n + 1) (f a) (k + 1) (notes ++ [n])
    rw [List.append_assoc] at hrest
    rw [reach_convert, List.range'_succ]
    exact hrest
  | require p rest ih =>
    cases hp : p a with
    | true =>
      have hrest := ih (n + 1) a (k + 1) (notes ++ [n])
      rw [List.append_assoc] at hrest
      rw [reach_require_true hp, List.range'_succ, run, Offer.require_of_true hp, runBy,
        Action.run_bind, run_requireBy_noting hp]
      simp only [if_true, hrest]
      rfl
    | false =>
      have hrest := runBy_noting_absent rest (n + 1) property (k + 1) (notes ++ [n])
      rw [reach_require_false hp, run, Offer.require_of_false hp, run_absent, runBy,
        Action.run_bind, run_requireBy_noting hp]
      simp only [Bool.false_eq_true, if_false, hrest]
      rfl

end OfferSteps

/-! ## Pipelines -/

namespace Pipeline

open OfferSteps

variable {τ : Type}

/-- The value that a pipeline hands over, if any. -/
def handed (p : Pipeline τ) : Option p.β := if p.handedOver then p.offer.value else none

/-- **What is handed over** is the value as its steps have made it, if all conditions hold. -/
theorem handed_eq_some_iff (p : Pipeline τ) (b : p.β) :
    p.handed = some b ↔ p.handedOver = true ∧ ∃ a, p.value = some a ∧
      (∀ v ∈ p.steps.verdicts a, v = true) ∧ b = p.steps.transform a := by
  obtain ⟨property, value, steps, set, handedOver⟩ := p
  cases handedOver with
  | false => simp [handed]
  | true =>
    cases value with
    | none => simp [handed, offer, Offer.of, run_absent]
    | some a => simp [handed, offer, Offer.of, run_present, eq_comm]

theorem taken_eq (p : Pipeline τ) : p.taken = (p.value.map p.steps.reach).getD 0 := by
  obtain ⟨property, value, steps, set, handedOver⟩ := p
  cases value with
  | none => simp [taken, offer, Offer.of, run_absent]
  | some a => simp [taken, offer, Offer.of, run_present]

/-- The steps that are called, in order. -/
theorem runBy_noting (p : Pipeline τ) :
    (p.steps.runBy noting 0 (.of p.property p.value)).run [] =
      ⟨p.offer, List.range p.taken, []⟩ := by
  obtain ⟨property, value, steps, set, handedOver⟩ := p
  rw [taken_eq]
  cases value with
  | none => simp [offer, Offer.of, runBy_noting_absent, run_absent]
  | some a => simp [offer, Offer.of, runBy_noting_present, List.range_eq_range']

/-- The calls of setters, each with the property of its value. -/
def calls (ps : List (Pipeline τ)) : List (String × (τ → τ)) :=
  ps.filterMap fun p => p.handed.map fun b => (p.property, p.set b)

theorem assignment_eq (p : Pipeline τ) : p.assignment = ⟨p.property, p.handed.map p.set⟩ := by
  unfold assignment handed
  split
  · rw [Offer.toAssignment, offer, property_run]
    rfl
  · rfl

theorem present_assignments (ps : List (Pipeline τ)) :
    Copying.present (ps.map assignment) = (calls ps).map fun call => ⟨call.1, some call.2⟩ := by
  induction ps with
  | nil => rfl
  | cons p ps ih =>
    unfold Copying.present at ih ⊢
    rw [List.map_cons, assignment_eq, List.filter_cons, ih, calls, calls, List.filterMap_cons]
    cases p.handed <;> rfl

theorem target_run (c : Copying τ) (as : List (Assignment τ)) : (c.run as).target = c.target := by
  induction as generalizing c with
  | nil => rfl
  | cons a as ih => rw [Copying.run_cons, ih, Copying.target_assign]

/-- **Copying by pipelines** is calling the setters of the values that are handed over, with a
count and an event for each call. -/
theorem copy_eq (c : Copying τ) (ps : List (Pipeline τ)) :
    copy c ps = ⟨c.target, (calls ps).foldl (fun d call => call.2 d) c.destination,
      c.applied + (calls ps).length,
      c.events ++ (calls ps).map fun call => ⟨.debug, "applying listener property",
        [("target_object", c.target), ("property", call.1)]⟩⟩ := by
  have htarget : (copy c ps).target = c.target := target_run c _
  have hdestination : (copy c ps).destination =
      (calls ps).foldl (fun d call => call.2 d) c.destination := by
    rw [copy, Copying.destination_eq, present_assignments, List.foldl_map]
    rfl
  have happlied : (copy c ps).applied = c.applied + (calls ps).length := by
    rw [copy, Copying.applied_eq, present_assignments, List.length_map]
  have hevents : (copy c ps).events =
      c.events ++ (calls ps).map fun call => ⟨.debug, "applying listener property",
        [("target_object", c.target), ("property", call.1)]⟩ := by
    rw [copy, Copying.events_eq, present_assignments, List.map_map]
    rfl
  rw [← hevents, ← happlied, ← hdestination, ← htarget]

/-- The progress after each pipeline is that of the pipelines so far. -/
theorem trace_eq (c : Copying τ) (ps : List (Pipeline τ)) :
    trace c ps = (List.range ps.length).map fun i => copy c (ps.take (i + 1)) := by
  induction ps generalizing c with
  | nil => rfl
  | cons p ps ih =>
    rw [trace, ih, List.length_cons, List.range_succ_eq_map, List.map_cons, List.map_map]
    rfl

/-- **Pipelines.** A setter is called once, with the value as all its steps have made it, iff there
is a value, every condition holds and the value is not dropped. Dropped or not, the steps are called
in order, each once, up to the first condition that fails, and none without a value. After any
number of pipelines the calls of setters so far are what has been done to the destination, what has
been counted and what has been logged, under the name of the destination. -/
theorem copy_outcome :
    (∀ (p : Pipeline τ) (b : p.β), p.handed = some b ↔ p.handedOver = true ∧
      ∃ a, p.value = some a ∧ (∀ v ∈ p.steps.verdicts a, v = true) ∧ b = p.steps.transform a) ∧
    (∀ p : Pipeline τ, p.taken = (p.value.map p.steps.reach).getD 0 ∧
      (p.steps.runBy (fun _ _ b => pure b) 0 (.of p.property p.value) : Action Unit (Offer p.β)) =
        pure p.offer ∧
      (p.steps.runBy noting 0 (.of p.property p.value)).run [] =
        ⟨p.offer, List.range p.taken, []⟩) ∧
    (∀ (c : Copying τ) (p : Pipeline τ), (copy c [p]).destination =
      match p.handed with
      | some b => p.set b c.destination
      | none => c.destination) ∧
    ∀ (c : Copying τ) (ps : List (Pipeline τ)),
      trace c ps = (List.range ps.length).map (fun i => copy c (ps.take (i + 1))) ∧
      ∀ n, copy c (ps.take n) =
        ⟨c.target, (calls (ps.take n)).foldl (fun d call => call.2 d) c.destination,
          c.applied + (calls (ps.take n)).length,
          c.events ++ (calls (ps.take n)).map fun call => ⟨.debug, "applying listener property",
            [("target_object", c.target), ("property", call.1)]⟩⟩ := by
  refine ⟨handed_eq_some_iff, fun p => ⟨p.taken_eq, p.steps.runBy_pure 0 _, p.runBy_noting⟩,
    fun c p => ?_, fun c ps => ⟨trace_eq c ps, fun n => copy_eq c _⟩⟩
  rw [copy_eq, calls, List.filterMap_cons]
  cases p.handed <;> rfl

end Pipeline

end TopicListeners
