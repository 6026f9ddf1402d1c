import Mathlib.Data.List.Forall2
import TopicListeners.Collaborator.Recording

/-!
# Batches with an error

What a handler of errors does about a whole batch, if it leaves batches to its handling of records:
it goes from record to record until one is not dealt with. A handler may keep a state, so whether a
record is dealt with can depend on all that was handled before it. To see the calls, the handler is
replaced by a twin that notes each call with its answer and does all else as before.

* `run_cons`, `calls_cons`: one record, and then the others or nothing.
* `run_append`, `calls_append`: a batch can be cut anywhere.
* `run_noting`: the twin changes nothing.
* `batch_visits_prefix`: **the records that are handled are a prefix of the batch**, the shortest one
  that ends in a record that is not dealt with, and the handler that only logs handles them all.
-/

namespace TopicListeners

variable {σ : Type}

/-! ## Watching calls -/

/-- A call to handle a record, and the answer. -/
structure HandleCall where
  error : RecordError
  record : Record
  answer : Bool
deriving DecidableEq

namespace ErrorHandler

/-- A handler that notes each call and handles as before. -/
def noting (h : ErrorHandler σ) : ErrorHandler (σ × List HandleCall) where
  label := h.label
  handle e r := ⟨fun s =>
    let o := (h.handle e r).run s.1
    ⟨o.value, (o.state, s.2 ++ [⟨e, r, o.value⟩]), o.events⟩⟩

/-- The calls that handling a batch comes to. -/
def calls (h : ErrorHandler σ) (e : RecordError) (batch : List Record) (s : σ) : List HandleCall :=
  ((h.noting.handleAll e batch).run (s, [])).state.2

/-- A handler that leaves batches to its handling of records. -/
def HandlesInTurn (h : ErrorHandler σ) : Prop :=
  ∀ (e : RecordError) (batch : List Record), h.handleAll e batch = handleInTurn (h.handle e) batch

/-! ## Record by record -/

section

variable {h : ErrorHandler σ} (e : RecordError) (r : Record) (batch : List Record) (s : σ)

/-- One record, and then the others if it is dealt with. -/
theorem run_cons : (handleInTurn (h.handle e) (r :: batch)).run s =
    let o := (h.handle e r).run s
    if o.value then
      let p := (handleInTurn (h.handle e) batch).run o.state
      ⟨(), p.state, o.events ++ p.events⟩
    else ⟨(), o.state, o.events⟩ := by
  have hturn : handleInTurn (h.handle e) (r :: batch) =
      h.handle e r >>= fun answer =>
        if answer then handleInTurn (h.handle e) batch else pure () := rfl
  rcases ho : (h.handle e r).run s with ⟨answer, t, events⟩
  rw [hturn, Action.run_bind, ho]
  cases answer <;> simp

/-- What is noted about the first records stands in front of what is noted about the others. -/
theorem exists_noted : ∃ noted, ∀ before,
    (h.noting.handleAll e batch).run (s, before) =
      let o := (handleInTurn (h.handle e) batch).run s
      ⟨(), (o.state, before ++ noted), o.events⟩ := by
  show ∃ noted, ∀ before, (handleInTurn (h.noting.handle e) batch).run (s, before) = _
  induction batch generalizing s with
  | nil => exact ⟨[], fun before => by simp [handleInTurn]⟩
  | cons r batch ih =>
    rcases ho : (h.handle e r).run s with ⟨answer, t, events⟩
    obtain ⟨noted, hnoted⟩ := ih t
    refine ⟨⟨e, r, answer⟩ :: if answer then noted else [], fun before => ?_⟩
    have htwin : (h.noting.handle e r).run (s, before) =
        ⟨answer, (t, before ++ [⟨e, r, answer⟩]), events⟩ := by
      simp [noting, ho]
    rw [run_cons, run_cons, htwin, ho]
    cases answer with
    | false => simp
    | true => simp [hnoted]

/-- **The twin changes nothing**, whatever has been noted before. -/
theorem run_noting (before : List HandleCall) :
    (h.noting.handleAll e batch).run (s, before) =
      let o := (handleInTurn (h.handle e) batch).run s
      ⟨(), (o.state, before ++ h.calls e batch s), o.events⟩ := by
  obtain ⟨noted, hnoted⟩ := exists_noted (h := h) e batch s
  have hcalls : h.calls e batch s = noted := by
    rw [calls, hnoted]
    rfl
  rw [hcalls]
  exact hnoted before

/-- The calls for one record, and then for the others if it is dealt with. -/
theorem calls_cons : h.calls e (r :: batch) s =
    let o := (h.handle e r).run s
    ⟨e, r, o.value⟩ :: if o.value then h.calls e batch o.state else [] := by
  have hcalls : h.calls e (r :: batch) s =
      ((handleInTurn (h.noting.handle e) (r :: batch)).run (s, [])).state.2 := rfl
  rcases ho : (h.handle e r).run s with ⟨answer, t, events⟩
  have htwin : (h.noting.handle e r).run (s, []) = ⟨answer, (t, [⟨e, r, answer⟩]), events⟩ := by
    simp [noting, ho]
  have hothers := run_noting (h := h) e batch t [⟨e, r, answer⟩]
  rw [hcalls, run_cons, htwin]
  cases answer with
  | false => rfl
  | true =>
    show ((h.noting.handleAll e batch).run (t, [⟨e, r, true⟩])).state.2 = _
    rw [hothers]
    rfl

/-! ## Whole batches -/

/-- **The calls for a batch.** They are made with the error, for a prefix of the batch in its order;
all answers but the last one are good, and the last one is not, unless the batch is at its end. What
the calls lead to one after the other is the outcome. -/
structure Visits (h : ErrorHandler σ) (e : RecordError) (batch : List Record) (s : σ)
    (calls : List HandleCall) (o : Outcome σ Unit) : Prop where
  error_eq : ∀ call ∈ calls, call.error = e
  part : calls.map HandleCall.record <+: batch
  earlier : ∀ call ∈ calls.dropLast, call.answer = true
  ended : (calls.map HandleCall.record = batch ∧ ∀ call ∈ calls, call.answer = true) ∨
    ∃ last, calls.getLast? = some last ∧ last.answer = false
  outcome_eq : ((calls.map HandleCall.record).mapM (h.handle e)).run s =
    ⟨calls.map HandleCall.answer, o.state, o.events⟩

variable {e r batch s} {t : σ} {events : List Event} {calls : List HandleCall} {o : Outcome σ Unit}

theorem visits_nil : h.Visits e [] s [] ⟨(), s, []⟩ where
  error_eq := List.forall_mem_nil _
  part := List.prefix_refl []
  earlier := List.forall_mem_nil _
  ended := .inl ⟨rfl, List.forall_mem_nil _⟩
  outcome_eq := rfl

/-- A record that is not dealt with is the last one. -/
theorem visits_stop (ho : (h.handle e r).run s = ⟨false, t, events⟩) :
    h.Visits e (r :: batch) s [⟨e, r, false⟩] ⟨(), t, events⟩ where
  error_eq := by simp
  part := by simp
  earlier := List.forall_mem_nil _
  ended := .inr ⟨_, rfl, rfl⟩
  outcome_eq := by
    rw [List.map_cons, List.map_nil, List.mapM_cons, List.mapM_nil, Action.run_bind, ho]
    simp

/-- A record that is dealt with stands in front of what is handled after it. -/
theorem Visits.cons (ho : (h.handle e r).run s = ⟨true, t, events⟩)
    (hcalls : h.Visits e batch t calls o) :
    h.Visits e (r :: batch) s (⟨e, r, true⟩ :: calls) ⟨(), o.state, events ++ o.events⟩ where
  error_eq := List.forall_mem_cons.2 ⟨rfl, hcalls.error_eq⟩
  part := List.cons_prefix_cons.2 ⟨rfl, hcalls.part⟩
  earlier := by
    cases calls with
    | nil => exact List.forall_mem_nil _
    | cons call calls => exact List.forall_mem_cons.2 ⟨rfl, hcalls.earlier⟩
  ended := by
    rcases hcalls.ended with ⟨hall, hgood⟩ | ⟨last, hlast, hbad⟩
    · exact .inl ⟨congrArg (r :: ·) hall, List.forall_mem_cons.2 ⟨rfl, hgood⟩⟩
    · refine .inr ⟨last, ?_, hbad⟩
      rw [List.getLast?_cons, hlast]
      rfl
  outcome_eq := by
    rw [List.map_cons, List.mapM_cons, Action.run_bind, ho]
    dsimp only
    rw [Action.run_bind, hcalls.outcome_eq]
    simp

/-- **Handling a batch makes such calls.** -/
theorem visits (batch : List Record) (s : σ) :
    h.Visits e batch s (h.calls e batch s) ((handleInTurn (h.handle e) batch).run s) := by
  induction batch generalizing s with
  | nil => exact visits_nil
  | cons r batch ih =>
    rcases ho : (h.handle e r).run s with ⟨answer, t, events⟩
    rw [calls_cons, run_cons, ho]
    cases answer with
    | false => exact visits_stop ho
    | true => exact (ih t).cons ho

/-! ## Batches in two parts -/

/-- **A batch can be cut anywhere**: what comes after the cut is handled if all before it was dealt
with, from the state that was reached. -/
theorem calls_append (xs ys : List Record) (s : σ) : h.calls e (xs ++ ys) s =
    h.calls e xs s ++
      if (h.calls e xs s).all HandleCall.answer then
        h.calls e ys ((handleInTurn (h.handle e) xs).run s).state
      else [] := by
  induction xs generalizing s with
  | nil => rfl
  | cons r xs ih =>
    rw [List.cons_append, calls_cons, calls_cons, run_cons]
    rcases ho : (h.handle e r).run s with ⟨answer, t, events⟩
    cases answer <;> simp [ih]

theorem run_append (xs ys : List Record) (s : σ) : (handleInTurn (h.handle e) (xs ++ ys)).run s =
    if (h.calls e xs s).all HandleCall.answer then
      (handleInTurn (h.handle e) xs >>= fun _ => handleInTurn (h.handle e) ys).run s
    else (handleInTurn (h.handle e) xs).run s := by
  induction xs generalizing s with
  | nil => rfl
  | cons r xs ih =>
    rw [List.cons_append, calls_cons, Action.run_bind, run_cons, run_cons]
    rcases ho : (h.handle e r).run s with ⟨answer, t, events⟩
    cases answer with
    | false => simp
    | true =>
      simp only [if_true, List.all_cons, Bool.true_and, ih]
      split <;> simp [List.append_assoc]

end

/-! ## Logging -/

/-- Logging a batch deals with every record. -/
theorem calls_logging (e : RecordError) (batch : List Record) (s : σ) :
    logging.calls e batch s = batch.map fun r => ⟨e, r, true⟩ := by
  induction batch with
  | nil => rfl
  | cons r batch ih =>
    rw [calls_cons, List.map_cons, ← ih]
    rfl

theorem run_logging (e : RecordError) (batch : List Record) (s : σ) :
    (logging.handleAll e batch).run s = ⟨(), s, batch.map (skipping e)⟩ := by
  show (handleInTurn (logging.handle e) batch).run s = _
  induction batch with
  | nil => rfl
  | cons r batch ih =>
    rw [run_cons]
    show Outcome.mk () ((handleInTurn (logging.handle e) batch).run s).state
      (skipping e r :: ((handleInTurn (logging.handle e) batch).run s).events) = _
    rw [ih]
    rfl

end ErrorHandler

theorem Action.run_emitAll (events : List Event) (s : σ) :
    (emitAll events).run s = ⟨(), s, events⟩ := by
  induction events with
  | nil => rfl
  | cons event events ih => simp [emitAll, ih]

/-- An event about a record and an error: where the record comes from, and what the error says. -/
structure Event.Tells (level : Level) (lead : String) (e : RecordError) (r : Record)
    (event : Event) : Prop where
  level_eq : event.level = level
  message_eq : event.message = lead ++ e.message
  fields_eq : event.fields = [("topic", r.topic), ("partition", toString r.partition.toInt),
    ("offset", toString r.offset.toInt)]

/-- **What is handled of a batch.** A handler that leaves batches to its handling of records handles
the shortest prefix of a batch that ends in a record that is not dealt with, or all of the batch; in
particular what stands after a cut is handled iff all before it was dealt with. The handler that only
logs handles all of it and logs one warning for each record; the records of a transaction that was
rolled back are logged as errors, one for each warning and about the same records. -/
theorem ErrorHandler.batch_visits_prefix {h : ErrorHandler σ} (hdefault : h.HandlesInTurn)
    (e : RecordError) (s : σ) :
    (∀ batch, h.Visits e batch s (h.calls e batch s) ((h.handleAll e batch).run s) ∧
      ∀ before, (h.noting.handleAll e batch).run (s, before) =
        let o := (h.handleAll e batch).run s
        ⟨(), (o.state, before ++ h.calls e batch s), o.events⟩) ∧
    (∀ xs ys,
      (h.calls e (xs ++ ys) s = h.calls e xs s ++
        if (h.calls e xs s).all HandleCall.answer then
          h.calls e ys ((h.handleAll e xs).run s).state
        else []) ∧
      (h.handleAll e (xs ++ ys)).run s =
        if (h.calls e xs s).all HandleCall.answer then
          (h.handleAll e xs >>= fun _ => h.handleAll e ys).run s
        else (h.handleAll e xs).run s) ∧
    ∀ batch,
      (logging.calls e batch s).map HandleCall.record = batch ∧
      ((logging.handleAll e batch).run s).state = s ∧
      List.Forall₂ (Event.Tells .warn "skipping record after listener error: " e) batch
        ((logging.handleAll e batch).run s).events ∧
      List.Forall₂ (Event.Tells .error "record not processed, transaction rolled back: " e) batch
        ((RollbackHandler.logging.handle batch e).run s).events ∧
      List.Forall₂ (fun warning error => warning.fields = error.fields)
        ((logging.handleAll e batch).run s).events
        ((RollbackHandler.logging.handle batch e).run s).events := by
  refine ⟨?_, ?_, ?_⟩
  · intro batch
    rw [hdefault e batch]
    exact ⟨visits batch s, run_noting e batch s⟩
  · intro xs ys
    rw [hdefault e xs, hdefault e ys, hdefault e (xs ++ ys)]
    exact ⟨calls_append xs ys s, run_append xs ys s⟩
  · intro batch
    have hrolled : (RollbackHandler.logging.handle batch e).run s =
        ⟨(), s, batch.map (rolledBack e)⟩ := Action.run_emitAll _ s
    rw [calls_logging, run_logging, hrolled]
    refine ⟨?_, rfl, ?_, ?_, ?_⟩
    · rw [List.map_map]
      exact List.map_id batch
    · exact List.forall₂_map_right_iff.2 (List.forall₂_same.2 fun r _ => ⟨rfl, rfl, rfl⟩)
    · exact List.forall₂_map_right_iff.2 (List.forall₂_same.2 fun r _ => ⟨rfl, rfl, rfl⟩)
    · rw [List.forall₂_map_left_iff, List.forall₂_map_right_iff]
      exact List.forall₂_same.2 fun r _ => rfl

/-- A record of a topic, by its offset. -/
def Record.ofOffset (offset : Int64) : Record := ⟨"orders", 0, offset, none, some [], none⟩

/-- Of five records the third one is not dealt with, and is the last one that is handled. -/
theorem ErrorHandler.batch_visits_prefix_stopped :
    let h := ErrorHandler.recording "stops" (some 2)
    let batch := [0, 1, 2, 3, 4].map Record.ofOffset
    h.HandlesInTurn ∧
      (h.calls .empty batch .blank).map HandleCall.record = [0, 1, 2].map Record.ofOffset ∧
      (h.calls .empty batch .blank).map HandleCall.answer = [true, true, false] ∧
      h.Visits .empty batch .blank (h.calls .empty batch .blank)
        ((h.handleAll .empty batch).run .blank) ∧
      h.calls .empty (batch ++ batch) .blank = h.calls .empty batch .blank := by
  intro h batch
  have hdefault : h.HandlesInTurn := fun _ _ => rfl
  have hrecords : (h.calls .empty batch .blank).map HandleCall.record =
      [0, 1, 2].map Record.ofOffset := by decide
  have hanswers : (h.calls .empty batch .blank).map HandleCall.answer = [true, true, false] := by
    decide
  obtain ⟨hvisits, happend, -⟩ := batch_visits_prefix hdefault .empty .blank
  refine ⟨hdefault, hrecords, hanswers, (hvisits batch).1, ?_⟩
  have hstopped : (h.calls .empty batch .blank).all HandleCall.answer = false := by decide
  rw [(happend batch batch).1, hstopped]
  simp

end TopicListeners
