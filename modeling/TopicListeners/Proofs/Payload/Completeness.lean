import TopicListeners.Proofs.Payload.Literal
import TopicListeners.Proofs.Payload.Number

/-!
# What is written is read

The sweep over a payload keeps up with the grammar: at the start of a phrase that is written there
it takes all bytes of it, and then the value has settled. A number has not: it ends with the byte
after it, which is never a byte that goes on with a number.

* `advance_of_writes`: **every phrase is read**, by induction on how it is written.
* `read_of_writes`: a payload is read as the value that is written there.
-/

namespace TopicListeners.Payload

open Grammar

/-! ## Sweeps -/

theorem advance_append (s : State) (as bs : List UInt8) :
    advance s (as ++ bs) = (advance s as).bind fun s => advance s bs := by
  induction as generalizing s with
  | nil => rfl
  | cons a as ih =>
    simp only [List.cons_append, advance]
    cases s.step a with
    | ok s => exact ih s
    | error c => rfl

theorem run_eq_ok_iff {s : State} {n : Nat} {bs : List UInt8} {v : Value} :
    run s n bs = .ok v ↔ ∃ t, advance s bs = some t ∧ t.finish = .ok v := by
  induction bs generalizing s n with
  | nil =>
    simp only [run, advance]
    cases h : s.finish <;> simp [h]
  | cons b bs ih =>
    simp only [run, advance]
    cases s.step b with
    | ok s => exact ih
    | error c => simp

theorem read_eq_ok_iff {bs : List UInt8} {v : Value} :
    read bs = .ok v ↔ ∃ t, advance .start bs = some t ∧ t.finish = .ok v := by
  rw [← run_eq_ok_iff (n := 0), read]
  cases run State.start 0 bs <;> simp

/-- The inside of a string, whether a value or a key. -/
theorem advance_literal {stack : List Frame} {m : Literal.Progress → Mode}
    (hm : ∀ p q b, Literal.step p b = .more q → State.step ⟨stack, m p⟩ b = .ok ⟨stack, m q⟩)
    {p q : Literal.Progress} {bs : List UInt8} (h : Literal.feed p bs = some q) :
    advance ⟨stack, m p⟩ bs = some ⟨stack, m q⟩ := by
  induction bs generalizing p with
  | nil =>
    obtain rfl : p = q := by simpa [Literal.feed] using h
    rfl
  | cons b bs ih =>
    simp only [Literal.feed] at h
    cases hb : Literal.step p b with
    | more r =>
      rw [hb] at h
      simp only [advance, hm p r b hb]
      exact ih h
    | ends s => simp [hb] at h
    | fault r back => simp [hb] at h

theorem advance_text {stack : List Frame} {p q : Literal.Progress} {bs : List UInt8}
    (h : Literal.feed p bs = some q) : advance ⟨stack, .text p⟩ bs = some ⟨stack, .text q⟩ :=
  advance_literal (m := .text) (fun p q b hb => by simp only [State.step, hb]) h

theorem advance_key {stack : List Frame} {ms : Members} {p q : Literal.Progress}
    {bs : List UInt8} (h : Literal.feed p bs = some q) :
    advance ⟨stack, .key ms p⟩ bs = some ⟨stack, .key ms q⟩ :=
  advance_literal (m := .key ms) (fun p q b hb => by simp only [State.step, hb]) h

theorem advance_number {stack : List Frame} {negative : Bool} {s t : Number.Stage}
    {bs : List UInt8} (h : Number.feed s bs = some t) :
    advance ⟨stack, .number negative s⟩ bs = some ⟨stack, .number negative t⟩ := by
  induction bs generalizing s with
  | nil =>
    obtain rfl : s = t := by simpa [Number.feed] using h
    rfl
  | cons b bs ih =>
    simp only [Number.feed] at h
    cases hb : Number.step s b with
    | more r =>
      rw [hb] at h
      simp only [advance, State.step, hb]
      exact ih h
    | ends => simp [hb] at h
    | fault r => simp [hb] at h

/-! ## Values that have settled -/

/-- A value has been read under a stack. Of a number the end is still to come. -/
inductive Settled (stack : List Frame) (v : Value) : State → Prop
  | done : Settled stack v (.settle stack v)
  | number {negative : Bool} {s : Number.Stage} (h : Number.finish negative s = .ok v) :
    Settled stack v ⟨stack, .number negative s⟩

/-- The bytes that end a number. -/
def Delimits (b : UInt8) : Prop := Number.digit? b = none ∧ b ≠ 46 ∧ b ≠ 101 ∧ b ≠ 69

instance (b : UInt8) : Decidable (Delimits b) := inferInstanceAs (Decidable (_ ∧ _))

theorem number_ends {negative : Bool} {s : Number.Stage} {v : Value} {b : UInt8}
    (h : Number.finish negative s = .ok v) (hb : Delimits b) : Number.step s b = .ends := by
  obtain ⟨hdigit, hpoint, hmark, hcapital⟩ := hb
  rw [Number.step_other s hdigit]
  cases s <;>
    simp_all [Number.finish, Number.otherStep, Number.afterWhole, Number.afterFraction]

theorem step_settle (stack : List Frame) (v : Value) (b : UInt8) :
    (State.settle stack v).step b = (State.settle stack v).pass b := by
  cases stack with
  | nil => rfl
  | cons f stack => cases f <;> rfl

theorem Settled.step {stack : List Frame} {v : Value} {t : State} (h : Settled stack v t)
    {b : UInt8} (hb : Delimits b) : t.step b = (State.settle stack v).pass b := by
  cases h with
  | done => exact step_settle stack v b
  | number hfinish => simp only [State.step, number_ends hfinish hb, hfinish]

theorem isSpace_iff {b : UInt8} : isSpace b = true ↔ b ∈ [32, 9, 10, 13] := by
  simp [isSpace]
  tauto

/-- Space after a value does nothing to it. -/
theorem Settled.blank {stack : List Frame} {v : Value} {t : State} (h : Settled stack v t)
    {ws : List UInt8} (hws : Blank ws) : ∃ u, advance t ws = some u ∧ Settled stack v u := by
  induction ws generalizing t with
  | nil => exact ⟨t, rfl, h⟩
  | cons b ws ih =>
    obtain ⟨hb, hws⟩ := List.forall_mem_cons.1 hws
    have hspace : isSpace b = true := isSpace_iff.2 hb
    have hdelimits : Delimits b := by
      simp only [List.mem_cons, List.not_mem_nil, or_false] at hb
      rcases hb with rfl | rfl | rfl | rfl <;> decide
    simp only [advance, h.step hdelimits, State.pass, hspace, if_true]
    exact ih .done hws

/-! ## Values that may come next -/

/-- A value may come next, under a stack. -/
inductive Awaits : List Frame → State → Prop
  | value {stack : List Frame} : Awaits stack ⟨stack, .value⟩
  | firstItem {stack : List Frame} : Awaits (.array [] :: stack) ⟨stack, .firstItem⟩
  | nextItem {stack : List Frame} {vs : List Value} :
    Awaits (.array vs :: stack) ⟨stack, .nextItem vs⟩

/-- A key may come next, after the members of an object. -/
inductive AwaitsKey (stack : List Frame) : Members → State → Prop
  | first : AwaitsKey stack [] ⟨stack, .firstKey⟩
  | next {ms : Members} : AwaitsKey stack ms ⟨stack, .nextKey ms⟩

theorem advance_blank {s : State} (hs : ∀ b, s.step b = s.pass b) {ws : List UInt8}
    (hws : Blank ws) : advance s ws = some s := by
  induction ws with
  | nil => rfl
  | cons b ws ih =>
    obtain ⟨hb, hws⟩ := List.forall_mem_cons.1 hws
    simp only [advance, hs b, State.pass, isSpace_iff.2 hb, if_true]
    exact ih hws

theorem Awaits.step_eq_pass {stack : List Frame} {s : State} (h : Awaits stack s) (b : UInt8) :
    s.step b = s.pass b := by
  cases h <;> rfl

theorem AwaitsKey.step_eq_pass {stack : List Frame} {ms : Members} {s : State}
    (h : AwaitsKey stack ms s) (b : UInt8) : s.step b = s.pass b := by
  cases h <;> rfl

theorem Awaits.begin {stack : List Frame} {s : State} (h : Awaits stack s) {b : UInt8}
    (hspace : isSpace b = false) (hb : b ≠ 93) : s.step b = State.begin stack b := by
  rw [h.step_eq_pass, State.pass, hspace]
  cases h <;> simp [State.between, hb]

/-- The first byte of a value and the ones that follow. -/
theorem Awaits.advance_cons {stack : List Frame} {s t : State} (h : Awaits stack s) {b : UInt8}
    (hspace : isSpace b = false) (hb : b ≠ 93) (hbegin : State.begin stack b = .ok t)
    (bs : List UInt8) : advance s (b :: bs) = advance t bs := by
  simp only [advance, h.begin hspace hb, hbegin]

theorem enter_eq {stack : List Frame} (hd : stack.length < 127) (m : Mode) :
    State.enter stack m = .ok ⟨stack, m⟩ := if_pos hd

theorem Awaits.openArray {stack : List Frame} {s : State} (h : Awaits stack s)
    (hd : stack.length < 127) (bs : List UInt8) :
    advance s (91 :: bs) = advance ⟨stack, .firstItem⟩ bs :=
  h.advance_cons (b := 91) rfl (by decide) (enter_eq hd _) bs

theorem Awaits.openObject {stack : List Frame} {s : State} (h : Awaits stack s)
    (hd : stack.length < 127) (bs : List UInt8) :
    advance s (123 :: bs) = advance ⟨stack, .firstKey⟩ bs :=
  h.advance_cons (b := 123) rfl (by decide) (enter_eq hd _) bs

theorem not_space_digit (d : Fin 10) : isSpace (digitByte d) = false ∧ digitByte d ≠ 93 := by
  revert d
  decide

theorem begin_digit (stack : List Frame) (d : Fin 10) :
    State.begin stack (digitByte d) = .ok ⟨stack, .number false (Number.first d)⟩ := by
  obtain ⟨n, hn⟩ := d
  interval_cases n <;> rfl

variable {stack : List Frame} {s : State} {v : Value}

theorem Awaits.number (h : Awaits stack s) (x : NumberText) (hv : x.value? = some v) :
    ∃ t, advance s x.text = some t ∧ Settled stack v t := by
  obtain ⟨n, hreading, hfinish⟩ := Number.reading_iff.2 ⟨x, rfl, rfl, hv⟩
  generalize x.text = bs at hreading
  generalize x.negative = negative at hreading hfinish
  refine ⟨⟨stack, .number negative n⟩, ?_, .number hfinish⟩
  cases hreading with
  | minus => simp [Number.finish] at hfinish
  | @digits d bs n hfeed =>
    have hdigit := not_space_digit d
    -- a minus sign takes a step of its own
    cases negative with
    | false =>
      exact (h.advance_cons hdigit.1 hdigit.2 (begin_digit stack d) bs).trans
        (advance_number hfeed)
    | true =>
      refine (h.advance_cons (b := 45) rfl (by decide) rfl (digitByte d :: bs)).trans ?_
      simp only [advance, State.step, Number.step_minus]
      exact advance_number hfeed

theorem Awaits.text (h : Awaits stack s) {bs : List UInt8} {cs : List Char} (hs : Spells bs cs) :
    advance s (34 :: bs ++ [34]) = some (.settle stack (.text (.ofList cs))) := by
  obtain ⟨p, hfeed, hends⟩ := Literal.ends_iff.2 ⟨cs, hs, rfl⟩
  refine (h.advance_cons (b := 34) rfl (by decide) rfl (bs ++ [34])).trans ?_
  rw [advance_append, advance_text hfeed]
  simp only [Option.bind_some, advance, State.step, hends]

theorem AwaitsKey.text {ms : Members} (h : AwaitsKey stack ms s) {bs : List UInt8}
    {cs : List Char} (hs : Spells bs cs) :
    advance s (34 :: bs ++ [34]) = some ⟨stack, .colon ms (.ofList cs)⟩ := by
  obtain ⟨p, hfeed, hends⟩ := Literal.ends_iff.2 ⟨cs, hs, rfl⟩
  have hquote : s.step 34 = .ok ⟨stack, .key ms Literal.start⟩ := by
    cases h <;> rfl
  simp only [List.cons_append, advance, hquote, advance_append, advance_key hfeed]
  simp only [Option.bind_some, State.step, hends]

/-! ## Phrases -/

/-- What the sweep does with a phrase, at any place inside `d` arrays and objects. -/
def Accepts (d : Nat) (bs : List UInt8) : Phrase → Prop
  | .value v | .element v =>
    ∀ stack s, stack.length = d → Awaits stack s → ∃ t, advance s bs = some t ∧ Settled stack v t
  | .items vs =>
    ∀ stack, stack.length + 1 = d → ∃ v vs' t, vs = v :: vs' ∧
      advance ⟨stack, .firstItem⟩ bs = some t ∧ Settled (.array vs' :: stack) v t
  | .member key v =>
    ∀ stack ms s, stack.length + 1 = d → AwaitsKey stack ms s →
      ∃ t, advance s bs = some t ∧ Settled (.object ms key :: stack) v t
  | .members ms =>
    ∀ stack, stack.length + 1 = d → ∃ ms' key v t, ms = ms'.set key v ∧
      advance ⟨stack, .firstKey⟩ bs = some t ∧ Settled (.object ms' key :: stack) v t

/-- **Every phrase is read.** -/
theorem advance_of_writes {d : Nat} {ph : Phrase} {bs : List UInt8} (h : Writes d ph bs) :
    Accepts d bs ph := by
  induction h with
  | null =>
    intro stack s _ hs
    exact ⟨_, hs.advance_cons (b := 110) rfl (by decide) rfl _, .done⟩
  | yes =>
    intro stack s _ hs
    exact ⟨_, hs.advance_cons (b := 116) rfl (by decide) rfl _, .done⟩
  | no =>
    intro stack s _ hs
    exact ⟨_, hs.advance_cons (b := 102) rfl (by decide) rfl _, .done⟩
  | number x hv =>
    intro stack s _ hs
    exact hs.number x hv
  | text hspells =>
    intro stack s _ hs
    exact ⟨_, hs.text hspells, .done⟩
  | @emptyArray d ws hd hws =>
    intro stack s hlength hs
    refine ⟨_, ?_, .done⟩
    rw [List.cons_append, hs.openArray (hlength ▸ hd), advance_append,
      advance_blank (fun _ => rfl) hws]
    rfl
  | @array d vs bs hd _ ih =>
    intro stack s hlength hs
    obtain ⟨v, vs, t, rfl, ht, hsettled⟩ := ih stack (congrArg (· + 1) hlength)
    refine ⟨_, ?_, .done⟩
    rw [List.cons_append, hs.openArray (hlength ▸ hd), advance_append, ht]
    simp only [Option.bind_some, advance, hsettled.step (b := 93) (by decide)]
    rfl
  | @emptyObject d ws hd hws =>
    intro stack s hlength hs
    refine ⟨_, ?_, .done⟩
    rw [List.cons_append, hs.openObject (hlength ▸ hd), advance_append,
      advance_blank (fun _ => rfl) hws]
    rfl
  | @object d ms bs hd _ ih =>
    intro stack s hlength hs
    obtain ⟨ms, key, v, t, rfl, ht, hsettled⟩ := ih stack (congrArg (· + 1) hlength)
    refine ⟨_, ?_, .done⟩
    rw [List.cons_append, hs.openObject (hlength ▸ hd), advance_append, ht]
    simp only [Option.bind_some, advance, hsettled.step (b := 125) (by decide)]
    rfl
  | element hl _ hr ih =>
    intro stack s hlength hs
    obtain ⟨t, ht, hsettled⟩ := ih _ _ hlength hs
    obtain ⟨u, hu, hsettled⟩ := hsettled.blank hr
    refine ⟨u, ?_, hsettled⟩
    rw [List.append_assoc, advance_append, advance_blank hs.step_eq_pass hl, Option.bind_some,
      advance_append, ht, Option.bind_some, hu]
  | item _ ih =>
    intro stack hlength
    obtain ⟨t, ht, hsettled⟩ := ih (.array [] :: stack) _ hlength .firstItem
    exact ⟨_, [], t, rfl, ht, hsettled⟩
  | nextItem _ _ ihs ih =>
    -- the comma ends the element before, even a number
    intro stack hlength
    obtain ⟨w, ws, t, rfl, ht, hsettled⟩ := ihs stack hlength
    obtain ⟨u, hu, hsettled'⟩ := ih (.array (w :: ws) :: stack) _ hlength .nextItem
    refine ⟨_, _, u, rfl, ?_, hsettled'⟩
    rw [advance_append, ht]
    simp only [Option.bind_some, advance, hsettled.step (b := 44) (by decide)]
    exact hu
  | member hl hk hr _ ih =>
    intro stack ms s hlength hs
    obtain ⟨t, ht, hsettled⟩ := ih (.object ms _ :: stack) _ hlength .value
    refine ⟨t, ?_, hsettled⟩
    rw [List.append_assoc, List.append_assoc, advance_append, advance_blank hs.step_eq_pass hl,
      Option.bind_some, advance_append, hs.text hk, Option.bind_some, advance_append,
      advance_blank (fun _ => rfl) hr]
    exact ht
  | firstMember _ ih =>
    intro stack hlength
    obtain ⟨t, ht, hsettled⟩ := ih stack _ _ hlength .first
    exact ⟨[], _, _, t, rfl, ht, hsettled⟩
  | nextMember _ _ ihs ih =>
    intro stack hlength
    obtain ⟨ms, key, v, t, rfl, ht, hsettled⟩ := ihs stack hlength
    obtain ⟨u, hu, hsettled'⟩ := ih stack _ _ hlength .next
    refine ⟨_, _, _, u, rfl, ?_, hsettled'⟩
    rw [advance_append, ht]
    simp only [Option.bind_some, advance, hsettled.step (b := 44) (by decide)]
    exact hu

theorem Settled.finish {t : State} (h : Settled [] v t) : t.finish = .ok v := by
  cases h with
  | done => rfl
  | number hfinish =>
    simp only [State.finish, hfinish]
    rfl

/-- **A payload is read as the value that is written there.** -/
theorem read_of_writes {bs : List UInt8} (h : Writes 0 (.element v) bs) : read bs = .ok v := by
  obtain ⟨t, ht, hsettled⟩ := advance_of_writes h [] _ rfl .value
  exact read_eq_ok_iff.2 ⟨t, ht, hsettled.finish⟩

end TopicListeners.Payload
