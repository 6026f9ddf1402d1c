import TopicListeners.Proofs.Payload.Completeness

/-!
# What is read is written

Each state of the sweep says how the bytes read so far are written: the frames of its stack say
which arrays and objects are open and what is in them already (`Opened`), and its mode says what has
been read since (`Reached`). Every byte that is not a fault keeps to that.

* `Reached.settle`: a value that ends goes into the array or object around it.
* `Reached.step`: **one byte**.
* `Reached.advance`: any number of bytes.
* `read_eq_ok_iff_writes`: a payload is read as a value iff that value is written there.
-/

namespace TopicListeners.Payload

open Grammar

mutual

/-- The bytes before a value that is read under a stack. -/
inductive Opened : List Frame → List UInt8 → Prop
  | start {ws : List UInt8} (hws : Blank ws) : Opened [] ws
  | firstItem {stack : List Frame} {q ws : List UInt8} (h : Opened stack q)
    (hd : stack.length < 127) (hws : Blank ws) : Opened (.array [] :: stack) (q ++ 91 :: ws)
  | nextItem {stack : List Frame} {vs : List Value} {q bs ws : List UInt8} (h : Opened stack q)
    (hd : stack.length < 127) (hs : Writes (stack.length + 1) (.items vs) bs) (hws : Blank ws) :
    Opened (.array vs :: stack) (q ++ 91 :: (bs ++ 44 :: ws))
  | member {stack : List Frame} {ms : Members} {q ks ws rs : List UInt8} {cs : List Char}
    (h : Keyed stack ms q) (hk : Spells ks cs) (hws : Blank ws) (hrs : Blank rs) :
    Opened (.object ms (.ofList cs) :: stack) (q ++ ((34 :: ks ++ [34]) ++ (ws ++ 58 :: rs)))

/-- The bytes before a key, after the members of an object that is open. -/
inductive Keyed : List Frame → Members → List UInt8 → Prop
  | first {stack : List Frame} {q ws : List UInt8} (h : Opened stack q)
    (hd : stack.length < 127) (hws : Blank ws) : Keyed stack [] (q ++ 123 :: ws)
  | next {stack : List Frame} {ms : Members} {q bs ws : List UInt8} (h : Opened stack q)
    (hd : stack.length < 127) (hs : Writes (stack.length + 1) (.members ms) bs) (hws : Blank ws) :
    Keyed stack ms (q ++ 123 :: (bs ++ 44 :: ws))

end

/-- **What a state says about the bytes read so far.** -/
def Reached (p : List UInt8) (s : State) : Prop :=
  match s.mode with
  | .value => Opened s.stack p
  | .firstItem => Opened (.array [] :: s.stack) p
  | .nextItem vs => Opened (.array vs :: s.stack) p
  | .afterItem vs => ∃ q bs, p = q ++ 91 :: bs ∧ Opened s.stack q ∧ s.stack.length < 127 ∧
    Writes (s.stack.length + 1) (.items vs) bs
  | .firstKey => ∃ q ws, p = q ++ 123 :: ws ∧ Opened s.stack q ∧ s.stack.length < 127 ∧ Blank ws
  | .nextKey ms => Keyed s.stack ms p
  | .key ms k => ∃ q bs, p = q ++ 34 :: bs ∧ Keyed s.stack ms q ∧
    Literal.feed Literal.start bs = some k
  | .colon ms key => ∃ q ks cs ws, p = q ++ ((34 :: ks ++ [34]) ++ ws) ∧ Keyed s.stack ms q ∧
    Spells ks cs ∧ key = .ofList cs ∧ Blank ws
  | .afterMember ms => ∃ q bs, p = q ++ 123 :: bs ∧ Opened s.stack q ∧ s.stack.length < 127 ∧
    Writes (s.stack.length + 1) (.members ms) bs
  | .word next rest v => ∃ q bs, p = q ++ bs ∧ Opened s.stack q ∧
    Writes s.stack.length (.value v) (bs ++ next :: rest)
  | .number negative n => ∃ q bs, p = q ++ bs ∧ Opened s.stack q ∧ Number.Reading negative bs n
  | .text t => ∃ q bs, p = q ++ 34 :: bs ∧ Opened s.stack q ∧
    Literal.feed Literal.start bs = some t
  | .ended v => s.stack = [] ∧ Writes 0 (.element v) p

/-! ## Space -/

theorem blank_nil : Blank [] := fun _ h => absurd h List.not_mem_nil

theorem blank_concat {ws : List UInt8} {b : UInt8} (hws : Blank ws) (hb : isSpace b = true) :
    Blank (ws ++ [b]) := by
  intro c hc
  rcases List.mem_append.1 hc with h | h
  · exact hws c h
  · rw [List.mem_singleton.1 h]
    exact isSpace_iff.1 hb

variable {d : Nat} {v : Value} {bs p : List UInt8} {b : UInt8} {stack : List Frame}
  {ms : Members} {s t : State}

theorem writes_element_space (h : Writes d (.element v) bs) (hb : isSpace b = true) :
    Writes d (.element v) (bs ++ [b]) := by
  cases h with
  | element hl h hr =>
    rw [List.append_assoc]
    exact .element hl h (blank_concat hr hb)

theorem writes_items_space {vs : List Value} (h : Writes d (.items vs) bs)
    (hb : isSpace b = true) : Writes d (.items vs) (bs ++ [b]) := by
  cases h with
  | item h => exact .item (writes_element_space h hb)
  | nextItem hs h =>
    rw [List.append_assoc]
    exact .nextItem hs (writes_element_space h hb)

theorem writes_member_space {key : String} (h : Writes d (.member key v) bs)
    (hb : isSpace b = true) : Writes d (.member key v) (bs ++ [b]) := by
  cases h with
  | member hl hk hr h =>
    rw [List.append_assoc]
    exact .member hl hk hr (writes_element_space h hb)

theorem writes_members_space (h : Writes d (.members ms) bs) (hb : isSpace b = true) :
    Writes d (.members ms) (bs ++ [b]) := by
  cases h with
  | firstMember h => exact .firstMember (writes_member_space h hb)
  | nextMember hs h =>
    rw [List.append_assoc]
    exact .nextMember hs (writes_member_space h hb)

theorem Opened.space (h : Opened stack p) (hb : isSpace b = true) : Opened stack (p ++ [b]) := by
  cases h with
  | start hws => exact .start (blank_concat hws hb)
  | firstItem h hd hws =>
    rw [List.append_assoc]
    exact .firstItem h hd (blank_concat hws hb)
  | nextItem h hd hs hws =>
    have hopened := Opened.nextItem h hd hs (blank_concat hws hb)
    simpa using hopened
  | member h hk hws hrs =>
    have hopened := Opened.member h hk hws (blank_concat hrs hb)
    simpa using hopened

theorem Keyed.space (h : Keyed stack ms p) (hb : isSpace b = true) :
    Keyed stack ms (p ++ [b]) := by
  cases h with
  | first h hd hws =>
    rw [List.append_assoc]
    exact .first h hd (blank_concat hws hb)
  | next h hd hs hws =>
    have hkeyed := Keyed.next h hd hs (blank_concat hws hb)
    simpa using hkeyed

/-! ## Values -/

/-- **A value that ends** goes into the array or object around it. -/
theorem Opened.settle (h : Opened stack p) (hv : Writes stack.length (.value v) bs) :
    Reached (p ++ bs) (State.settle stack v) := by
  -- the space after the value is none so far
  cases h with
  | start hws =>
    refine ⟨rfl, ?_⟩
    have helement := Writes.element hws hv blank_nil
    rwa [List.append_nil] at helement
  | @firstItem stack q ws h hd hws =>
    have helement := Writes.element hws hv blank_nil
    exact ⟨q, ws ++ bs ++ [], by simp, h, hd, .item helement⟩
  | @nextItem stack vs q as ws h hd hs hws =>
    have helement := Writes.element hws hv blank_nil
    exact ⟨q, as ++ 44 :: (ws ++ bs ++ []), by simp, h, hd, .nextItem hs helement⟩
  | @member stack ms q ks ws rs cs h hk hws hrs =>
    have helement := Writes.element hrs hv blank_nil
    cases h with
    | @first _ q l h hd hl =>
      have hmember := Writes.member hl hk hws helement
      exact ⟨q, _, by simp, h, hd, .firstMember hmember⟩
    | @next _ _ q as l h hd hs hl =>
      have hmember := Writes.member hl hk hws helement
      exact ⟨q, _, by simp, h, hd, .nextMember hs hmember⟩

theorem of_enter {m : Mode} (h : State.enter stack m = .ok t) :
    stack.length < 127 ∧ t = ⟨stack, m⟩ := by
  by_cases hd : stack.length < 127
  · rw [enter_eq hd, Except.ok.injEq] at h
    exact ⟨hd, h.symm⟩
  · have hfault : State.enter stack m = complain .nestedTooDeep := if_neg hd
    simp [hfault] at h

/-- **The first byte of a value.** -/
theorem Opened.begin (h : Opened stack p) (hb : State.begin stack b = .ok t) :
    Reached (p ++ [b]) t := by
  have hbegin := hb
  unfold State.begin at hb
  -- quote, brackets, minus, the three words, and digits
  split_ifs at hb with hquote hbracket hbrace hminus hn ht hf
  · obtain rfl := Except.ok.inj hb
    exact ⟨p, [], by rw [hquote], h, rfl⟩
  · obtain ⟨hd, rfl⟩ := of_enter hb
    rw [hbracket]
    exact Opened.firstItem h hd blank_nil
  · obtain ⟨hd, rfl⟩ := of_enter hb
    exact ⟨p, [], by rw [hbrace], h, hd, blank_nil⟩
  · obtain rfl := Except.ok.inj hb
    rw [hminus]
    exact ⟨p, [45], rfl, h, .minus rfl⟩
  · obtain rfl := Except.ok.inj hb
    rw [hn]
    exact ⟨p, [110], rfl, h, .null⟩
  · obtain rfl := Except.ok.inj hb
    rw [ht]
    exact ⟨p, [116], rfl, h, .yes⟩
  · obtain rfl := Except.ok.inj hb
    rw [hf]
    exact ⟨p, [102], rfl, h, .no⟩
  · cases hdigit : Number.digit? b with
    | none => simp [hdigit] at hb
    | some n =>
      obtain ⟨d, rfl, rfl⟩ := Number.exists_digitByte hdigit
      rw [begin_digit, Except.ok.injEq] at hbegin
      rw [← hbegin]
      exact ⟨p, [digitByte d], rfl, h, .digits d rfl⟩

/-! ## One byte -/

/-- The states between values. -/
def Waits (s : State) : Prop :=
  match s.mode with
  | .key _ _ | .word _ _ _ | .number _ _ | .text _ => False
  | _ => True

theorem waits_settle (stack : List Frame) (v : Value) : Waits (State.settle stack v) := by
  cases stack with
  | nil => trivial
  | cons f stack => cases f <;> trivial

theorem Reached.space (h : Reached p s) (hs : Waits s) (hb : isSpace b = true) :
    Reached (p ++ [b]) s := by
  obtain ⟨stack, mode⟩ := s
  cases mode with
  | value => exact Opened.space h hb
  | firstItem => exact Opened.space h hb
  | nextItem vs => exact Opened.space h hb
  | afterItem vs =>
    obtain ⟨q, bs, rfl, h, hd, hs⟩ := h
    exact ⟨q, bs ++ [b], by simp, h, hd, writes_items_space hs hb⟩
  | firstKey =>
    obtain ⟨q, ws, rfl, h, hd, hws⟩ := h
    exact ⟨q, ws ++ [b], by simp, h, hd, blank_concat hws hb⟩
  | nextKey ms => exact Keyed.space h hb
  | colon ms key =>
    obtain ⟨q, ks, cs, ws, rfl, h, hk, rfl, hws⟩ := h
    exact ⟨q, ks, cs, ws ++ [b], by simp, h, hk, rfl, blank_concat hws hb⟩
  | afterMember ms =>
    obtain ⟨q, bs, rfl, h, hd, hs⟩ := h
    exact ⟨q, bs ++ [b], by simp, h, hd, writes_members_space hs hb⟩
  | ended v =>
    obtain ⟨hstack, h⟩ := h
    exact ⟨hstack, writes_element_space h hb⟩
  | key | word | number | text => exact hs.elim

/-- A byte between values, other than a space. -/
theorem Reached.between (h : Reached p s) (hs : Waits s) (hb : s.between b = .ok t) :
    Reached (p ++ [b]) t := by
  obtain ⟨stack, mode⟩ := s
  cases mode with
  | value => exact Opened.begin h hb
  | firstItem =>
    simp only [State.between] at hb
    split_ifs at hb with hclose
    · -- nothing but space since the bracket
      obtain rfl := Except.ok.inj hb
      replace h : Opened (.array [] :: stack) p := h
      rw [hclose]
      cases h with
      | @firstItem _ q ws h hd hws =>
        have hsettled := h.settle (.emptyArray hd hws)
        simpa using hsettled
      | nextItem h hd hs hws => cases hs
    · exact Opened.begin h hb
  | nextItem vs =>
    simp only [State.between] at hb
    split_ifs at hb with hclose
    exact Opened.begin h hb
  | afterItem vs =>
    obtain ⟨q, bs, rfl, h, hd, hs⟩ := h
    simp only [State.between] at hb
    split_ifs at hb with hcomma hclose
    · obtain rfl := Except.ok.inj hb
      have hopened := Opened.nextItem h hd hs blank_nil
      rw [hcomma]
      simpa [Reached] using hopened
    · obtain rfl := Except.ok.inj hb
      have hsettled := h.settle (.array hd hs)
      rw [hclose]
      simpa using hsettled
  | firstKey =>
    obtain ⟨q, ws, rfl, h, hd, hws⟩ := h
    simp only [State.between] at hb
    split_ifs at hb with hquote hclose
    · obtain rfl := Except.ok.inj hb
      exact ⟨q ++ 123 :: ws, [], by rw [hquote], .first h hd hws, rfl⟩
    · obtain rfl := Except.ok.inj hb
      have hsettled := h.settle (.emptyObject hd hws)
      rw [hclose]
      simpa using hsettled
  | nextKey ms =>
    simp only [State.between] at hb
    split_ifs at hb with hquote
    obtain rfl := Except.ok.inj hb
    exact ⟨p, [], by rw [hquote], h, rfl⟩
  | colon ms key =>
    obtain ⟨q, ks, cs, ws, rfl, h, hk, rfl, hws⟩ := h
    simp only [State.between] at hb
    split_ifs at hb with hcolon
    obtain rfl := Except.ok.inj hb
    have hopened := Opened.member h hk hws blank_nil
    rw [hcolon]
    simpa [Reached] using hopened
  | afterMember ms =>
    obtain ⟨q, bs, rfl, h, hd, hs⟩ := h
    simp only [State.between] at hb
    split_ifs at hb with hcomma hclose
    · obtain rfl := Except.ok.inj hb
      have hkeyed := Keyed.next h hd hs blank_nil
      rw [hcomma]
      simpa [Reached] using hkeyed
    · obtain rfl := Except.ok.inj hb
      have hsettled := h.settle (.object hd hs)
      rw [hclose]
      simpa using hsettled
  | ended v => simp [State.between] at hb
  | key | word | number | text => exact hs.elim

theorem Reached.pass (h : Reached p s) (hs : Waits s) (hb : s.pass b = .ok t) :
    Reached (p ++ [b]) t := by
  unfold State.pass at hb
  split_ifs at hb with hspace
  · obtain rfl := Except.ok.inj hb
    exact h.space hs hspace
  · exact h.between hs hb

/-- **One byte.** -/
theorem Reached.step (h : Reached p s) (hb : s.step b = .ok t) : Reached (p ++ [b]) t := by
  obtain ⟨stack, mode⟩ := s
  cases mode with
  | word next rest v =>
    obtain ⟨q, bs, rfl, h, hv⟩ := h
    simp only [State.step, ne_eq, ite_not] at hb
    split_ifs at hb with hnext
    subst hnext
    cases rest with
    | nil =>
      obtain rfl := Except.ok.inj hb
      have hsettled := h.settle hv
      rwa [← List.append_assoc] at hsettled
    | cons c rest =>
      obtain rfl := Except.ok.inj hb
      exact ⟨q, bs ++ [b], by simp, h, by simpa using hv⟩
  | number negative n =>
    obtain ⟨q, bs, rfl, h, hn⟩ := h
    simp only [State.step] at hb
    cases hstep : Number.step n b with
    | more m =>
      simp only [hstep] at hb
      obtain rfl := Except.ok.inj hb
      exact ⟨q, bs ++ [b], by simp, h, hn.step hstep⟩
    | fault r => simp [hstep] at hb
    | ends =>
      simp only [hstep] at hb
      cases hfinish : Number.finish negative n with
      | error r => simp [hfinish] at hb
      | ok v =>
        -- the number settles, and the byte is read once more
        simp only [hfinish] at hb
        obtain ⟨x, -, rfl, hv⟩ := Number.reading_iff.1 ⟨n, hn, hfinish⟩
        exact (h.settle (.number x hv)).pass (waits_settle stack v) hb
  | text k =>
    obtain ⟨q, bs, rfl, h, hk⟩ := h
    simp only [State.step] at hb
    cases hstep : Literal.step k b with
    | more l =>
      simp only [hstep] at hb
      obtain rfl := Except.ok.inj hb
      exact ⟨q, bs ++ [b], by simp, h, Literal.feed_concat hk hstep⟩
    | fault r back => simp [hstep] at hb
    | ends text =>
      simp only [hstep] at hb
      obtain rfl := Except.ok.inj hb
      obtain ⟨rfl, cs, hspells, rfl⟩ := Literal.spells_of_ends hk hstep
      have hsettled := h.settle (.text hspells)
      simpa using hsettled
  | key ms k =>
    obtain ⟨q, bs, rfl, h, hk⟩ := h
    simp only [State.step] at hb
    cases hstep : Literal.step k b with
    | more l =>
      simp only [hstep] at hb
      obtain rfl := Except.ok.inj hb
      exact ⟨q, bs ++ [b], by simp, h, Literal.feed_concat hk hstep⟩
    | fault r back => simp [hstep] at hb
    | ends text =>
      -- a key settles nothing: the colon is still to come
      simp only [hstep] at hb
      obtain rfl := Except.ok.inj hb
      obtain ⟨rfl, cs, hspells, rfl⟩ := Literal.spells_of_ends hk hstep
      exact ⟨q, bs, cs, [], by simp, h, hspells, rfl, blank_nil⟩
  | value | firstItem | nextItem | afterItem | firstKey | nextKey | colon | afterMember | ended =>
    exact h.pass trivial hb

/-! ## Any number of bytes -/

theorem Reached.advance (h : Reached p s) (hbs : advance s bs = some t) : Reached (p ++ bs) t := by
  induction bs generalizing p s with
  | nil =>
    obtain rfl : s = t := by simpa [Payload.advance] using hbs
    rwa [List.append_nil]
  | cons b bs ih =>
    -- the invariant is about what has been read, so it grows at the end
    simp only [Payload.advance] at hbs
    cases hstep : s.step b with
    | error c => simp [hstep] at hbs
    | ok u =>
      simp only [hstep] at hbs
      have hreached := ih (h.step hstep) hbs
      rwa [List.append_assoc] at hreached

theorem Reached.close (h : Reached p s) (hv : s.close = .ok v) : Writes 0 (.element v) p := by
  obtain ⟨stack, mode⟩ := s
  cases mode with
  | ended w =>
    obtain ⟨-, h⟩ := h
    obtain rfl : w = v := by simpa [State.close] using hv
    exact h
  | _ => simp [State.close] at hv

theorem Reached.finish (h : Reached p s) (hv : s.finish = .ok v) : Writes 0 (.element v) p := by
  obtain ⟨stack, mode⟩ := s
  cases mode with
  | number negative n =>
    obtain ⟨q, bs, rfl, h, hn⟩ := h
    simp only [State.finish] at hv
    cases hfinish : Number.finish negative n with
    | error r => simp [hfinish] at hv
    | ok w =>
      simp only [hfinish] at hv
      obtain ⟨x, -, rfl, hw⟩ := Number.reading_iff.1 ⟨n, hn, hfinish⟩
      exact (h.settle (.number x hw)).close hv
  | _ => exact h.close hv

/-- **A payload is read as a value iff that value is written there.** -/
theorem read_eq_ok_iff_writes : read bs = .ok v ↔ Writes 0 (.element v) bs := by
  constructor
  · intro h
    obtain ⟨t, ht, hfinish⟩ := read_eq_ok_iff.1 h
    have hstart : Reached [] .start := Opened.start blank_nil
    exact (hstart.advance ht).finish hfinish
  · exact read_of_writes

end TopicListeners.Payload
