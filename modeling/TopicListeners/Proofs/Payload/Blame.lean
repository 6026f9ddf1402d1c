import TopicListeners.Collaborator
import TopicListeners.Proofs.Payload.Completeness

/-!
# What a fault depends on

A payload is at fault at one of its bytes, or at its end. What is wrong at a byte is never that the
payload ended too early, and what comes after that byte is not read; what is wrong at the end is
that it came too early, or that the number it ends is out of range.

* `State.step_error`, `State.finish_error`: what can be wrong at a byte, and what at the end.
* `run_eq_error_iff`: **a run fails iff it stops at a byte or at the end.**
* `read_append_of_error`: **what goes on after a fault does not change it.**
* `Converter.json_blame`: what that means for the payloads of records.
-/

namespace TopicListeners

namespace Payload

/-- The wording tells whether a payload ended too early. -/
theorem Reason.isEnd_iff_message (r : Reason) :
    r.isEnd = true ↔ "EOF while parsing ".toList <+: r.message.toList := by
  cases r <;> decide

/-! ## Places -/

/-- The place of a fault is the end of the given bytes: its line is that of the bytes after the last
line feed, and its column is their number. -/
def Fault.EndsAt (f : Fault) (bs : List UInt8) : Prop :=
  f.line = bs.count lineFeed + 1 ∧ ∃ above last, bs = above ++ last ∧ lineFeed ∉ last ∧
    (∀ d ∈ above.getLast?, d = lineFeed) ∧ f.column = last.length

theorem Fault.endsAt_locate (r : Reason) (bs : List UInt8) : (locate r bs).EndsAt bs := by
  refine ⟨rfl, (bs.reverse.dropWhile (· != lineFeed)).reverse,
    (bs.reverse.takeWhile (· != lineFeed)).reverse, ?_, ?_, ?_, ?_⟩
  · rw [← List.reverse_append, List.takeWhile_append_dropWhile, List.reverse_reverse]
  · intro h
    have hne := List.all_eq_true.1 List.all_takeWhile _ (List.mem_reverse.1 h)
    simp at hne
  · intro d hd
    rw [List.getLast?_reverse] at hd
    have hhead := List.head?_dropWhile_not (· != lineFeed) bs.reverse
    rw [hd] at hhead
    simpa using hhead
  · rw [List.length_reverse]
    rfl

/-! ## Reasons -/

namespace Number

variable {negative : Bool} {s : Stage} {b : UInt8} {r : Reason}

theorem step_fault (h : step s b = .fault r) : r = .invalidNumber ∨ r = .numberOutOfRange := by
  unfold step at h
  split at h
  · -- a digit
    cases s <;> simp only [digitStep, addPower, Step.fault.injEq, reduceCtorEq] at h
    case zero => exact .inl h.symm
    case power =>
      split_ifs at h
      exact .inr (Step.fault.inj h).symm
  · cases s <;>
      simp only [otherStep, afterWhole, afterFraction, Step.fault.injEq, reduceCtorEq] at h
    case minus | point | signed => exact .inl h.symm
    case mark =>
      split_ifs at h
      exact .inl (Step.fault.inj h).symm
    all_goals split_ifs at h

theorem real_error {x : Scaled} (h : real negative x = .error r) : r = .numberOutOfRange := by
  unfold real at h
  split at h <;> simp_all

/-- At the end a number lacks digits or is out of range. -/
theorem finish_error (h : finish negative s = .error r) :
    r = .endInValue ∨ r = .numberOutOfRange := by
  cases s <;> simp only [finish, Except.error.injEq, reduceCtorEq] at h
  case minus | point | mark | signed => exact .inl h.symm
  case long | fraction | spilled | power => exact .inr (real_error h)

/-- In front of a byte that does not go on with it a number lacks nothing. -/
theorem finish_of_ends (hb : step s b = .ends) (h : finish negative s = .error r) :
    r = .numberOutOfRange := by
  cases s with
  | long | fraction | spilled | power => exact real_error h
  | zero | whole | vanished => cases h
  | minus | point | signed =>
    unfold step at hb
    split at hb <;> cases hb
  | mark =>
    unfold step otherStep at hb
    split at hb
    · cases hb
    · split_ifs at hb

end Number

theorem Literal.step_fault {p : Literal.Progress} {b : UInt8} {r : Reason} {back : Nat}
    (h : Literal.step p b = .fault r back) : r.isEnd = false := by
  obtain ⟨bytes, stage⟩ := p
  cases stage with
  | plain =>
    simp only [Literal.step, Literal.close] at h
    split_ifs at h
    · split at h <;> cases h
      rfl
    · cases h
      rfl
  | escape =>
    simp only [Literal.step] at h
    split at h
    · cases h
    · split at h <;> cases h
      rfl
  | hex lead digits =>
    simp only [Literal.step, Literal.hexEnds] at h
    split at h
    · cases h
    · split at h
      · split at h <;> split_ifs at h <;> cases h <;> rfl
      · cases h
        rfl
  | lead | leadEscape =>
    simp only [Literal.step] at h
    split_ifs at h
    cases h
    rfl

namespace State

variable {s t : State} {b : UInt8} {c : Complaint}

theorem enter_error {stack : List Frame} {m : Mode} (h : enter stack m = .error c) :
    c.reason.isEnd = false := by
  unfold enter at h
  split_ifs at h
  cases h
  rfl

theorem begin_error {stack : List Frame} (h : begin stack b = .error c) :
    c.reason.isEnd = false := by
  unfold begin at h
  split_ifs at h
  · exact enter_error h
  · exact enter_error h
  · split at h <;> cases h
    rfl

theorem between_error (h : s.between b = .error c) : c.reason.isEnd = false := by
  unfold between at h
  generalize s.mode = m at h
  cases m with
  | value => exact begin_error h
  | firstItem =>
    dsimp only at h
    split_ifs at h
    exact begin_error h
  | nextItem =>
    dsimp only at h
    split_ifs at h
    · cases h
      rfl
    · exact begin_error h
  | afterItem | firstKey | nextKey | colon | afterMember =>
    dsimp only at h
    split_ifs at h <;> cases h <;> rfl
  | ended =>
    cases h
    rfl
  | key | word | number | text => cases h

theorem pass_error (h : s.pass b = .error c) : c.reason.isEnd = false := by
  unfold pass at h
  split at h
  · cases h
  · exact between_error h

/-- **At a byte a payload has not ended too early.** -/
theorem step_error (h : s.step b = .error c) : c.reason.isEnd = false := by
  unfold step at h
  generalize s.mode = m at h
  cases m with
  | word =>
    dsimp only at h
    split at h
    · cases h
      rfl
    · split at h <;> cases h
  | number negative n =>
    dsimp only at h
    split at h
    · cases h
    · rename_i r hfault
      cases h
      rcases Number.step_fault hfault with rfl | rfl <;> rfl
    · rename_i hends
      split at h
      · exact pass_error h
      · rename_i r hr
        cases h
        rw [Number.finish_of_ends hends hr]
        rfl
  | text | key =>
    dsimp only at h
    split at h
    · cases h
    · cases h
    · rename_i r back hfault
      cases h
      exact Literal.step_fault hfault
  | value | firstItem | nextItem | afterItem | firstKey | nextKey | colon | afterMember | ended =>
    exact pass_error h

theorem close_error {r : Reason} (h : s.close = .error r) : r.isEnd = true := by
  unfold close at h
  split at h <;> cases h <;> rfl

/-- **At the end a payload has ended too early**, or the number it ends is out of range. -/
theorem finish_error {r : Reason} (h : s.finish = .error r) :
    r.isEnd = true ∨ r = .numberOutOfRange := by
  unfold finish at h
  split at h
  · split at h
    · exact .inl (close_error h)
    · rename_i hr
      cases h
      rcases Number.finish_error hr with rfl | rfl
      · exact .inl rfl
      · exact .inr rfl
  · exact .inl (close_error h)

end State

/-! ## Runs -/

variable {s : State} {n k : Nat} {bs : List UInt8} {r : Reason}

/-- **Where reading stops**, and what it is blamed on: at a byte, or at the end. -/
inductive Stops (s : State) (n : Nat) : List UInt8 → Reason → Nat → Prop
  | byte {as bs : List UInt8} {b : UInt8} {t : State} {c : Complaint} (h : advance s as = some t)
    (hb : t.step b = .error c) : Stops s n (as ++ b :: bs) c.reason (n + as.length + 1 - c.back)
  | finish {bs : List UInt8} {t : State} {r : Reason} (h : advance s bs = some t)
    (hr : t.finish = .error r) : Stops s n bs r (n + bs.length)

theorem advance_cons {t : State} {b : UInt8} (h : s.step b = .ok t) (bs : List UInt8) :
    advance s (b :: bs) = advance t bs := by
  simp only [advance, h]

/-- A run that fails stops somewhere, by induction on the bytes. -/
theorem stops_of_run (h : run s n bs = .error (r, k)) : Stops s n bs r k := by
  induction bs generalizing s n with
  | nil =>
    unfold run at h
    split at h
    · cases h
    · rename_i hr
      cases h
      exact .finish rfl hr
  | cons b bs ih =>
    unfold run at h
    split at h
    · rename_i t hb
      -- the rest of the run stops somewhere, and `b` comes before that
      cases ih h with
      | @byte as bs b' t' c hadvance hb' =>
        have h : Stops s n (b :: as ++ b' :: bs) c.reason (n + (b :: as).length + 1 - c.back) :=
          .byte ((advance_cons hb as).trans hadvance) hb'
        rwa [List.length_cons, ← Nat.add_assoc, Nat.add_right_comm n] at h
      | finish hadvance hr =>
        have h := Stops.finish (n := n) ((advance_cons hb bs).trans hadvance) hr
        rwa [List.length_cons, ← Nat.add_assoc, Nat.add_right_comm n] at h
    · rename_i c hb
      cases h
      have h : Stops s n ([] ++ b :: bs) c.reason (n + 0 + 1 - c.back) := .byte rfl hb
      exact h

theorem Stops.run_eq (h : Stops s n bs r k) : run s n bs = .error (r, k) := by
  cases h with
  | byte hadvance hb =>
    rw [run_append hadvance]
    simp only [run, hb]
  | finish hadvance hr =>
    have h := run_append (n := n) (q := []) hadvance
    rw [List.append_nil] at h
    rw [h]
    simp only [run, hr]

/-- **A run fails iff it stops somewhere.** -/
theorem run_eq_error_iff : run s n bs = .error (r, k) ↔ Stops s n bs r k :=
  ⟨stops_of_run, Stops.run_eq⟩

/-- Reading is blamed on some of the bytes. -/
theorem Stops.le (h : Stops s n bs r k) : k ≤ n + bs.length := by
  cases h with
  | byte =>
    rw [List.length_append, List.length_cons]
    omega
  | finish => exact Nat.le_refl _

/-- What has ended too early is blamed on all bytes. -/
theorem Stops.eq_of_isEnd (h : Stops s n bs r k) (hr : r.isEnd = true) : k = n + bs.length := by
  cases h with
  | byte hadvance hb => rw [State.step_error hb] at hr; cases hr
  | finish => rfl

/-- **A stop at a byte stands**, whatever comes after the bytes. -/
theorem Stops.append (h : Stops s n bs r k) (hr : r.isEnd = false) (hrange : r ≠ .numberOutOfRange)
    (q : List UInt8) : Stops s n (bs ++ q) r k := by
  cases h with
  | byte hadvance hb =>
    rw [List.append_assoc, List.cons_append]
    exact .byte hadvance hb
  | finish hadvance hfinish =>
    rcases State.finish_error hfinish with hend | rfl
    · rw [hr] at hend
      cases hend
    · exact absurd rfl hrange

theorem read_eq_error_iff {f : Fault} : read bs = .error f ↔
    ∃ k, Stops .start 0 bs f.reason k ∧ f = Fault.locate f.reason (bs.take k) := by
  simp only [← run_eq_error_iff, read]
  cases hrun : run .start 0 bs with
  | ok v => simp
  | error e =>
    obtain ⟨r, k⟩ := e
    constructor
    · intro h
      cases h
      exact ⟨k, rfl, rfl⟩
    · rintro ⟨k', hstop, hf⟩
      cases hstop
      exact congrArg Except.error hf.symm

variable {f : Fault}

/-- **What goes on after a fault does not change it**, unless the payload ended too early or with a
number out of range. -/
theorem read_append_of_error (h : read bs = .error f) (hr : f.reason.isEnd = false)
    (hrange : f.reason ≠ .numberOutOfRange) (q : List UInt8) : read (bs ++ q) = .error f := by
  obtain ⟨k, hstop, hf⟩ := read_eq_error_iff.1 h
  have hk : k ≤ bs.length := by simpa using hstop.le
  refine read_eq_error_iff.2 ⟨k, hstop.append hr hrange q, ?_⟩
  rwa [List.take_append_of_le_length hk]

theorem endsAt_of_isEnd (h : read bs = .error f) (hr : f.reason.isEnd = true) : f.EndsAt bs := by
  obtain ⟨k, hstop, hf⟩ := read_eq_error_iff.1 h
  have hk := hstop.eq_of_isEnd hr
  rw [Nat.zero_add] at hk
  rw [hk, List.take_length] at hf
  rw [hf]
  exact Fault.endsAt_locate _ _

theorem exists_prefix_endsAt (h : read bs = .error f) : ∃ as, as <+: bs ∧ f.EndsAt as := by
  obtain ⟨k, hstop, hf⟩ := read_eq_error_iff.1 h
  refine ⟨bs.take k, List.take_prefix k bs, ?_⟩
  rw [hf]
  exact Fault.endsAt_locate _ _

end Payload

/-! ## Records -/

open Payload

theorem Message.ofRecord_eq_payload_iff {r : Record} {bs : Bytes} {f : Fault}
    (h : r.payload = some bs) : ofRecord r = .error (.payload f) ↔ read bs = .error f := by
  unfold ofRecord
  simp only [h]
  cases read bs <;> simp

/-- **What a payload is at fault for is decided by its bytes up to the fault.** Unless it ended too
early, as the wording tells, or a number is out of range, the fault stays whatever the payload goes
on with. A payload that ended too early is blamed at its end, and any other one at the end of some of
its bytes. So, numbers out of range aside, a payload that could go on has ended too early. -/
theorem Converter.json_blame {σ : Type} {r : Record} {p : Bytes} {f : Fault} (s : σ)
    (hp : r.payload = some p)
    (h : ((Converter.json.convert r).run s).value = .error (.payload f)) :
    (f.reason.isEnd = true ↔ "EOF while parsing ".toList <+: f.reason.message.toList) ∧
    (f.reason.isEnd = false → f.reason ≠ .numberOutOfRange →
      ∀ (q : Bytes) (r' : Record), r'.payload = some (p ++ q) →
        ((Converter.json.convert r').run s).value = .error (.payload f)) ∧
    (f.reason.isEnd = true → f.EndsAt p) ∧
    (∃ a, a <+: p ∧ f.EndsAt a) ∧
    (f.reason ≠ .numberOutOfRange →
      ∀ (q : Bytes) (r' : Record) (m : Message), r'.payload = some (p ++ q) →
        ((Converter.json.convert r').run s).value = .ok m →
          f.reason.isEnd = true ∧ f.EndsAt p) := by
  have hread : read p = .error f := (Message.ofRecord_eq_payload_iff hp).1 h
  have hstays (hr : f.reason.isEnd = false) (hrange : f.reason ≠ .numberOutOfRange) (q : Bytes)
      (r' : Record) (hq : r'.payload = some (p ++ q)) :
      ((Converter.json.convert r').run s).value = .error (.payload f) :=
    (Message.ofRecord_eq_payload_iff hq).2 (read_append_of_error hread hr hrange q)
  refine ⟨f.reason.isEnd_iff_message, hstays, endsAt_of_isEnd hread, exists_prefix_endsAt hread, ?_⟩
  intro hrange q r' m hq hm
  cases hr : f.reason.isEnd with
  | true => exact ⟨rfl, endsAt_of_isEnd hread hr⟩
  | false =>
    rw [hstays hr hrange q r' hq] at hm
    cases hm

/-- The list `[1,` and a line feed may go on with another element, and is blamed at its end; once
it has gone on with a bracket it is blamed there, whatever comes next. -/
theorem Converter.json_blame_comma :
    let r (p : Bytes) : Record := ⟨"orders", 0, 7, none, some p, none⟩
    (∀ q : Bytes, ((Converter.json.convert (r ([91, 49, 44, 10, 93] ++ q))).run ()).value =
        .error (.payload ⟨.trailingComma, 2, 1⟩)) ∧
      (∃ m, ((Converter.json.convert (r ([91, 49, 44, 10] ++ [50, 93]))).run ()).value = .ok m) ∧
      (⟨.endInValue, 2, 0⟩ : Fault).EndsAt [91, 49, 44, 10] := by
  intro r
  have hbracket := Converter.json_blame (r := r [91, 49, 44, 10, 93]) (f := ⟨.trailingComma, 2, 1⟩)
    () rfl rfl
  have hcomma := Converter.json_blame (r := r [91, 49, 44, 10]) (f := ⟨.endInValue, 2, 0⟩)
    () rfl rfl
  refine ⟨fun q => hbracket.2.1 rfl (by decide) q _ rfl, ⟨_, rfl⟩, ?_⟩
  exact (hcomma.2.2.2.2 (by decide) [50, 93] (r ([91, 49, 44, 10] ++ [50, 93])) _ rfl rfl).2

end TopicListeners
