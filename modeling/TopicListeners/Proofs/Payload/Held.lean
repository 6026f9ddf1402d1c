import TopicListeners.Proofs.Payload.Rendering

/-!
# Values that payloads hold

What is written in a payload is a value of a certain form, whatever the payload: whole numbers of 64
bits, finite reals, the members of every object in the order of their keys, and not too many arrays
and objects around anything.

* `scale?_lt`: a scaled number is finite if it is in range.
* `NumberText.IsWhole`: the numbers that are taken exactly.
* `NumberText.value?_eq`: **a number is exactly what is written, or else a finite real.**
* `Writes.held`: **what is written holds no values but such.**
-/

namespace TopicListeners

/-! ## Finite reals -/

theorem Numeral.Double.isFinite_ofMagnitude (negative : Bool) {m : Nat}
    (h : m < double.infinity) : (ofMagnitude negative m).isFinite = true := by
  have hlimit : m < signBit := Nat.lt_trans h (by decide)
  have hmagnitude : (ofMagnitude negative m).magnitude = m := by
    unfold magnitude ofMagnitude
    unfold signBit at hlimit ⊢
    rw [UInt64.toNat_ofNat']
    cases negative <;> simp <;> omega
  unfold isFinite
  rw [hmagnitude]
  exact decide_eq_true h

namespace Payload

open Numeral Grammar

/-- **A scaled number is finite** if it is in range. -/
theorem Grammar.scale?_lt {n m : Nat} {e : Int} (hn : n ≤ Number.significandLimit)
    (h : scale? n e = some m) : m < double.infinity := by
  unfold scale? at h
  dsimp only at h
  split_ifs at h with hdown hzero hup hfinite
  · exact Option.some.inj h ▸ Nat.lt_of_le_of_lt (divided_le _ _) (ofNat_lt_infinity hn)
  · exact Option.some.inj h ▸ (by decide)
  · -- a product is looked at before it is taken
    exact Option.some.inj h ▸ hfinite

/-! ## Numbers -/

theorem gather_le {n : Nat} (h : n ≤ Number.significandLimit) (ds : List (Fin 10)) :
    (gather n ds).1 ≤ Number.significandLimit := by
  induction ds generalizing n with
  | nil => exact h
  | cons d ds ih =>
    by_cases hd : n * 10 + d ≤ Number.significandLimit
    · rw [Number.gather_of_le hd]
      exact ih hd
    · rwa [Number.gather_of_not_le hd]

/-- Digits are all taken iff the number that they make fits 64 bits. -/
theorem gather_snd_eq_nil_iff {n : Nat} (h : n ≤ Number.significandLimit) {ds : List (Fin 10)} :
    (gather n ds).2 = [] ↔ Number.withDigits n ds ≤ Number.significandLimit := by
  refine ⟨fun hds => ?_, fun hfits => by rw [gather_eq hfits]⟩
  induction ds generalizing n with
  | nil => exact h
  | cons d ds ih =>
    by_cases hd : n * 10 + d ≤ Number.significandLimit
    · rw [Number.gather_of_le hd] at hds
      exact ih hd hds
    · rw [Number.gather_of_not_le hd] at hds
      cases hds

namespace Grammar.NumberText

/-- The number that the whole digits and the sign make. -/
def integer (x : NumberText) : Int :=
  if x.negative then -(Number.withDigits 0 x.whole : Int) else Number.withDigits 0 x.whole

/-- **The numbers that are taken exactly**: no fraction, no exponent, not minus zero, and 64 bits are
enough. -/
structure IsWhole (x : NumberText) : Prop where
  fraction_eq : x.fraction = []
  exponent_eq : x.exponent = none
  ne_zero : x.negative = true → x.integer ≠ 0
  ge : -9223372036854775808 ≤ x.integer
  le : x.integer ≤ 18446744073709551615

variable {x : NumberText} {v : Value}

theorem significand_le (x : NumberText) : x.scaled.significand ≤ Number.significandLimit :=
  gather_le (gather_le (Nat.zero_le _) _) _

theorem wholes_eq (h : x.wholes.2 = []) : x.wholes.1 = Number.withDigits 0 x.whole := by
  have hfits := (gather_snd_eq_nil_iff (Nat.zero_le _)).1 h
  rw [wholes, gather_eq hfits]

/-- A number of more whole digits than fit is out of range. -/
theorem IsWhole.wholes_eq_nil (h : x.IsWhole) : x.wholes.2 = [] := by
  refine (gather_snd_eq_nil_iff (Nat.zero_le _)).2 ?_
  have hge := h.ge
  have hle := h.le
  unfold integer at hge hle
  rw [Number.significandLimit]
  split_ifs at hge hle <;> omega

/-- Digits that fit make a whole number that is taken exactly, or a real. -/
theorem wholeValue_eq (hfraction : x.fraction = []) (hexponent : x.exponent = none)
    (hwholes : x.wholes.2 = []) :
    (x.IsWhole ∧ wholeValue x.negative x.wholes.1 = .whole x.integer) ∨
      ¬ x.IsWhole ∧ ∃ n ≤ Number.significandLimit,
        wholeValue x.negative x.wholes.1 = .real (.ofMagnitude true (double.ofNat n)) := by
  have hlimit : x.wholes.1 ≤ Number.significandLimit := gather_le (Nat.zero_le _) _
  have hbound : x.wholes.1 ≤ 18446744073709551615 := hlimit
  have hinteger : x.integer = if x.negative then -(x.wholes.1 : Int) else x.wholes.1 := by
    rw [integer, wholes_eq hwholes]
  by_cases hreal : x.negative = true ∧ (x.wholes.1 = 0 ∨ 9223372036854775808 < x.wholes.1)
  · refine .inr ⟨?_, x.wholes.1, hlimit, if_pos hreal⟩
    rintro ⟨-, -, hne, hge, -⟩
    have hne := hne hreal.1
    rw [if_pos hreal.1] at hinteger
    omega
  · have hfits (hnegative : x.negative = true) :
        ¬ (x.wholes.1 = 0 ∨ 9223372036854775808 < x.wholes.1) := fun h => hreal ⟨hnegative, h⟩
    refine .inl ⟨⟨hfraction, hexponent, fun hnegative => ?_, ?_, ?_⟩, ?_⟩
    · have hfits := hfits hnegative
      rw [if_pos hnegative] at hinteger
      omega
    · split_ifs at hinteger with hnegative
      · have hfits := hfits hnegative
        omega
      · omega
    · split_ifs at hinteger <;> omega
    · rw [wholeValue, if_neg hreal, hinteger]

/-- A real number that is written is finite. -/
theorem isFinite_of_scale? {n : Nat} {e : Int} (hn : n ≤ Number.significandLimit) {negative : Bool}
    (h : ((scale? n e).map fun m => Value.real (.ofMagnitude negative m)) = some v) :
    ∃ y, v = .real y ∧ y.isFinite = true := by
  obtain ⟨m, hm, rfl⟩ := Option.map_eq_some_iff.1 h
  exact ⟨_, rfl, Double.isFinite_ofMagnitude negative (scale?_lt hn hm)⟩

/-- **A number is exactly what is written, or else a finite real.** -/
theorem value?_eq (h : x.value? = some v) :
    (x.IsWhole ∧ v = .whole x.integer) ∨
      ¬ x.IsWhole ∧ ∃ y, v = .real y ∧ y.isFinite = true := by
  unfold value? at h
  cases hexponent : x.exponent with
  | none =>
    simp only [hexponent] at h
    split_ifs at h with hfits
    · obtain rfl := Option.some.inj h
      rcases wholeValue_eq hfits.1 hexponent hfits.2 with hwhole | ⟨hnot, n, hn, hreal⟩
      · exact .inl hwhole
      · exact .inr ⟨hnot, _, hreal, Double.isFinite_ofMagnitude _ (ofNat_lt_infinity hn)⟩
    · have hnot : ¬ x.IsWhole := fun hwhole => hfits ⟨hwhole.fraction_eq, hwhole.wholes_eq_nil⟩
      exact .inr ⟨hnot, isFinite_of_scale? x.significand_le h⟩
  | some e =>
    have hnot : ¬ x.IsWhole := fun hwhole => by
      cases hexponent.symm.trans hwhole.exponent_eq
    refine .inr ⟨hnot, ?_⟩
    simp only [hexponent] at h
    by_cases hfits : e.magnitude ≤ 2147483647
    · rw [if_pos hfits] at h
      exact isFinite_of_scale? x.significand_le h
    · rw [if_neg hfits] at h
      split_ifs at h
      exact ⟨_, (Option.some.inj h).symm, Double.isFinite_ofMagnitude _ (by decide)⟩

end Grammar.NumberText

/-! ## Values -/

/-- **The values that a payload can hold**, with at most `d` arrays and objects around anything in
them. -/
inductive Value.Held : Nat → Value → Prop
  | null {d : Nat} : Held d .null
  | flag {d : Nat} {b : Bool} : Held d (.flag b)
  | whole {d : Nat} {n : Int} (hmin : -9223372036854775808 ≤ n)
    (hmax : n ≤ 18446744073709551615) : Held d (.whole n)
  | real {d : Nat} {y : Double} (h : y.isFinite = true) : Held d (.real y)
  | text {d : Nat} {s : String} : Held d (.text s)
  | array {d : Nat} {vs : List Value} (h : ∀ v ∈ vs, Held d v) : Held (d + 1) (.array vs)
  | object {d : Nat} {ms : Members} (hkeys : Dictionary.Ordered ms) (h : ∀ m ∈ ms, Held d m.2) :
    Held (d + 1) (.object ms)

theorem Grammar.NumberText.held {x : NumberText} {v : Value} (h : x.value? = some v) (d : Nat) :
    v.Held d := by
  rcases value?_eq h with ⟨hwhole, rfl⟩ | ⟨-, y, rfl, hy⟩
  · exact .whole hwhole.ge hwhole.le
  · exact .real hy

/-- What is written holds no values but such. -/
def Grammar.Phrase.Held (d : Nat) : Phrase → Prop
  | .value v | .element v | .member _ v => v.Held d
  | .items vs => ∀ v ∈ vs, v.Held d
  | .members ms => Dictionary.Ordered ms ∧ ∀ m ∈ ms, m.2.Held d

theorem held_set {d : Nat} {ms : Members} {key : String} {v : Value}
    (hms : (Phrase.members ms).Held d) (hv : v.Held d) :
    (Phrase.members (ms.set key v)).Held d := by
  refine ⟨Dictionary.ordered_set hms.1 key v, fun m hm => ?_⟩
  rcases Sorted.mem_of_mem_insert hm with rfl | hm
  · exact hv
  · exact hms.2 m hm

/-- Where something may be opened there is room for one more. -/
theorem exists_room {d e : Nat} (hd : d < 127) (hroom : d + e = 127) :
    ∃ k, e = k + 1 ∧ d + 1 + k = 127 := ⟨e - 1, by omega, by omega⟩

/-- **Every value that is written is held**, with `e` arrays and objects around anything if it is
written inside `d`. -/
theorem Grammar.Writes.held {d e : Nat} {p : Phrase} {bs : List UInt8} (h : Writes d p bs)
    (hroom : d + e = 127) : p.Held e := by
  -- an array or object takes one of the `e` and adds it to `d`
  induction h generalizing e with
  | null => exact .null
  | yes | no => exact .flag
  | number x hv => exact NumberText.held hv e
  | text => exact .text
  | emptyArray hd =>
    obtain ⟨e, rfl, -⟩ := exists_room hd hroom
    exact .array (List.forall_mem_nil _)
  | array hd _ ih =>
    obtain ⟨e, rfl, hinside⟩ := exists_room hd hroom
    exact .array fun v hv => ih hinside v (List.mem_reverse.1 hv)
  | emptyObject hd =>
    obtain ⟨e, rfl, -⟩ := exists_room hd hroom
    exact .object List.Pairwise.nil (List.forall_mem_nil _)
  | object hd _ ih =>
    obtain ⟨e, rfl, hinside⟩ := exists_room hd hroom
    obtain ⟨hkeys, hmembers⟩ := ih hinside
    exact .object hkeys hmembers
  | element _ _ _ ih => exact ih hroom
  | item _ ih => exact List.forall_mem_singleton.2 (ih hroom)
  | nextItem _ _ ihs ih => exact List.forall_mem_cons.2 ⟨ih hroom, ihs hroom⟩
  | member _ _ _ _ ih => exact ih hroom
  | firstMember _ ih =>
    have hnone : (Phrase.members []).Held e := ⟨List.Pairwise.nil, List.forall_mem_nil _⟩
    exact held_set hnone (ih hroom)
  | nextMember _ _ ihs ih => exact held_set (ihs hroom) (ih hroom)

end Payload

end TopicListeners
