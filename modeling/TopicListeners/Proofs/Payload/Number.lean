import TopicListeners.Proofs.Numeral.Rounding
import TopicListeners.Proofs.Payload.Grammar

/-!
# Reading numbers

The bytes that lead from the first digit of a number to a stage at which it may end are those of a
number as it is written, and the value is the one that it has.

* `Scaled.magnitude?_eq`: a scaled significand has the magnitude that the grammar gives it.
* `feed_power`: the digits of an exponent either make it fit, or do not matter, or are a fault.
* `exists_text`, `feed_text`: the two directions.
* `reading_iff`: **a number is read iff it is written and in range**.
-/

namespace TopicListeners.Payload

open Numeral Grammar

/-! ## Scaling -/

theorem one_le_units_power (k : Nat) : double.one ≤ double.units (double.ofNat (Nat.pow 10 k)) :=
  one_le_units_ofNat (Nat.pow_pos (by decide))

theorem divided_le (m n : Nat) : divided m n ≤ m := by
  unfold divided
  induction cut n generalizing m with
  | nil => exact Nat.le_refl m
  | cons k ks ih => exact Nat.le_trans (ih _) (Format.div_le precision_pos m (one_le_units_power k))

/-- A power of ten that is too large is cut at the largest one that is not. -/
theorem cut_of_lt {n : Nat} (h : 308 < n) : cut n = 308 :: cut (n - 308) := by
  have hparts : (n - 1) / 308 = (n - 308 - 1) / 308 + 1 := by omega
  have hrest : n - ((n - 308 - 1) / 308 + 1) * 308 = n - 308 - (n - 308 - 1) / 308 * 308 := by omega
  rw [cut, cut, hparts, hrest, List.replicate_succ]
  rfl

/-- **Shrinking a magnitude is dividing it.** -/
theorem shrink_eq (m n : Nat) : Scaled.shrink m n = divided m n := by
  have hmax : Scaled.maxPower = 308 := rfl
  fun_induction Scaled.shrink m n with
  | case1 m n h =>
    have hone : (n - 1) / 308 = 0 := Nat.div_eq_of_lt (by omega)
    rw [divided, cut, hone, Nat.zero_mul, Nat.sub_zero, List.replicate_zero, List.nil_append,
      List.foldl_cons, List.foldl_nil, Scaled.power]
  | case2 n h => exact (Nat.le_zero.1 (divided_le 0 n)).symm
  | case3 m n h hm ih =>
    rw [hmax] at ih h ⊢
    rw [ih, divided, divided, cut_of_lt (Nat.not_le.1 h), List.foldl_cons, Scaled.power]

/-- **A scaled significand has the magnitude that the grammar gives it.** -/
theorem Scaled.magnitude?_eq (s : Scaled) : s.magnitude? = scale? s.significand s.exponent := by
  obtain ⟨n, e⟩ := s
  have hmax : Scaled.maxPower = 308 := rfl
  cases e with
  | negSucc k =>
    show some (shrink (double.ofNat n) (k + 1)) = scale? n (.negSucc k)
    rw [shrink_eq, scale?, if_pos (Int.negSucc_lt_zero k), Int.natAbs_negSucc]
  | ofNat k =>
    have hsign : ¬ Int.ofNat k < 0 := Int.not_lt.2 (Int.natCast_nonneg k)
    have hfits : 308 < Int.ofNat k ↔ ¬ k ≤ 308 := by
      rw [Int.ofNat_eq_natCast]
      omega
    unfold magnitude? scale?
    dsimp only
    rw [if_neg hsign, hmax]
    by_cases hn : n = 0
    · rw [if_pos hn, hn, Format.ofNat_zero precision_pos, Format.zero_mul precision_pos]
      split <;> rfl
    · simp only [hn, hfits, ofNat_ne_zero hn, if_false, power]
      split <;> rfl

namespace Number

/-- The stage that bytes lead to, if all of them belong to the number. -/
def feed (s : Stage) : List UInt8 → Option Stage
  | [] => some s
  | b :: bs =>
    match step s b with
    | .more s => feed s bs
    | _ => none

theorem feed_append (s : Stage) (as bs : List UInt8) :
    feed s (as ++ bs) = (feed s as).bind fun s => feed s bs := by
  induction as generalizing s with
  | nil => rfl
  | cons a as ih =>
    simp only [List.cons_append, feed]
    cases step s a with
    | more s => exact ih s
    | ends => rfl
    | fault r => rfl

/-! ## Digits -/

@[simp] theorem digit?_digitByte (d : Fin 10) : digit? (digitByte d) = some d.val := by
  revert d
  decide

theorem exists_digitByte {b : UInt8} {n : Nat} (h : digit? b = some n) :
    ∃ d : Fin 10, b = digitByte d ∧ n = d := by
  unfold digit? at h
  split at h
  · rename_i hb
    simp only [UInt8.le_iff_toNat_le, UInt8.reduceToNat] at hb
    refine ⟨⟨b.toNat - 48, by omega⟩, ?_, by simpa using h.symm⟩
    rw [digitByte, Nat.add_sub_cancel' hb.1, UInt8.ofNat_toNat]
  · simp at h

theorem step_digit (s : Stage) (d : Fin 10) : step s (digitByte d) = digitStep s d := by
  rw [step, digit?_digitByte]

theorem step_other (s : Stage) {b : UInt8} (h : digit? b = none) : step s b = otherStep s b := by
  rw [step, h]

/-- Digits come first, up to a byte that is none. -/
theorem exists_digits (bs : List UInt8) :
    ∃ (ds : List (Fin 10)) (rest : List UInt8), bs = ds.map digitByte ++ rest ∧
      ∀ b ∈ rest.head?, digit? b = none := by
  induction bs with
  | nil => exact ⟨[], [], rfl, by simp⟩
  | cons b bs ih =>
    cases hb : digit? b with
    | none => exact ⟨[], b :: bs, rfl, by simpa using hb⟩
    | some n =>
      obtain ⟨d, rfl, -⟩ := exists_digitByte hb
      obtain ⟨ds, rest, rfl, hrest⟩ := ih
      exact ⟨d :: ds, rest, rfl, hrest⟩

/-! ## Whole digits -/

/-- The stage after a first digit. -/
def first (d : Fin 10) : Stage := if d = 0 then .zero else .whole d

theorem step_minus (d : Fin 10) : step .minus (digitByte d) = .more (first d) := by
  revert d
  decide

/-- The stage after whole digits that are taken as far as they fit. -/
def wholeStage (w : Nat × List (Fin 10)) : Stage :=
  if w.2 = [] then .whole w.1 else .long ⟨w.1, w.2.length⟩

theorem feed_long (s : Scaled) (ds : List (Fin 10)) :
    feed (.long s) (ds.map digitByte) =
      some (.long ⟨s.significand, s.exponent + ds.length⟩) := by
  induction ds generalizing s with
  | nil => simp [feed]
  | cons d ds ih =>
    simp only [List.map_cons, feed, step_digit, digitStep, ih, List.length_cons]
    congr 3
    omega

theorem gather_of_le {n : Nat} {d : Fin 10} (h : n * 10 + d ≤ significandLimit)
    (ds : List (Fin 10)) : gather n (d :: ds) = gather (n * 10 + d) ds := if_pos h

theorem gather_of_not_le {n : Nat} {d : Fin 10} (h : ¬ n * 10 + d ≤ significandLimit)
    (ds : List (Fin 10)) : gather n (d :: ds) = (n, d :: ds) := if_neg h

theorem feed_whole (n : Nat) (ds : List (Fin 10)) :
    feed (.whole n) (ds.map digitByte) = some (wholeStage (gather n ds)) := by
  induction ds generalizing n with
  | nil => rfl
  | cons d ds ih =>
    simp only [List.map_cons, feed, step_digit, digitStep, addWhole]
    -- from the first digit that does not fit, all are counted and none is taken
    by_cases h : n * 10 + d ≤ significandLimit
    · rw [if_pos h, gather_of_le h]
      exact ih _
    · rw [if_neg h, gather_of_not_le h, feed_long]
      simp only [wholeStage, List.cons_ne_nil, if_false, List.length_cons]
      congr 3
      omega

/-- The stage after the whole digits of a number. -/
def leading (x : NumberText) : Stage := if x.whole = [0] then .zero else wholeStage x.wholes

theorem feed_first {x : NumberText} {d : Fin 10} {ds : List (Fin 10)} (h : x.whole = d :: ds) :
    feed (first d) (ds.map digitByte) = some (leading x) := by
  have hwhole := x.whole_eq
  rw [h] at hwhole
  -- a zero stands alone, so the first digit tells which stage all of them lead to
  rcases hwhole with hzero | ⟨d', ds', heq, hd⟩
  · obtain ⟨rfl, rfl⟩ := List.cons.inj hzero
    rw [leading, if_pos h]
    rfl
  · obtain ⟨rfl, rfl⟩ := List.cons.inj heq
    have hne : x.whole ≠ [0] := by
      rw [h]
      rintro hz
      exact hd (List.cons.inj hz).1
    have hwholes : x.wholes = gather d ds := by
      rw [NumberText.wholes, h, gather_of_le (by rw [significandLimit]; omega), Nat.zero_mul,
        Nat.zero_add]
    rw [first, if_neg hd, feed_whole, leading, if_neg hne, hwholes]

/-- Only a zero of its own starts with a zero. -/
theorem whole_of_feed_first {d : Fin 10} {ds : List (Fin 10)} {s : Stage}
    (h : feed (first d) (ds.map digitByte) = some s) :
    d :: ds = [0] ∨ ∃ d' ds', d :: ds = d' :: ds' ∧ d' ≠ 0 := by
  by_cases hd : d = 0
  · subst hd
    cases ds with
    | nil => exact .inl rfl
    | cons e ds => simp [feed, first, step_digit, digitStep] at h
  · exact .inr ⟨d, ds, rfl, hd⟩

/-- The whole digits of a number as a scaled significand. -/
def wholeScaled (x : NumberText) : Scaled := ⟨x.wholes.1, x.wholes.2.length⟩

theorem wholes_of_zero {x : NumberText} (h : x.whole = [0]) : x.wholes = (0, []) := by
  rw [NumberText.wholes, h]
  rfl

theorem step_leading (x : NumberText) {b : UInt8} (hb : digit? b = none) :
    step (leading x) b = afterWhole (wholeScaled x) b := by
  unfold leading
  split
  · rename_i hzero
    rw [wholeScaled, wholes_of_zero hzero]
    simp [step_other _ hb, otherStep]
  · unfold wholeStage
    split
    · rename_i hfits
      simp [step_other _ hb, otherStep, wholeScaled, hfits]
    · simp [step_other _ hb, otherStep, wholeScaled]

/-! ## Digits after the point -/

/-- A scaled significand with digits after the point, as far as they fit. -/
def withFraction (s : Scaled) (fs : List (Fin 10)) : Scaled :=
  ⟨(gather s.significand fs).1,
    s.exponent - (fs.length - (gather s.significand fs).2.length : Int)⟩

theorem scaled_eq (x : NumberText) : x.scaled = withFraction (wholeScaled x) x.fraction := rfl

theorem scaled_of_nil {x : NumberText} (h : x.fraction = []) : x.scaled = wholeScaled x := by
  simp [scaled_eq, h, withFraction, gather]

/-- The stage after digits that come after the point. -/
def fractionStage (s : Scaled) (fs : List (Fin 10)) : Stage :=
  if (gather s.significand fs).2 = [] then .fraction (withFraction s fs)
  else .spilled (withFraction s fs)

theorem feed_spilled (s : Scaled) (fs : List (Fin 10)) :
    feed (.spilled s) (fs.map digitByte) = some (.spilled s) := by
  induction fs with
  | nil => rfl
  | cons f fs ih => simp only [List.map_cons, feed, step_digit, digitStep, ih]

/-- One digit after the point and more of them. -/
theorem feed_addFraction {s : Scaled} {f : Fin 10} {fs : List (Fin 10)}
    (ih : ∀ s, feed (.fraction s) (fs.map digitByte) = some (fractionStage s fs)) :
    feed (addFraction s f) (fs.map digitByte) = some (fractionStage s (f :: fs)) := by
  unfold addFraction
  by_cases h : s.significand * 10 + f ≤ significandLimit
  · rw [if_pos h, ih]
    simp only [fractionStage, withFraction, gather_of_le h, List.length_cons]
    congr 4 <;> omega
  · rw [if_neg h, feed_spilled]
    simp only [fractionStage, withFraction, gather_of_not_le h, List.cons_ne_nil, if_false,
      List.length_cons, Int.sub_self, Int.sub_zero]

theorem feed_fraction (s : Scaled) (fs : List (Fin 10)) :
    feed (.fraction s) (fs.map digitByte) = some (fractionStage s fs) := by
  induction fs generalizing s with
  | nil => simp [feed, fractionStage, withFraction, gather]
  | cons f fs ih =>
    simp only [List.map_cons, feed, step_digit, digitStep]
    exact feed_addFraction ih

theorem feed_point (s : Scaled) {fs : List (Fin 10)} (h : fs ≠ []) :
    feed (.point s) (fs.map digitByte) = some (fractionStage s fs) := by
  cases fs with
  | nil => exact absurd rfl h
  | cons f fs =>
    simp only [List.map_cons, feed, step_digit, digitStep]
    exact feed_addFraction (feed_fraction · fs)

/-- The stage before the exponent of a number. -/
def mantissa (x : NumberText) : Stage :=
  if x.fraction = [] then leading x else fractionStage (wholeScaled x) x.fraction

theorem feed_leading (x : NumberText) : feed (leading x) x.fractionBytes = some (mantissa x) := by
  unfold mantissa NumberText.fractionBytes
  split
  · rfl
  · rename_i hne
    have hpoint : step (leading x) 46 = .more (.point (wholeScaled x)) := step_leading x rfl
    simp only [feed, hpoint]
    exact feed_point _ hne

theorem step_mantissa (x : NumberText) {b : UInt8} (hb : digit? b = none)
    (h : b ≠ 46 ∨ x.fraction ≠ []) : step (mantissa x) b = afterFraction x.scaled b := by
  unfold mantissa
  split
  · rename_i hnil
    rw [step_leading x hb, scaled_of_nil hnil, afterWhole, if_neg (h.resolve_right (absurd hnil))]
    rfl
  · unfold fractionStage
    split <;> simp [step_other _ hb, otherStep, scaled_eq]

/-! ## Exponents -/

/-- A number with more digits. -/
def withDigits (n : Nat) (ds : List (Fin 10)) : Nat :=
  ds.foldl (fun (n : Nat) (d : Fin 10) => n * 10 + d) n

theorem digit_le_exponentLimit (d : Fin 10) : d.val ≤ exponentLimit :=
  Nat.le_trans (Nat.le_of_lt d.isLt) (by decide)

theorem le_withDigits (n : Nat) (ds : List (Fin 10)) : n ≤ withDigits n ds := by
  induction ds generalizing n with
  | nil => exact Nat.le_refl n
  | cons d ds ih => exact Nat.le_trans (by omega) (ih (n * 10 + d))

/-- The stage after digits of an exponent. -/
def powerStage (s : Scaled) (down : Bool) (n : Nat) : Stage :=
  if n ≤ exponentLimit then .power s down n else .vanished

theorem powerStage_of_le {s : Scaled} {down : Bool} {n : Nat} (h : n ≤ exponentLimit) :
    powerStage s down n = .power s down n := if_pos h

theorem powerStage_of_not_le {s : Scaled} {down : Bool} {n : Nat} (h : ¬ n ≤ exponentLimit) :
    powerStage s down n = .vanished := if_neg h

/-- Whether an exponent, however large, leaves a number in range. -/
def Harmless (s : Scaled) (down : Bool) (n : Nat) : Prop :=
  n ≤ exponentLimit ∨ s.significand = 0 ∨ down = true

theorem feed_vanished (ds : List (Fin 10)) :
    feed .vanished (ds.map digitByte) = some .vanished := by
  induction ds with
  | nil => rfl
  | cons d ds ih => simp only [List.map_cons, feed, step_digit, digitStep, ih]

/-- **The digits of an exponent** are a fault iff it is too large and makes the number larger. -/
theorem feed_power {s : Scaled} {down : Bool} {n : Nat} (hn : n ≤ exponentLimit)
    (ds : List (Fin 10)) (t : Stage) :
    feed (.power s down n) (ds.map digitByte) = some t ↔
      Harmless s down (withDigits n ds) ∧ t = powerStage s down (withDigits n ds) := by
  induction ds generalizing n with
  | nil =>
    have hharmless : Harmless s down n := .inl hn
    simp [feed, withDigits, hharmless, powerStage_of_le hn, eq_comm]
  | cons d ds ih =>
    simp only [List.map_cons, feed, step_digit, digitStep, addPower]
    change _ ↔ Harmless s down (withDigits (n * 10 + d) ds) ∧
      t = powerStage s down (withDigits (n * 10 + d) ds)
    by_cases h : n * 10 + d ≤ exponentLimit
    · simp only [if_pos h]
      exact ih h
    · have hlarge : ¬ withDigits (n * 10 + d) ds ≤ exponentLimit := by
        have := le_withDigits (n * 10 + d) ds
        omega
      simp only [if_neg h]
      -- too large for good: either a fault now, or nothing that follows matters
      by_cases hfault : s.significand ≠ 0 ∧ down = false
      · have hharmful : ¬ Harmless s down (withDigits (n * 10 + d) ds) := by
          rintro (h | h | h)
          · exact hlarge h
          · exact hfault.1 h
          · simp [hfault.2] at h
        simp [if_pos hfault, hharmful]
      · have hharmless : Harmless s down (withDigits (n * 10 + d) ds) := by
          refine .inr (Decidable.byContradiction fun h => hfault ?_)
          simpa using h
        simp [if_neg hfault, feed_vanished, hharmless, powerStage_of_not_le hlarge, eq_comm]

theorem feed_exponentText (s : Scaled) (e : ExponentText) (t : Stage) :
    feed (.mark s) (e.signBytes ++ e.digits.map digitByte) = some t ↔
      Harmless s e.down e.magnitude ∧ t = powerStage s e.down e.magnitude := by
  obtain ⟨capital, sign, digits, hne⟩ := e
  cases digits with
  | nil => exact absurd rfl hne
  | cons d ds =>
    have hd : d.val ≤ exponentLimit := digit_le_exponentLimit d
    have hmagnitude : ExponentText.magnitude ⟨capital, sign, d :: ds, hne⟩ = withDigits d ds := by
      simp [ExponentText.magnitude, withDigits]
    rw [hmagnitude]
    -- the sign only says which way the digits count
    match sign with
    | none =>
      simpa [ExponentText.signBytes, feed, step_digit, digitStep, ExponentText.down]
        using feed_power hd ds t
    | some false =>
      have hplus : digit? 43 = none := rfl
      simpa [ExponentText.signBytes, feed, step_digit, step_other _ hplus, digitStep, otherStep,
        ExponentText.down] using feed_power hd ds t
    | some true =>
      have hminus : digit? 45 = none := rfl
      simpa [ExponentText.signBytes, feed, step_digit, step_other _ hminus, digitStep, otherStep,
        ExponentText.down] using feed_power hd ds t

/-! ## Whole numbers -/

theorem integer_eq (negative : Bool) (n : Nat) : integer negative n = wholeValue negative n := by
  unfold integer wholeValue negativeLimit
  cases negative <;> simp

theorem real_eq_ok {negative : Bool} {s : Scaled} {v : Value} :
    real negative s = .ok v ↔ (scale? s.significand s.exponent).map
      (fun m => Value.real (.ofMagnitude negative m)) = some v := by
  rw [real, s.magnitude?_eq]
  cases scale? s.significand s.exponent <;> simp

theorem finish_mantissa {x : NumberText} (h : x.exponent = none) {v : Value} :
    finish x.negative (mantissa x) = .ok v ↔ x.value? = some v := by
  unfold NumberText.value? mantissa
  rw [h]
  dsimp only
  by_cases hfraction : x.fraction = []
  · rw [if_pos hfraction, scaled_of_nil hfraction, leading]
    by_cases hzero : x.whole = [0]
    · simp [hzero, wholes_of_zero hzero, hfraction, finish, integer_eq]
    · rw [if_neg hzero, wholeStage]
      by_cases hfits : x.wholes.2 = []
      · simp [hfits, hfraction, finish, integer_eq]
      · rw [if_neg hfits, if_neg fun h => hfits h.2]
        exact real_eq_ok
  · rw [if_neg hfraction, if_neg fun h => hfraction h.1]
    unfold fractionStage
    split <;> exact real_eq_ok

theorem finish_power {x : NumberText} {e : ExponentText} (h : x.exponent = some e) {v : Value} :
    (Harmless x.scaled e.down e.magnitude ∧
      finish x.negative (powerStage x.scaled e.down e.magnitude) = .ok v) ↔ x.value? = some v := by
  unfold NumberText.value? powerStage Harmless
  rw [h]
  dsimp only
  change _ ↔ (if e.magnitude ≤ exponentLimit then _ else _) = some v
  by_cases hfits : e.magnitude ≤ exponentLimit
  · simp only [hfits, if_true, true_or, true_and]
    exact real_eq_ok
  · simp only [hfits, if_false, false_or, finish]
    split <;> simp_all

/-- **The bytes after the first digit of a number** lead to its end iff it is in range. -/
theorem feed_text {x : NumberText} {d : Fin 10} {ds : List (Fin 10)} (h : x.whole = d :: ds)
    {v : Value} :
    (∃ s, feed (first d) (ds.map digitByte ++ x.fractionBytes ++ x.exponentBytes) = some s ∧
      finish x.negative s = .ok v) ↔ x.value? = some v := by
  simp only [feed_append, feed_first h, feed_leading, Option.bind_some]
  unfold NumberText.exponentBytes
  -- the mark of an exponent is no digit and no point, so the mantissa hands over to it
  cases he : x.exponent with
  | none => simp [feed, finish_mantissa he]
  | some e =>
    have hmark : step (mantissa x) e.mark = .more (.mark x.scaled) := by
      have hb : e.mark = 101 ∨ e.mark = 69 := by
        unfold ExponentText.mark
        split <;> simp
      have hdigit : digit? e.mark = none ∧ e.mark ≠ 46 := by
        rcases hb with hb | hb <;> rw [hb] <;> decide
      rw [step_mantissa x hdigit.1 (.inl hdigit.2), afterFraction, if_pos hb]
    simp only [Option.map_some, Option.getD_some, ExponentText.text, List.cons_append, feed, hmark,
      feed_exponentText]
    rw [← finish_power he]
    constructor
    · rintro ⟨s, ⟨hharmless, rfl⟩, hfinish⟩
      exact ⟨hharmless, hfinish⟩
    · rintro ⟨hharmless, hfinish⟩
      exact ⟨_, ⟨hharmless, rfl⟩, hfinish⟩

/-! ## What has been read -/

/-- Nothing but digits comes after a digit of an exponent. -/
theorem digits_of_power {s : Scaled} {down : Bool} {d : Fin 10} {bs : List UInt8} {t : Stage}
    (h : feed (.power s down d) bs = some t) : ∃ ds : List (Fin 10), bs = ds.map digitByte := by
  obtain ⟨ds, rest, rfl, hrest⟩ := exists_digits bs
  rw [feed_append, Option.bind_eq_some_iff] at h
  obtain ⟨u, hu, h⟩ := h
  cases rest with
  | nil => exact ⟨ds, List.append_nil _⟩
  | cons b rest =>
    obtain ⟨-, rfl⟩ := (feed_power (digit_le_exponentLimit d) ds u).1 hu
    have hb : digit? b = none := hrest b rfl
    unfold powerStage at h
    split at h <;> simp [feed, step_other _ hb, otherStep] at h

variable {negative : Bool} {v : Value}

theorem digits_of_signed {s : Scaled} {down : Bool} {bs : List UInt8} {t : Stage}
    (h : feed (.signed s down) bs = some t) (hv : finish negative t = .ok v) :
    ∃ ds : List (Fin 10), ds ≠ [] ∧ bs = ds.map digitByte := by
  cases bs with
  | nil =>
    obtain rfl : Stage.signed s down = t := by simpa [feed] using h
    simp [finish] at hv
  | cons b bs =>
    cases hb : digit? b with
    | none => simp [feed, step_other _ hb, otherStep] at h
    | some n =>
      obtain ⟨d, rfl, rfl⟩ := exists_digitByte hb
      simp only [feed, step_digit, digitStep] at h
      obtain ⟨ds, rfl⟩ := digits_of_power h
      exact ⟨d :: ds, List.cons_ne_nil _ _, rfl⟩

theorem exists_exponentText {s : Scaled} {b : UInt8} (hb : b = 101 ∨ b = 69) {bs : List UInt8}
    {t : Stage} (h : feed (.mark s) bs = some t) (hv : finish negative t = .ok v) :
    ∃ e : ExponentText, b :: bs = e.text := by
  obtain ⟨capital, rfl⟩ : ∃ capital : Bool, b = if capital then 69 else 101 := by
    rcases hb with rfl | rfl
    · exact ⟨false, rfl⟩
    · exact ⟨true, rfl⟩
  cases bs with
  | nil =>
    obtain rfl : Stage.mark s = t := by simpa [feed] using h
    simp [finish] at hv
  | cons c bs =>
    cases hc : digit? c with
    | some n =>
      obtain ⟨d, rfl, rfl⟩ := exists_digitByte hc
      simp only [feed, step_digit, digitStep] at h
      obtain ⟨ds, rfl⟩ := digits_of_power h
      exact ⟨⟨capital, none, d :: ds, List.cons_ne_nil _ _⟩, rfl⟩
    | none =>
      simp only [feed, step_other _ hc, otherStep] at h
      by_cases hplus : c = 43
      · rw [if_pos hplus] at h
        obtain ⟨ds, hne, rfl⟩ := digits_of_signed h hv
        exact ⟨⟨capital, some false, ds, hne⟩, by rw [hplus]; rfl⟩
      · by_cases hminus : c = 45
        · rw [if_neg hplus, if_pos hminus] at h
          obtain ⟨ds, hne, rfl⟩ := digits_of_signed h hv
          exact ⟨⟨capital, some true, ds, hne⟩, by rw [hminus]; rfl⟩
        · simp [if_neg hplus, if_neg hminus] at h

/-- The exponent after a mantissa, if there is one. -/
theorem exists_exponent {x : NumberText} {bs : List UInt8}
    (hbs : ∀ b ∈ bs.head?, digit? b = none ∧ (b ≠ 46 ∨ x.fraction ≠ [])) {t : Stage}
    (h : feed (mantissa x) bs = some t) (hv : finish negative t = .ok v) :
    ∃ e : Option ExponentText, bs = (e.map ExponentText.text).getD [] := by
  cases bs with
  | nil => exact ⟨none, rfl⟩
  | cons b bs =>
    obtain ⟨hb, hpoint⟩ := hbs b rfl
    simp only [feed, step_mantissa x hb hpoint, afterFraction] at h
    by_cases hmark : b = 101 ∨ b = 69
    · rw [if_pos hmark] at h
      obtain ⟨e, he⟩ := exists_exponentText hmark h hv
      exact ⟨some e, he⟩
    · simp [if_neg hmark] at h

/-- **A number that may end is one that is written.** -/
theorem exists_text {d : Fin 10} {bs : List UInt8} {t : Stage} (h : feed (first d) bs = some t)
    (hv : finish negative t = .ok v) :
    ∃ (x : NumberText) (ds : List (Fin 10)), x.negative = negative ∧ x.whole = d :: ds ∧
      bs = ds.map digitByte ++ x.fractionBytes ++ x.exponentBytes := by
  -- the digits that come first are all of the whole digits
  obtain ⟨ds, rest, rfl, hrest⟩ := exists_digits bs
  rw [feed_append, Option.bind_eq_some_iff] at h
  obtain ⟨u, hu, h⟩ := h
  let x : NumberText := ⟨negative, d :: ds, [], none, whole_of_feed_first hu⟩
  have hleading : u = leading x := Option.some.inj (hu.symm.trans (feed_first rfl))
  rw [hleading] at h
  by_cases hpoint : rest.head? = some 46
  · -- after a point there is a fraction, and then perhaps an exponent
    obtain ⟨rest, rfl⟩ : ∃ bs, rest = 46 :: bs := by
      cases rest with
      | nil => simp at hpoint
      | cons b bs => exact ⟨bs, by simpa using hpoint⟩
    have hstep : step (leading x) 46 = .more (.point (wholeScaled x)) := step_leading x rfl
    simp only [feed, hstep] at h
    obtain ⟨fs, rest, rfl, hend⟩ := exists_digits rest
    by_cases hfs : fs = []
    · subst hfs
      cases rest with
      | nil =>
        obtain rfl : Stage.point (wholeScaled x) = t := by simpa [feed] using h
        simp [finish] at hv
      | cons b rest =>
        have hb : digit? b = none := hend b rfl
        simp [feed, step_other _ hb, otherStep] at h
    · let y : NumberText := ⟨negative, d :: ds, fs, none, x.whole_eq⟩
      have hmantissa : fractionStage (wholeScaled x) fs = mantissa y := by
        rw [mantissa, if_neg hfs]
        rfl
      rw [feed_append, feed_point _ hfs, Option.bind_some, hmantissa] at h
      obtain ⟨e, rfl⟩ := exists_exponent (x := y) (fun b hb => ⟨hend b hb, .inr hfs⟩) h hv
      refine ⟨⟨negative, d :: ds, fs, e, x.whole_eq⟩, ds, rfl, rfl, ?_⟩
      simp [NumberText.fractionBytes, NumberText.exponentBytes, hfs]
  · have hmantissa : leading x = mantissa x := rfl
    rw [hmantissa] at h
    obtain ⟨e, rfl⟩ := exists_exponent (x := x)
      (fun b hb => ⟨hrest b hb, .inl fun h46 => hpoint (h46 ▸ hb)⟩) h hv
    refine ⟨⟨negative, d :: ds, [], e, x.whole_eq⟩, ds, rfl, rfl, ?_⟩
    simp [NumberText.fractionBytes, NumberText.exponentBytes]

/-- **What has been read of a number**: its minus sign, or a first digit and bytes that lead on. -/
inductive Reading (negative : Bool) : List UInt8 → Stage → Prop
  | minus (h : negative = true) : Reading negative [45] .minus
  | digits (d : Fin 10) {bs : List UInt8} {s : Stage} (h : feed (first d) bs = some s) :
    Reading negative ((if negative then [45] else []) ++ digitByte d :: bs) s

namespace Reading

theorem step {bs : List UInt8} {s t : Stage} {b : UInt8} (h : Reading negative bs s)
    (hb : Number.step s b = .more t) : Reading negative (bs ++ [b]) t := by
  cases h with
  | minus h =>
    subst h
    cases hd : digit? b with
    | none => simp [step_other _ hd, otherStep] at hb
    | some n =>
      obtain ⟨d, rfl, rfl⟩ := exists_digitByte hd
      rw [step_minus, Step.more.injEq] at hb
      rw [← hb]
      exact digits d rfl
  | @digits d bs s h =>
    have hfeed : feed (first d) (bs ++ [b]) = some t := by
      rw [feed_append, h]
      simp [feed, hb]
    simpa using digits d hfeed

end Reading

/-- **A number is read iff it is written** and in range. -/
theorem reading_iff {bs : List UInt8} :
    (∃ s, Reading negative bs s ∧ finish negative s = .ok v) ↔
      ∃ x : NumberText, x.negative = negative ∧ x.text = bs ∧ x.value? = some v := by
  constructor
  · rintro ⟨s, h, hv⟩
    cases h with
    | minus h => simp [finish] at hv
    | digits d h =>
      obtain ⟨x, ds, rfl, hwhole, rfl⟩ := exists_text h hv
      refine ⟨x, rfl, ?_, (feed_text hwhole).1 ⟨s, h, hv⟩⟩
      simp [NumberText.text, NumberText.signBytes, hwhole]
  · rintro ⟨x, rfl, rfl, hv⟩
    obtain ⟨d, ds, hwhole⟩ : ∃ d ds, x.whole = d :: ds := by
      rcases x.whole_eq with h | ⟨d, ds, h, -⟩
      · exact ⟨0, [], h⟩
      · exact ⟨d, ds, h⟩
    obtain ⟨s, hs, hfinish⟩ := (feed_text hwhole).2 hv
    refine ⟨s, ?_, hfinish⟩
    have hreading := @Reading.digits x.negative d _ s hs
    simpa [NumberText.text, NumberText.signBytes, hwhole] using hreading

end Number

end TopicListeners.Payload
