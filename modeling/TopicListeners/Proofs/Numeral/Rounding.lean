import TopicListeners.Numeral.Binary
import Mathlib.Tactic.SplitIfs

/-!
# Rounding and order

A quotient is rounded to a magnitude on the same side of every magnitude as it is itself. So
magnitudes are ordered as the numbers are that they stand for, and results can be bounded without a
word on how they are rounded.

* `round_le_of_le`, `le_round_of_le`: **rounding keeps to the sides of magnitudes.**
* `lt_round_of_half_lt`: it goes up from halfway to the next magnitude on.
* `units_le_units`: magnitudes are ordered as the numbers are.
* `div_le`: a division by one or more makes nothing larger.
* `ofNat_lt_infinity`: whole numbers of 64 bits are finite in double precision.
-/

namespace TopicListeners.Numeral

/-! ## Whole quotients -/

variable {num den n : Nat}

theorem div_le_roundQuotient (num den : Nat) : num / den ≤ roundQuotient num den := by
  unfold roundQuotient
  split_ifs <;> omega

theorem le_roundQuotient (hden : 0 < den) (h : n * den ≤ num) : n ≤ roundQuotient num den :=
  Nat.le_trans ((Nat.le_div_iff_mul_le hden).2 h) (div_le_roundQuotient num den)

theorem roundQuotient_le (h : num ≤ n * den) : roundQuotient num den ≤ n := by
  have hle : num / den ≤ n := Nat.div_le_of_le_mul (by rwa [Nat.mul_comm])
  by_cases hrest : num % den = 0
  · have hexact : roundQuotient num den = num / den := by
      unfold roundQuotient
      rw [hrest]
      split_ifs with hdown hup
      · rfl
      · omega
      · -- nothing was divided
        obtain rfl : den = 0 := by omega
        simp
    rwa [hexact]
  · -- there is a rest, so that `n` is more than the whole part
    have hne : num / den ≠ n := by
      intro heq
      have hdiv := Nat.div_add_mod num den
      rw [heq, Nat.mul_comm] at hdiv
      omega
    unfold roundQuotient
    split_ifs <;> omega

theorem twoPow_add (a b : Nat) : Nat.pow 2 (a + b) = Nat.pow 2 a * Nat.pow 2 b := Nat.pow_add 2 a b

theorem twoPow_pos (a : Nat) : 0 < Nat.pow 2 a := Nat.two_pow_pos a

theorem lt_twoPow_log2 (n : Nat) : n < Nat.pow 2 (n.log2 + 1) := Nat.lt_log2_self

theorem log2_lt (hn : n ≠ 0) {k : Nat} : n.log2 < k ↔ n < Nat.pow 2 k := Nat.log2_lt hn

theorem twoPow_le_twoPow {a b : Nat} (h : a ≤ b) : Nat.pow 2 a ≤ Nat.pow 2 b :=
  Nat.pow_le_pow_right (by decide) h

namespace Format

variable {f : Format}

/-! ## Magnitudes -/

theorem normal_pos : 0 < f.normal := twoPow_pos _

theorem one_pos : 0 < f.one := twoPow_pos _

theorem units_of_lt {m : Nat} (h : m < f.normal) : f.units m = m := if_pos h

/-- The magnitudes with a full significand. -/
theorem units_normal (q : Nat) {r : Nat} (hr : r < f.normal) :
    f.units ((q + 1) * f.normal + r) = (f.normal + r) * Nat.pow 2 q := by
  have hdiv : ((q + 1) * f.normal + r) / f.normal = q + 1 := by
    rw [Nat.mul_comm, Nat.mul_add_div normal_pos, Nat.div_eq_of_lt hr]
  have hmod : ((q + 1) * f.normal + r) % f.normal = r := by
    rw [Nat.mul_comm, Nat.mul_add_mod, Nat.mod_eq_of_lt hr]
  have hnot : ¬ (q + 1) * f.normal + r < f.normal := by
    rw [Nat.succ_mul]
    omega
  rw [units, if_neg hnot, hdiv, hmod, Nat.add_sub_cancel]

/-- **A magnitude as a significand and an exponent.** The significand is full if there is an exponent,
and the next magnitude is one step further. -/
structure HasSignificand (f : Format) (m k s : Nat) : Prop where
  eq : m = k * f.normal + s
  lt : s < f.normal + f.normal
  full : 0 < k → f.normal ≤ s
  units_eq : f.units m = s * Nat.pow 2 k
  units_succ : f.units (m + 1) = (s + 1) * Nat.pow 2 k

theorem hasSignificand_small {m : Nat} (h : m < f.normal) : f.HasSignificand m 0 m where
  eq := by rw [Nat.zero_mul, Nat.zero_add]
  lt := by omega
  full := nofun
  units_eq := (units_of_lt h).trans (Nat.mul_one m).symm
  units_succ := by
    rcases Nat.lt_or_eq_of_le h with hlt | heq
    · exact (units_of_lt hlt).trans (Nat.mul_one _).symm
    · -- the first magnitude with a full significand
      have hunits := units_normal 0 (f.normal_pos)
      rw [Nat.zero_add, Nat.one_mul, Nat.add_zero, ← heq] at hunits
      exact hunits

theorem hasSignificand_full (k : Nat) {r : Nat} (hr : r < f.normal) :
    f.HasSignificand ((k + 1) * f.normal + r) k (f.normal + r) where
  eq := by rw [Nat.succ_mul, Nat.add_assoc]
  lt := Nat.add_lt_add_left hr _
  full _ := Nat.le_add_right _ _
  units_eq := units_normal k hr
  units_succ := by
    rcases Nat.lt_or_eq_of_le (Nat.succ_le_of_lt hr) with hlt | heq
    · exact units_normal k hlt
    · -- the significand is a power of two again, and its step is twice as long
      have hunits := units_normal (k + 1) (f.normal_pos)
      have htwo : Nat.pow 2 1 = 2 := rfl
      rw [Nat.add_zero (_ * _), Nat.add_zero f.normal, twoPow_add, htwo, Nat.mul_comm _ 2,
        ← Nat.mul_assoc, Nat.mul_two] at hunits
      have hnext : (k + 1) * f.normal + r + 1 = (k + 1 + 1) * f.normal := by
        rw [Nat.succ_mul (k + 1)]
        omega
      have hfull : f.normal + r + 1 = f.normal + f.normal := by omega
      rw [hnext, hunits, hfull]

theorem exists_significand (f : Format) (m : Nat) : ∃ k s, f.HasSignificand m k s := by
  by_cases h : m < f.normal
  · exact ⟨0, m, hasSignificand_small h⟩
  · have hpos : 0 < m / f.normal := Nat.div_pos (Nat.not_lt.1 h) normal_pos
    have hm : m = (m / f.normal - 1 + 1) * f.normal + m % f.normal := by
      rw [Nat.sub_add_cancel hpos, Nat.mul_comm, Nat.div_add_mod]
    have hfull := hasSignificand_full (m / f.normal - 1) (Nat.mod_lt m f.normal_pos)
    rw [← hm] at hfull
    exact ⟨_, _, hfull⟩

/-! ## Rounding -/

/-- How many binary digits of a quotient are dropped. -/
def dropped (f : Format) (x : Nat) : Nat := x.log2 + 1 - f.precision

theorem round_eq (num den : Nat) : f.round num den =
    min (f.dropped (num / den) * f.normal +
      roundQuotient num (den * Nat.pow 2 (f.dropped (num / den)))) f.infinity := rfl

theorem twoPow_precision (hp : 0 < f.precision) (k : Nat) :
    Nat.pow 2 (f.precision + k) = (f.normal + f.normal) * Nat.pow 2 k := by
  have hsucc : f.precision + k = (f.precision - 1) + 1 + k := by omega
  have htwo : Nat.pow 2 1 = 2 := rfl
  rw [hsucc, twoPow_add, twoPow_add, htwo, ← normal, Nat.mul_two]

theorem dropped_le (hp : 0 < f.precision) {x k : Nat}
    (h : x < (f.normal + f.normal) * Nat.pow 2 k) : f.dropped x ≤ k := by
  rw [← twoPow_precision hp] at h
  unfold dropped
  by_cases hx : x = 0
  · subst hx
    have hzero : Nat.log2 0 = 0 := rfl
    omega
  · have hlog := (log2_lt hx).2 h
    omega

theorem le_dropped (hp : 0 < f.precision) {x k : Nat} (h : f.normal * Nat.pow 2 k ≤ x) :
    k ≤ f.dropped x := by
  rw [normal, ← twoPow_add] at h
  have hx : x ≠ 0 := by
    have := twoPow_pos (f.precision - 1 + k)
    omega
  have hlog : ¬ x.log2 < f.precision - 1 + k := fun hlt => Nat.not_lt.2 h ((log2_lt hx).1 hlt)
  unfold dropped
  omega

/-- What is left of a quotient fits a full significand. -/
theorem lt_of_dropped (hp : 0 < f.precision) (x : Nat) :
    x < (f.normal + f.normal) * Nat.pow 2 (f.dropped x) := by
  rw [← twoPow_precision hp]
  refine Nat.lt_of_lt_of_le (lt_twoPow_log2 x) (twoPow_le_twoPow ?_)
  unfold dropped
  omega

/-- If anything is dropped, the significand is full. -/
theorem le_of_dropped (hp : 0 < f.precision) {x : Nat} (h : 0 < f.dropped x) :
    f.normal * Nat.pow 2 (f.dropped x) ≤ x := by
  have hx : x ≠ 0 := by
    rintro rfl
    have hzero : Nat.log2 0 = 0 := rfl
    unfold dropped at h
    omega
  have hexponent : f.precision - 1 + f.dropped x = x.log2 := by
    unfold dropped at h ⊢
    omega
  rw [normal, ← twoPow_add, hexponent]
  exact Nat.not_lt.1 fun hlt => Nat.lt_irrefl _ ((log2_lt hx).2 hlt)

theorem roundQuotient_scaled_le {c k : Nat} (h : num ≤ c * Nat.pow 2 k * den) :
    roundQuotient num (den * Nat.pow 2 k) ≤ c :=
  roundQuotient_le (by rwa [Nat.mul_comm den, ← Nat.mul_assoc])

theorem le_roundQuotient_scaled (hden : 0 < den) {c k : Nat} (h : c * Nat.pow 2 k * den ≤ num) :
    c ≤ roundQuotient num (den * Nat.pow 2 k) :=
  le_roundQuotient (Nat.mul_pos hden (twoPow_pos k)) (by rwa [Nat.mul_comm den, ← Nat.mul_assoc])

/-- What stays below the next magnitude has no more digits to drop. -/
theorem HasSignificand.dropped_le (hp : 0 < f.precision) {m k s x : Nat}
    (h : f.HasSignificand m k s) (hx : x < (s + 1) * Nat.pow 2 k) : f.dropped x ≤ k :=
  Format.dropped_le hp (Nat.lt_of_lt_of_le hx (Nat.mul_le_mul_right _ (Nat.succ_le_of_lt h.lt)))

/-- What is at least a magnitude has no fewer digits to drop. -/
theorem HasSignificand.le_dropped (hp : 0 < f.precision) {m k s x : Nat}
    (h : f.HasSignificand m k s) (hx : s * Nat.pow 2 k ≤ x) : k ≤ f.dropped x := by
  rcases Nat.eq_zero_or_pos k with rfl | hk
  · exact Nat.zero_le _
  · exact Format.le_dropped hp (Nat.le_trans (Nat.mul_le_mul_right _ (h.full hk)) hx)

/-- **What is at most a magnitude is rounded to at most that.** -/
theorem round_le_of_le (hp : 0 < f.precision) (hden : 0 < den) {m : Nat}
    (h : num ≤ f.units m * den) : f.round num den ≤ m := by
  obtain ⟨q, s, hm⟩ := f.exists_significand m
  rw [hm.units_eq] at h
  have hquotient : num / den ≤ s * Nat.pow 2 q := Nat.div_le_of_le_mul (by rwa [Nat.mul_comm])
  have hnext : s * Nat.pow 2 q < (s + 1) * Nat.pow 2 q :=
    Nat.mul_lt_mul_of_pos_right (Nat.lt_succ_self s) (twoPow_pos q)
  rw [round_eq]
  refine Nat.le_trans (Nat.min_le_left _ _) ?_
  generalize hk : f.dropped (num / den) = k
  have hle : k ≤ q := hk ▸ hm.dropped_le hp (Nat.lt_of_le_of_lt hquotient hnext)
  rw [hm.eq]
  rcases Nat.eq_or_lt_of_le hle with rfl | hless
  · exact Nat.add_le_add_left (roundQuotient_scaled_le h) _
  · -- even a significand that is rounded up to a power of two stays below
    have hnum : num ≤ (f.normal + f.normal) * Nat.pow 2 k * den :=
      Nat.le_of_lt ((Nat.div_lt_iff_lt_mul hden).1 (hk ▸ lt_of_dropped hp _))
    have hround := roundQuotient_scaled_le hnum
    have hfull := hm.full (Nat.zero_lt_of_lt hless)
    have hsteps : (k + 1) * f.normal ≤ q * f.normal := Nat.mul_le_mul_right _ hless
    rw [Nat.succ_mul] at hsteps
    omega

/-- **What is at least a magnitude is rounded to at least that.** -/
theorem le_round_of_le (hp : 0 < f.precision) (hden : 0 < den) {m : Nat} (hm : m ≤ f.infinity)
    (h : f.units m * den ≤ num) : m ≤ f.round num den := by
  obtain ⟨q, s, hs⟩ := f.exists_significand m
  rw [hs.units_eq] at h
  rw [round_eq]
  refine Nat.le_min.2 ⟨?_, hm⟩
  generalize hk : f.dropped (num / den) = k
  have hle : q ≤ k := hk ▸ hs.le_dropped hp ((Nat.le_div_iff_mul_le hden).2 h)
  rw [hs.eq]
  rcases Nat.eq_or_lt_of_le hle with rfl | hless
  · exact Nat.add_le_add_left (le_roundQuotient_scaled hden h) _
  · -- a significand from which something is dropped is full
    have hround : f.normal ≤ roundQuotient num (den * Nat.pow 2 k) := by
      subst hk
      have hfull := le_of_dropped hp (Nat.zero_lt_of_lt hless)
      exact le_roundQuotient_scaled hden ((Nat.le_div_iff_mul_le hden).1 hfull)
    have hlt := hs.lt
    have hsteps : (q + 1) * f.normal ≤ k * f.normal := Nat.mul_le_mul_right _ hless
    rw [Nat.succ_mul] at hsteps
    omega

theorem round_zero (hp : 0 < f.precision) (hden : 0 < den) : f.round 0 den = 0 := by
  refine Nat.le_zero.1 (round_le_of_le hp hden ?_)
  exact Nat.zero_le _

theorem ofNat_zero (hp : 0 < f.precision) : f.ofNat 0 = 0 := by
  rw [ofNat, Nat.zero_mul, round_zero hp Nat.one_pos]

theorem zero_mul (hp : 0 < f.precision) (m : Nat) : f.mul 0 m = 0 := by
  rw [mul, units_of_lt normal_pos, Nat.zero_mul, round_zero hp one_pos]

/-! ## Order -/

theorem le_of_units_le (hp : 0 < f.precision) {m n : Nat} (hm : m ≤ f.infinity)
    (h : f.units m ≤ f.units n) : m ≤ n := by
  have hself : f.units m * 1 ≤ f.units m := Nat.le_of_eq (Nat.mul_one _)
  have hother : f.units m ≤ f.units n * 1 := by rwa [Nat.mul_one]
  exact Nat.le_trans (le_round_of_le hp Nat.one_pos hm hself) (round_le_of_le hp Nat.one_pos hother)

/-- **Magnitudes are ordered as the numbers are that they stand for.** -/
theorem units_le_units (hp : 0 < f.precision) {m n : Nat} (hn : n ≤ f.infinity) (h : m ≤ n) :
    f.units m ≤ f.units n := by
  rcases Nat.le_total (f.units m) (f.units n) with hle | hge
  · exact hle
  · obtain rfl : m = n := Nat.le_antisymm h (le_of_units_le hp hn hge)
    exact Nat.le_refl _

/-- **A division by one or more makes nothing larger.** -/
theorem div_le (hp : 0 < f.precision) (a : Nat) {b : Nat} (hb : f.one ≤ f.units b) :
    f.div a b ≤ a :=
  round_le_of_le hp (Nat.lt_of_lt_of_le one_pos hb) (Nat.mul_le_mul_left _ hb)

end Format

/-! ## Double precision -/

theorem precision_pos : 0 < double.precision := by decide

/-- A power of two that has a full significand. -/
theorem units_twoPow (q : Nat) :
    double.units ((q + 1) * double.normal) = Nat.pow 2 (52 + q) := by
  have hnormal : double.normal = Nat.pow 2 52 := rfl
  have hunits := Format.units_normal q (Format.normal_pos (f := double))
  rw [Nat.add_zero, Nat.add_zero] at hunits
  rw [hunits, twoPow_add, hnormal]

/-- A positive whole number is one or more. -/
theorem one_le_units_ofNat (hn : 0 < n) : double.one ≤ double.units (double.ofNat n) := by
  have hexponent : 52 + 1022 = double.scale := rfl
  have hone : double.units ((1022 + 1) * double.normal) = double.one := by
    rw [units_twoPow, hexponent, Format.one]
  have hle : (1022 + 1) * double.normal ≤ double.ofNat n := by
    refine Format.le_round_of_le precision_pos Nat.one_pos (by decide) ?_
    rw [hone, Nat.mul_one]
    exact Nat.le_mul_of_pos_left _ hn
  rw [← hone]
  exact Format.units_le_units precision_pos (Format.round_le _ _ _) hle

theorem ofNat_ne_zero (hn : n ≠ 0) : double.ofNat n ≠ 0 := by
  intro hzero
  have hone := one_le_units_ofNat (Nat.pos_of_ne_zero hn)
  rw [hzero, Format.units_of_lt Format.normal_pos] at hone
  exact Nat.not_lt.2 hone Format.one_pos

/-- **Whole numbers of 64 bits are finite.** -/
theorem ofNat_lt_infinity (hn : n ≤ 18446744073709551615) : double.ofNat n < double.infinity := by
  have hexponent : 52 + 1086 = 64 + double.scale := rfl
  have hbound : double.units ((1086 + 1) * double.normal) = Nat.pow 2 64 * double.one := by
    rw [units_twoPow, hexponent, twoPow_add, Format.one]
  have hle : double.ofNat n ≤ (1086 + 1) * double.normal := by
    refine Format.round_le_of_le precision_pos Nat.one_pos ?_
    rw [hbound, Nat.mul_one]
    refine Nat.mul_le_mul_right _ (Nat.le_trans hn ?_)
    decide
  exact Nat.lt_of_le_of_lt hle (by decide)

end TopicListeners.Numeral
