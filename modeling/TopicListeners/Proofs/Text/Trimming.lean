import TopicListeners.Text.Characters

/-!
# Trimming

Trimming a text takes away all blanks at its ends and nothing else: what is left neither starts nor
ends with a blank, and there is only one way to cut a text so.

* `trim_eq_iff`: **what trimming leaves**, of any text.
-/

namespace TopicListeners.Text

/-- Nothing but blanks. -/
def AllBlank (cs : List Char) : Prop := ∀ c ∈ cs, isBlank c

instance (cs : List Char) : Decidable (AllBlank cs) :=
  decidable_of_iff (cs.all isBlank = true) List.all_eq_true

/-- No visible character of ASCII is a blank. -/
theorem toNat_of_isBlank {c : Char} (h : isBlank c) : c.toNat ≤ 32 ∨ 0x85 ≤ c.toNat := by
  simp only [isBlank, blankRanges, List.any_cons, List.any_nil, Bool.or_eq_true, Bool.and_eq_true,
    decide_eq_true_eq, Bool.false_eq_true, or_false] at h
  omega

/-- The text has no blank at either end. -/
def Tight (cs : List Char) : Prop :=
  (∀ c ∈ cs.head?, isBlank c = false) ∧ ∀ c ∈ cs.getLast?, isBlank c = false

theorem tight_of_not_blank {cs : List Char} (h : ∀ c ∈ cs, isBlank c = false) : Tight cs :=
  ⟨fun c hc => h c (List.mem_of_mem_head? hc), fun c hc => h c (List.mem_of_mem_getLast? hc)⟩

/-- Only the ends of a text matter. -/
theorem Tight.append {as cs : List Char} (ha : Tight as) (hne : as ≠ []) (hc : Tight cs)
    (hne' : cs ≠ []) (bs : List Char) : Tight (as ++ bs ++ cs) := by
  obtain ⟨a, as, rfl⟩ := List.exists_cons_of_ne_nil hne
  refine ⟨ha.1, ?_⟩
  rw [List.getLast?_append]
  cases hlast : cs.getLast? with
  | none => exact absurd (List.getLast?_eq_none_iff.1 hlast) hne'
  | some c => simpa using hc.2 c hlast

theorem AllBlank.append {as bs : List Char} (ha : AllBlank as) (hb : AllBlank bs) :
    AllBlank (as ++ bs) := by
  intro c hc
  rcases List.mem_append.1 hc with h | h
  · exact ha c h
  · exact hb c h

theorem AllBlank.reverse {cs : List Char} (h : AllBlank cs) : AllBlank cs.reverse :=
  fun c hc => h c (List.mem_reverse.1 hc)

/-- The blanks at the start go, up to a character that is none. -/
theorem trimStart_append {l cs : List Char} (hl : AllBlank l)
    (h : ∀ c ∈ cs.head?, isBlank c = false) : trimStart (l ++ cs) = cs := by
  unfold trimStart
  rw [List.dropWhile_append_of_pos hl]
  cases cs with
  | nil => rfl
  | cons c cs =>
    have hc : isBlank c = false := h c rfl
    rw [List.dropWhile_cons, hc]
    rfl

theorem trimEnd_append {cs r : List Char} (hr : AllBlank r)
    (h : ∀ c ∈ cs.getLast?, isBlank c = false) : trimEnd (cs ++ r) = cs := by
  have hhead : ∀ c ∈ cs.reverse.head?, isBlank c = false := by
    rwa [List.head?_reverse]
  rw [trimEnd, List.reverse_append, trimStart_append hr.reverse hhead, List.reverse_reverse]

/-- Blanks around a text that has none at its ends are what trimming takes away. -/
theorem trim_append {l cs r : List Char} (hl : AllBlank l) (h : Tight cs) (hr : AllBlank r) :
    trim (l ++ cs ++ r) = cs := by
  unfold trim
  cases cs with
  | nil =>
    -- the blanks before and after an empty text are one run
    have hblank : AllBlank (l ++ [] ++ r) := by
      rw [List.append_nil]
      exact hl.append hr
    have hstart := trimStart_append hblank h.1
    rw [List.append_nil (l ++ [] ++ r)] at hstart
    rw [hstart]
    rfl
  | cons c cs =>
    have hhead : ∀ d ∈ (c :: cs ++ r).head?, isBlank d = false := h.1
    rw [List.append_assoc, trimStart_append hl hhead, trimEnd_append hr h.2]

theorem exists_trimStart (cs : List Char) :
    ∃ l, AllBlank l ∧ cs = l ++ trimStart cs ∧ ∀ c ∈ (trimStart cs).head?, isBlank c = false := by
  refine ⟨cs.takeWhile isBlank, ?_, List.takeWhile_append_dropWhile.symm, ?_⟩
  · exact fun c hc => List.all_eq_true.1 List.all_takeWhile c hc
  · intro c hc
    have hnot := List.head?_dropWhile_not isBlank cs
    rw [trimStart] at hc
    rw [hc] at hnot
    exact hnot

theorem exists_trimEnd (cs : List Char) :
    ∃ r, AllBlank r ∧ cs = trimEnd cs ++ r ∧ ∀ c ∈ (trimEnd cs).getLast?, isBlank c = false := by
  obtain ⟨l, hl, hcs, hhead⟩ := exists_trimStart cs.reverse
  refine ⟨l.reverse, hl.reverse, ?_, ?_⟩
  · rw [trimEnd, ← List.reverse_append, ← hcs, List.reverse_reverse]
  · rwa [trimEnd, List.getLast?_reverse]

/-- **What trimming leaves** has no blank at either end, and is the text up to blanks around it. -/
theorem trim_eq_iff {cs t : List Char} :
    trim cs = t ↔ Tight t ∧ ∃ l r, AllBlank l ∧ AllBlank r ∧ cs = l ++ t ++ r := by
  constructor
  · rintro rfl
    obtain ⟨l, hl, hcs, hhead⟩ := exists_trimStart cs
    obtain ⟨r, hr, hrest, hlast⟩ := exists_trimEnd (trimStart cs)
    have htrim : trimStart cs = trim cs ++ r := hrest
    refine ⟨⟨?_, hlast⟩, l, r, hl, hr, ?_⟩
    · intro c hc
      -- what is left of the text starts as it did before its end was trimmed
      refine hhead c ?_
      rw [htrim, List.head?_append, Option.mem_def.1 hc]
      rfl
    · rw [List.append_assoc, ← htrim]
      exact hcs
  · rintro ⟨ht, l, r, hl, hr, rfl⟩
    exact trim_append hl ht hr

end TopicListeners.Text
