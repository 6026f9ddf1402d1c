import TopicListeners.Settings.Listener
import TopicListeners.Proofs.Numeral.Digits
import TopicListeners.Proofs.Text.Trimming

/-!
# Reading durations

Which texts are durations, and how long these are. The readers of milliseconds and of seconds take
the same texts and differ only in what they make of a number without a unit.

* `Written`: a number of units as it is written, with blanks wherever there may be some.
* `read?_eq_some_iff`: **a text is read iff it is written so** and its number can be counted.
* `duration_texts`: what the two readers of listener settings make of any text.
-/

namespace TopicListeners

open Text

namespace Duration

/-- The symbols of units in small letters, and how many nanoseconds each unit has. -/
def symbols : List (List Char × Nat) :=
  [(['n', 's'], 1),
    (['u', 's'], 1000),
    (['m', 's'], 1000000),
    (['s'], 1000000000),
    (['m'], 60 * 1000000000),
    (['h'], 3600 * 1000000000),
    (['d'], 86400 * 1000000000)]

/-- A text that names a unit: a symbol in any case, or no text at all for a unit of `bare`
nanoseconds. -/
def Names (bare : Nat) (name : List Char) (unit : Nat) : Prop :=
  (name = [] ∧ unit = bare) ∨ (name.map Char.toLower, unit) ∈ symbols

/-- **A number of units as it is written**: digits and the name of the unit, with blanks around
either. -/
inductive Written (bare : Nat) : List Char → Nat → Nat → Prop
  | mk {l ds m name r : List Char} {unit : Nat} (hl : AllBlank l) (hne : ds ≠ [])
    (hds : ∀ d ∈ ds, d.isDigit) (hm : AllBlank m) (hname : Names bare name unit)
    (hr : AllBlank r) : Written bare (l ++ ds ++ m ++ name ++ r) (Nat.ofDigitChars 10 ds 0) unit

/-- Whether a number of units can be counted: it fits 64 bits, and so does the number of seconds if
the units are longer than that. -/
def Countable (n unit : Nat) : Prop :=
  n ≤ 0xFFFFFFFFFFFFFFFF ∧
    ∀ k ∈ [60, 3600, 86400], unit = k * 1000000000 → n * k ≤ 0xFFFFFFFFFFFFFFFF

/-! ## Characters -/

theorem not_blank_of_isDigit {c : Char} (h : c.isDigit) : isBlank c = false := by
  rw [Bool.eq_false_iff]
  intro hblank
  have hdigit := Numeral.toNat_of_isDigit h
  have hrange := toNat_of_isBlank hblank
  omega

/-- Blanks and digits have no case. -/
theorem toLower_eq_self {c : Char} (h : isBlank c ∨ c.isDigit) : c.toLower = c := by
  rcases h with h | h
  · have hrange : ¬ (65 ≤ c.toNat ∧ c.toNat ≤ 90) := by
      have := toNat_of_isBlank h
      omega
    have hupper : ¬ (c.val ≥ 'A'.val ∧ c.val ≤ 'Z'.val) := by
      simpa [UInt32.le_iff_toNat_le] using hrange
    exact dif_neg hupper
  · exact Numeral.toLower_digit h

/-- No symbol has a blank or a digit in it, and so the name of a unit has none. -/
theorem Names.not_blank_digit {bare unit : Nat} {name : List Char} (h : Names bare name unit) :
    ∀ c ∈ name, isBlank c = false ∧ c.isDigit = false := by
  have hsymbols : ∀ s ∈ symbols, ∀ c ∈ s.1, isBlank c = false ∧ c.isDigit = false := by
    have hall : symbols.all fun s => s.1.all fun c => !isBlank c && !c.isDigit := by decide
    simpa only [List.all_eq_true, Bool.and_eq_true, Bool.not_eq_true'] using hall
  intro c hc
  rcases h with ⟨rfl, -⟩ | h
  · simp at hc
  · have hlower := hsymbols _ h c.toLower (List.mem_map_of_mem hc)
    by_cases hcase : isBlank c ∨ c.isDigit
    · rwa [toLower_eq_self hcase] at hlower
    · simpa using hcase

/-! ## Units -/

theorem mem_symbols_of_ofText? {bare u : TimeUnit} {low : List Char} (hne : low ≠ [])
    (h : TimeUnit.ofText? bare low = some u) : (low, u.nanoseconds) ∈ symbols := by
  unfold TimeUnit.ofText? at h
  split at h
  · exact absurd rfl hne
  all_goals cases h <;> decide

/-- The units that are read are those that have names. -/
theorem exists_ofText?_iff {bare : TimeUnit} {name : List Char} {unit : Nat} :
    (∃ u, TimeUnit.ofText? bare (name.map Char.toLower) = some u ∧ u.nanoseconds = unit) ↔
      Names bare.nanoseconds name unit := by
  constructor
  · rintro ⟨u, hu, rfl⟩
    cases name with
    | nil =>
      obtain rfl : bare = u := by simpa [TimeUnit.ofText?] using hu
      exact .inl ⟨rfl, rfl⟩
    | cons c cs =>
      exact .inr (mem_symbols_of_ofText? (List.cons_ne_nil _ _) hu)
  · rintro (⟨rfl, rfl⟩ | h)
    · exact ⟨bare, rfl, rfl⟩
    · simp only [symbols, List.mem_cons, List.not_mem_nil, or_false, Prod.mk.injEq] at h
      rcases h with ⟨h, rfl⟩ | ⟨h, rfl⟩ | ⟨h, rfl⟩ | ⟨h, rfl⟩ | ⟨h, rfl⟩ | ⟨h, rfl⟩ | ⟨h, rfl⟩ <;>
        · rw [h]
          exact ⟨_, rfl, rfl⟩

theorem countable_iff {n : Nat} {u : TimeUnit} :
    Countable n u.nanoseconds ↔ n ≤ limit ∧ n * u.seconds ≤ limit := by
  have hlimit : limit = 0xFFFFFFFFFFFFFFFF := rfl
  unfold Countable
  rw [hlimit]
  cases u <;> simp [TimeUnit.nanoseconds, TimeUnit.seconds]

/-! ## Texts -/

variable {bare unit n : Nat} {cs : List Char}

/-- What trimming leaves of a number of units: digits, and the name of the unit after blanks.
Without a name there are no blanks left either. -/
theorem Written.exists_trim (h : Written bare cs n unit) :
    ∃ ds m name, trim cs = ds ++ (m ++ name) ∧ ds ≠ [] ∧ (∀ d ∈ ds, d.isDigit) ∧ AllBlank m ∧
      trim (m ++ name) = name ∧ Names bare name unit ∧ n = Nat.ofDigitChars 10 ds 0 := by
  cases h with
  | @mk l ds m name r _ hl hne hds hm hname hr =>
    have hdsTight : Tight ds := tight_of_not_blank fun d hd => not_blank_of_isDigit (hds d hd)
    have hnameTight : Tight name :=
      tight_of_not_blank fun c hc => (hname.not_blank_digit c hc).1
    by_cases hnil : name = []
    · refine ⟨ds, [], [], ?_, hne, hds, fun c hc => by simp at hc, rfl, hnil ▸ hname, rfl⟩
      have htrim := trim_append hl hdsTight (hm.append hr)
      simpa [hnil] using htrim
    · refine ⟨ds, m, name, ?_, hne, hds, hm, ?_, hname, rfl⟩
      · have htrim := trim_append hl (hdsTight.append hne hnameTight hnil m) hr
        simpa using htrim
      · have htrim := trim_append hm hnameTight (r := []) (fun c hc => by simp at hc)
        simpa using htrim

/-- Digits come first, up to blanks or the name of a unit. -/
theorem span_digits {ds m name : List Char} (hds : ∀ d ∈ ds, d.isDigit) (hm : AllBlank m)
    (hname : Names bare name unit) :
    (ds ++ (m ++ name)).takeWhile Char.isDigit = ds ∧
      (ds ++ (m ++ name)).dropWhile Char.isDigit = m ++ name := by
  have hstop : ∀ c ∈ (m ++ name).head?, c.isDigit = false := by
    intro c hc
    rcases List.mem_append.1 (List.mem_of_mem_head? hc) with h | h
    · rw [Bool.eq_false_iff]
      intro hdigit
      have hblank := hm c h
      rw [not_blank_of_isDigit hdigit] at hblank
      cases hblank
    · exact (hname.not_blank_digit c h).2
  exact ⟨Numeral.takeWhile_digits hds hstop, Numeral.dropWhile_digits hds hstop⟩

theorem readUpTo?_eq_some_iff {bound n : Nat} {ds : List Char} :
    Numeral.readUpTo? bound ds = some n ↔
      ds ≠ [] ∧ (∀ d ∈ ds, d.isDigit) ∧ n = Nat.ofDigitChars 10 ds 0 ∧ n ≤ bound := by
  rw [Numeral.readUpTo?, Numeral.readDigits?, Option.filter_eq_some_iff]
  by_cases h : ds ≠ [] ∧ ds.all Char.isDigit
  · have hds := List.all_eq_true.1 h.2
    rw [if_pos h, Option.some.injEq, decide_eq_true_eq, eq_comm]
    exact ⟨fun hn => ⟨h.1, hds, hn⟩, fun hn => hn.2.2⟩
  · rw [if_neg h]
    constructor
    · rintro ⟨hn, -⟩
      cases hn
    · rintro ⟨hne, hds, -⟩
      exact absurd ⟨hne, List.all_eq_true.2 hds⟩ h

/-- What a text is read as, part by part. -/
theorem read?_eq_some {bare : TimeUnit} {s : String} {d : Duration} :
    read? bare s = some d ↔ ∃ n u,
      Numeral.readUpTo? limit ((trim s.toList).takeWhile Char.isDigit) = some n ∧
      TimeUnit.ofText? bare
        ((trim ((trim s.toList).dropWhile Char.isDigit)).map Char.toLower) = some u ∧
      n * u.seconds ≤ limit ∧ d = of n u := by
  simp only [read?, bind, Option.bind_eq_some_iff]
  constructor
  · rintro ⟨n, hn, u, hu, hd⟩
    by_cases hfits : n * u.seconds ≤ limit
    · rw [if_pos hfits] at hd
      exact ⟨n, u, hn, hu, hfits, (Option.some.inj hd).symm⟩
    · rw [if_neg hfits] at hd
      cases hd
  · rintro ⟨n, u, hn, hu, hfits, rfl⟩
    exact ⟨n, hn, u, hu, if_pos hfits⟩

/-- Any text falls into blanks, the digits it starts with, more blanks, what else there is, and the
blanks at its end. -/
theorem exists_parts (cs : List Char) :
    ∃ l m r, AllBlank l ∧ AllBlank m ∧ AllBlank r ∧
      cs = l ++ (trim cs).takeWhile Char.isDigit ++ m ++
        trim ((trim cs).dropWhile Char.isDigit) ++ r := by
  obtain ⟨-, l, r, hl, hr, htext⟩ := trim_eq_iff.1 (rfl : trim cs = trim cs)
  obtain ⟨-, m, r', hm, hr', hrest⟩ :=
    trim_eq_iff.1 (rfl : trim ((trim cs).dropWhile Char.isDigit) = _)
  refine ⟨l, m, r' ++ r, hl, hm, hr'.append hr, ?_⟩
  calc cs = l ++ trim cs ++ r := htext
    _ = l ++ ((trim cs).takeWhile Char.isDigit ++ (trim cs).dropWhile Char.isDigit) ++ r := by
      rw [List.takeWhile_append_dropWhile]
    _ = l ++ ((trim cs).takeWhile Char.isDigit ++
          (m ++ trim ((trim cs).dropWhile Char.isDigit) ++ r')) ++ r := by
      rw [← hrest]
    _ = _ := by
      simp only [List.append_assoc]

theorem Names.unique {bare : TimeUnit} {name : List Char} {unit unit' : Nat}
    (h : Names bare.nanoseconds name unit) (h' : Names bare.nanoseconds name unit') :
    unit = unit' := by
  obtain ⟨u, hu, rfl⟩ := exists_ofText?_iff.2 h
  obtain ⟨u', hu', rfl⟩ := exists_ofText?_iff.2 h'
  rw [Option.some.inj (hu.symm.trans hu')]

/-- A text is a number of units in one way only. -/
theorem Written.unique {bare : TimeUnit} {n' unit' : Nat} (h : Written bare.nanoseconds cs n unit)
    (h' : Written bare.nanoseconds cs n' unit') : n = n' ∧ unit = unit' := by
  obtain ⟨ds, m, name, htrim, -, hds, hm, hrest, hname, rfl⟩ := h.exists_trim
  obtain ⟨ds', m', name', htrim', -, hds', hm', hrest', hname', rfl⟩ := h'.exists_trim
  obtain ⟨htake, hdrop⟩ := span_digits hds hm hname
  obtain ⟨htake', hdrop'⟩ := span_digits hds' hm' hname'
  rw [← htrim] at htake hdrop
  rw [← htrim'] at htake' hdrop'
  obtain rfl : ds = ds' := htake.symm.trans htake'
  obtain rfl : name = name' := by rw [← hrest, ← hdrop, hdrop', hrest']
  exact ⟨rfl, hname.unique hname'⟩

/-- **A text is read iff it is a number of units** that can be counted, and as that many units. -/
theorem read?_eq_some_iff {bare : TimeUnit} {s : String} {d : Duration} :
    read? bare s = some d ↔ ∃ n unit, Written bare.nanoseconds s.toList n unit ∧
      Countable n unit ∧ d = ⟨n * unit⟩ := by
  rw [read?_eq_some]
  constructor
  · rintro ⟨n, u, hn, hu, hfits, rfl⟩
    obtain ⟨hne, hds, rfl, hbound⟩ := readUpTo?_eq_some_iff.1 hn
    obtain ⟨l, m, r, hl, hm, hr, hparts⟩ := exists_parts s.toList
    have hname : Names bare.nanoseconds _ u.nanoseconds := exists_ofText?_iff.1 ⟨u, hu, rfl⟩
    have hwritten := Written.mk hl hne hds hm hname hr
    rw [← hparts] at hwritten
    exact ⟨_, u.nanoseconds, hwritten, countable_iff.2 ⟨hbound, hfits⟩, rfl⟩
  · rintro ⟨n, unit, hwritten, hcountable, rfl⟩
    obtain ⟨ds, m, name, htrim, hne, hds, hm, hrest, hname, rfl⟩ := hwritten.exists_trim
    obtain ⟨u, hu, rfl⟩ := exists_ofText?_iff.2 hname
    obtain ⟨hbound, hfits⟩ := countable_iff.1 hcountable
    obtain ⟨htake, hdrop⟩ := span_digits hds hm hname
    refine ⟨_, u, ?_, ?_, hfits, rfl⟩
    · rw [htrim, htake]
      exact readUpTo?_eq_some_iff.2 ⟨hne, hds, rfl, hbound⟩
    · rw [htrim, hdrop, hrest, hu]

/-! ## Both readers -/

/-- What is a number of units to one reader is one to every other, if maybe of another unit. -/
theorem Written.exists_written (h : Written bare cs n unit) (other : Nat) :
    ∃ unit', Written other cs n unit' ∧ (unit' = unit ∨ unit' = other) := by
  obtain ⟨hl, hne, hds, hm, hname, hr⟩ := h
  rcases hname with ⟨rfl, -⟩ | hname
  · exact ⟨other, .mk hl hne hds hm (.inl ⟨rfl, rfl⟩) hr, .inr rfl⟩
  · exact ⟨unit, .mk hl hne hds hm (.inr hname) hr, .inl rfl⟩

/-- A number with a unit is the same number of units to every reader. -/
theorem Written.of_letter (h : Written bare cs n unit) (other : Nat)
    (hletter : ∃ c ∈ cs, isBlank c = false ∧ c.isDigit = false) : Written other cs n unit := by
  obtain ⟨hl, hne, hds, hm, hname, hr⟩ := h
  rcases hname with ⟨rfl, -⟩ | hname
  · obtain ⟨c, hc, hblank, hdigit⟩ := hletter
    simp only [List.append_nil, List.mem_append] at hc
    rcases hc with ((hc | hc) | hc) | hc
    · simp [hl c hc] at hblank
    · simp [hds c hc] at hdigit
    · simp [hm c hc] at hblank
    · simp [hr c hc] at hblank
  · exact .mk hl hne hds hm (.inr hname) hr

/-- Up to the second there is no unit whose seconds could be too many. -/
theorem countable_of_le {other : Nat} (h : Countable n unit) (hother : other ≤ 1000000000) :
    Countable n other := by
  refine ⟨h.1, fun k hk heq => ?_⟩
  have hlarge : ∀ k ∈ [60, 3600, 86400], 1 < k := by decide
  have := hlarge k hk
  omega

/-- Readers that take numbers without a unit for seconds or less take the same texts. -/
theorem isSome_read? {s : String} {bare other : TimeUnit} (h : (read? bare s).isSome)
    (hother : other.nanoseconds ≤ 1000000000) : (read? other s).isSome := by
  obtain ⟨d, hd⟩ := Option.isSome_iff_exists.1 h
  obtain ⟨n, unit, hwritten, hcountable, -⟩ := read?_eq_some_iff.1 hd
  obtain ⟨unit', hwritten', rfl | rfl⟩ := hwritten.exists_written other.nanoseconds
  · exact Option.isSome_iff_exists.2 ⟨_, read?_eq_some_iff.2 ⟨n, _, hwritten', hcountable, rfl⟩⟩
  · have hcountable' := countable_of_le hcountable hother
    exact Option.isSome_iff_exists.2 ⟨_, read?_eq_some_iff.2 ⟨n, _, hwritten', hcountable', rfl⟩⟩

/-- Every reader makes the same of a text with a letter in it. -/
theorem read?_of_letter {s : String} (bare other : TimeUnit)
    (hletter : ∃ c ∈ s.toList, isBlank c = false ∧ c.isDigit = false) :
    read? bare s = read? other s := by
  apply Option.ext
  intro d
  rw [read?_eq_some_iff, read?_eq_some_iff]
  constructor
  · rintro ⟨n, unit, hwritten, h⟩
    exact ⟨n, unit, hwritten.of_letter _ hletter, h⟩
  · rintro ⟨n, unit, hwritten, h⟩
    exact ⟨n, unit, hwritten.of_letter _ hletter, h⟩

/-- Every duration that is read has seconds that fit 64 bits, and nanoseconds below them. -/
theorem seconds_le_of_read? {bare : TimeUnit} {s : String} {d : Duration}
    (h : read? bare s = some d) : d.seconds ≤ limit := by
  obtain ⟨n, u, hn, -, hfits, rfl⟩ := read?_eq_some.1 h
  obtain ⟨-, -, -, hbound⟩ := readUpTo?_eq_some_iff.1 hn
  unfold seconds of
  cases u <;> simp only [TimeUnit.nanoseconds, TimeUnit.seconds] at hfits ⊢ <;> omega

end Duration

namespace ListenerSettings

open Duration

/-- **What the two readers make of any text.** Each reads just the numbers of units that can be
counted, as that many units, and nothing else; a number without a unit counts milliseconds for one
and seconds for the other. So they take the same texts, and they agree on those with a unit. -/
theorem duration_texts (s : String) :
    (∀ d, readMillis? s = some d ↔ ∃ n unit, Written 1000000 s.toList n unit ∧
      Countable n unit ∧ d = ⟨n * unit⟩) ∧
    (∀ d, readSeconds? s = some d ↔ ∃ n unit, Written 1000000000 s.toList n unit ∧
      Countable n unit ∧ d = ⟨n * unit⟩) ∧
    (∀ d, readMillis? s = some d ∨ readSeconds? s = some d →
      d.seconds ≤ 0xFFFFFFFFFFFFFFFF ∧ d.subsecond < 1000000000 ∧
        d.seconds * 1000000000 + d.subsecond = d.nanoseconds) ∧
    ((readMillis? s).isSome ↔ (readSeconds? s).isSome) ∧
    ((∃ c ∈ s.toList, isBlank c = false ∧ c.isDigit = false) →
      readMillis? s = readSeconds? s) := by
  refine ⟨fun d => read?_eq_some_iff, fun d => read?_eq_some_iff, ?_, ?_, ?_⟩
  · intro d hd
    have hseconds : d.seconds ≤ limit := by
      rcases hd with hd | hd
      · exact seconds_le_of_read? hd
      · exact seconds_le_of_read? hd
    refine ⟨hseconds, Nat.mod_lt _ (by decide), ?_⟩
    rw [seconds, subsecond, Nat.mul_comm]
    exact Nat.div_add_mod _ _
  · exact ⟨fun h => isSome_read? h (by decide), fun h => isSome_read? h (by decide)⟩
  · exact fun hletter => read?_of_letter _ _ hletter

/-- Blanks, zeros in front and a unit in mixed case: seven milliseconds to both readers. -/
theorem duration_texts_padded :
    readMillis? " 007 mS\n" = some ⟨7000000⟩ ∧ readSeconds? " 007 mS\n" = some ⟨7000000⟩ := by
  have hwritten : Written 1000000 " 007 mS\n".toList 7 1000000 :=
    @Written.mk 1000000 [' '] ['0', '0', '7'] [' '] ['m', 'S'] ['\n'] 1000000
      (by decide) (by decide) (List.all_eq_true.1 (by decide)) (by decide) (.inr (by decide))
      (by decide)
  have hmillis := ((duration_texts " 007 mS\n").1 ⟨7000000⟩).2
    ⟨7, 1000000, hwritten, ⟨by decide, by decide⟩, rfl⟩
  have hagree := (duration_texts " 007 mS\n").2.2.2.2 ⟨'m', by decide, by decide, by decide⟩
  exact ⟨hmillis, hagree ▸ hmillis⟩

end ListenerSettings

end TopicListeners
