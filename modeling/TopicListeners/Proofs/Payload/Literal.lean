import TopicListeners.Proofs.Payload.Grammar
import TopicListeners.Proofs.Text.Utf8

/-!
# Reading strings

A string is read as the characters that its inside spells. Bytes that stand for themselves are
collected one by one, and only at the end must they be UTF-8. An escape always stands for a whole
character, so that no character can be half written and half escaped.

* `feed_spells`: what spells characters is collected as their encoding.
* `reads_of_feed`, `spells_of_reads`: the other direction, with and without regard to UTF-8.
* `ends_iff`: **a string is read iff its inside spells characters**, and as these.
-/

namespace TopicListeners.Payload.Literal

open Grammar Text

/-- The progress that bytes lead to, if all of them belong to the string. -/
def feed (p : Progress) : List UInt8 → Option Progress
  | [] => some p
  | b :: bs =>
    match step p b with
    | .more p => feed p bs
    | _ => none

theorem feed_append (p : Progress) (as bs : List UInt8) :
    feed p (as ++ bs) = (feed p as).bind fun p => feed p bs := by
  induction as generalizing p with
  | nil => rfl
  | cons a as ih =>
    simp only [List.cons_append, feed]
    cases step p a with
    | more p => exact ih p
    | ends s => rfl
    | fault r back => rfl

theorem feed_concat {p q r : Progress} {bs : List UInt8} {b : UInt8} (h : feed p bs = some q)
    (hb : step q b = .more r) : feed p (bs ++ [b]) = some r := by
  rw [feed_append, h]
  simp [feed, hb]

/-! ## Hexadecimal digits -/

theorem hexDigit?_eq_some {b : UInt8} {n : Nat} : hexDigit? b = some n ↔ HexDigit b n := by
  have hb {a m : Nat} (h : b.toNat = a + m) : b = .ofNat (a + m) := by rw [← h, UInt8.ofNat_toNat]
  constructor
  · intro h
    simp only [hexDigit?, UInt8.le_iff_toNat_le, UInt8.reduceToNat] at h
    split_ifs at h with h₁ h₂ h₃
    · obtain ⟨m, hm⟩ := Nat.exists_eq_add_of_le h₁.1
      obtain rfl : m = n := by simp only [Option.some.injEq] at h; omega
      rw [hb hm]
      exact .decimal (by omega)
    · obtain ⟨m, hm⟩ := Nat.exists_eq_add_of_le h₂.1
      obtain rfl : 10 + m = n := by simp only [Option.some.injEq] at h; omega
      rw [hb hm]
      exact .lower (by omega)
    · obtain ⟨m, hm⟩ := Nat.exists_eq_add_of_le h₃.1
      obtain rfl : 10 + m = n := by simp only [Option.some.injEq] at h; omega
      rw [hb hm]
      exact .upper (by omega)
  · intro h
    cases h with
    | decimal h => interval_cases n <;> rfl
    | @upper m h => interval_cases m <;> rfl
    | @lower m h => interval_cases m <;> rfl

theorem hexNumber?_eq_some {a b c d : UInt8} {n : Nat} :
    hexNumber? [a, b, c, d] = some n ↔ Quad [a, b, c, d] n := by
  constructor
  · intro h
    simp only [hexNumber?, List.mapM_cons, List.mapM_nil, Option.map_eq_some_iff,
      Option.bind_eq_bind, Option.bind_eq_some_iff, Option.pure_def] at h
    obtain ⟨_, ⟨i, hi, _, ⟨j, hj, _, ⟨k, hk, _, ⟨l, hl, _, ⟨⟩, ⟨⟩⟩, ⟨⟩⟩, ⟨⟩⟩, ⟨⟩⟩, rfl⟩ := h
    have hquad := Quad.mk (hexDigit?_eq_some.1 hi) (hexDigit?_eq_some.1 hj)
      (hexDigit?_eq_some.1 hk) (hexDigit?_eq_some.1 hl)
    simpa using hquad
  · intro h
    cases h with
    | mk ha hb hc hd =>
      rw [← hexDigit?_eq_some] at ha hb hc hd
      simp [hexNumber?, ha, hb, hc, hd]

/-- The progress after a byte that belongs to the string. -/
@[simp] def Step.next? : Step → Option Progress
  | .more p => some p
  | _ => none

/-- Four bytes after the start of a hexadecimal escape. -/
theorem feed_hex (bytes : List UInt8) (lead : Option Nat) (a b c d : UInt8) (rest : List UInt8) :
    feed ⟨bytes, .hex lead []⟩ (a :: b :: c :: d :: rest) =
      (hexNumber? [a, b, c, d]).bind fun n =>
        (hexEnds ⟨bytes, .plain⟩ lead n).next?.bind fun p => feed p rest := by
  have hthree : feed ⟨bytes, .hex lead []⟩ (a :: b :: c :: d :: rest) =
      feed ⟨bytes, .hex lead [a, b, c]⟩ (d :: rest) := rfl
  rw [hthree, feed]
  cases hn : hexNumber? [a, b, c, d] with
  | none =>
    have hlast : step ⟨bytes, .hex lead [a, b, c]⟩ d = .fault .invalidEscape 0 := by
      simp [step, hn]
    rw [hlast]
    rfl
  | some n =>
    have hlast : step ⟨bytes, .hex lead [a, b, c]⟩ d = hexEnds ⟨bytes, .plain⟩ lead n := by
      simp [step, hn, hexEnds, Progress.push]
    rw [hlast, Option.bind_some]
    cases hexEnds ⟨bytes, .plain⟩ lead n <;> rfl

theorem feed_quad {q : List UInt8} {n : Nat} (h : Quad q n) (bytes : List UInt8)
    (lead : Option Nat) (rest : List UInt8) :
    feed ⟨bytes, .hex lead []⟩ (q ++ rest) =
      (hexEnds ⟨bytes, .plain⟩ lead n).next?.bind fun p => feed p rest := by
  cases h with
  | mk ha hb hc hd =>
    have hnumber := hexNumber?_eq_some.2 (.mk ha hb hc hd)
    simp only [List.cons_append, List.nil_append, feed_hex, hnumber, Option.bind_some]

/-- A hexadecimal escape that has ended has four digits. -/
theorem quad_of_feed {bytes bs : List UInt8} {lead : Option Nat} {p : Progress}
    (h : feed ⟨bytes, .hex lead []⟩ bs = some p) (hp : p.stage = .plain) :
    ∃ q n rest, Quad q n ∧ bs = q ++ rest := by
  match bs with
  | [] | [_] | [_, _] | [_, _, _] =>
    simp only [feed, step, List.nil_append, List.cons_append, List.length_cons, List.length_nil,
      Nat.reduceAdd, Nat.reduceLT, if_true, Option.some.injEq] at h
    simp [← h] at hp
  | a :: b :: c :: d :: rest =>
    rw [feed_hex] at h
    cases hn : hexNumber? [a, b, c, d] with
    | none => simp [hn] at h
    | some n => exact ⟨[a, b, c, d], n, rest, hexNumber?_eq_some.1 hn, rfl⟩

/-! ## Characters -/

theorem short?_of_mem {b : UInt8} {c : Char} (h : (b, c) ∈ shortEscapes) :
    ∃ d, short? b = some d ∧ String.utf8EncodeChar c = [d] := by
  simp only [shortEscapes, List.mem_cons, List.not_mem_nil, or_false, Prod.mk.injEq] at h
  rcases h with ⟨rfl, rfl⟩ | ⟨rfl, rfl⟩ | ⟨rfl, rfl⟩ | ⟨rfl, rfl⟩ | ⟨rfl, rfl⟩ | ⟨rfl, rfl⟩ |
    ⟨rfl, rfl⟩ | ⟨rfl, rfl⟩ <;> exact ⟨_, rfl, rfl⟩

theorem mem_of_short? {b d : UInt8} (h : short? b = some d) : ∃ c, (b, c) ∈ shortEscapes := by
  unfold short? at h
  split_ifs at h with h₁ h₂ h₃ h₄ h₅ h₆
  · rcases h₁ with rfl | rfl | rfl <;> simp [shortEscapes]
  all_goals subst b; simp [shortEscapes]

/-- **An escape is collected as the encoding of its character.** -/
theorem feed_escape {e : List UInt8} {c : Char} (h : Escape e c) (bytes rest : List UInt8) :
    feed ⟨bytes, .plain⟩ (e ++ rest) =
      feed ⟨(String.utf8EncodeChar c).reverse ++ bytes, .plain⟩ rest := by
  cases h with
  | @short b c h =>
    have hb : b ≠ 117 := by
      rintro rfl
      simp [shortEscapes] at h
    obtain ⟨d, hshort, hd⟩ := short?_of_mem h
    have hstep : step ⟨bytes, .escape⟩ b = .more ⟨d :: bytes, .plain⟩ := by
      simp [step, hb, hshort]
    change feed ⟨bytes, .escape⟩ (b :: rest) = _
    rw [feed, hstep, hd]
    rfl
  | @single q n h hn =>
    change feed ⟨bytes, .hex none []⟩ (q ++ rest) = _
    have hends : hexEnds ⟨bytes, .plain⟩ none n =
        .more ⟨(String.utf8EncodeChar (.ofNat n)).reverse ++ bytes, .plain⟩ := by
      have htrail : ¬ (0xDC00 ≤ n ∧ n ≤ 0xDFFF) := by omega
      have hlead : ¬ (0xD800 ≤ n ∧ n ≤ 0xDBFF) := by omega
      simp [hexEnds, htrail, hlead, Progress.push]
    rw [feed_quad h, hends]
    rfl
  | @pair p q m n hp hq hm hn =>
    have hsplit : 92 :: 117 :: p ++ 92 :: 117 :: q ++ rest =
        92 :: 117 :: (p ++ 92 :: 117 :: (q ++ rest)) := by simp
    rw [hsplit]
    change feed ⟨bytes, .hex none []⟩ (p ++ _) = _
    have hlead : hexEnds ⟨bytes, .plain⟩ none m = .more ⟨bytes, .lead m⟩ := by
      have htrail : ¬ (0xDC00 ≤ m ∧ m ≤ 0xDFFF) := by omega
      simp [hexEnds, htrail, hm]
    rw [feed_quad hp, hlead]
    change feed ⟨bytes, .hex (some m) []⟩ (q ++ rest) = _
    have hends : hexEnds ⟨bytes, .plain⟩ (some m) n = .more ⟨(String.utf8EncodeChar
        (.ofNat (joinSurrogates m n))).reverse ++ bytes, .plain⟩ := by
      simp [hexEnds, hn, Progress.push]
    rw [feed_quad hq, hends]
    rfl

/-- The bytes that a string takes as they are. -/
def IsRaw (b : UInt8) : Prop := 32 ≤ b.toNat ∧ b ≠ 34 ∧ b ≠ 92

theorem step_raw {b : UInt8} (h : IsRaw b) (bytes : List UInt8) :
    step ⟨bytes, .plain⟩ b = .more ⟨b :: bytes, .plain⟩ := by
  have hlow : ¬ b < 32 := by
    rw [UInt8.lt_iff_toNat_lt]
    exact Nat.not_lt.2 h.1
  simp [step, h.2.1, h.2.2, hlow]

theorem feed_raw {as : List UInt8} (h : ∀ b ∈ as, IsRaw b) (bytes rest : List UInt8) :
    feed ⟨bytes, .plain⟩ (as ++ rest) = feed ⟨as.reverse ++ bytes, .plain⟩ rest := by
  induction as generalizing bytes with
  | nil => rfl
  | cons a as ih =>
    rw [List.forall_mem_cons] at h
    rw [List.cons_append, feed, step_raw h.1]
    dsimp only
    rw [ih h.2]
    simp

theorem isRaw_of_high {b : UInt8} (h : 0x80 ≤ b.toNat) : IsRaw b := by
  refine ⟨by omega, ?_, ?_⟩ <;>
    · rintro rfl
      simp at h

theorem isRaw_ofNat {c : Char} (h : c.toNat < 0x80) : IsRaw (.ofNat c.toNat) ↔ IsPlain c := by
  have hc : (UInt8.ofNat c.toNat).toNat = c.toNat := by rw [UInt8.toNat_ofNat']; omega
  simp only [IsRaw, IsPlain, ne_eq, ← UInt8.toNat_inj, hc, ← Char.toNat_inj]
  rfl

theorem isPlain_of_high {c : Char} (h : 0x80 ≤ c.toNat) : IsPlain c := by
  refine ⟨by omega, ?_, ?_⟩ <;>
    · rintro rfl
      simp at h

/-- The bytes of a character that stands for itself stand for themselves. -/
theorem isRaw_of_isPlain {c : Char} (h : IsPlain c) : ∀ b ∈ String.utf8EncodeChar c, IsRaw b := by
  rcases Utf8.encodeChar_bytes c with ⟨hascii, hbytes⟩ | ⟨-, b, t, hbytes, hb, ht⟩
  · rw [hbytes, List.forall_mem_singleton]
    exact (isRaw_ofNat hascii).2 h
  · rw [hbytes, List.forall_mem_cons]
    exact ⟨isRaw_of_high (by omega), fun d hd => isRaw_of_high (ht d hd).1⟩

/-- **What spells characters is collected as their encoding.** -/
theorem feed_spells {bs : List UInt8} {cs : List Char} (h : Spells bs cs) (bytes : List UInt8) :
    feed ⟨bytes, .plain⟩ bs = some ⟨(Utf8.encode cs).reverse ++ bytes, .plain⟩ := by
  induction h generalizing bytes with
  | nil => rfl
  | plain h hs ih =>
    rw [feed_raw (isRaw_of_isPlain h), ih]
    simp [Utf8.encode]
  | escape h hs ih =>
    rw [feed_escape h, ih]
    simp [Utf8.encode]

/-! ## What has been read -/

/-- The inside of a string and the bytes that are collected of it. -/
inductive Reads : List UInt8 → List UInt8 → Prop
  | nil : Reads [] []
  | raw {b : UInt8} {bs as : List UInt8} (h : IsRaw b) (hs : Reads bs as) :
    Reads (b :: bs) (b :: as)
  | escape {e : List UInt8} {c : Char} {bs as : List UInt8} (h : Escape e c) (hs : Reads bs as) :
    Reads (e ++ bs) (String.utf8EncodeChar c ++ as)

theorem isRaw_of_step {bytes : List UInt8} {b : UInt8} {p : Progress}
    (h : step ⟨bytes, .plain⟩ b = .more p) (hb : b ≠ 92) : IsRaw b := by
  by_cases hquote : b = 34
  · subst hquote
    rw [step_quote, close] at h
    split at h <;> simp at h
  · by_cases hlow : b < 32
    · simp [step, hquote, hb, hlow] at h
    · rw [UInt8.lt_iff_toNat_lt] at hlow
      exact ⟨Nat.not_lt.1 hlow, hquote, hb⟩

/-- A hexadecimal escape that has ended, second half of a pair or not. -/
theorem escape_of_hex {bytes bs : List UInt8} {p : Progress}
    (h : feed ⟨bytes, .hex none []⟩ bs = some p) (hp : p.stage = .plain) :
    ∃ e c rest, bs = e ++ rest ∧ Escape (92 :: 117 :: e) c := by
  obtain ⟨q, m, rest, hq, rfl⟩ := quad_of_feed h hp
  rw [feed_quad hq] at h
  by_cases htrail : 0xDC00 ≤ m ∧ m ≤ 0xDFFF
  · simp [hexEnds, htrail] at h
  · by_cases hlead : 0xD800 ≤ m ∧ m ≤ 0xDBFF
    · -- a leading surrogate: a backslash, a `u` and the other half must follow
      have hends : hexEnds ⟨bytes, .plain⟩ none m = .more ⟨bytes, .lead m⟩ := by
        simp [hexEnds, htrail, hlead]
      rw [hends, Step.next?, Option.bind_some] at h
      match rest with
      | [] =>
        simp only [feed, Option.some.injEq] at h
        simp [← h] at hp
      | [b] =>
        by_cases hb : b = 92
        · simp only [feed, step, hb, if_true, Option.some.injEq] at h
          simp [← h] at hp
        · simp [feed, step, hb] at h
      | b :: d :: rest =>
        by_cases hb : b = 92
        · by_cases hd : d = 117
          · subst hb hd
            change feed ⟨bytes, .hex (some m) []⟩ rest = some p at h
            obtain ⟨r, n, rest, hr, rfl⟩ := quad_of_feed h hp
            rw [feed_quad hr] at h
            by_cases hn : 0xDC00 ≤ n ∧ n ≤ 0xDFFF
            · exact ⟨q ++ 92 :: 117 :: r, _, rest, by simp, .pair hq hr hlead hn⟩
            · simp [hexEnds, hn] at h
          · simp [feed, step, hb, hd] at h
        · simp [feed, step, hb] at h
    · exact ⟨q, _, rest, rfl, .single hq (by omega)⟩

theorem escape_of_feed {bytes bs : List UInt8} {p : Progress}
    (h : feed ⟨bytes, .escape⟩ bs = some p) (hp : p.stage = .plain) :
    ∃ e c rest, bs = e ++ rest ∧ Escape (92 :: e) c := by
  cases bs with
  | nil =>
    simp only [feed, Option.some.injEq] at h
    simp [← h] at hp
  | cons b bs =>
    by_cases hb : b = 117
    · subst hb
      change feed ⟨bytes, .hex none []⟩ bs = some p at h
      obtain ⟨e, c, rest, rfl, he⟩ := escape_of_hex h hp
      exact ⟨117 :: e, c, rest, rfl, he⟩
    · cases hd : short? b with
      | none => simp [feed, step, hb, hd] at h
      | some d =>
        obtain ⟨c, hc⟩ := mem_of_short? hd
        exact ⟨[b], c, bs, rfl, .short hc⟩

/-- **What is collected** of the inside of a string that may end. -/
theorem reads_of_feed {bytes bs : List UInt8} {p : Progress} (h : feed ⟨bytes, .plain⟩ bs = some p)
    (hp : p.stage = .plain) : ∃ as, p.bytes = as.reverse ++ bytes ∧ Reads bs as := by
  -- by induction on the length, since an escape takes several bytes at once
  induction hn : bs.length using Nat.strongRecOn generalizing bytes bs with
  | ind n ih =>
    cases bs with
    | nil =>
      obtain rfl : ⟨bytes, .plain⟩ = p := by simpa [feed] using h
      exact ⟨[], rfl, .nil⟩
    | cons b bs =>
      by_cases hb : b = 92
      · subst hb
        have hescape : feed ⟨bytes, .escape⟩ bs = some p := h
        obtain ⟨e, c, rest, rfl, he⟩ := escape_of_feed hescape hp
        rw [← List.cons_append, feed_escape he] at h
        obtain ⟨as, has, hreads⟩ := ih _ (by simp at hn; omega) h rfl
        refine ⟨String.utf8EncodeChar c ++ as, ?_, .escape he hreads⟩
        rw [has]
        simp
      · simp only [feed] at h
        cases hstep : step ⟨bytes, .plain⟩ b with
        | more q =>
          have hraw := isRaw_of_step hstep hb
          rw [step_raw hraw] at h
          obtain ⟨as, has, hreads⟩ := ih _ (by simp at hn; omega) h rfl
          refine ⟨b :: as, ?_, .raw hraw hreads⟩
          rw [has]
          simp
        | ends s => simp [hstep] at h
        | fault r back => simp [hstep] at h

/-- Bytes that come first in no character have been collected one by one. -/
theorem Reads.skip {t bs as : List UInt8} (ht : ∀ d ∈ t, 0x80 ≤ d.toNat ∧ d.toNat < 0xC0)
    (h : Reads bs (t ++ as)) : ∃ rest, bs = t ++ rest ∧ Reads rest as := by
  induction t generalizing bs with
  | nil => exact ⟨bs, rfl, h⟩
  | cons d t ih =>
    rw [List.forall_mem_cons] at ht
    generalize hx : d :: t ++ as = x at h
    cases h with
    | nil => simp at hx
    | raw hb hs =>
      obtain ⟨rfl, rfl⟩ := List.cons.inj hx
      obtain ⟨rest, rfl, hrest⟩ := ih ht.2 hs
      exact ⟨rest, rfl, hrest⟩
    | @escape e c _ _ he hs =>
      -- an escape is collected as a whole character, whose first byte comes first
      exfalso
      rcases Utf8.encodeChar_bytes c with ⟨hascii, hbytes⟩ | ⟨-, b, u, hbytes, hb, -⟩
      · rw [hbytes] at hx
        have hd : (UInt8.ofNat c.toNat).toNat = c.toNat := by rw [UInt8.toNat_ofNat']; omega
        rw [(List.cons.inj hx).1, hd] at ht
        omega
      · rw [hbytes] at hx
        rw [(List.cons.inj hx).1] at ht
        omega

/-- **What is collected as the encoding of characters spells them.** -/
theorem spells_of_reads {cs : List Char} {bs : List UInt8} (h : Reads bs (Utf8.encode cs)) :
    Spells bs cs := by
  -- by induction on the characters: the bytes of one may have been collected one by one
  induction cs generalizing bs with
  | nil =>
    generalize hx : Utf8.encode [] = x at h
    cases h with
    | nil => exact .nil
    | raw hb hs => simp [Utf8.encode] at hx
    | @escape e c _ _ he hs =>
      rcases Utf8.encodeChar_bytes c with ⟨-, hbytes⟩ | ⟨-, b, u, hbytes, -⟩ <;>
        simp [Utf8.encode, hbytes] at hx
  | cons c cs ih =>
    generalize hx : Utf8.encode (c :: cs) = x at h
    rw [Utf8.encode, List.flatMap_cons, ← Utf8.encode] at hx
    cases h with
    | nil =>
      rcases Utf8.encodeChar_bytes c with ⟨-, hbytes⟩ | ⟨-, b, u, hbytes, -⟩ <;>
        simp [hbytes] at hx
    | escape he hs =>
      obtain ⟨rfl, rfl⟩ := Utf8.encodeChar_append_inj hx
      exact .escape he (ih hs)
    | raw hb hs =>
      -- the rest of the character has been collected as it is
      rcases Utf8.encodeChar_bytes c with ⟨hascii, hbytes⟩ | ⟨hhigh, b, t, hbytes, -, ht⟩
      · rw [hbytes] at hx
        obtain ⟨rfl, rfl⟩ := List.cons.inj hx
        have hspells := Spells.plain ((isRaw_ofNat hascii).1 hb) (ih hs)
        rwa [hbytes] at hspells
      · rw [hbytes] at hx
        obtain ⟨rfl, rfl⟩ := List.cons.inj hx
        obtain ⟨rest, rfl, hrest⟩ := hs.skip ht
        have hspells := Spells.plain (isPlain_of_high hhigh) (ih hrest)
        rwa [hbytes] at hspells

theorem close_eq_ends {p : Progress} {s : String} :
    close p = .ends s ↔ ∃ cs, p.bytes.reverse = Utf8.encode cs ∧ s = .ofList cs := by
  unfold close
  constructor
  · intro h
    split at h
    · rename_i cs hcs
      exact ⟨cs, Utf8.decode_eq_ok_iff.1 hcs, by simpa using h.symm⟩
    · simp at h
  · rintro ⟨cs, hcs, rfl⟩
    rw [Utf8.decode_eq_ok_iff.2 hcs]

/-- Only a quote outside an escape ends a string. -/
theorem close_of_step {p : Progress} {b : UInt8} {s : String} (h : step p b = .ends s) :
    p.stage = .plain ∧ b = 34 ∧ close p = .ends s := by
  obtain ⟨bytes, stage⟩ := p
  cases stage with
  | plain =>
    by_cases hb : b = 34
    · subst hb
      exact ⟨rfl, rfl, h⟩
    · simp only [step, hb, if_false] at h
      split_ifs at h
  | escape =>
    simp only [step] at h
    split_ifs at h
    split at h <;> simp at h
  | hex lead digits =>
    simp only [step] at h
    split_ifs at h
    split at h
    · unfold hexEnds at h
      cases lead with
      | none =>
        dsimp only at h
        split_ifs at h
      | some m =>
        dsimp only at h
        split_ifs at h
    · simp at h
  | lead n =>
    simp only [step] at h
    split_ifs at h
  | leadEscape n =>
    simp only [step] at h
    split_ifs at h

/-- **A string is read iff its inside spells characters**, and as these. -/
theorem ends_iff {bs : List UInt8} {s : String} :
    (∃ p, feed start bs = some p ∧ step p 34 = .ends s) ↔ ∃ cs, Spells bs cs ∧ s = .ofList cs := by
  constructor
  · rintro ⟨p, hfeed, hstep⟩
    obtain ⟨hp, -, hclose⟩ := close_of_step hstep
    obtain ⟨cs, hcs, rfl⟩ := close_eq_ends.1 hclose
    obtain ⟨as, has, hreads⟩ := reads_of_feed hfeed hp
    refine ⟨cs, spells_of_reads ?_, rfl⟩
    rw [has, List.append_nil, List.reverse_reverse] at hcs
    rwa [← hcs]
  · rintro ⟨cs, hspells, rfl⟩
    refine ⟨_, feed_spells hspells [], ?_⟩
    rw [step_quote, close_eq_ends]
    exact ⟨cs, by simp, rfl⟩

theorem spells_of_ends {p : Progress} {bs : List UInt8} {b : UInt8} {s : String}
    (h : feed start bs = some p) (hb : step p b = .ends s) :
    b = 34 ∧ ∃ cs, Spells bs cs ∧ s = .ofList cs := by
  obtain ⟨-, rfl, -⟩ := close_of_step hb
  exact ⟨rfl, ends_iff.1 ⟨p, h, hb⟩⟩

end TopicListeners.Payload.Literal
