import TopicListeners.Collaborator
import TopicListeners.Proofs.Text.Utf8

/-!
# Reading UTF-8 leniently

Lenient reading takes characters off the front of a byte string where there are any, and else a
broken piece: the longest run of bytes that begins a character, or a single byte that begins none.
Since a character has one first byte, and tail bytes are no first bytes, a broken piece never
reaches into a character, and what stands around characters is read as if it stood alone.

* `front_eq_none`: **a first piece is broken iff it is such a run.**
* `pieces_eq_iff`: the pieces of a byte string are the only ones it can be cut into.
* `pieces_append`: **a byte string can be cut where no tail byte comes next.**
* `splits_replicate_iff`: where no character stands, all pieces are broken.
* `Converter.json_key`: what that means for the keys of records.
-/

namespace TopicListeners

namespace Text.Utf8

/-! ## Broken pieces -/

/-- Bytes that begin a character, or complete one. -/
def Begins (s : List UInt8) : Prop := ∃ c : Char, s <+: String.utf8EncodeChar c

/-- **A broken piece** in front of other bytes: a run that begins a character without completing it
and cannot be made longer, or a single byte that begins none. -/
inductive Broken : List UInt8 → List UInt8 → Prop
  | begun {s rest : List UInt8} (hne : s ≠ []) (hs : Begins s)
    (hincomplete : ∀ c, s ≠ String.utf8EncodeChar c)
    (hmax : ∀ d ∈ rest.head?, ¬ Begins (s ++ [d])) : Broken s rest
  | stray {b : UInt8} {rest : List UInt8} (hb : ¬ Begins [b]) : Broken [b] rest

/-- The bytes that come first in no character. -/
def IsTail (b : UInt8) : Prop := 0x80 ≤ b ∧ b ≤ 0xBF

theorem Begins.of_append {s t : List UInt8} (h : Begins (s ++ t)) : Begins s := by
  obtain ⟨c, hc⟩ := h
  exact ⟨c, (List.prefix_append s t).trans hc⟩

theorem exists_cons (c : Char) : ∃ b t, String.utf8EncodeChar c = b :: t := by
  rcases encodeChar_bytes c with ⟨-, h⟩ | ⟨-, b, t, h, -⟩
  · exact ⟨_, _, h⟩
  · exact ⟨b, t, h⟩

/-- After its first byte a character has tail bytes only. -/
theorem isTail_of_cons {c : Char} {b : UInt8} {t : List UInt8}
    (h : String.utf8EncodeChar c = b :: t) : ¬ IsTail b ∧ ∀ d ∈ t, IsTail d := by
  unfold IsTail
  simp only [UInt8.le_iff_toNat_le, UInt8.reduceToNat]
  rcases encodeChar_bytes c with ⟨hascii, hbytes⟩ | ⟨-, b', t', hbytes, hb, ht⟩
  · obtain ⟨rfl, rfl⟩ := List.cons.inj (h.symm.trans hbytes)
    have hc : (UInt8.ofNat c.toNat).toNat = c.toNat := by rw [UInt8.toNat_ofNat']; omega
    rw [hc]
    exact ⟨by omega, by simp⟩
  · obtain ⟨rfl, rfl⟩ := List.cons.inj (h.symm.trans hbytes)
    exact ⟨by omega, fun d hd => ⟨(ht d hd).1, by have := (ht d hd).2; omega⟩⟩

/-- Only tail bytes go on with a character. -/
theorem Begins.isTail {s : List UInt8} {d : UInt8} (h : Begins (s ++ [d])) (hs : s ≠ []) :
    IsTail d := by
  obtain ⟨c, u, hu⟩ := h
  obtain ⟨b, s, rfl⟩ := List.exists_cons_of_ne_nil hs
  exact (isTail_of_cons hu.symm).2 d (by simp)

/-- No encoding of a character comes first in another one. -/
theorem eq_of_prefix {c d : Char} (h : String.utf8EncodeChar c <+: String.utf8EncodeChar d) :
    c = d := by
  obtain ⟨u, hu⟩ := h
  exact (encodeChar_append_inj (hu.trans (List.append_nil _).symm)).1

/-- Where a broken piece comes first, no character does. -/
theorem Broken.append_ne {s rest : List UInt8} (h : Broken s rest) (c : Char) (bs : List UInt8) :
    s ++ rest ≠ String.utf8EncodeChar c ++ bs := by
  intro heq
  cases h with
  | @stray b _ hb =>
    obtain ⟨b', t, hc⟩ := exists_cons c
    rw [hc] at heq
    obtain ⟨rfl, -⟩ := List.cons.inj heq
    exact hb ⟨c, t, hc.symm⟩
  | begun hne hs hincomplete hmax =>
    rcases List.append_eq_append_iff.1 heq with ⟨u, hc, hrest⟩ | ⟨u, hsc, -⟩
    · -- the character would go on after the piece
      cases u with
      | nil => exact hincomplete c (by rw [hc, List.append_nil])
      | cons d u =>
        refine hmax d (by rw [hrest]; rfl) ⟨c, u, ?_⟩
        rw [hc]
        simp
    · obtain ⟨d, hd⟩ := hs
      have hcd : c = d := eq_of_prefix ((List.prefix_append _ _).trans (hsc ▸ hd))
      subst hcd
      refine hincomplete c (hd.eq_of_length_le ?_)
      rw [hsc, List.length_append]
      exact Nat.le_add_right _ _

theorem Broken.ne_nil {s rest : List UInt8} (h : Broken s rest) : s ≠ [] := by
  cases h with
  | begun hne => exact hne
  | stray => exact List.cons_ne_nil _ _

/-- A broken piece cannot be made longer. -/
theorem Broken.not_begins {s u rest : List UInt8} {d : UInt8} (h : Broken s rest)
    (hd : d ∈ rest.head?) : ¬ Begins (s ++ d :: u) := by
  intro hbegins
  rw [← List.singleton_append, ← List.append_assoc] at hbegins
  cases h with
  | begun hne hs hincomplete hmax => exact hmax d hd hbegins.of_append
  | stray hb => exact hb hbegins.of_append.of_append

/-- A byte string has at most one broken piece in front. -/
theorem Broken.unique {s t rest rest' : List UInt8} (h : Broken s rest) (h' : Broken t rest')
    (heq : s ++ rest = t ++ rest') : rest = rest' := by
  -- the longer one of two pieces would make the shorter one longer
  have key {s t rest rest' u : List UInt8} (h : Broken s rest) (h' : Broken t rest')
      (ht : t = s ++ u) (hrest : rest = u ++ rest') : rest = rest' := by
    cases u with
    | nil => exact hrest
    | cons d u =>
      exfalso
      subst ht
      generalize hx : s ++ d :: u = x at h'
      cases h' with
      | stray hb =>
        obtain ⟨b, s, rfl⟩ := List.exists_cons_of_ne_nil h.ne_nil
        simp at hx
      | begun hne hs =>
        rw [← hx] at hs
        exact h.not_begins (by rw [hrest]; rfl) hs
  rcases List.append_eq_append_iff.1 heq with ⟨u, ht, hrest⟩ | ⟨u, hs, hrest⟩
  · exact key h h' ht hrest
  · exact (key h' h hs hrest).symm

/-! ## The first piece -/

section

variable {n v : Nat} {b : UInt8} {bs rest : List UInt8}

theorem complete_isTail (h : IsTail b) :
    complete (n + 1) v (b :: bs) = complete n (v * 64 + tailBits b) bs := by
  unfold IsTail at h
  rw [complete, if_pos h]

/-- A character that is not completed lacks a byte, or goes on with a byte that is no tail byte. -/
theorem complete_eq_none (h : complete n v bs = (none, rest)) :
    ∃ t, bs = t ++ rest ∧ t.length < n ∧ (∀ d ∈ t, IsTail d) ∧ ∀ d ∈ rest.head?, ¬ IsTail d := by
  induction n generalizing v bs with
  | zero => simp [complete] at h
  | succ n ih =>
    cases bs with
    | nil =>
      obtain rfl : [] = rest := by simpa [complete] using h
      exact ⟨[], rfl, Nat.succ_pos n, by simp, by simp⟩
    | cons b bs =>
      by_cases hb : IsTail b
      · rw [complete_isTail hb] at h
        obtain ⟨t, rfl, hlength, htails, hend⟩ := ih h
        exact ⟨b :: t, rfl, by simpa using hlength, by simpa using ⟨hb, htails⟩, hend⟩
      · have hstop : complete (n + 1) v (b :: bs) = (none, b :: bs) := by
          unfold IsTail at hb
          rw [complete, if_neg hb]
        obtain rfl : b :: bs = rest := (Prod.mk.inj (hstop.symm.trans h)).2
        exact ⟨[], rfl, Nat.succ_pos n, by simp, by simpa using hb⟩

/-- Few enough tail bytes can be completed. -/
theorem exists_complete {t : List UInt8} (ht : ∀ d ∈ t, IsTail d) (hlength : t.length ≤ n) :
    ∃ u c, complete n v (t ++ u) = (some c, []) := by
  induction n generalizing v t with
  | zero =>
    obtain rfl := List.eq_nil_of_length_eq_zero (Nat.le_zero.1 hlength)
    exact ⟨[], _, rfl⟩
  | succ n ih =>
    cases t with
    | nil =>
      have h80 : IsTail 0x80 := by unfold IsTail; decide
      obtain ⟨u, c, hu⟩ := ih (v := v * 64 + tailBits 0x80) (t := []) (by simp) (Nat.zero_le n)
      exact ⟨0x80 :: u, c, by rw [List.nil_append, complete_isTail h80]; exact hu⟩
    | cons d t =>
      rw [List.forall_mem_cons] at ht
      obtain ⟨u, c, hu⟩ := ih (v := v * 64 + tailBits d) ht.2 (by simpa using hlength)
      exact ⟨u, c, by rw [List.cons_append, complete_isTail ht.1, hu]⟩

theorem lead?_low_le_high {l : Lead} (h : lead? b = some l) : l.low ≤ l.high := by
  rcases lead?_eq_some h with ⟨x, hx, hx', rfl⟩ | ⟨x, hx, rfl⟩ | ⟨w, hw, rfl⟩
  · obtain rfl := Option.some.inj (h.symm.trans (lead?_two hx hx'))
    dsimp only
    decide
  · obtain rfl := Option.some.inj (h.symm.trans (lead?_three hx))
    dsimp only
    split_ifs <;> first | decide | omega
  · obtain rfl := Option.some.inj (h.symm.trans (lead?_four hw))
    dsimp only
    split_ifs <;> first | decide | omega

theorem not_ascii_of_lead? {l : Lead} (h : lead? b = some l) : ¬ b < 0x80 := by
  intro hb
  have : b < 0xC2 := UInt8.lt_trans hb (by decide)
  simp [lead?, this] at h

theorem front_lead? {l : Lead} {d : UInt8} (h : lead? b = some l) (hd : l.low ≤ d ∧ d ≤ l.high) :
    front b (d :: bs) = complete l.more (l.bits * 64 + tailBits d) bs := by
  unfold front
  rw [if_neg (not_ascii_of_lead? h)]
  simp only [h, if_pos hd]

/-- What a character begins with. -/
theorem begins_iff_front {s : List UInt8} :
    Begins (b :: s) ↔ ∃ u c, front b (s ++ u) = (some c, []) := by
  simp only [front_eq_some, List.append_nil]
  constructor
  · rintro ⟨c, u, h⟩
    exact ⟨u, c, h⟩
  · rintro ⟨u, c, h⟩
    exact ⟨c, u, h⟩

theorem begins_singleton {l : Lead} (h : lead? b = some l) : Begins [b] := by
  obtain ⟨u, c, hu⟩ := exists_complete (n := l.more) (v := l.bits * 64 + tailBits l.low) (t := [])
    (by simp) (Nat.zero_le _)
  have hlow : l.low ≤ l.low ∧ l.low ≤ l.high := ⟨UInt8.le_refl _, lead?_low_le_high h⟩
  exact begins_iff_front.2 ⟨l.low :: u, c, by rw [List.nil_append, front_lead? h hlow]; exact hu⟩

theorem begins_cons_cons {l : Lead} {d : UInt8} {t : List UInt8} (h : lead? b = some l)
    (hd : l.low ≤ d ∧ d ≤ l.high) (ht : ∀ e ∈ t, IsTail e) (hlength : t.length ≤ l.more) :
    Begins (b :: d :: t) := by
  obtain ⟨u, c, hu⟩ := exists_complete (n := l.more) (v := l.bits * 64 + tailBits d) ht hlength
  exact begins_iff_front.2 ⟨u, c, by rw [List.cons_append, front_lead? h hd, hu]⟩

/-- Only first bytes begin characters. -/
theorem lead?_of_begins {s : List UInt8} (hascii : ¬ b < 0x80) (h : Begins (b :: s)) :
    ∃ l, lead? b = some l ∧ ∀ d ∈ s.head?, l.low ≤ d ∧ d ≤ l.high := by
  obtain ⟨u, c, hu⟩ := begins_iff_front.1 h
  rcases complete_of_front hu with ⟨hb, -⟩ | ⟨l, y, ds, hl, hy, hs, hlow, hhigh, -⟩
  · exact absurd (UInt8.lt_iff_toNat_lt.2 hb) hascii
  · refine ⟨l, hl, fun d hd => ?_⟩
    cases s with
    | nil => cases hd
    | cons e s =>
      obtain rfl := Option.some.inj hd
      obtain ⟨rfl, -⟩ := List.cons.inj hs
      have htoNat : (UInt8.ofNat (0x80 + y)).toNat = 0x80 + y := by rw [UInt8.toNat_ofNat']; omega
      rw [UInt8.le_iff_toNat_le, UInt8.le_iff_toNat_le, htoNat]
      exact ⟨hlow, hhigh⟩

/-- **A piece that is no character is broken.** -/
theorem broken_of_front (h : front b bs = (none, rest)) :
    ∃ s, b :: bs = s ++ rest ∧ Broken s rest := by
  have hincomplete (s : List UInt8) (hs : b :: bs = s ++ rest) (c : Char) :
      s ≠ String.utf8EncodeChar c := by
    rintro rfl
    rw [front_eq_some.2 hs] at h
    cases h
  have hfront := h
  unfold front at hfront
  split at hfront
  · cases hfront
  · rename_i hascii
    split at hfront
    · rename_i hlead
      obtain ⟨-, rfl⟩ := Prod.mk.inj hfront
      refine ⟨[b], rfl, .stray fun hb => ?_⟩
      obtain ⟨l, hl, -⟩ := lead?_of_begins hascii hb
      rw [hlead] at hl
      cases hl
    · rename_i l hlead
      obtain ⟨-, rfl⟩ := Prod.mk.inj hfront
      refine ⟨[b], rfl, .begun (by simp) (begins_singleton hlead) (hincomplete _ rfl) ?_⟩
      simp
    · rename_i l d ds hlead
      split at hfront
      · rename_i hd
        obtain ⟨t, rfl, hlength, htails, hend⟩ := complete_eq_none hfront
        refine ⟨b :: d :: t, rfl, .begun (by simp)
          (begins_cons_cons hlead hd htails (Nat.le_of_lt hlength)) (hincomplete _ rfl) ?_⟩
        exact fun e he hbegins => hend e he (hbegins.isTail (by simp))
      · rename_i hd
        obtain ⟨-, rfl⟩ := Prod.mk.inj hfront
        refine ⟨[b], rfl, .begun (by simp) (begins_singleton hlead) (hincomplete _ rfl) ?_⟩
        intro e he hbegins
        obtain rfl := Option.some.inj he
        obtain ⟨l', hl', hbounds⟩ := lead?_of_begins hascii hbegins
        obtain rfl := Option.some.inj (hlead.symm.trans hl')
        exact hd (hbounds d rfl)

/-- **A first piece is broken iff no character comes first**, and it is as long as it can be. -/
theorem front_eq_none :
    front b bs = (none, rest) ↔ ∃ s, b :: bs = s ++ rest ∧ Broken s rest := by
  constructor
  · exact broken_of_front
  · rintro ⟨s, hs, hbroken⟩
    cases hfront : front b bs with
    | mk first rest' =>
      cases first with
      | some c =>
        refine absurd (front_eq_some.1 hfront) ?_
        rw [hs]
        exact hbroken.append_ne c rest'
      | none =>
        obtain ⟨s', hs', hbroken'⟩ := broken_of_front hfront
        rw [hbroken.unique hbroken' (hs.symm.trans hs')]

end

/-! ## All pieces -/

/-- **A byte string and its pieces**, `none` for each broken one. -/
inductive Splits : List UInt8 → List (Option Char) → Prop
  | nil : Splits [] []
  | char {c : Char} {bs : List UInt8} {ps : List (Option Char)} (h : Splits bs ps) :
    Splits (String.utf8EncodeChar c ++ bs) (some c :: ps)
  | broken {s bs : List UInt8} {ps : List (Option Char)} (hs : Broken s bs) (h : Splits bs ps) :
    Splits (s ++ bs) (none :: ps)

section

variable {bs k x : List UInt8} {ps : List (Option Char)}

theorem pieces_char (c : Char) (bs : List UInt8) :
    pieces (String.utf8EncodeChar c ++ bs) = some c :: pieces bs := by
  obtain ⟨b, t, hc⟩ := exists_cons c
  have hfront : front b (t ++ bs) = (some c, bs) := by
    rw [front_eq_some, hc, List.cons_append]
  rw [hc, List.cons_append, pieces_cons, hfront]

theorem pieces_broken {s : List UInt8} (h : Broken s bs) :
    pieces (s ++ bs) = none :: pieces bs := by
  obtain ⟨b, t, rfl⟩ := List.exists_cons_of_ne_nil h.ne_nil
  have hfront : front b (t ++ bs) = (none, bs) := front_eq_none.2 ⟨b :: t, rfl, h⟩
  rw [List.cons_append, pieces_cons, hfront]

theorem Splits.pieces_eq (h : Splits bs ps) : pieces bs = ps := by
  induction h with
  | nil => exact pieces_nil
  | char h ih => rw [pieces_char, ih]
  | broken hs h ih => rw [pieces_broken hs, ih]

theorem splits_pieces (bs : List UInt8) : Splits bs (pieces bs) := by
  induction bs using pieces.induct with
  | case1 =>
    rw [pieces_nil]
    exact .nil
  | case2 b bs ih =>
    rw [pieces_cons]
    cases hfront : front b bs with
    | mk first rest =>
      rw [hfront] at ih
      cases first with
      | some c =>
        rw [front_eq_some.1 hfront]
        exact .char ih
      | none =>
        obtain ⟨s, hs, hbroken⟩ := front_eq_none.1 hfront
        rw [hs]
        exact .broken hbroken ih

/-- **A byte string has its pieces**, and no others. -/
theorem pieces_eq_iff : pieces bs = ps ↔ Splits bs ps :=
  ⟨fun h => h ▸ splits_pieces bs, Splits.pieces_eq⟩

/-- What comes after a broken piece may be made longer, but not by tail bytes. -/
theorem Broken.append {s rest : List UInt8} (h : Broken s rest) (hx : ∀ d ∈ x.head?, ¬ IsTail d) :
    Broken s (rest ++ x) := by
  cases h with
  | stray hb => exact .stray hb
  | begun hne hs hincomplete hmax =>
    refine .begun hne hs hincomplete fun d hd hbegins => ?_
    cases rest with
    | nil =>
      -- the piece ends where `x` begins
      exact hx d hd (hbegins.isTail hne)
    | cons e rest => exact hmax d hd hbegins

/-- **A byte string can be cut where no tail byte comes next.** -/
theorem pieces_append (hx : ∀ d ∈ x.head?, ¬ IsTail d) :
    pieces (k ++ x) = pieces k ++ pieces x := by
  have h := splits_pieces k
  generalize pieces k = ps at h
  induction h with
  | nil => rfl
  | char h ih => rw [List.append_assoc, pieces_char, ih, List.cons_append]
  | broken hs h ih => rw [List.append_assoc, pieces_broken (hs.append hx), ih, List.cons_append]

theorem pieces_encode_append (cs : List Char) (bs : List UInt8) :
    pieces (encode cs ++ bs) = cs.map some ++ pieces bs := by
  induction cs with
  | nil => rfl
  | cons c cs ih =>
    rw [encode, List.flatMap_cons, List.append_assoc, pieces_char, ← encode, ih]
    rfl

/-- **The pieces around characters are those of what stands around them.** -/
theorem pieces_surround {cs : List Char} (hcs : cs ≠ []) (k₁ k₂ : List UInt8) :
    pieces (k₁ ++ encode cs ++ k₂) = pieces k₁ ++ cs.map some ++ pieces k₂ := by
  have hhead : ∀ d ∈ (encode cs ++ k₂).head?, ¬ IsTail d := by
    obtain ⟨c, cs, rfl⟩ := List.exists_cons_of_ne_nil hcs
    obtain ⟨b, t, hc⟩ := exists_cons c
    rw [encode, List.flatMap_cons, hc]
    rintro d ⟨⟩
    exact (isTail_of_cons hc).1
  rw [List.append_assoc, pieces_append hhead, pieces_encode_append, List.append_assoc]

theorem Splits.mem {c : Char} (h : Splits bs ps) (hc : some c ∈ ps) :
    ∃ x y, bs = x ++ String.utf8EncodeChar c ++ y := by
  induction h with
  | nil => cases hc
  | @char d bs ps h ih =>
    rcases List.mem_cons.1 hc with hcd | hc
    · obtain rfl := Option.some.inj hcd
      exact ⟨[], bs, rfl⟩
    · obtain ⟨x, y, rfl⟩ := ih hc
      exact ⟨String.utf8EncodeChar d ++ x, y, by simp⟩
  | @broken s bs ps hs h ih =>
    rcases List.mem_cons.1 hc with hcd | hc
    · cases hcd
    · obtain ⟨x, y, rfl⟩ := ih hc
      exact ⟨s ++ x, y, by simp⟩

/-- **Without a character all pieces are broken**, wherever the character may stand. -/
theorem splits_replicate_iff :
    (∀ (c : Char) (x y : List UInt8), bs ≠ x ++ String.utf8EncodeChar c ++ y) ↔
      ∃ n, Splits bs (List.replicate n none) := by
  constructor
  · intro h
    refine ⟨(pieces bs).length, pieces_eq_iff.1 (List.eq_replicate_iff.2 ⟨rfl, fun p hp => ?_⟩)⟩
    cases p with
    | none => rfl
    | some c =>
      obtain ⟨x, y, hbs⟩ := (splits_pieces bs).mem hp
      exact absurd hbs (h c x y)
  · rintro ⟨n, h⟩ c x y rfl
    have hpieces := pieces_surround (List.cons_ne_nil c []) x y
    rw [show encode [c] = String.utf8EncodeChar c by simp [encode], h.pieces_eq] at hpieces
    have hmem : some c ∈ List.replicate n (none : Option Char) := by simp [hpieces]
    cases List.eq_of_mem_replicate hmem

end

/-! ## Lenient reading -/

theorem lenient_surround {cs : List Char} (hcs : cs ≠ []) (k₁ k₂ : List UInt8) :
    lenient (k₁ ++ encode cs ++ k₂) = lenient k₁ ++ cs ++ lenient k₂ := by
  unfold lenient
  rw [pieces_surround hcs]
  simp

theorem lenient_encode (cs : List Char) : lenient (encode cs) = cs := by
  have h := pieces_encode_append cs []
  rw [List.append_nil, pieces_nil, List.append_nil] at h
  simp [lenient, h]

/-- **Lenient reading keeps all bytes iff they are a text.** -/
theorem encode_lenient_eq_iff {k : List UInt8} : encode (lenient k) = k ↔ ∃ cs, k = encode cs := by
  constructor
  · exact fun h => ⟨lenient k, h.symm⟩
  · rintro ⟨cs, rfl⟩
    rw [lenient_encode]

theorem toByteArray_ofList_eq_iff {cs : List Char} {k : List UInt8} :
    (String.ofList cs).toByteArray = k.toByteArray ↔ encode cs = k := by
  rw [String.toByteArray_ofList, List.utf8Encode]
  exact List.toByteArray_inj

theorem isValidUTF8_iff {k : List UInt8} : k.toByteArray.IsValidUTF8 ↔ ∃ cs, k = encode cs := by
  constructor
  · rintro ⟨cs, h⟩
    exact ⟨cs, List.toByteArray_inj.1 h⟩
  · rintro ⟨cs, rfl⟩
    exact ⟨cs, rfl⟩

end Text.Utf8

/-! ## Keys -/

open Text.Utf8

namespace Message

/-- The key of a record decides the key of its message, and nothing else. -/
theorem ofRecord_with_key (r : Record) (key : Option Bytes) :
    ofRecord { r with key := key } =
      (ofRecord r).map fun m => { m with key := key.map decodeKey } := by
  unfold ofRecord
  cases r.payload with
  | none => rfl
  | some bytes =>
    dsimp only
    cases Payload.read bytes with
    | error f => rfl
    | ok v => rfl

theorem key_of_ofRecord {r : Record} {m : Message} (h : ofRecord r = .ok m) :
    m.key = r.key.map decodeKey := by
  have hkey := ofRecord_with_key r r.key
  rw [h] at hkey
  exact congrArg Message.key (Except.ok.inj hkey)

theorem decodeKey_surround {u : String} (hu : u ≠ "") (k₁ k₂ : Bytes) :
    decodeKey (k₁ ++ encode u.toList ++ k₂) = decodeKey k₁ ++ u ++ decodeKey k₂ := by
  have hne : u.toList ≠ [] := fun h => hu (String.toList_eq_nil_iff.1 h)
  unfold decodeKey
  rw [lenient_surround hne, String.ofList_append, String.ofList_append, String.ofList_toList]

theorem decodeKey_encode (u : String) : decodeKey (encode u.toList) = u := by
  rw [decodeKey, lenient_encode, String.ofList_toList]

end Message

/-- **Lenient keys lose nothing that was valid.** A message has a key iff its record has one, and
the key has no say in whether there is a message, nor in the rest of it. Of a key that is UTF-8 all
bytes are kept, and of no other one; what stands around a text is decoded as if it stood alone, and
what holds no character is cut into broken pieces, with one `U+FFFD` for each. Decoding what was
decoded changes nothing. -/
theorem Converter.json_key {σ : Type} :
    (∀ (r : Record) (s : σ) (m : Message), ((Converter.json.convert r).run s).value = .ok m →
      m.key = r.key.map Message.decodeKey ∧ (m.key = none ↔ r.key = none)) ∧
    (∀ (r : Record) (key : Option Bytes) (s : σ),
      ((Converter.json.convert { r with key := key }).run s).value =
        ((Converter.json.convert r).run s).value.map fun m =>
          { m with key := key.map Message.decodeKey }) ∧
    (∀ k : Bytes, (Message.decodeKey k).toByteArray = k.toByteArray ↔
      k.toByteArray.IsValidUTF8) ∧
    (∀ (k₁ k₂ : Bytes) (u : String), u ≠ "" → Message.decodeKey (k₁ ++ encode u.toList ++ k₂) =
      Message.decodeKey k₁ ++ u ++ Message.decodeKey k₂) ∧
    (∀ k : Bytes, ∃! ps, Splits k ps ∧
      Message.decodeKey k = String.ofList (ps.map fun p => p.getD '\uFFFD')) ∧
    (∀ k : Bytes, (∀ (c : Char) (x y : Bytes), k ≠ x ++ String.utf8EncodeChar c ++ y) ↔
      ∃ n, Splits k (List.replicate n none) ∧
        Message.decodeKey k = String.ofList (List.replicate n '\uFFFD')) ∧
    ∀ k : Bytes, Message.decodeKey (encode (Message.decodeKey k).toList) = Message.decodeKey k := by
  refine ⟨fun r s m h => ?_, fun r key s => Message.ofRecord_with_key r key, fun k => ?_,
    fun k₁ k₂ u hu => Message.decodeKey_surround hu k₁ k₂, fun k => ?_, fun k => ?_,
    fun k => Message.decodeKey_encode _⟩
  · have hkey := Message.key_of_ofRecord h
    exact ⟨hkey, by rw [hkey, Option.map_eq_none_iff]⟩
  · rw [Message.decodeKey, toByteArray_ofList_eq_iff, encode_lenient_eq_iff, isValidUTF8_iff]
  · exact ⟨pieces k, ⟨splits_pieces k, rfl⟩, fun ps h => h.1.pieces_eq.symm⟩
  · rw [splits_replicate_iff]
    constructor
    · rintro ⟨n, h⟩
      refine ⟨n, h, ?_⟩
      rw [Message.decodeKey, lenient, h.pieces_eq, List.map_replicate]
      rfl
    · rintro ⟨n, h, -⟩
      exact ⟨n, h⟩

/-- The key of this record is a truncated character, a whole one, and a tail byte: the whole one is
kept, and each of the others is replaced. -/
theorem Converter.json_key_truncated :
    let key : Bytes := [0xE2, 0x82] ++ encode "é".toList ++ [0x80]
    let r : Record := ⟨"orders", 0, 7, some key, some [49], none⟩
    ∃ m, ((Converter.json.convert r).run ()).value = .ok m ∧ m.key = some "\uFFFDé\uFFFD" ∧
      Message.decodeKey [0xE2, 0x82] = "\uFFFD" := by
  intro key r
  obtain ⟨hkey, -, -, hsurround, -⟩ := Converter.json_key (σ := Unit)
  refine ⟨_, rfl, ?_, ?_⟩
  · rw [(hkey r () _ rfl).1]
    show some (Message.decodeKey key) = _
    rw [hsurround [0xE2, 0x82] [0x80] "é" (by decide)]
    decide +kernel
  · decide +kernel

end TopicListeners
