import TopicListeners.Text.Utf8
import Mathlib.Tactic.IntervalCases

/-!
# Reading UTF-8 back

The byte strings that are read strictly are the encodings of texts, and each of them is read as the
text it encodes.

* `decode_eq_ok_iff`: **a byte string is read as a text iff it encodes that text**.
* `encodeChar_append_inj`: the encoding of a character can be told from what comes after it.
* `encodeChar_bytes`: beyond ASCII a character has one first byte, and others follow.
-/

namespace TopicListeners.Text.Utf8

/-- The bytes of a code point. The bounds are those of the four lengths, less the surrogates. -/
inductive Form : Nat → List UInt8 → Prop
  | one {x : Nat} (h : x < 0x80) : Form x [.ofNat x]
  | two {x y : Nat} (hx : 2 ≤ x) (hx' : x < 32) (hy : y < 64) :
    Form (x * 64 + y) [.ofNat (0xC0 + x), .ofNat (0x80 + y)]
  | three {x y z : Nat} (hx : x < 16) (hy : y < 64) (hz : z < 64) (hlow : 32 ≤ x * 64 + y)
    (hsurrogate : x * 64 + y < 864 ∨ 896 ≤ x * 64 + y) :
    Form ((x * 64 + y) * 64 + z) [.ofNat (0xE0 + x), .ofNat (0x80 + y), .ofNat (0x80 + z)]
  | four {w x y z : Nat} (hx : x < 64) (hy : y < 64) (hz : z < 64) (hlow : 16 ≤ w * 64 + x)
    (hhigh : w * 64 + x < 272) :
    Form (((w * 64 + x) * 64 + y) * 64 + z)
      [.ofNat (0xF0 + w), .ofNat (0x80 + x), .ofNat (0x80 + y), .ofNat (0x80 + z)]

theorem exists_sextet (n : Nat) : ∃ x y, y < 64 ∧ n = x * 64 + y :=
  ⟨n / 64, n % 64, Nat.mod_lt _ (by decide), by omega⟩

namespace Form

variable {n : Nat} {s bs : List UInt8}

theorem isValidChar (h : Form n s) : n.isValidChar := by
  cases h with
  | one h => exact .inl (by omega)
  | two hx hx' hy => exact .inl (by omega)
  | three hx hy hz hlow hsurrogate =>
    rcases hsurrogate with h | h
    · exact .inl (by omega)
    · exact .inr (by omega)
  | four hx hy hz hlow hhigh => exact .inr (by omega)

/-- The encoding of a character is the form of its code point. -/
theorem encodeChar (c : Char) : Form c.toNat (String.utf8EncodeChar c) := by
  have hc : c.val.toNat.isValidChar := c.valid
  unfold Nat.isValidChar at hc
  unfold String.utf8EncodeChar Char.toNat
  dsimp only
  generalize c.val.toNat = n at hc ⊢
  split
  · exact .one (by omega)
  · obtain ⟨m, z, hz, rfl⟩ := exists_sextet n
    split
    · have h := two (x := m) (y := z) (by omega) (by omega) hz
      rwa [show 0xC0 + m = (m * 64 + z) / 64 % 0x20 + 0xC0 by omega,
        show 0x80 + z = (m * 64 + z) % 0x40 + 0x80 by omega] at h
    · obtain ⟨l, y, hy, rfl⟩ := exists_sextet m
      split
      · have h := three (x := l) (y := y) (z := z) (by omega) hy hz (by omega) (by omega)
        rwa [show 0xE0 + l = ((l * 64 + y) * 64 + z) / 4096 % 0x10 + 0xE0 by omega,
          show 0x80 + y = ((l * 64 + y) * 64 + z) / 64 % 0x40 + 0x80 by omega,
          show 0x80 + z = ((l * 64 + y) * 64 + z) % 0x40 + 0x80 by omega] at h
      · obtain ⟨w, x, hx, rfl⟩ := exists_sextet l
        have h := four (w := w) (x := x) (y := y) (z := z) hx hy hz (by omega) (by omega)
        rwa [show 0xF0 + w = (((w * 64 + x) * 64 + y) * 64 + z) / 262144 % 0x08 + 0xF0 by omega,
          show 0x80 + x = (((w * 64 + x) * 64 + y) * 64 + z) / 4096 % 0x40 + 0x80 by omega,
          show 0x80 + y = (((w * 64 + x) * 64 + y) * 64 + z) / 64 % 0x40 + 0x80 by omega,
          show 0x80 + z = (((w * 64 + x) * 64 + y) * 64 + z) % 0x40 + 0x80 by omega] at h

end Form

/-! ## Strict reading -/

theorem complete_ofNat {n v y : Nat} (hy : y < 64) (bs : List UInt8) :
    complete (n + 1) v (.ofNat (0x80 + y) :: bs) = complete n (v * 64 + y) bs := by
  have h : (UInt8.ofNat (0x80 + y)).toNat = 0x80 + y := by rw [UInt8.toNat_ofNat']; omega
  have hrange : 0x80 ≤ UInt8.ofNat (0x80 + y) ∧ UInt8.ofNat (0x80 + y) ≤ 0xBF := by
    simp only [UInt8.le_iff_toNat_le, h, UInt8.reduceToNat]
    omega
  have hbits : tailBits (.ofNat (0x80 + y)) = y := by
    simp only [tailBits, h]
    omega
  rw [complete, if_pos hrange, hbits]

/-- The byte strings that complete a character. -/
theorem complete_eq_some {n v : Nat} {c : Char} {bs rest : List UInt8}
    (h : complete (n + 1) v bs = (some c, rest)) :
    ∃ y bs', y < 64 ∧ bs = .ofNat (0x80 + y) :: bs' ∧
      complete n (v * 64 + y) bs' = (some c, rest) := by
  cases bs with
  | nil => simp [complete] at h
  | cons b bs =>
    rw [complete] at h
    split at h
    · rename_i hb
      simp only [UInt8.le_iff_toNat_le, UInt8.reduceToNat] at hb
      refine ⟨b.toNat - 0x80, bs, by omega, ?_, ?_⟩
      · rw [show 0x80 + (b.toNat - 0x80) = b.toNat by omega, UInt8.ofNat_toNat]
      · rw [tailBits] at h
        rwa [show b.toNat - 0x80 = b.toNat % 64 by omega]
    · simp at h

theorem lead?_two {x : Nat} (hx : 2 ≤ x) (hx' : x < 32) :
    lead? (.ofNat (0xC0 + x)) = some ⟨0x80, 0xBF, 0, x⟩ := by
  interval_cases x <;> rfl

theorem lead?_three {x : Nat} (hx : x < 16) :
    lead? (.ofNat (0xE0 + x)) =
      some ⟨if x = 0 then 0xA0 else 0x80, if x = 13 then 0x9F else 0xBF, 1, x⟩ := by
  interval_cases x <;> rfl

theorem lead?_four {w : Nat} (hw : w < 5) :
    lead? (.ofNat (0xF0 + w)) =
      some ⟨if w = 0 then 0x90 else 0x80, if w = 4 then 0x8F else 0xBF, 2, w⟩ := by
  interval_cases w <;> rfl

/-- There are no first bytes besides those. -/
theorem lead?_eq_some {b : UInt8} {l : Lead} (h : lead? b = some l) :
    (∃ x, 2 ≤ x ∧ x < 32 ∧ b = .ofNat (0xC0 + x)) ∨ (∃ x < 16, b = .ofNat (0xE0 + x)) ∨
      ∃ w < 5, b = .ofNat (0xF0 + w) := by
  have hb (a n : Nat) (h : b.toNat = a + n) : b = .ofNat (a + n) := by rw [← h, UInt8.ofNat_toNat]
  by_cases hlow : b.toNat < 0xC2 ∨ 0xF5 ≤ b.toNat
  · simp only [lead?, UInt8.lt_iff_toNat_lt, ← UInt8.toNat_inj, UInt8.reduceToNat] at h
    split_ifs at h <;> omega
  · by_cases h₂ : b.toNat < 0xE0
    · exact .inl ⟨b.toNat - 0xC0, by omega, by omega, hb _ _ (by omega)⟩
    · by_cases h₃ : b.toNat < 0xF0
      · exact .inr (.inl ⟨b.toNat - 0xE0, by omega, hb _ _ (by omega)⟩)
      · exact .inr (.inr ⟨b.toNat - 0xF0, by omega, hb _ _ (by omega)⟩)

/-- The first byte beyond ASCII and a second one within its bounds. -/
theorem front_cons {b : UInt8} {l : Lead} (hb : lead? b = some l) {y : Nat} (hy : y < 64)
    (hlow : l.low.toNat ≤ 0x80 + y) (hhigh : 0x80 + y ≤ l.high.toNat) (bs : List UInt8) :
    front b (.ofNat (0x80 + y) :: bs) = complete l.more (l.bits * 64 + y) bs := by
  have hascii : ¬ b < 0x80 := by
    intro h
    have : b < 0xC2 := UInt8.lt_trans h (by decide)
    simp [lead?, this] at hb
  have h : (UInt8.ofNat (0x80 + y)).toNat = 0x80 + y := by rw [UInt8.toNat_ofNat']; omega
  have hrange : l.low ≤ UInt8.ofNat (0x80 + y) ∧ UInt8.ofNat (0x80 + y) ≤ l.high := by
    simp only [UInt8.le_iff_toNat_le, h]
    exact ⟨hlow, hhigh⟩
  have hbits : tailBits (.ofNat (0x80 + y)) = y := by
    simp only [tailBits, h]
    omega
  unfold front
  rw [if_neg hascii]
  simp only [hb, if_pos hrange, hbits]

/-- **The form of a code point is read as that code point**, whatever comes after it. -/
theorem Form.front {n : Nat} {s : List UInt8} (h : Form n s) (bs : List UInt8) :
    ∃ b t, s = b :: t ∧ front b (t ++ bs) = (some (Char.ofNat n), bs) := by
  cases h with
  | one h =>
    refine ⟨_, _, rfl, ?_⟩
    have hn : (UInt8.ofNat n).toNat = n := by rw [UInt8.toNat_ofNat']; omega
    have hascii : UInt8.ofNat n < 0x80 := by
      rw [UInt8.lt_iff_toNat_lt, hn]
      exact h
    unfold Utf8.front
    rw [if_pos hascii, hn, List.nil_append]
  | two hx hx' hy =>
    refine ⟨_, _, rfl, ?_⟩
    rw [List.cons_append, front_cons (lead?_two hx hx') hy (by simp) (by simp; omega)]
    rfl
  | @three x y z hx hy hz hlow hsurrogate =>
    refine ⟨_, _, rfl, ?_⟩
    rw [List.cons_append, front_cons (lead?_three hx) hy, List.cons_append, complete_ofNat hz]
    · rfl
    · dsimp only
      split <;> simp; omega
    · dsimp only
      split <;> simp <;> omega
  | @four w x y z hx hy hz hlow hhigh =>
    refine ⟨_, _, rfl, ?_⟩
    rw [List.cons_append, front_cons (lead?_four (by omega)) hx, List.cons_append,
      complete_ofNat hy, List.cons_append, complete_ofNat hz]
    · rfl
    · dsimp only
      split <;> simp; omega
    · dsimp only
      split <;> simp <;> omega

/-- The bounds of a second byte, which are never wider than those of the bytes after it. -/
theorem lead?_bounds {b : UInt8} {l : Lead} (h : lead? b = some l) :
    0x80 ≤ l.low.toNat ∧ l.high.toNat < 0xC0 := by
  rcases lead?_eq_some h with ⟨x, hx, hx', rfl⟩ | ⟨x, hx, rfl⟩ | ⟨w, hw, rfl⟩
  · obtain rfl := Option.some.inj (h.symm.trans (lead?_two hx hx'))
    constructor <;> dsimp only <;> decide
  · obtain rfl := Option.some.inj (h.symm.trans (lead?_three hx))
    constructor <;> dsimp only <;> split <;> decide
  · obtain rfl := Option.some.inj (h.symm.trans (lead?_four hw))
    constructor <;> dsimp only <;> split <;> decide

/-- A character that is read is ASCII, or its second byte is within its bounds and the bytes after
that complete it. -/
theorem complete_of_front {b : UInt8} {c : Char} {bs rest : List UInt8}
    (h : front b bs = (some c, rest)) :
    (b.toNat < 0x80 ∧ c = Char.ofNat b.toNat ∧ bs = rest) ∨
      ∃ l y ds, lead? b = some l ∧ y < 64 ∧ bs = .ofNat (0x80 + y) :: ds ∧
        l.low.toNat ≤ 0x80 + y ∧ 0x80 + y ≤ l.high.toNat ∧
        complete l.more (l.bits * 64 + y) ds = (some c, rest) := by
  unfold front at h
  split at h
  · rename_i hb
    rw [UInt8.lt_iff_toNat_lt] at hb
    obtain ⟨rfl, rfl⟩ : Char.ofNat b.toNat = c ∧ bs = rest := by simpa using h
    exact .inl ⟨hb, rfl, rfl⟩
  · split at h
    · simp at h
    · simp at h
    · rename_i l d ds hl
      split at h
      · rename_i hd
        simp only [UInt8.le_iff_toNat_le] at hd
        obtain ⟨hlow, hhigh⟩ := lead?_bounds hl
        obtain ⟨y, hy⟩ := Nat.exists_eq_add_of_le (Nat.le_trans hlow hd.1)
        have htail : tailBits d = y := by rw [tailBits]; omega
        rw [htail] at h
        refine .inr ⟨l, y, ds, hl, by omega, ?_, by omega, by omega, h⟩
        rw [← hy, UInt8.ofNat_toNat]
      · simp at h

/-- **Only the forms of code points are read.** -/
theorem form_of_front {b : UInt8} {c : Char} {bs rest : List UInt8}
    (h : front b bs = (some c, rest)) :
    ∃ n s, Form n s ∧ b :: bs = s ++ rest ∧ c = Char.ofNat n := by
  rcases complete_of_front h with ⟨hb, rfl, rfl⟩ | ⟨l, y, ds, hl, hy, rfl, hlow, hhigh, hmore⟩
  · exact ⟨b.toNat, _, .one hb, by rw [UInt8.ofNat_toNat]; rfl, rfl⟩
  · -- after the second byte come none, one or two more
    rcases lead?_eq_some hl with ⟨x, hx, hx', rfl⟩ | ⟨x, hx, rfl⟩ | ⟨w, hw, rfl⟩
    · obtain rfl := Option.some.inj (hl.symm.trans (lead?_two hx hx'))
      obtain ⟨rfl, rfl⟩ : Char.ofNat (x * 64 + y) = c ∧ ds = rest := by
        simpa [complete] using hmore
      exact ⟨_, _, .two hx hx' hy, rfl, rfl⟩
    · obtain rfl := Option.some.inj (hl.symm.trans (lead?_three hx))
      obtain ⟨z, es, hz, rfl, hend⟩ := complete_eq_some hmore
      obtain ⟨rfl, rfl⟩ : Char.ofNat ((x * 64 + y) * 64 + z) = c ∧ es = rest := by
        simpa [complete] using hend
      simp only [apply_ite UInt8.toNat, UInt8.reduceToNat] at hlow hhigh
      have hlow' : 32 ≤ x * 64 + y := by split_ifs at hlow <;> omega
      have hsurrogate : x * 64 + y < 864 ∨ 896 ≤ x * 64 + y := by split_ifs at hhigh <;> omega
      exact ⟨_, _, .three hx hy hz hlow' hsurrogate, rfl, rfl⟩
    · obtain rfl := Option.some.inj (hl.symm.trans (lead?_four hw))
      obtain ⟨z, es, hz, rfl, hlast⟩ := complete_eq_some hmore
      obtain ⟨u, fs, hu, rfl, hend⟩ := complete_eq_some hlast
      obtain ⟨rfl, rfl⟩ : Char.ofNat (((w * 64 + y) * 64 + z) * 64 + u) = c ∧ fs = rest := by
        simpa [complete] using hend
      simp only [apply_ite UInt8.toNat, UInt8.reduceToNat] at hlow hhigh
      have hlow' : 16 ≤ w * 64 + y := by split_ifs at hlow <;> omega
      have hhigh' : w * 64 + y < 272 := by split_ifs at hhigh <;> omega
      exact ⟨_, _, .four hy hz hu hlow' hhigh', rfl, rfl⟩

/-- A code point has one form. -/
theorem Form.unique {n m : Nat} {s t : List UInt8} (h : Form n s) (h' : Form m t) (hnm : n = m) :
    s = t := by
  -- forms of different lengths are of different code points
  cases h with
  | one =>
    cases h' with
    | one => rw [hnm]
    | two | three | four => omega
  | @two x y =>
    cases h' with
    | @two x' y' =>
      obtain ⟨rfl, rfl⟩ : x = x' ∧ y = y' := by omega
      rfl
    | one | three | four => omega
  | @three x y z =>
    cases h' with
    | @three x' y' z' =>
      obtain ⟨rfl, rfl, rfl⟩ : x = x' ∧ y = y' ∧ z = z' := by omega
      rfl
    | one | two | four => omega
  | @four w x y z =>
    cases h' with
    | @four w' x' y' z' =>
      obtain ⟨rfl, rfl, rfl, rfl⟩ : w = w' ∧ x = x' ∧ y = y' ∧ z = z' := by omega
      rfl
    | one | two | three => omega

theorem Form.eq_encodeChar {n : Nat} {s : List UInt8} (h : Form n s) :
    s = String.utf8EncodeChar (Char.ofNat n) := by
  have hn : n = (Char.ofNat n).toNat := by
    unfold Char.ofNat
    rw [dif_pos h.isValidChar]
    rfl
  exact h.unique (encodeChar _) hn

/-- **A first piece is a character iff its encoding comes first.** -/
theorem front_eq_some {b : UInt8} {c : Char} {bs rest : List UInt8} :
    front b bs = (some c, rest) ↔ b :: bs = String.utf8EncodeChar c ++ rest := by
  constructor
  · intro h
    obtain ⟨n, s, hs, hcons, rfl⟩ := form_of_front h
    rw [hcons, hs.eq_encodeChar]
  · intro h
    obtain ⟨b', t, hs, hfront⟩ := (Form.encodeChar c).front rest
    rw [hs, List.cons_append, List.cons.injEq] at h
    obtain ⟨rfl, rfl⟩ := h
    rw [hfront, Char.ofNat_toNat]

theorem encodeChar_append_inj {c d : Char} {as bs : List UInt8}
    (h : String.utf8EncodeChar c ++ as = String.utf8EncodeChar d ++ bs) : c = d ∧ as = bs := by
  obtain ⟨b, t, hs, hfront⟩ := (Form.encodeChar c).front as
  have hd : front b (t ++ as) = (some d, bs) := by
    rw [front_eq_some, ← h, hs, List.cons_append]
  rw [hfront, Char.ofNat_toNat, Prod.mk.injEq, Option.some.injEq] at hd
  exact hd

/-- **A byte string is read as a text iff it encodes that text.** -/
theorem decode_eq_ok_iff {bs : List UInt8} {cs : List Char} :
    decode bs = .ok cs ↔ bs = encode cs := by
  induction cs generalizing bs with
  | nil =>
    cases bs with
    | nil => simp [decode, encode]
    | cons b bs =>
      rw [decode]
      split
      · simp [encode]
      · split <;> simp [encode]
  | cons c cs ih =>
    rw [encode, List.flatMap_cons, ← encode]
    cases bs with
    | nil =>
      obtain ⟨b, t, hs, -⟩ := (Form.encodeChar c).front []
      simp [decode, hs]
    | cons b bs =>
      constructor
      · intro h
        rw [decode] at h
        split at h
        · simp at h
        · rename_i d hd
          split at h
          · rename_i ds hds
            obtain ⟨rfl, rfl⟩ : d = c ∧ ds = cs := by simpa using h
            have hfront : front b bs = (some d, (front b bs).2) := Prod.ext hd rfl
            rw [front_eq_some.1 hfront, ← ih.1 hds]
          · simp at h
      · intro h
        have hfront := front_eq_some.2 h
        rw [decode]
        simp only [hfront, ih.2 rfl]

/-- **The bytes of a character**: one byte if it is ASCII; otherwise a first byte, and bytes that
come first in no character. -/
theorem encodeChar_bytes (c : Char) :
    (c.toNat < 0x80 ∧ String.utf8EncodeChar c = [.ofNat c.toNat]) ∨
      0x80 ≤ c.toNat ∧ ∃ b t, String.utf8EncodeChar c = b :: t ∧ 0xC0 ≤ b.toNat ∧
        ∀ d ∈ t, 0x80 ≤ d.toNat ∧ d.toNat < 0xC0 := by
  have htail (y : Nat) (hy : y < 64) : 0x80 ≤ (UInt8.ofNat (0x80 + y)).toNat ∧
      (UInt8.ofNat (0x80 + y)).toNat < 0xC0 := by rw [UInt8.toNat_ofNat']; omega
  have h := Form.encodeChar c
  generalize c.toNat = n, String.utf8EncodeChar c = s at h
  cases h with
  | one h => exact .inl ⟨h, rfl⟩
  | two hx hx' hy =>
    refine .inr ⟨by omega, _, _, rfl, by rw [UInt8.toNat_ofNat']; omega, ?_⟩
    simpa using htail _ hy
  | three hx hy hz hlow hsurrogate =>
    refine .inr ⟨by omega, _, _, rfl, by rw [UInt8.toNat_ofNat']; omega, ?_⟩
    simpa using ⟨htail _ hy, htail _ hz⟩
  | four hx hy hz hlow hhigh =>
    refine .inr ⟨by omega, _, _, rfl, by rw [UInt8.toNat_ofNat']; omega, ?_⟩
    simpa using ⟨htail _ hx, htail _ hy, htail _ hz⟩

end TopicListeners.Text.Utf8
