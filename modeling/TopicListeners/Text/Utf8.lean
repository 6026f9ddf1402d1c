/-!
# UTF-8

A byte string falls into pieces: characters, and broken pieces, each the longest run of bytes that
begins a character without completing it, or a single byte that begins none. Reading strictly
fails at the first broken piece; reading leniently puts `U+FFFD` in the place of each.

* `front_length_le`: a piece takes bytes away.
* `pieces_cons`: the pieces of a byte string, one at a time.
-/

namespace TopicListeners.Text.Utf8

/-- The bytes of a text. -/
def encode (cs : List Char) : List UInt8 := cs.flatMap String.utf8EncodeChar

/-- What a first byte calls for: the bounds of the second byte, how many bytes come after that
one, and the bits it contributes. -/
structure Lead where
  low : UInt8
  high : UInt8
  more : Nat
  bits : Nat

/-- The first bytes of characters beyond ASCII. The bounds leave out overlong forms, surrogates and
what lies beyond `U+10FFFF`. -/
def lead? (b : UInt8) : Option Lead :=
  if b < 0xC2 then none
  else if b < 0xE0 then some ⟨0x80, 0xBF, 0, b.toNat - 0xC0⟩
  else if b = 0xE0 then some ⟨0xA0, 0xBF, 1, 0⟩
  else if b = 0xED then some ⟨0x80, 0x9F, 1, 0xD⟩
  else if b < 0xF0 then some ⟨0x80, 0xBF, 1, b.toNat - 0xE0⟩
  else if b = 0xF0 then some ⟨0x90, 0xBF, 2, 0⟩
  else if b < 0xF4 then some ⟨0x80, 0xBF, 2, b.toNat - 0xF0⟩
  else if b = 0xF4 then some ⟨0x80, 0x8F, 2, 4⟩
  else none

/-- The bits that a byte after the first one contributes. -/
def tailBits (b : UInt8) : Nat := b.toNat % 64

/-- Completes a character with `n` more bytes, from the bits `v` read so far. -/
def complete : Nat → Nat → List UInt8 → Option Char × List UInt8
  | 0, v, bs => (some (Char.ofNat v), bs)
  | _ + 1, _, [] => (none, [])
  | n + 1, v, b :: bs =>
    if 0x80 ≤ b ∧ b ≤ 0xBF then complete n (v * 64 + tailBits b) bs else (none, b :: bs)

/-- The piece that starts with the byte `b` (`none` for a broken one), and the bytes after it. -/
def front (b : UInt8) (bs : List UInt8) : Option Char × List UInt8 :=
  if b < 0x80 then (some (Char.ofNat b.toNat), bs)
  else match lead? b, bs with
    | none, bs => (none, bs)
    | some _, [] => (none, [])
    | some l, c :: cs =>
      if l.low ≤ c ∧ c ≤ l.high then complete l.more (l.bits * 64 + tailBits c) cs
      else (none, c :: cs)

theorem complete_length_le (n v : Nat) (bs : List UInt8) :
    (complete n v bs).2.length ≤ bs.length := by
  induction bs generalizing n v with
  | nil => cases n <;> simp [complete]
  | cons b bs ih =>
    cases n with
    | zero => simp [complete]
    | succ n =>
      simp only [complete]
      split
      · exact Nat.le_succ_of_le (ih _ _)
      · simp

/-- A piece leaves no more bytes than followed its first one. -/
theorem front_length_le (b : UInt8) (bs : List UInt8) : (front b bs).2.length ≤ bs.length := by
  unfold front
  split
  · simp
  · split
    · simp
    · simp
    · split
      · exact Nat.le_succ_of_le (complete_length_le _ _ _)
      · simp

/-- The pieces of a byte string, `none` for each broken one. -/
def pieces : List UInt8 → List (Option Char)
  | [] => []
  | b :: bs => (front b bs).1 :: pieces (front b bs).2
termination_by bs => bs.length
decreasing_by
  have := front_length_le b bs
  simp; omega

theorem pieces_nil : pieces [] = [] := by rw [pieces]

/-- The pieces of a byte string, one at a time. -/
theorem pieces_cons (b : UInt8) (bs : List UInt8) :
    pieces (b :: bs) = (front b bs).1 :: pieces (front b bs).2 := by rw [pieces]

/-- The text with `U+FFFD` for each broken piece. -/
def lenient (bs : List UInt8) : List Char := (pieces bs).map fun p => p.getD '\uFFFD'

/-- The text of a byte string without broken pieces; otherwise the bytes from the first one on. -/
def decode : List UInt8 → Except (List UInt8) (List Char)
  | [] => .ok []
  | b :: bs =>
    match (front b bs).1 with
    | none => .error (b :: bs)
    | some c =>
      match decode (front b bs).2 with
      | .ok cs => .ok (c :: cs)
      | .error rest => .error rest
termination_by bs => bs.length
decreasing_by
  have := front_length_le b bs
  simp; omega

/-- The order of texts by their bytes. -/
def order (s t : String) : Ordering := compareOn (fun s : String => encode s.toList) s t

end TopicListeners.Text.Utf8
