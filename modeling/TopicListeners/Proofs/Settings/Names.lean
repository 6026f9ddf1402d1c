import Mathlib.Data.List.Forall2
import TopicListeners.Settings.Modes
import TopicListeners.Proofs.Text.Trimming

/-!
# Names in settings

The texts that name an acknowledgment mode or a delivery. A text is brought into normal form before
it is looked up: it is trimmed, and its characters are folded one by one. Folding never makes a
blank of another character, so a normal form is its own normal form, and two texts have the same one
iff they differ in nothing but blanks around them and characters that are folded alike.

* `trim_map`: folding and trimming can be done in either order.
* `normal_eq_iff`: **texts have the same normal form iff they are alike**.
* `Folds.readsNames`: what is read of a normal form is read of all texts like it.
* `names_in_settings`: **acknowledgment modes and deliveries are read by their names**, and a text
  that is rejected is known by its normal form.
-/

namespace TopicListeners

namespace Text

/-- A text is these characters with blanks around them. -/
def Padded (cs : List Char) (s : String) : Prop :=
  ∃ l r, AllBlank l ∧ AllBlank r ∧ s.toList = l ++ cs ++ r

/-- Two texts are alike, character by character, apart from blanks around them. -/
def Alike (R : Char → Char → Prop) (s t : String) : Prop :=
  ∃ cs ds, Padded cs s ∧ Padded ds t ∧ List.Forall₂ R cs ds

/-- The same character, or the same ASCII letter in either case. -/
def CaseAlike (c d : Char) : Prop :=
  c = d ∨ (c.isUpper ∧ d.toNat = c.toNat + 32) ∨ (d.isUpper ∧ c.toNat = d.toNat + 32)

/-- As `CaseAlike`, or a hyphen and an underscore. -/
def HyphenAlike (c d : Char) : Prop :=
  CaseAlike c d ∨ (c ∈ ['-', '_'] ∧ d ∈ ['-', '_'])

/-- A way to fold characters that keeps blanks apart from all others. Exactly the characters that
are alike are folded into the same one. -/
structure Folds (fold : Char → Char) (R : Char → Char → Prop) : Prop where
  eq_iff : ∀ c d, fold c = fold d ↔ R c d
  fold_fold : ∀ c, fold (fold c) = fold c
  isBlank_fold : ∀ c, isBlank (fold c) = isBlank c

/-- A text without the blanks around it, with its characters folded. -/
def normal (fold : Char → Char) (s : String) : String := .ofList ((trim s.toList).map fold)

/-! ## Trimming -/

theorem padded_trim (s : String) : Padded (trim s.toList) s := by
  obtain ⟨-, l, r, hl, hr, hs⟩ := trim_eq_iff.1 (rfl : trim s.toList = _)
  exact ⟨l, r, hl, hr, hs⟩

/-- Blanks around characters make no difference to what trimming leaves of them. -/
theorem Padded.trim_eq {cs : List Char} {s : String} (h : Padded cs s) :
    trim s.toList = trim cs := by
  obtain ⟨l, r, hl, hr, hs⟩ := h
  obtain ⟨htight, l', r', hl', hr', hcs⟩ := trim_eq_iff.1 (rfl : trim cs = _)
  refine trim_eq_iff.2 ⟨htight, l ++ l', r' ++ r, hl.append hl', hr'.append hr, ?_⟩
  rw [hs]
  conv_lhs => rw [hcs]
  simp only [List.append_assoc]

section

variable {fold : Char → Char} (hblank : ∀ c, isBlank (fold c) = isBlank c)

include hblank

theorem AllBlank.map {cs : List Char} (h : AllBlank cs) : AllBlank (cs.map fold) := by
  intro d hd
  obtain ⟨c, hc, rfl⟩ := List.mem_map.1 hd
  rw [hblank]
  exact h c hc

theorem Tight.map {cs : List Char} (h : Tight cs) : Tight (cs.map fold) := by
  constructor
  · intro d hd
    rw [List.head?_map, Option.mem_def, Option.map_eq_some_iff] at hd
    obtain ⟨c, hc, rfl⟩ := hd
    rw [hblank]
    exact h.1 c hc
  · intro d hd
    rw [List.getLast?_map, Option.mem_def, Option.map_eq_some_iff] at hd
    obtain ⟨c, hc, rfl⟩ := hd
    rw [hblank]
    exact h.2 c hc

/-- **Folding and trimming** can be done in either order. -/
theorem trim_map (cs : List Char) : trim (cs.map fold) = (trim cs).map fold := by
  obtain ⟨htight, l, r, hl, hr, hcs⟩ := trim_eq_iff.1 (rfl : trim cs = _)
  refine trim_eq_iff.2 ⟨htight.map hblank, l.map fold, r.map fold, hl.map hblank, hr.map hblank, ?_⟩
  conv_lhs => rw [hcs]
  simp only [List.map_append]

end

/-! ## Normal forms -/

section

variable {fold : Char → Char} {R : Char → Char → Prop} (h : Folds fold R)

include h

theorem Folds.forall₂_iff {cs ds : List Char} :
    List.Forall₂ R cs ds ↔ cs.map fold = ds.map fold := by
  have hR : R = fun c d => fold c = fold d := by
    funext c d
    exact propext (h.eq_iff c d).symm
  have hmap : List.Forall₂ Eq (cs.map fold) (ds.map fold) ↔ cs.map fold = ds.map fold := by
    rw [List.forall₂_eq_eq_eq]
  rw [hR, ← hmap, List.forall₂_map_left_iff, List.forall₂_map_right_iff]

/-- **Texts have the same normal form iff they are alike.** -/
theorem normal_eq_iff {s t : String} : normal fold s = normal fold t ↔ Alike R s t := by
  unfold normal
  rw [String.ofList_inj]
  constructor
  · intro heq
    exact ⟨_, _, padded_trim s, padded_trim t, h.forall₂_iff.2 heq⟩
  · rintro ⟨cs, ds, hs, ht, hR⟩
    rw [hs.trim_eq, ht.trim_eq, ← trim_map h.isBlank_fold, ← trim_map h.isBlank_fold,
      h.forall₂_iff.1 hR]

theorem tight_normal (s : String) : Tight (normal fold s).toList := by
  rw [normal, String.toList_ofList]
  exact (trim_eq_iff.1 rfl).1.map h.isBlank_fold

/-- A normal form is its own normal form. -/
theorem normal_normal (s : String) : normal fold (normal fold s) = normal fold s := by
  have htrim : trim (normal fold s).toList = (normal fold s).toList :=
    trim_eq_iff.2 ⟨tight_normal h s, [], [], by simp [AllBlank], by simp [AllBlank], by simp⟩
  have hfold : fold ∘ fold = fold := funext h.fold_fold
  conv_lhs => rw [normal, htrim, normal, String.toList_ofList, List.map_map, hfold]
  rfl

end

end Text

open Text

/-- **What it means to be read by names**: each value has names, of which one is shown, and a text
stands for a value iff it is like one of them. Texts that are alike are read alike. A text that is
rejected comes back in a form that is like it, has no blanks around it and is rejected as it is. -/
structure ReadsNames {α : Type} (R : Char → Char → Prop) (names : α → List String)
    (shown : α → String) (read : String → Except String α) : Prop where
  ok_iff : ∀ s a, read s = .ok a ↔ ∃ name ∈ names a, Alike R s name
  ok_of_shown : ∀ s a, Alike R s (shown a) → read s = .ok a
  eq_of_alike : ∀ s t, Alike R s t → read s = read t
  rejected : ∀ s e, read s = .error e → Alike R s e ∧ Tight e.toList ∧ read e = .error e

section

variable {α : Type} {fold : Char → Char} {names : α → List String} {shown : α → String}
  {ofNormal? : String → Option α} {read : String → Except String α}
  (hread : ∀ s, read s = (ofNormal? (normal fold s)).elim (.error (normal fold s)) .ok)
  (hnames : ∀ s a, ofNormal? s = some a ↔ s ∈ names a)

include hread hnames

theorem Text.read_eq_ok_iff (s : String) (a : α) : read s = .ok a ↔ normal fold s ∈ names a := by
  rw [← hnames, hread]
  cases ofNormal? (normal fold s) <;> simp

/-- Values that are looked up by normal forms are read by names, if their names are in normal form. -/
theorem Text.Folds.readsNames {R : Char → Char → Prop} (h : Folds fold R)
    (hshown : ∀ a, shown a ∈ names a)
    (hnormal : ∀ a, ∀ name ∈ names a, normal fold name = name) :
    ReadsNames R names shown read := by
  have hok : ∀ s a, read s = .ok a ↔ ∃ name ∈ names a, Alike R s name := by
    intro s a
    rw [read_eq_ok_iff hread hnames]
    constructor
    · intro hmem
      refine ⟨_, hmem, (normal_eq_iff h).1 ?_⟩
      rw [normal_normal h]
    · rintro ⟨name, hmem, halike⟩
      rwa [(normal_eq_iff h).2 halike, hnormal a name hmem]
  refine ⟨hok, fun s a halike => (hok s a).2 ⟨_, hshown a, halike⟩, ?_, ?_⟩
  · intro s t halike
    rw [hread, hread, (normal_eq_iff h).2 halike]
  · intro s e he
    -- only a text whose normal form names nothing is rejected, and with that form
    cases hlookup : ofNormal? (normal fold s) with
    | some a => simp [hread, hlookup] at he
    | none =>
      obtain rfl : normal fold s = e := by simpa [hread, hlookup] using he
      refine ⟨(normal_eq_iff h).1 (normal_normal h s).symm, tight_normal h s, ?_⟩
      rw [hread, normal_normal h, hlookup]
      rfl

end

/-! ## The two foldings -/

namespace Text

theorem toNat_toUpper (c : Char) :
    c.toUpper.toNat = if 97 ≤ c.toNat ∧ c.toNat ≤ 122 then c.toNat - 32 else c.toNat := by
  have hrange : ('a'.val ≤ c.val ∧ c.val ≤ 'z'.val) ↔ 97 ≤ c.toNat ∧ c.toNat ≤ 122 := by
    simp [UInt32.le_iff_toNat_le]
  by_cases h : 97 ≤ c.toNat ∧ c.toNat ≤ 122
  · have hupper : c.toUpper = ⟨c.val + ('A'.val - 'a'.val), _⟩ := dif_pos (hrange.2 h)
    have hoffset : ('A'.val - 'a'.val).toNat = 4294967264 := rfl
    -- going down by 32 is going up by the rest of the word
    rw [if_pos h, hupper, ← Char.toNat_val, UInt32.toNat_add, hoffset, Char.toNat_val]
    omega
  · have hsame : c.toUpper = c := dif_neg fun hr => h (hrange.1 hr)
    rw [if_neg h, hsame]

theorem toNat_toLower (c : Char) :
    c.toLower.toNat = if 65 ≤ c.toNat ∧ c.toNat ≤ 90 then c.toNat + 32 else c.toNat := by
  have hrange : (c.val ≥ 'A'.val ∧ c.val ≤ 'Z'.val) ↔ 65 ≤ c.toNat ∧ c.toNat ≤ 90 := by
    simp [UInt32.le_iff_toNat_le]
  by_cases h : 65 ≤ c.toNat ∧ c.toNat ≤ 90
  · have hlower : c.toLower = ⟨c.val + ('a'.val - 'A'.val), _⟩ := dif_pos (hrange.2 h)
    have hoffset : ('a'.val - 'A'.val).toNat = 32 := rfl
    rw [if_pos h, hlower, ← Char.toNat_val, UInt32.toNat_add, hoffset, Char.toNat_val]
    omega
  · have hsame : c.toLower = c := dif_neg fun hr => h (hrange.1 hr)
    rw [if_neg h, hsame]

theorem isUpper_iff {c : Char} : c.isUpper ↔ 65 ≤ c.toNat ∧ c.toNat ≤ 90 := by
  change decide (c.val ≥ 'A'.val ∧ c.val ≤ 'Z'.val) = true ↔ _
  rw [decide_eq_true_iff]
  simp [UInt32.le_iff_toNat_le]

theorem caseAlike_iff (c d : Char) :
    CaseAlike c d ↔ c.toNat = d.toNat ∨
      (65 ≤ c.toNat ∧ c.toNat ≤ 90 ∧ d.toNat = c.toNat + 32) ∨
      (65 ≤ d.toNat ∧ d.toNat ≤ 90 ∧ c.toNat = d.toNat + 32) := by
  simp only [CaseAlike, isUpper_iff, Char.toNat_inj, and_assoc]

theorem isBlank_eq_false {c : Char} (hmin : 32 < c.toNat) (hmax : c.toNat < 0x85) :
    isBlank c = false := by
  rw [Bool.eq_false_iff]
  intro hblank
  have hrange := toNat_of_isBlank hblank
  omega

/-- A folding that keeps the visible characters of ASCII among themselves and changes no others
keeps blanks apart from all others. -/
theorem isBlank_of_ascii {fold : Char → Char} (h : ∀ c, fold c = c ∨
    (32 < c.toNat ∧ c.toNat < 0x85 ∧ 32 < (fold c).toNat ∧ (fold c).toNat < 0x85)) (c : Char) :
    isBlank (fold c) = isBlank c := by
  rcases h c with hsame | ⟨hmin, hmax, hmin', hmax'⟩
  · rw [hsame]
  · rw [isBlank_eq_false hmin hmax, isBlank_eq_false hmin' hmax']

theorem folds_toLower : Folds Char.toLower CaseAlike where
  eq_iff c d := by
    rw [caseAlike_iff, ← Char.toNat_inj, toNat_toLower, toNat_toLower]
    split_ifs <;> omega
  fold_fold c := by
    rw [← Char.toNat_inj, toNat_toLower c.toLower, toNat_toLower]
    split_ifs <;> omega
  isBlank_fold := by
    refine isBlank_of_ascii fun c => ?_
    rw [← Char.toNat_inj, toNat_toLower]
    split_ifs <;> omega

/-- Capital letters, and underscores for hyphens. -/
def capital (c : Char) : Char := if c = '-' then '_' else c.toUpper

theorem toNat_capital (c : Char) : (capital c).toNat =
    if c.toNat = 45 then 95 else if 97 ≤ c.toNat ∧ c.toNat ≤ 122 then c.toNat - 32 else c.toNat := by
  have hhyphen : c = '-' ↔ c.toNat = 45 := Char.toNat_inj.symm
  unfold capital
  simp only [hhyphen]
  split_ifs with h
  · rfl
  all_goals
    rw [toNat_toUpper]
    split_ifs
    rfl

theorem folds_capital : Folds capital HyphenAlike where
  eq_iff c d := by
    have hmark : ∀ c, c ∈ ['-', '_'] ↔ c.toNat = 45 ∨ c.toNat = 95 := by
      intro c
      simp only [List.mem_cons, List.not_mem_nil, or_false, ← Char.toNat_inj]
      rfl
    rw [HyphenAlike, caseAlike_iff, hmark, hmark, ← Char.toNat_inj, toNat_capital, toNat_capital]
    split_ifs <;> omega
  fold_fold c := by
    rw [← Char.toNat_inj, toNat_capital (capital c), toNat_capital]
    split_ifs <;> omega
  isBlank_fold := by
    refine isBlank_of_ascii fun c => ?_
    rw [← Char.toNat_inj, toNat_capital]
    split_ifs <;> omega

end Text

/-! ## Modes and deliveries -/

theorem AckMode.ofNormal?_eq_some (s : String) (m : AckMode) :
    ofNormal? s = some m ↔ s ∈ [m.toText] := by
  constructor
  · intro h
    unfold ofNormal? at h
    split at h <;> cases h <;> exact List.mem_singleton_self _
  · intro h
    rw [List.mem_singleton.1 h, ofNormal?_toText]

/-- The names of a delivery. -/
def Delivery.names : Delivery → List String
  | single => ["single", "record"]
  | batch => ["batch"]

theorem Delivery.ofNormal?_eq_some (s : String) (d : Delivery) :
    ofNormal? s = some d ↔ s ∈ d.names := by
  constructor
  · intro h
    unfold ofNormal? at h
    split at h <;> cases h <;> decide
  · intro h
    cases d with
    | single =>
      rcases List.mem_pair.1 h with rfl | rfl <;> rfl
    | batch =>
      rw [List.mem_singleton.1 h]
      rfl

theorem AckMode.ofText_eq (s : String) :
    ofText s = (ofNormal? (normal capital s)).elim (.error (normal capital s)) .ok := by
  have hnormalize : normalize s = normal capital s := rfl
  rw [ofText, hnormalize]
  cases ofNormal? (normal capital s) <;> rfl

theorem Delivery.ofText_eq (s : String) :
    ofText s = (ofNormal? (normal Char.toLower s)).elim (.error (normal Char.toLower s)) .ok := by
  have hnormalize : normalize s = normal Char.toLower s := rfl
  rw [ofText, hnormalize]
  cases ofNormal? (normal Char.toLower s) <;> rfl

theorem AckMode.readsNames :
    ReadsNames HyphenAlike (fun m => [AckMode.toText m]) AckMode.toText AckMode.ofText := by
  refine folds_capital.readsNames ofText_eq ofNormal?_eq_some
    (fun _ => List.mem_singleton_self _) fun m name hname => ?_
  rw [List.mem_singleton.1 hname]
  exact normalize_toText m

theorem Delivery.readsNames :
    ReadsNames CaseAlike Delivery.names Delivery.toText Delivery.ofText := by
  refine folds_toLower.readsNames ofText_eq ofNormal?_eq_some ?_ ?_
  · intro d
    cases d <;> decide
  · intro d
    cases d <;> decide +kernel

/-- **Acknowledgment modes and deliveries are read by their names**: whatever blanks are around a
text and in whatever case it is, and for modes with hyphens or underscores. In other words, a text
is compared with the names once it has been trimmed and folded. -/
theorem names_in_settings :
    ReadsNames HyphenAlike (fun m => [AckMode.toText m]) AckMode.toText AckMode.ofText ∧
      ReadsNames CaseAlike Delivery.names Delivery.toText Delivery.ofText ∧
      (∀ s m, AckMode.ofText s = .ok m ↔
        (((trim s.toList).map fun c => if c = '-' then '_' else c).map Char.toUpper) =
          m.toText.toList) ∧
      ∀ s, (Delivery.ofText s = .ok .batch ↔
          (trim s.toList).map Char.toLower = "batch".toList) ∧
        (Delivery.ofText s = .ok .single ↔
          (trim s.toList).map Char.toLower = "single".toList ∨
            (trim s.toList).map Char.toLower = "record".toList) := by
  have hcapital : Char.toUpper ∘ (fun c => if c = '-' then '_' else c) = capital := by
    funext c
    unfold capital
    by_cases hc : c = '-'
    · simp only [Function.comp_apply, if_pos hc]
      decide
    · simp only [Function.comp_apply, if_neg hc]
  have hlist : ∀ fold s name, normal fold s = name ↔ (trim s.toList).map fold = name.toList := by
    intro fold s name
    rw [← String.toList_inj, normal, String.toList_ofList]
  refine ⟨AckMode.readsNames, Delivery.readsNames, ?_, fun s => ⟨?_, ?_⟩⟩
  · intro s m
    rw [read_eq_ok_iff AckMode.ofText_eq AckMode.ofNormal?_eq_some, List.mem_singleton, hlist,
      List.map_map, hcapital]
  · rw [read_eq_ok_iff Delivery.ofText_eq Delivery.ofNormal?_eq_some, Delivery.names,
      List.mem_singleton, hlist]
  · rw [read_eq_ok_iff Delivery.ofText_eq Delivery.ofNormal?_eq_some, Delivery.names,
      List.mem_pair, hlist, hlist]

/-- An em space and a no-break space around a mode, in mixed case and with a hyphen. -/
example : AckMode.ofText "\u2003count-Time\u00A0" = .ok .countTime := by decide +kernel

end TopicListeners
