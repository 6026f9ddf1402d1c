import Mathlib.Data.List.Forall2
import TopicListeners.Proofs.Numeral.Digits
import TopicListeners.Text.Description

/-!
# Texts that end by themselves

What can be told from a description. An escaped character, and with it a quoted text, says where it
ends, whatever stands after it; so quoted texts that are listed can be told one by one. Other texts
do not, but a text without a comma in it ends at the comma of the list that it stands in. Either way
a field of a structure can be told from its description if another field follows.

* `SelfDelimiting.many`: texts that end by themselves, one after the other up to a stop.
* `selfDelimiting_escape`, `selfDelimiting_quoted`: **escaped characters and quoted texts end by
  themselves.**
* `describeList_inj`: **a list of quoted texts can be told from its description.**
* `Told`: values that can be told from their texts in front of a comma.
* `describeStructure_inj`: **so can the fields of a structure** up to the first that is not apart.
-/

namespace TopicListeners.Text

/-! ## Where a text ends -/

variable {α : Type}

/-- There is only one way to cut a list at the first `a` in it. -/
theorem cut_at_first {a : α} {xs ys as bs : List α} (hx : a ∉ xs) (hy : a ∉ ys)
    (h : xs ++ a :: as = ys ++ a :: bs) : xs = ys ∧ as = bs := by
  induction xs generalizing ys with
  | nil =>
    cases ys with
    | nil => exact ⟨rfl, (List.cons.inj h).2⟩
    | cons y ys => exact absurd (List.cons.inj h).1 (List.ne_of_not_mem_cons hy)
  | cons x xs ih =>
    cases ys with
    | nil => exact absurd (List.cons.inj h).1.symm (List.ne_of_not_mem_cons hx)
    | cons y ys =>
      obtain ⟨rfl, hrest⟩ := List.cons.inj h
      obtain ⟨rfl, has⟩ :=
        ih (List.not_mem_of_not_mem_cons hx) (List.not_mem_of_not_mem_cons hy) hrest
      exact ⟨rfl, has⟩

/-- **Texts that end by themselves**: whatever follows such a text, it says what it is the text of
and where it ends. -/
def SelfDelimiting (write : α → List Char) : Prop :=
  ∀ ⦃a b cs ds⦄, write a ++ cs = write b ++ ds → a = b ∧ cs = ds

/-- **One after the other** such texts end by themselves if a character follows that none of them
starts with. -/
theorem SelfDelimiting.many {write : α → List Char} (h : SelfDelimiting write) {stop : Char}
    (hstop : ∀ a cs ds, write a ++ cs ≠ stop :: ds) :
    SelfDelimiting fun as : List α => as.flatMap write ++ [stop] := by
  intro as bs cs ds heq
  dsimp only at heq
  rw [List.append_assoc, List.append_assoc] at heq
  -- none starts with the stop, so where one list ends the other one does, too
  induction as generalizing bs with
  | nil =>
    cases bs with
    | nil => exact ⟨rfl, (List.cons.inj heq).2⟩
    | cons b bs =>
      rw [List.flatMap_cons, List.append_assoc] at heq
      exact absurd heq.symm (hstop b _ _)
  | cons a as ih =>
    rw [List.flatMap_cons, List.append_assoc] at heq
    cases bs with
    | nil => exact absurd heq (hstop a _ _)
    | cons b bs =>
      rw [List.flatMap_cons, List.append_assoc] at heq
      obtain ⟨rfl, hrest⟩ := h heq
      obtain ⟨rfl, hcs⟩ := ih hrest
      exact ⟨rfl, hcs⟩

/-- A text that stands before each of them changes nothing about that. -/
theorem SelfDelimiting.led {write : α → List Char} (h : SelfDelimiting write) (lead : List Char) :
    SelfDelimiting fun a => lead ++ write a := by
  intro a b cs ds heq
  dsimp only at heq
  rw [List.append_assoc, List.append_assoc] at heq
  exact h (List.append_cancel_left heq)

/-! ## Escaped characters -/

/-- The characters that have an escape of their own, each with the letter of the escape. -/
def quotedEscapes : List (Char × Char) :=
  [('"', '"'), ('\\', '\\'), ('\n', 'n'), ('\r', 'r'), ('\t', 't'), ('\x00', '0')]

/-- **How a character is escaped.** -/
inductive Escapes (c : Char) : List Char → Prop
  | plain (hslash : c ≠ '\\') : Escapes c [c]
  | short {letter : Char} (hletter : (c, letter) ∈ quotedEscapes) : Escapes c ['\\', letter]
  | code : Escapes c ('\\' :: 'u' :: '{' :: Nat.toDigits 16 c.toNat ++ ['}'])

theorem escapes_escape (c : Char) : Escapes c (escape c) := by
  unfold escape
  split
  · exact .short (by decide)
  · exact .short (by decide)
  · exact .short (by decide)
  · exact .short (by decide)
  · exact .short (by decide)
  · exact .short (by decide)
  · rename_i hslash _ _ _ _
    split
    · exact .plain hslash
    · exact .code

theorem brace_not_mem_toDigits (n : Nat) : '}' ∉ Nat.toDigits 16 n := by
  intro h
  obtain ⟨i, hi⟩ := Numeral.exists_digitChar (by decide) h
  exact Nat.digitChar_ne '}' (by decide) hi.symm

/-- **An escaped character ends by itself.** -/
theorem selfDelimiting_escape : SelfDelimiting escape := by
  have hletters : ∀ p ∈ quotedEscapes, p.2 ≠ 'u' ∧ ∀ q ∈ quotedEscapes, p.2 = q.2 → p.1 = q.1 := by
    decide
  intro c d cs ds h
  have hc := escapes_escape c
  have hd := escapes_escape d
  generalize escape c = text at hc h
  generalize escape d = text' at hd h
  cases hc with
  | plain hslash =>
    cases hd with
    | plain => exact List.cons.inj h
    | short => exact absurd (List.cons.inj h).1 hslash
    | code => exact absurd (List.cons.inj h).1 hslash
  | short hletter =>
    cases hd with
    | plain hslash => exact absurd (List.cons.inj h).1.symm hslash
    | short hletter' =>
      obtain ⟨hsame, hrest⟩ := List.cons.inj (List.cons.inj h).2
      exact ⟨(hletters _ hletter).2 _ hletter' hsame, hrest⟩
    | code => exact absurd (List.cons.inj (List.cons.inj h).2).1 (hletters _ hletter).1
  | code =>
    cases hd with
    | plain hslash => exact absurd (List.cons.inj h).1.symm hslash
    | short hletter =>
      exact absurd (List.cons.inj (List.cons.inj h).2).1.symm (hletters _ hletter).1
    | code =>
      -- the code ends at the first brace, since no digit is one
      rw [List.append_assoc, List.append_assoc] at h
      have hdigits := (List.cons.inj (List.cons.inj (List.cons.inj h).2).2).2
      obtain ⟨hcode, hrest⟩ :=
        cut_at_first (brace_not_mem_toDigits _) (brace_not_mem_toDigits _) hdigits
      exact ⟨Char.toNat_inj.1 (Numeral.toDigits_inj (by decide) (by decide) hcode), hrest⟩

/-! ## Quoted texts -/

theorem toList_quoted (s : String) :
    (quoted s).toList = '"' :: (s.toList.flatMap escape ++ ['"']) := String.toList_ofList

theorem escape_append_ne_quote (c : Char) (cs ds : List Char) : escape c ++ cs ≠ '"' :: ds := by
  intro h
  have hne := escape_ne_quote c
  cases hescape : escape c with
  | nil =>
    have hc := escapes_escape c
    rw [hescape] at hc
    nomatch hc
  | cons d rest =>
    rw [hescape] at h hne
    exact hne rest (congrArg (· :: rest) (List.cons.inj h).1)

/-- **A quoted text ends by itself.** -/
theorem selfDelimiting_quoted : SelfDelimiting fun s => (quoted s).toList := by
  intro s t cs ds h
  dsimp only at h
  rw [toList_quoted, toList_quoted] at h
  obtain ⟨hchars, hrest⟩ :=
    selfDelimiting_escape.many escape_append_ne_quote (List.cons.inj h).2
  exact ⟨String.toList_inj.1 hchars, hrest⟩

/-! ## Lists -/

theorem intercalate_cons (sep x : List α) (xs : List (List α)) :
    sep.intercalate (x :: xs) = x ++ xs.flatMap (sep ++ ·) := by
  induction xs generalizing x with
  | nil => rw [List.intercalate_singleton, List.flatMap_nil, List.append_nil]
  | cons y xs ih =>
    rw [List.intercalate_cons_cons, ih, List.flatMap_cons, List.append_assoc, List.append_assoc]

theorem toList_describeList_cons (s : String) (ss : List String) :
    (describeList ((s :: ss).map quoted)).toList = '[' ::
      ((quoted s).toList ++ (ss.flatMap (fun s => ", ".toList ++ (quoted s).toList) ++ [']'])) := by
  have hopen : "[".toList = ['['] := rfl
  have hclose : "]".toList = [']'] := rfl
  rw [describeList, String.toList_append, String.toList_append, String.toList_intercalate,
    List.map_cons, List.map_cons, intercalate_cons, List.flatMap_map, List.flatMap_map,
    hopen, hclose, List.append_assoc, List.append_assoc, List.singleton_append]

/-- An empty list is described like no other. -/
theorem describeList_cons_ne (s : String) (ss : List String) :
    describeList ((s :: ss).map quoted) ≠ describeList ([].map quoted) := by
  intro h
  have hempty : (describeList ([].map quoted)).toList = ['[', ']'] := by decide
  have hchars := congrArg String.toList h
  rw [hempty, toList_describeList_cons, toList_quoted] at hchars
  cases (List.cons.inj (List.cons.inj hchars).2).1

/-- **A list of quoted texts can be told from its description**, whatever there is in the texts. -/
theorem describeList_inj {xs ys : List String}
    (h : describeList (xs.map quoted) = describeList (ys.map quoted)) : xs = ys := by
  -- all texts but the first one stand after a comma, and no comma is the bracket at the end
  have hothers : SelfDelimiting fun ss : List String =>
      ss.flatMap (fun s => ", ".toList ++ (quoted s).toList) ++ [']'] := by
    refine (selfDelimiting_quoted.led _).many fun s cs ds h => ?_
    cases (List.cons.inj h).1
  cases xs with
  | nil =>
    cases ys with
    | nil => rfl
    | cons y ys => exact absurd h.symm (describeList_cons_ne y ys)
  | cons x xs =>
    cases ys with
    | nil => exact absurd h (describeList_cons_ne x xs)
    | cons y ys =>
      have hchars := congrArg String.toList h
      rw [toList_describeList_cons, toList_describeList_cons] at hchars
      obtain ⟨rfl, hrest⟩ := selfDelimiting_quoted (List.cons.inj hchars).2
      rw [← List.append_nil (_ ++ [']']), ← List.append_nil (ys.flatMap _ ++ [']'])] at hrest
      rw [(hothers hrest).1]

/-! ## Values -/

/-- Texts of which neither can be taken for the other, whatever stands after a comma behind them. -/
def Apart (s t : String) : Prop :=
  ∀ ⦃cs ds⦄, s.toList ++ ',' :: cs = t.toList ++ ',' :: ds → s = t

theorem apart_of_comma_not_mem {s t : String} (hs : ',' ∉ s.toList) (ht : ',' ∉ t.toList) :
    Apart s t := by
  intro cs ds h
  exact String.toList_inj.1 (cut_at_first hs ht h).1

/-- **Values that can be told from their texts**, whatever stands after a comma behind them. -/
def Told (write : α → String) : Prop :=
  ∀ ⦃a b cs ds⦄, (write a).toList ++ ',' :: cs = (write b).toList ++ ',' :: ds → a = b

namespace Told

variable {write : α → String} {a b : α}

theorem inj (h : Told write) (heq : write a = write b) : a = b :=
  h (congrArg (fun s : String => s.toList ++ ',' :: []) heq)

theorem apart (h : Told write) (a b : α) : Apart (write a) (write b) :=
  fun _ _ heq => congrArg write (h heq)

/-- Different texts without commas are told apart. -/
theorem of_comma_not_mem (hcomma : ∀ a, ',' ∉ (write a).toList)
    (hinj : ∀ a b, write a = write b → a = b) : Told write :=
  fun a b _ _ heq => hinj a b (apart_of_comma_not_mem (hcomma a) (hcomma b) heq)

end Told

theorem told_quoted : Told quoted := fun _ _ _ _ h => (selfDelimiting_quoted h).1

theorem describeOption_inj {o o' : Option String} (h : describeOption o = describeOption o') :
    o = o' := by
  have hsome (s : String) :
      (describeOption (some s)).toList = "Some(".toList ++ (s.toList ++ [')']) := by
    rw [describeOption, String.toList_append, String.toList_append, List.append_assoc]
    rfl
  have hchars := congrArg String.toList h
  cases o with
  | none =>
    cases o' with
    | none => rfl
    | some t =>
      rw [hsome] at hchars
      cases (List.cons.inj hchars).1
  | some s =>
    rw [hsome] at hchars
    cases o' with
    | none => cases (List.cons.inj hchars).1
    | some t =>
      rw [hsome] at hchars
      rw [String.toList_inj.1 (List.append_cancel_right (List.append_cancel_left hchars))]

theorem comma_not_mem_describeOption {o : Option String} (h : ∀ s ∈ o, ',' ∉ s.toList) :
    ',' ∉ (describeOption o).toList := by
  cases o with
  | none => decide
  | some s =>
    rw [describeOption, String.toList_append, String.toList_append, List.mem_append,
      List.mem_append]
    rintro ((hmem | hmem) | hmem)
    · exact absurd hmem (by decide)
    · exact h s rfl hmem
    · exact absurd hmem (by decide)

/-! ## Structures -/

/-- A field and one of the same name, with texts that are apart. -/
def FieldsApart (f g : String × String) : Prop := f.1 = g.1 ∧ Apart f.2 g.2

/-- A field that another one follows, up to the comma between them and after it. -/
theorem toList_intercalate_describeFields (f : String × String) {fs : List (String × String)}
    (hfs : fs ≠ []) : (", ".intercalate (describeFields (f :: fs))).toList =
      (f.1 ++ ": ").toList ++
        (f.2.toList ++ ',' :: ' ' :: (", ".intercalate (describeFields fs)).toList) := by
  have hne : (describeFields fs).map String.toList ≠ [] := by
    simpa [describeFields] using hfs
  rw [String.toList_intercalate, describeFields, List.map_cons, ← describeFields, List.map_cons,
    List.intercalate_cons_of_ne_nil hne, ← String.toList_intercalate]
  simp only [String.toList_append, List.append_assoc]
  rfl

/-- Fields that are apart can be told one by one, as long as others follow. -/
theorem eq_of_describeFields {fs gs rest rest' : List (String × String)}
    (h : List.Forall₂ FieldsApart fs gs) (hrest : rest ≠ []) (hrest' : rest' ≠ [])
    {cs ds : List Char} (heq : (", ".intercalate (describeFields (fs ++ rest))).toList ++ cs =
      (", ".intercalate (describeFields (gs ++ rest'))).toList ++ ds) : fs = gs := by
  induction h with
  | nil => rfl
  | @cons f g fs gs hfg hall ih =>
    obtain ⟨name, text⟩ := f
    obtain ⟨name', text'⟩ := g
    obtain ⟨rfl, hapart⟩ : name = name' ∧ Apart text text' := hfg
    rw [List.cons_append, List.cons_append,
      toList_intercalate_describeFields _ (List.append_ne_nil_of_right_ne_nil fs hrest),
      toList_intercalate_describeFields _ (List.append_ne_nil_of_right_ne_nil gs hrest')] at heq
    simp only [List.append_assoc] at heq
    have htexts := List.append_cancel_left heq
    -- behind both texts there is a comma, since this is not the last field
    obtain rfl := hapart htexts
    have hothers := (List.cons.inj (List.cons.inj (List.append_cancel_left htexts)).2).2
    rw [ih hothers]

/-- **The fields of a structure can be told from its description** if their texts are apart, whatever
the fields are that follow. -/
theorem describeStructure_inj {name : String} {fs gs rest rest' : List (String × String)}
    (h : List.Forall₂ FieldsApart fs gs) (hrest : rest ≠ []) (hrest' : rest' ≠ [])
    (heq : describeStructure name (fs ++ rest) = describeStructure name (gs ++ rest')) :
    fs = gs := by
  have hchars := congrArg String.toList heq
  simp only [describeStructure, String.toList_append, List.append_assoc] at hchars
  have htexts := List.append_cancel_left (List.append_cancel_left hchars)
  exact eq_of_describeFields h hrest hrest' htexts

end TopicListeners.Text
