import Mathlib.Data.List.Forall2
import Mathlib.Data.List.Induction
import TopicListeners.Proofs.Payload.Held

/-!
# Documents

What a payload says before anything is made of it: its numbers as they are written, and all members
of its objects, in the order in which they are written and with keys that come more than once. A
value that is read is what such a document means, of members under one key the last one.

* `Document`: what a payload says.
* `Depicts`: the byte strings that say it.
* `Means`: the values of a document.
* `Writes.depicted`: what is written has a document.
* `Depicts.exists_writes`: every document of a payload means a value that is written there.
* `Converter.json_means`: **a message holds what its record says.**
-/

namespace TopicListeners

namespace Payload

open Grammar

/-- **What a payload says**, its numbers and members as they are written. -/
inductive Document
  | null
  | flag (b : Bool)
  | number (x : NumberText)
  | text (s : String)
  | array (items : List Document)
  | object (members : List (String × Document))

/-- What is depicted. -/
inductive Scene
  /-- A document. -/
  | value (t : Document)
  /-- A document with the space around it. -/
  | element (t : Document)
  /-- The elements of an array. -/
  | items (ts : List Document)
  /-- A member of an object. -/
  | member (key : String) (t : Document)
  /-- The members of an object. -/
  | members (ts : List (String × Document))

/-- **The byte strings that say something**, inside `d` arrays and objects. -/
inductive Depicts : Nat → Scene → List UInt8 → Prop
  | null {d : Nat} : Depicts d (.value .null) [110, 117, 108, 108]
  | yes {d : Nat} : Depicts d (.value (.flag true)) [116, 114, 117, 101]
  | no {d : Nat} : Depicts d (.value (.flag false)) [102, 97, 108, 115, 101]
  | number {d : Nat} {v : Value} (x : NumberText) (hv : x.value? = some v) :
    Depicts d (.value (.number x)) x.text
  | text {d : Nat} {bs : List UInt8} {cs : List Char} (hs : Spells bs cs) :
    Depicts d (.value (.text (.ofList cs))) (34 :: bs ++ [34])
  | emptyArray {d : Nat} {ws : List UInt8} (hd : d < 127) (hw : Blank ws) :
    Depicts d (.value (.array [])) (91 :: ws ++ [93])
  | array {d : Nat} {ts : List Document} {bs : List UInt8} (hd : d < 127)
    (hs : Depicts (d + 1) (.items ts) bs) : Depicts d (.value (.array ts)) (91 :: bs ++ [93])
  | emptyObject {d : Nat} {ws : List UInt8} (hd : d < 127) (hw : Blank ws) :
    Depicts d (.value (.object [])) (123 :: ws ++ [125])
  | object {d : Nat} {ts : List (String × Document)} {bs : List UInt8} (hd : d < 127)
    (hs : Depicts (d + 1) (.members ts) bs) : Depicts d (.value (.object ts)) (123 :: bs ++ [125])
  | element {d : Nat} {t : Document} {l bs r : List UInt8} (hl : Blank l)
    (h : Depicts d (.value t) bs) (hr : Blank r) : Depicts d (.element t) (l ++ bs ++ r)
  | item {d : Nat} {t : Document} {bs : List UInt8} (h : Depicts d (.element t) bs) :
    Depicts d (.items [t]) bs
  | nextItem {d : Nat} {ts : List Document} {t : Document} {as bs : List UInt8}
    (hs : Depicts d (.items ts) as) (h : Depicts d (.element t) bs) :
    Depicts d (.items (ts ++ [t])) (as ++ 44 :: bs)
  | member {d : Nat} {t : Document} {l ks r bs : List UInt8} {cs : List Char} (hl : Blank l)
    (hk : Spells ks cs) (hr : Blank r) (h : Depicts d (.element t) bs) :
    Depicts d (.member (.ofList cs) t) (l ++ (34 :: ks ++ [34]) ++ r ++ 58 :: bs)
  | firstMember {d : Nat} {key : String} {t : Document} {bs : List UInt8}
    (h : Depicts d (.member key t) bs) : Depicts d (.members [(key, t)]) bs
  | nextMember {d : Nat} {ts : List (String × Document)} {key : String} {t : Document}
    {as bs : List UInt8} (hs : Depicts d (.members ts) as) (h : Depicts d (.member key t) bs) :
    Depicts d (.members (ts ++ [(key, t)])) (as ++ 44 :: bs)

/-- The last of the members under a key. -/
def LastUnder (ts : List (String × Document)) (key : String) (t : Document) : Prop :=
  ∃ before after, ts = before ++ (key, t) :: after ∧ key ∉ after.map Prod.fst

/-- **The values of a document.** -/
inductive Document.Means : Document → Value → Prop
  | null : Means .null .null
  | flag {b : Bool} : Means (.flag b) (.flag b)
  | whole {x : NumberText} (h : x.IsWhole) : Means (.number x) (.whole x.integer)
  | real {x : NumberText} {y : Numeral.Double} (h : ¬ x.IsWhole) (hy : x.value? = some (.real y)) :
    Means (.number x) (.real y)
  | text {s : String} : Means (.text s) (.text s)
  | array {ts : List Document} {vs : List Value} (h : List.Forall₂ Means ts vs) :
    Means (.array ts) (.array vs)
  | object {ts : List (String × Document)} {ms : Members}
    (hkeys : ∀ key, key ∈ ms.map Prod.fst ↔ key ∈ ts.map Prod.fst)
    (h : ∀ key t v, LastUnder ts key t → (key, v) ∈ ms → Means t v) :
    Means (.object ts) (.object ms)

/-! ## Members -/

theorem lastUnder_concat {ts : List (String × Document)} {key name : String} {t u : Document} :
    LastUnder (ts ++ [(name, u)]) key t ↔ if key = name then t = u else LastUnder ts key t := by
  constructor
  · rintro ⟨before, after, heq, hnot⟩
    rcases List.eq_nil_or_concat after with rfl | ⟨after, m, rfl⟩
    · obtain ⟨-, hlast⟩ := List.append_inj' heq rfl
      obtain ⟨rfl, rfl⟩ := Prod.mk.inj (List.singleton_inj.1 hlast)
      rw [if_pos rfl]
    · rw [List.concat_eq_append] at heq hnot
      rw [← List.cons_append, ← List.append_assoc] at heq
      obtain ⟨rfl, hlast⟩ := List.append_inj' heq rfl
      obtain rfl := List.singleton_inj.1 hlast
      rw [List.map_append, List.mem_append, not_or] at hnot
      have hne : key ≠ name := fun h => hnot.2 (List.mem_singleton.2 h)
      rw [if_neg hne]
      exact ⟨before, after, rfl, hnot.1⟩
  · split_ifs with hkey
    · rintro rfl
      exact ⟨ts, [], by rw [hkey], List.not_mem_nil⟩
    · rintro ⟨before, after, rfl, hnot⟩
      refine ⟨before, after ++ [(name, u)], by simp, ?_⟩
      rw [List.map_append, List.mem_append, not_or]
      exact ⟨hnot, fun h => hkey (List.mem_singleton.1 h)⟩

/-- The members that an object is left with: its keys, each with what was last written under it. -/
structure MembersMean (ts : List (String × Document)) (ms : Members) : Prop where
  ordered : Dictionary.Ordered ms
  keys : ∀ key, key ∈ ms.map Prod.fst ↔ key ∈ ts.map Prod.fst
  values : ∀ key t v, LastUnder ts key t → (key, v) ∈ ms → t.Means v

namespace MembersMean

theorem nil : MembersMean [] [] where
  ordered := List.Pairwise.nil
  keys _ := Iff.rfl
  values _ _ _ _ hv := absurd hv List.not_mem_nil

/-- **One more member** takes the place of the one under its key. -/
theorem concat {ts : List (String × Document)} {ms : Members} (h : MembersMean ts ms)
    (name : String) {t : Document} {v : Value} (hv : t.Means v) :
    MembersMean (ts ++ [(name, t)]) (ms.set name v) where
  ordered := Dictionary.ordered_set h.ordered name v
  keys key := by
    rw [Dictionary.mem_keys_set h.ordered, h.keys, List.map_append, List.mem_append,
      List.map_singleton, List.mem_singleton, or_comm]
  values key u w hlast hw := by
    rw [lastUnder_concat] at hlast
    rw [Dictionary.mem_set_iff h.ordered] at hw
    split_ifs at hlast hw
    · rwa [hlast, hw]
    · exact h.values key u w hlast hw

end MembersMean

/-! ## Documents of a payload -/

theorem Document.means_number {x : NumberText} {v : Value} (h : x.value? = some v) :
    (Document.number x).Means v := by
  rcases NumberText.value?_eq h with ⟨hwhole, rfl⟩ | ⟨hnot, y, rfl, -⟩
  · exact .whole hwhole
  · exact .real hnot h

/-- What the grammar calls a scene. The grammar has the last element of an array first. -/
inductive Scene.Means : Scene → Phrase → Prop
  | value {t : Document} {v : Value} (h : t.Means v) : Means (.value t) (.value v)
  | element {t : Document} {v : Value} (h : t.Means v) : Means (.element t) (.element v)
  | items {ts : List Document} {vs : List Value}
    (h : List.Forall₂ Document.Means ts vs.reverse) : Means (.items ts) (.items vs)
  | member {key : String} {t : Document} {v : Value} (h : t.Means v) :
    Means (.member key t) (.member key v)
  | members {ts : List (String × Document)} {ms : Members} (h : MembersMean ts ms) :
    Means (.members ts) (.members ms)

/-- **Every document of a payload means a value that is written there.** -/
theorem Depicts.exists_writes {d : Nat} {a : Scene} {bs : List UInt8} (h : Depicts d a bs) :
    ∃ p, a.Means p ∧ Writes d p bs := by
  induction h with
  | null => exact ⟨_, .value .null, .null⟩
  | yes => exact ⟨_, .value .flag, .yes⟩
  | no => exact ⟨_, .value .flag, .no⟩
  | number x hv => exact ⟨_, .value (Document.means_number hv), .number x hv⟩
  | text hs => exact ⟨_, .value .text, .text hs⟩
  | emptyArray hd hw => exact ⟨_, .value (.array .nil), .emptyArray hd hw⟩
  | array hd _ ih =>
    obtain ⟨p, hp, hbs⟩ := ih
    cases hp with
    | items hvs => exact ⟨_, .value (.array hvs), .array hd hbs⟩
  | emptyObject hd hw =>
    have hnil := MembersMean.nil
    exact ⟨_, .value (.object hnil.keys hnil.values), .emptyObject hd hw⟩
  | object hd _ ih =>
    obtain ⟨p, hp, hbs⟩ := ih
    cases hp with
    | members hms => exact ⟨_, .value (.object hms.keys hms.values), .object hd hbs⟩
  | element hl _ hr ih =>
    obtain ⟨p, hp, hbs⟩ := ih
    cases hp with
    | value hv => exact ⟨_, .element hv, .element hl hbs hr⟩
  | @item d t bs _ ih =>
    obtain ⟨p, hp, hbs⟩ := ih
    cases hp with
    | @element _ v hv =>
      have hone : List.Forall₂ Document.Means [t] [v].reverse := .cons hv .nil
      exact ⟨_, .items hone, .item hbs⟩
  | nextItem _ _ ihs ih =>
    obtain ⟨p, hp, has⟩ := ihs
    obtain ⟨q, hq, hbs⟩ := ih
    cases hp with
    | items hvs =>
      cases hq with
      | element hv =>
        refine ⟨_, .items ?_, .nextItem has hbs⟩
        rw [List.reverse_cons]
        exact List.rel_append hvs (.cons hv .nil)
  | member hl hk hr _ ih =>
    obtain ⟨p, hp, hbs⟩ := ih
    cases hp with
    | element hv => exact ⟨_, .member hv, .member hl hk hr hbs⟩
  | firstMember _ ih =>
    obtain ⟨p, hp, hbs⟩ := ih
    cases hp with
    | member hv => exact ⟨_, .members (MembersMean.nil.concat _ hv), .firstMember hbs⟩
  | nextMember _ _ ihs ih =>
    obtain ⟨p, hp, has⟩ := ihs
    obtain ⟨q, hq, hbs⟩ := ih
    cases hp with
    | members hms =>
      cases hq with
      | member hv => exact ⟨_, .members (hms.concat _ hv), .nextMember has hbs⟩

theorem Document.means_of_depicts {t : Document} {v : Value} {bs : List UInt8}
    (h : Depicts 0 (.element t) bs) (hread : read bs = .ok v) : t.Means v := by
  obtain ⟨p, hp, hbs⟩ := h.exists_writes
  cases hp with
  | element hv =>
    -- a payload is read as one value only
    obtain rfl := Except.ok.inj ((read_of_writes hbs).symm.trans hread)
    exact hv

/-- Something has a document. -/
def Grammar.Phrase.Depicted (d : Nat) (bs : List UInt8) : Phrase → Prop
  | .value _ => ∃ t, Depicts d (.value t) bs
  | .element _ => ∃ t, Depicts d (.element t) bs
  | .items _ => ∃ ts, Depicts d (.items ts) bs
  | .member key _ => ∃ t, Depicts d (.member key t) bs
  | .members _ => ∃ ts, Depicts d (.members ts) bs

/-- **What is written has a document.** -/
theorem Grammar.Writes.depicted {d : Nat} {p : Phrase} {bs : List UInt8} (h : Writes d p bs) :
    p.Depicted d bs := by
  induction h with
  | null => exact ⟨_, .null⟩
  | yes => exact ⟨_, .yes⟩
  | no => exact ⟨_, .no⟩
  | number x hv => exact ⟨_, .number x hv⟩
  | text hs => exact ⟨_, .text hs⟩
  | emptyArray hd hw => exact ⟨_, .emptyArray hd hw⟩
  | array hd _ ih =>
    obtain ⟨ts, hts⟩ := ih
    exact ⟨_, .array hd hts⟩
  | emptyObject hd hw => exact ⟨_, .emptyObject hd hw⟩
  | object hd _ ih =>
    obtain ⟨ts, hts⟩ := ih
    exact ⟨_, .object hd hts⟩
  | element hl _ hr ih =>
    obtain ⟨t, ht⟩ := ih
    exact ⟨_, .element hl ht hr⟩
  | item _ ih =>
    obtain ⟨t, ht⟩ := ih
    exact ⟨_, .item ht⟩
  | nextItem _ _ ihs ih =>
    obtain ⟨ts, hts⟩ := ihs
    obtain ⟨t, ht⟩ := ih
    exact ⟨_, .nextItem hts ht⟩
  | member hl hk hr _ ih =>
    obtain ⟨t, ht⟩ := ih
    exact ⟨_, .member hl hk hr ht⟩
  | firstMember _ ih =>
    obtain ⟨t, ht⟩ := ih
    exact ⟨_, .firstMember ht⟩
  | nextMember _ _ ihs ih =>
    obtain ⟨ts, hts⟩ := ihs
    obtain ⟨t, ht⟩ := ih
    exact ⟨_, .nextMember hts ht⟩

end Payload

namespace Message

open Payload

/-- A message is made of a payload that is read as its value. -/
theorem read_of_ofRecord {r : Record} {m : Message} (h : ofRecord r = .ok m) :
    m.topic = r.topic ∧ m.partition = r.partition ∧ m.offset = r.offset ∧
      ∃ bs, r.payload = some bs ∧ read bs = .ok m.payload := by
  cases hpayload : r.payload with
  | none => cases (ofRecord_absent hpayload).symm.trans h
  | some bs =>
    unfold ofRecord at h
    cases hread : read bs with
    | error f => simp [hpayload, hread] at h
    | ok v =>
      simp only [hpayload, hread, Except.ok.injEq] at h
      subst h
      exact ⟨rfl, rfl, rfl, bs, rfl, hread⟩

end Message

open Payload Grammar Numeral

/-- **A message holds what its record says.** Its payload is a value that a payload can hold, and
every document of the bytes means it. -/
theorem Converter.json_means {σ : Type} (r : Record) (s : σ) {m : Message}
    (h : ((Converter.json.convert r).run s).value = .ok m) :
    m.topic = r.topic ∧ m.partition = r.partition ∧ m.offset = r.offset ∧ m.payload.Held 127 ∧
      ∃ bs, r.payload = some bs ∧ (∃ t, Depicts 0 (.element t) bs) ∧
        ∀ t, Depicts 0 (.element t) bs → t.Means m.payload := by
  have hvalue : ((Converter.json.convert r).run s).value = Message.ofRecord r := rfl
  obtain ⟨htopic, hpartition, hoffset, bs, hpayload, hread⟩ :=
    Message.read_of_ofRecord (hvalue.symm.trans h)
  have hbs : Writes 0 (.element m.payload) bs := read_eq_ok_iff_writes.1 hread
  have hheld : m.payload.Held 127 := hbs.held (Nat.zero_add 127)
  exact ⟨htopic, hpartition, hoffset, hheld, bs, hpayload, hbs.depicted,
    fun _ ht => Document.means_of_depicts ht hread⟩

/-- A record whose payload has one key twice, the second time escaped, and two numbers without a
fraction that are real all the same: minus zero, and one that 64 bits are not enough for. -/
def twiceKeyed : Record where
  topic := "names"
  partition := 3
  offset := 9
  key := none
  payload := some
    [123, 34, 98, 34, 58, 49, 44, 34, 97, 34, 58, 45, 48, 44, 34, 92, 117, 48, 48, 54, 50, 34,
    58, 91, 49, 56, 52, 52, 54, 55, 52, 52, 48, 55, 51, 55, 48, 57, 53, 53, 49, 54, 49, 53,
    44, 45, 57, 50, 50, 51, 51, 55, 50, 48, 51, 54, 56, 53, 52, 55, 55, 53, 56, 48, 57, 93,
    125]
  timestamp := none

/-- What is left of the payload of `twiceKeyed`. -/
def onceKeyed : Value :=
  .object [("a", .real ⟨0x8000000000000000⟩),
    ("b", .array [.whole 18446744073709551615, .real ⟨0xC3E0000000000000⟩])]

theorem read_twiceKeyed : ∃ bs, twiceKeyed.payload = some bs ∧ read bs = .ok onceKeyed := by
  have hblank : Blank [] := by decide
  have hone : Writes 1 (.value (.whole 1)) [49] :=
    .number ⟨false, [1], [], none, .inr ⟨1, _, rfl, by decide⟩⟩ rfl
  have hzero : Writes 1 (.value (.real (.ofMagnitude true (double.ofNat 0)))) [45, 48] :=
    .number ⟨true, [0], [], none, .inl rfl⟩ rfl
  have hword : Writes 2 (.value (.whole 18446744073709551615)) _ :=
    .number ⟨false, [1, 8, 4, 4, 6, 7, 4, 4, 0, 7, 3, 7, 0, 9, 5, 5, 1, 6, 1, 5], [], none,
      .inr ⟨1, _, rfl, by decide⟩⟩ rfl
  have hbelow : Writes 2
      (.value (.real (.ofMagnitude true (double.ofNat 9223372036854775809)))) _ :=
    .number ⟨true, [9, 2, 2, 3, 3, 7, 2, 0, 3, 6, 8, 5, 4, 7, 7, 5, 8, 0, 9], [], none,
      .inr ⟨9, _, rfl, by decide⟩⟩ rfl
  have harray := Writes.array (d := 1) (by decide)
    (.nextItem (.item (.element hblank hword hblank)) (.element hblank hbelow hblank))
  have ha : Spells [97] "a".toList := .plain (c := 'a') (by decide) .nil
  have hb : Spells [98] "b".toList := .plain (c := 'b') (by decide) .nil
  have hcode : Quad [48, 48, 54, 50] 98 :=
    .mk (.decimal (n := 0) (by decide)) (.decimal (n := 0) (by decide))
      (.decimal (n := 6) (by decide)) (.decimal (n := 2) (by decide))
  have hescaped : Spells [92, 117, 48, 48, 54, 50] "b".toList :=
    .escape (.single hcode (by decide)) .nil
  have hmembers := Writes.nextMember (.nextMember
      (.firstMember (.member hblank hb hblank (.element hblank hone hblank)))
      (.member hblank ha hblank (.element hblank hzero hblank)))
    (.member hblank hescaped hblank (.element hblank harray hblank))
  have hread := read_of_writes (.element hblank (.object (by decide) hmembers) hblank)
  have hminus : Double.ofMagnitude true (double.ofNat 0) = ⟨0x8000000000000000⟩ := by
    decide +kernel
  have hreal : Double.ofMagnitude true (double.ofNat 9223372036854775809) =
      ⟨0xC3E0000000000000⟩ := by
    decide +kernel
  rw [hminus, hreal] at hread
  exact ⟨_, rfl, hread⟩

theorem Converter.json_means_twiceKeyed :
    ((Converter.json.convert twiceKeyed).run ()).value = .ok ⟨"names", 3, 9, none, onceKeyed⟩ ∧
      onceKeyed.Held 127 ∧ ∃ bs, twiceKeyed.payload = some bs ∧ (∃ t, Depicts 0 (.element t) bs) ∧
        ∀ t, Depicts 0 (.element t) bs → t.Means onceKeyed := by
  have hmessage : ((Converter.json.convert twiceKeyed).run ()).value =
      .ok ⟨"names", 3, 9, none, onceKeyed⟩ := by
    obtain ⟨bs, hbs, hread⟩ := read_twiceKeyed
    change Message.ofRecord twiceKeyed = _
    unfold Message.ofRecord
    simp only [hbs, hread]
    rfl
  obtain ⟨-, -, -, hheld, hdocument⟩ := Converter.json_means twiceKeyed () hmessage
  exact ⟨hmessage, hheld, hdocument⟩

end TopicListeners
