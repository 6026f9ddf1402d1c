import TopicListeners.Proofs.Payload.Arranged
import TopicListeners.Proofs.Payload.Conversion

/-!
# Rendering values

A value can be rendered as JSON in many ways: space goes between any two parts, a character of a
string stands for itself or is escaped, and members come in any order. Every one of them is read as
the same value, the one that is rendered, with its members in order.

* `Renders`: a value, or a part of one, and its renderings.
* `exists_renders`: there is one of each value that can be held exactly.
* `writes_decimal`: whole numbers of 64 bits are written exactly.
* `writes_of_renders`: a rendering is written as the grammar has it.
* `Converter.json_rendered`: **converting a record undoes any rendering.**
-/

namespace TopicListeners

namespace Payload

open Grammar Text

/-! ## Renderings -/

/-- What is rendered. -/
inductive Part
  /-- A value. -/
  | value (v : Value)
  /-- A value with the space around it. -/
  | element (v : Value)
  /-- The elements of an array. -/
  | items (vs : List Value)
  /-- A member of an object. -/
  | member (key : String) (v : Value)
  /-- The members of an object, in the order in which they are rendered. -/
  | members (ms : Members)

/-- The digits of a whole number, after a minus sign if it is negative. -/
def decimal (n : Int) : List UInt8 := Utf8.encode (toString n).toList

/-- **The renderings of a value.** -/
inductive Renders : Part → List UInt8 → Prop
  | null : Renders (.value .null) [110, 117, 108, 108]
  | yes : Renders (.value (.flag true)) [116, 114, 117, 101]
  | no : Renders (.value (.flag false)) [102, 97, 108, 115, 101]
  | whole (n : Int) : Renders (.value (.whole n)) (decimal n)
  | text {s : String} {bs : List UInt8} (hs : Spells bs s.toList) :
    Renders (.value (.text s)) (34 :: bs ++ [34])
  | emptyArray {ws : List UInt8} (hw : Blank ws) :
    Renders (.value (.array [])) (91 :: ws ++ [93])
  | array {vs : List Value} {bs : List UInt8} (hs : Renders (.items vs) bs) :
    Renders (.value (.array vs)) (91 :: bs ++ [93])
  | emptyObject {ws : List UInt8} (hw : Blank ws) :
    Renders (.value (.object [])) (123 :: ws ++ [125])
  | object {ms ns : Members} {bs : List UInt8} (hperm : ns.Perm ms)
    (hs : Renders (.members ns) bs) : Renders (.value (.object ms)) (123 :: bs ++ [125])
  | element {v : Value} {l bs r : List UInt8} (hl : Blank l) (h : Renders (.value v) bs)
    (hr : Blank r) : Renders (.element v) (l ++ bs ++ r)
  | item {v : Value} {bs : List UInt8} (h : Renders (.element v) bs) : Renders (.items [v]) bs
  | nextItem {vs : List Value} {v : Value} {as bs : List UInt8} (hs : Renders (.items vs) as)
    (h : Renders (.element v) bs) : Renders (.items (vs ++ [v])) (as ++ 44 :: bs)
  | member {key : String} {v : Value} {l ks r bs : List UInt8} (hl : Blank l)
    (hk : Spells ks key.toList) (hr : Blank r) (h : Renders (.element v) bs) :
    Renders (.member key v) (l ++ (34 :: ks ++ [34]) ++ r ++ 58 :: bs)
  | firstMember {key : String} {v : Value} {bs : List UInt8} (h : Renders (.member key v) bs) :
    Renders (.members [(key, v)]) bs
  | nextMember {ms : Members} {key : String} {v : Value} {as bs : List UInt8}
    (hs : Renders (.members ms) as) (h : Renders (.member key v) bs) :
    Renders (.members (ms ++ [(key, v)])) (as ++ 44 :: bs)

/-! ## Every value has a rendering -/

theorem exists_hexDigit {n : Nat} (h : n < 16) : ∃ b, HexDigit b n := by
  by_cases hten : n < 10
  · exact ⟨_, .decimal hten⟩
  · obtain ⟨k, rfl⟩ : ∃ k, n = 10 + k := ⟨n - 10, by omega⟩
    exact ⟨_, .lower (n := k) (by omega)⟩

/-- A control character is escaped by its number. -/
theorem exists_escape {c : Char} (h : c.toNat < 32) : ∃ e, Escape e c := by
  obtain ⟨a, ha⟩ := exists_hexDigit (n := c.toNat / 16) (by omega)
  obtain ⟨b, hb⟩ := exists_hexDigit (n := c.toNat % 16) (by omega)
  have hzero : HexDigit 48 0 := .decimal (n := 0) (by decide)
  have hquad := Quad.mk hzero hzero ha hb
  have hnumber : ((0 * 16 + 0) * 16 + c.toNat / 16) * 16 + c.toNat % 16 = c.toNat := by omega
  rw [hnumber] at hquad
  have hescape := Escape.single hquad (by omega)
  rw [Char.ofNat_toNat] at hescape
  exact ⟨_, hescape⟩

theorem exists_spells (cs : List Char) : ∃ bs, Spells bs cs := by
  induction cs with
  | nil => exact ⟨[], .nil⟩
  | cons c cs ih =>
    obtain ⟨bs, hbs⟩ := ih
    by_cases hplain : IsPlain c
    · exact ⟨_, .plain hplain hbs⟩
    · have hc : c.toNat < 32 ∨ c = '"' ∨ c = '\\' := by
        unfold IsPlain at hplain
        grind
      rcases hc with hc | rfl | rfl
      · obtain ⟨e, he⟩ := exists_escape hc
        exact ⟨_, .escape he hbs⟩
      · exact ⟨_, .escape (.short (b := 34) (by decide)) hbs⟩
      · exact ⟨_, .escape (.short (b := 92) (by decide)) hbs⟩

theorem Renders.tight {v : Value} {bs : List UInt8} (h : Renders (.value v) bs) :
    Renders (.element v) bs := by
  have hblank : Blank [] := by decide
  simpa using Renders.element hblank h hblank

/-- Elements are rendered one after the other. -/
theorem Renders.exists_items {us vs : List Value} {as : List UInt8} (has : Renders (.items us) as)
    (hvs : ∀ v ∈ vs, ∃ bs, Renders (.value v) bs) : ∃ bs, Renders (.items (us ++ vs)) bs := by
  induction vs generalizing us as with
  | nil => exact ⟨as, by rwa [List.append_nil]⟩
  | cons v vs ih =>
    obtain ⟨⟨bs, hbs⟩, hvs⟩ := List.forall_mem_cons.1 hvs
    obtain ⟨cs, hcs⟩ := ih (.nextItem has hbs.tight) hvs
    exact ⟨cs, by rwa [List.append_assoc] at hcs⟩

theorem exists_member {m : String × Value} (h : ∃ bs, Renders (.value m.2) bs) :
    ∃ bs, Renders (.member m.1 m.2) bs := by
  obtain ⟨bs, hbs⟩ := h
  obtain ⟨ks, hks⟩ := exists_spells m.1.toList
  have hblank : Blank [] := by decide
  exact ⟨_, .member hblank hks hblank hbs.tight⟩

/-- Members are rendered one after the other. -/
theorem Renders.exists_members {ls ms : Members} {as : List UInt8} (has : Renders (.members ls) as)
    (hms : ∀ m ∈ ms, ∃ bs, Renders (.value m.2) bs) : ∃ bs, Renders (.members (ls ++ ms)) bs := by
  induction ms generalizing ls as with
  | nil => exact ⟨as, by rwa [List.append_nil]⟩
  | cons m ms ih =>
    obtain ⟨hm, hms⟩ := List.forall_mem_cons.1 hms
    obtain ⟨bs, hbs⟩ := exists_member hm
    obtain ⟨cs, hcs⟩ := ih (.nextMember has hbs) hms
    exact ⟨cs, by rwa [List.append_assoc] at hcs⟩

/-- **Every value that fits any depth has a rendering.** -/
theorem exists_renders {d : Nat} {v : Value} (h : v.Fits d) : ∃ bs, Renders (.value v) bs := by
  have hblank : Blank [] := by decide
  induction h with
  | null => exact ⟨_, .null⟩
  | @flag _ b => cases b <;> constructor <;> constructor
  | whole => exact ⟨_, .whole _⟩
  | @text _ s =>
    obtain ⟨bs, hbs⟩ := exists_spells s.toList
    exact ⟨_, .text hbs⟩
  | @array _ vs _ ih =>
    cases vs with
    | nil => exact ⟨_, .emptyArray hblank⟩
    | cons v vs =>
      obtain ⟨⟨as, has⟩, hvs⟩ := List.forall_mem_cons.1 ih
      obtain ⟨bs, hbs⟩ := (Renders.item has.tight).exists_items hvs
      exact ⟨_, .array hbs⟩
  | @object _ ms _ _ ih =>
    cases ms with
    | nil => exact ⟨_, .emptyObject hblank⟩
    | cons m ms =>
      obtain ⟨hm, hms⟩ := List.forall_mem_cons.1 ih
      obtain ⟨as, has⟩ := exists_member hm
      obtain ⟨bs, hbs⟩ := (Renders.firstMember has).exists_members hms
      exact ⟨_, .object (.refl _) hbs⟩

/-! ## Whole numbers -/

theorem encode_digitChar (d : Fin 10) : Utf8.encode [Nat.digitChar d] = [digitByte d] := by
  revert d
  decide

theorem encode_append (as bs : List Char) :
    Utf8.encode (as ++ bs) = Utf8.encode as ++ Utf8.encode bs := List.flatMap_append

/-- The digits of a number, without zeros in front. -/
theorem exists_digits (n : Nat) :
    ∃ ds : List (Fin 10), Utf8.encode (Nat.toDigits 10 n) = ds.map digitByte ∧
      Number.withDigits 0 ds = n ∧ (ds = [0] ∨ ∃ d es, ds = d :: es ∧ d ≠ 0) := by
  induction n using Nat.strongRecOn with
  | ind n ih =>
    rw [Nat.toDigits_eq_if (by decide)]
    by_cases h : n < 10
    · rw [if_pos h]
      refine ⟨[⟨n, h⟩], encode_digitChar ⟨n, h⟩, by simp [Number.withDigits], ?_⟩
      by_cases hzero : n = 0
      · subst hzero
        exact .inl rfl
      · exact .inr ⟨⟨n, h⟩, [], rfl, fun heq => hzero (congrArg Fin.val heq)⟩
    · rw [if_neg h]
      obtain ⟨ds, hencode, hvalue, hlead⟩ := ih (n / 10) (by omega)
      have hdigit : n % 10 < 10 := by omega
      refine ⟨ds ++ [⟨n % 10, hdigit⟩], ?_, ?_, ?_⟩
      · rw [encode_append, hencode, encode_digitChar ⟨n % 10, hdigit⟩, List.map_append]
        rfl
      · rw [Number.withDigits, List.foldl_append]
        change Number.withDigits 0 ds * 10 + n % 10 = n
        omega
      · -- the digits in front are not those of zero
        rcases hlead with rfl | ⟨d, es, rfl, hd⟩
        · have hzero : Number.withDigits 0 [0] = 0 := rfl
          omega
        · exact .inr ⟨d, es ++ [⟨n % 10, hdigit⟩], rfl, hd⟩

/-- Digits that fit 64 bits are all taken. -/
theorem gather_eq {n : Nat} {ds : List (Fin 10)}
    (h : Number.withDigits n ds ≤ Number.significandLimit) :
    gather n ds = (Number.withDigits n ds, []) := by
  induction ds generalizing n with
  | nil => rfl
  | cons d ds ih =>
    have hnext : n * 10 + d ≤ Number.withDigits (n * 10 + d) ds := Number.le_withDigits _ ds
    have hfits : n * 10 + d ≤ Number.significandLimit := Nat.le_trans hnext h
    rw [Number.gather_of_le hfits]
    exact ih h

theorem exists_numberText (negative : Bool) {n : Nat} (h : n ≤ Number.significandLimit) :
    ∃ x : NumberText,
      x.text = (if negative then [45] else []) ++ Utf8.encode (Nat.toDigits 10 n) ∧
        x.value? = some (wholeValue negative n) := by
  obtain ⟨ds, hencode, hvalue, hlead⟩ := exists_digits n
  have hgather : gather 0 ds = (n, []) := by
    rw [gather_eq (hvalue ▸ h), hvalue]
  refine ⟨⟨negative, ds, [], none, hlead⟩, ?_, ?_⟩
  · simp [NumberText.text, NumberText.signBytes, NumberText.fractionBytes, NumberText.exponentBytes,
      hencode]
  · simp [NumberText.value?, NumberText.wholes, hgather]

/-- **Whole numbers of 64 bits are written exactly.** -/
theorem writes_decimal {d : Nat} {n : Int} (hmin : -9223372036854775808 ≤ n)
    (hmax : n ≤ 18446744073709551615) : Writes d (.value (.whole n)) (decimal n) := by
  have hlimit : n.natAbs ≤ Number.significandLimit := by
    rw [Number.significandLimit]
    omega
  unfold decimal
  rw [Int.toString_eq_repr, Int.repr_eq_if]
  by_cases hsign : 0 ≤ n
  · rw [if_pos hsign, Nat.toList_repr]
    obtain ⟨x, htext, hvalue⟩ := exists_numberText false (n := n.toNat) (by omega)
    have hwhole : wholeValue false n.toNat = .whole n := by
      simp [wholeValue, Int.toNat_of_nonneg hsign]
    rw [hwhole] at hvalue
    rw [if_neg Bool.false_ne_true, List.nil_append] at htext
    exact htext ▸ .number x hvalue
  · rw [if_neg hsign, String.toList_append, Nat.toList_repr, encode_append]
    obtain ⟨x, htext, hvalue⟩ := exists_numberText true (n := (-n).toNat) (by omega)
    have hwhole : wholeValue true (-n).toNat = .whole n := by
      have hfits : ¬ (true = true ∧ ((-n).toNat = 0 ∨ 9223372036854775808 < (-n).toNat)) := by
        omega
      rw [wholeValue, if_neg hfits, if_pos rfl]
      congr 1
      omega
    rw [hwhole] at hvalue
    rw [if_pos rfl] at htext
    exact htext ▸ .number x hvalue

/-! ## Parts -/

namespace Part

/-- The values of a part fit a depth. -/
def Fits (d : Nat) : Part → Prop
  | .value v | .element v | .member _ v => v.Fits d
  | .items vs => ∀ v ∈ vs, v.Fits d
  | .members ms => ∀ m ∈ ms, m.2.Fits d

/-- What the grammar calls a part once its values are arranged. -/
def phrase : Part → Phrase
  | .value v => .value v.arranged
  | .element v => .element v.arranged
  | .items vs => .items (vs.map fun v => v.arranged).reverse
  | .member key v => .member key v.arranged
  | .members ms => .members (Dictionary.ofEntries (ms.map fun m => (m.1, m.2.arranged)))

end Part

/-- Members under distinct keys end up sorted, in whatever order they are put together. -/
theorem ofEntries_arranged {ms ns : Members} (hkeys : (ms.map Prod.fst).Nodup)
    (hperm : ns.Perm ms) :
    Dictionary.ofEntries (ns.map fun m => (m.1, m.2.arranged)) =
      Value.sortMembers (ms.map fun m => (m.1, m.2.arranged)) := by
  refine Dictionary.ofEntries_eq_of_perm (Value.ordered_sortMembers ?_) ?_
  · rwa [Value.keys_map_arranged]
  · exact (hperm.map _).trans (Value.sortMembers_perm _).symm

/-- **A rendering is written as the grammar has it**, inside `d` arrays and objects if there is room
for `e` more. -/
theorem writes_of_renders {p : Part} {bs : List UInt8} (h : Renders p bs) {d e : Nat}
    (hroom : d + e = 127) (hfits : p.Fits e) : Writes d p.phrase bs := by
  -- an array or object takes one of the `e` and adds it to `d`
  induction h generalizing d e with
  | null | yes | no =>
    simp only [Part.phrase, Value.arranged]
    constructor
  | whole n =>
    cases hfits with
    | whole hmin hmax =>
      simpa only [Part.phrase, Value.arranged] using writes_decimal hmin hmax
  | @text s bs hs =>
    have htext := Writes.text (d := d) hs
    simpa only [Part.phrase, Value.arranged, String.ofList_toList] using htext
  | emptyArray hw =>
    cases hfits
    have hempty := Writes.emptyArray (d := d) (by omega) hw
    simpa only [Part.phrase, Value.arranged, List.map_nil] using hempty
  | @array vs bs hs ih =>
    cases hfits with
    | @array e _ hvs =>
      have hitems := ih (d := d + 1) (e := e) (by omega) hvs
      have harray := Writes.array (by omega) hitems
      simpa only [Part.phrase, Value.arranged, List.reverse_reverse] using harray
  | emptyObject hw =>
    cases hfits
    have hempty := Writes.emptyObject (d := d) (by omega) hw
    have hsorted : Value.sortMembers [] = [] := List.mergeSort_nil
    simpa only [Part.phrase, Value.arranged, List.map_nil, hsorted] using hempty
  | @object ms ns bs hperm hs ih =>
    cases hfits with
    | @object e _ hkeys hms =>
      have hmembers := ih (d := d + 1) (e := e) (by omega) fun m hm => hms m (hperm.mem_iff.1 hm)
      have hobject := Writes.object (by omega) hmembers
      simpa only [Part.phrase, Value.arranged, ofEntries_arranged hkeys hperm] using hobject
  | element hl _ hr ih => exact .element hl (ih hroom hfits) hr
  | item _ ih => exact .item (ih hroom (hfits _ List.mem_cons_self))
  | @nextItem vs v as bs _ _ ihs ih =>
    have hitems := ihs hroom fun w hw => hfits w (List.mem_append_left _ hw)
    have hitem := ih hroom (hfits v (List.mem_append_right _ List.mem_cons_self))
    simpa [Part.phrase] using Writes.nextItem hitems hitem
  | @member key v l ks r bs hl hk hr _ ih =>
    have hmember := Writes.member hl hk hr (ih hroom hfits)
    simpa only [Part.phrase, String.ofList_toList] using hmember
  | firstMember _ ih => exact .firstMember (ih hroom (hfits _ List.mem_cons_self))
  | @nextMember ms key v as bs _ _ ihs ih =>
    have hmembers := ihs hroom fun m hm => hfits m (List.mem_append_left _ hm)
    have hmember := ih hroom (hfits (key, v) (List.mem_append_right _ List.mem_cons_self))
    have hnext := Writes.nextMember hmembers hmember
    simpa [Part.phrase, Dictionary.ofEntries] using hnext

/-- **Reading undoes any rendering.** -/
theorem read_of_renders {v : Value} {bs : List UInt8} (h : Renders (.element v) bs)
    (hfits : v.Fits 127) : read bs = .ok v.arranged :=
  read_of_writes (writes_of_renders h (Nat.zero_add 127) hfits)

end Payload

open Payload Grammar

/-- **Converting a record undoes any rendering of its payload.** A value that fits has renderings, and
for each of them the payload of the message is the value that was rendered, with the members of every
object in the order of their keys. -/
theorem Converter.json_rendered {σ : Type} {v : Value} (hfits : v.Fits 127) :
    (∃ bs, Renders (.element v) bs) ∧
    ∀ (r : Record) (s : σ) (bs : List UInt8), r.payload = some bs → Renders (.element v) bs →
      ∃ m, ((Converter.json.convert r).run s).value = .ok m ∧ m.payload = v.arranged ∧
        m.payload.InOrder ∧ (v.InOrder → m.payload = v) := by
  refine ⟨?_, fun r s bs hpayload hbs => ?_⟩
  · obtain ⟨bs, hbs⟩ := exists_renders hfits
    exact ⟨_, hbs.tight⟩
  · have hvalue : ((Converter.json.convert r).run s).value = Message.ofRecord r := rfl
    have hread := read_of_renders hbs hfits
    have hmessage : Message.ofRecord r =
        .ok ⟨r.topic, r.partition, r.offset, r.key.map Message.decodeKey, v.arranged⟩ := by
      rw [Message.ofRecord]
      simp only [hpayload, hread]
    exact ⟨_, hvalue.trans hmessage, rfl, hfits.inOrder_arranged, fun h => h.arranged_eq⟩

/-- A record whose payload has its keys out of order, and a character written as a pair of
surrogates. -/
def smiling : Record where
  topic := "moods"
  partition := 0
  offset := 0
  key := none
  payload := some
    [123, 34, 107, 34, 32, 58, 91, 45, 57, 50, 50, 51, 51, 55, 50, 48, 51, 54, 56, 53, 52, 55,
    55, 53, 56, 48, 56, 93, 44, 10, 34, 97, 34, 58, 34, 92, 117, 68, 56, 51, 68, 92, 117, 100,
    101, 48, 48, 34, 125]
  timestamp := none

/-- The value that the payload of `smiling` renders. -/
def smile : Value :=
  .object [("a", .text "😀"), ("k", .array [.whole (-9223372036854775808)])]

theorem Converter.json_rendered_smile :
    ∃ m, ((Converter.json.convert smiling).run ()).value = .ok m ∧ m.payload = smile := by
  have hblank : Blank [] := by decide
  have harray : Renders (.value (.array [.whole (-9223372036854775808)]))
      (91 :: ([] ++ decimal (-9223372036854775808) ++ []) ++ [93]) :=
    .array (.item (.element hblank (.whole _) hblank))
  have hhigh : Quad [68, 56, 51, 68] 0xD83D :=
    .mk (.upper (n := 3) (by decide)) (.decimal (n := 8) (by decide))
      (.decimal (n := 3) (by decide)) (.upper (n := 3) (by decide))
  have hlow : Quad [100, 101, 48, 48] 0xDE00 :=
    .mk (.lower (n := 3) (by decide)) (.lower (n := 4) (by decide))
      (.decimal (n := 0) (by decide)) (.decimal (n := 0) (by decide))
  have hpair := Escape.pair hhigh hlow (by decide) (by decide)
  have hchar : Char.ofNat (0x10000 + (0xD83D - 0xD800) * 0x400 + (0xDE00 - 0xDC00)) = '😀' := by
    decide
  rw [hchar] at hpair
  have hface : Spells _ "😀".toList := .escape hpair .nil
  have hk : Spells [107] "k".toList := .plain (c := 'k') (by decide) .nil
  have ha : Spells [97] "a".toList := .plain (c := 'a') (by decide) .nil
  have hmembers := Renders.nextMember
    (.firstMember (.member (l := []) (r := [32]) hblank hk (by decide)
      (.element hblank harray hblank)))
    (.member (l := [10]) (by decide) ha hblank
      (.element hblank (.text (s := "😀") hface) hblank))
  have hbs : Renders (.element smile) _ :=
    .element hblank (.object (.swap _ _ _) hmembers) hblank
  have hfits : smile.Fits 127 := by
    refine .object (by decide) (List.forall_mem_cons.2 ⟨.text, List.forall_mem_singleton.2 ?_⟩)
    exact .array (List.forall_mem_singleton.2 (.whole (by decide) (by decide)))
  have horder : smile.InOrder := by
    refine .object ?_ (List.forall_mem_cons.2 ⟨.text, List.forall_mem_singleton.2 ?_⟩)
    · unfold Dictionary.Ordered Sorted.Increasing
      decide
    · exact .array (List.forall_mem_singleton.2 .whole)
  obtain ⟨m, hm, -, -, hpayload⟩ :=
    (Converter.json_rendered hfits).2 smiling () _ rfl hbs
  exact ⟨m, hm, hpayload horder⟩

end TopicListeners
