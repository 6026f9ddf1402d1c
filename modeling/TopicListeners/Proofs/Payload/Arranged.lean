import TopicListeners.Payload.Value
import TopicListeners.Proofs.Dictionary

/-!
# Values in order

The members of an object can be written in any order, but a value that is read keeps them in the
order of their keys. So what is written is one of many arrangements of a value, and what is read is
the one arrangement that is in order.

* `Fits`: the values that a payload can hold exactly, up to a depth.
* `InOrder`: the members of every object, at any depth, are in the order of their keys.
* `arranged`: the members of every object put in order.
* `Fits.inOrder_arranged`, `InOrder.arranged_eq`: **arranging puts a value in order**, and leaves it
  alone if it is.
-/

namespace TopicListeners.Payload.Value

/-- The values that a payload can hold exactly: without reals, with whole numbers of 64 bits and
distinct keys, and with at most `d` arrays and objects around anything. -/
inductive Fits : Nat → Value → Prop
  | null {d : Nat} : Fits d .null
  | flag {d : Nat} {b : Bool} : Fits d (.flag b)
  | whole {d : Nat} {n : Int} (hmin : -9223372036854775808 ≤ n)
    (hmax : n ≤ 18446744073709551615) : Fits d (.whole n)
  | text {d : Nat} {s : String} : Fits d (.text s)
  | array {d : Nat} {vs : List Value} (h : ∀ v ∈ vs, Fits d v) : Fits (d + 1) (.array vs)
  | object {d : Nat} {ms : Members} (hkeys : (ms.map Prod.fst).Nodup) (h : ∀ m ∈ ms, Fits d m.2) :
    Fits (d + 1) (.object ms)

/-- The members of every object are in the order of their keys' bytes. -/
inductive InOrder : Value → Prop
  | null : InOrder .null
  | flag {b : Bool} : InOrder (.flag b)
  | whole {n : Int} : InOrder (.whole n)
  | real {x : Numeral.Double} : InOrder (.real x)
  | text {s : String} : InOrder (.text s)
  | array {vs : List Value} (h : ∀ v ∈ vs, InOrder v) : InOrder (.array vs)
  | object {ms : Members} (hkeys : Dictionary.Ordered ms) (h : ∀ m ∈ ms, InOrder m.2) :
    InOrder (.object ms)

/-! ## Sorting -/

/-- Members sorted by the bytes of their keys. -/
def sortMembers (ms : Members) : Members :=
  ms.mergeSort fun x y => (Dictionary.entryOrder x y).isLE

theorem sortMembers_perm (ms : Members) : (sortMembers ms).Perm ms := List.mergeSort_perm _ _

/-- Sorted members are ordered if no two have the same key. -/
theorem ordered_sortMembers {ms : Members} (hkeys : (ms.map Prod.fst).Nodup) :
    (sortMembers ms).Ordered := by
  have hsorted : (sortMembers ms).Pairwise fun x y => (Dictionary.entryOrder x y).isLE := by
    refine List.pairwise_mergeSort (fun x y z => Std.TransCmp.isLE_trans) (fun x y => ?_) ms
    have hswap : Dictionary.entryOrder y x = (Dictionary.entryOrder x y).swap :=
      Std.OrientedCmp.eq_swap
    rw [hswap]
    cases Dictionary.entryOrder x y <;> rfl
  have hdistinct : (sortMembers ms).Pairwise fun x y => x.1 ≠ y.1 := by
    rw [← List.pairwise_map (f := Prod.fst) (R := (· ≠ ·))]
    exact ((sortMembers_perm ms).map Prod.fst).nodup_iff.2 hkeys
  refine List.Pairwise.imp ?_ (hsorted.and hdistinct)
  rintro x y ⟨hle, hne⟩
  cases h : Dictionary.entryOrder x y with
  | lt => rfl
  | eq =>
    have hkey : Text.Utf8.order x.1 y.1 = .eq := h
    exact absurd (Std.LawfulEqCmp.eq_of_compare hkey) hne
  | gt =>
    rw [h] at hle
    cases hle

theorem sortMembers_eq_self {ms : Members} (h : ms.Ordered) : sortMembers ms = ms := by
  refine List.mergeSort_of_pairwise (List.Pairwise.imp ?_ h)
  intro x y hxy
  rw [hxy]
  rfl

/-! ## Arranging -/

theorem sizeOf_member_lt {m : String × Value} {ms : List (String × Value)} (h : m ∈ ms) :
    sizeOf m.2 < 1 + sizeOf ms := by
  have hlt := List.sizeOf_lt_of_mem h
  obtain ⟨key, v⟩ := m
  simp only [Prod.mk.sizeOf_spec] at hlt ⊢
  omega

/-- A value with the members of its objects sorted, at any depth. -/
def arranged : Value → Value
  | .array vs => .array (vs.map fun v => v.arranged)
  | .object ms => .object (sortMembers (ms.map fun m => (m.1, m.2.arranged)))
  | v => v
decreasing_by
  · decreasing_tactic
  · rename_i h
    rw [object.sizeOf_spec]
    exact sizeOf_member_lt h

/-- Members with their values arranged, under the keys they had. -/
theorem keys_map_arranged (ms : Members) :
    (ms.map fun m => (m.1, m.2.arranged)).map Prod.fst = ms.map Prod.fst := by
  rw [List.map_map]
  rfl

/-- **Arranging a value puts it in order.** -/
theorem Fits.inOrder_arranged {d : Nat} {v : Value} (h : Fits d v) : v.arranged.InOrder := by
  induction h with
  | null => simpa only [arranged] using .null
  | flag => simpa only [arranged] using .flag
  | whole => simpa only [arranged] using .whole
  | text => simpa only [arranged] using .text
  | array h ih =>
    rw [arranged]
    refine .array fun w hw => ?_
    obtain ⟨v, hv, rfl⟩ := List.mem_map.1 hw
    exact ih v hv
  | @object d ms hkeys h ih =>
    rw [arranged]
    refine .object (ordered_sortMembers ?_) fun m hm => ?_
    · rwa [keys_map_arranged]
    · obtain ⟨w, hw, rfl⟩ := List.mem_map.1 ((sortMembers_perm _).mem_iff.1 hm)
      exact ih w hw

/-- **A value that is in order is arranged already.** -/
theorem InOrder.arranged_eq {v : Value} (h : v.InOrder) : v.arranged = v := by
  induction h with
  | null | flag | whole | real | text => rw [arranged] <;> simp
  | @array vs h ih =>
    have hmap : vs.map (fun v => v.arranged) = vs := by
      rw [List.map_congr_left ih, List.map_id']
    rw [arranged, hmap]
  | @object ms hkeys h ih =>
    have hmap : ms.map (fun m => (m.1, m.2.arranged)) = ms := by
      rw [List.map_congr_left (g := id) fun m hm => by rw [ih m hm]; rfl, List.map_id]
    rw [arranged, hmap, sortMembers_eq_self hkeys]

end TopicListeners.Payload.Value
