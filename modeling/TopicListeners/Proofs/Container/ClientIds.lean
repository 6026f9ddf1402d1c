import Mathlib.Data.List.Nodup
import TopicListeners.Container.Build

/-!
# Client ids of children

A child is known to the cluster by the stem of its container, a hyphen and its own index in decimal.
Nothing in a stem is escaped, so an id can look as if it were cut elsewhere: `a-1-0` has hyphens
enough. But an index has none, and so the last hyphen of an id is the one between stem and index.

* `isDecimal_toString`: how an index is written.
* `childClientId_inj`: **an id says which stem and which index it is made of.**
* `nodup_clientIds`: no two children of a container share an id.
-/

namespace TopicListeners

/-! ## Decimal texts -/

/-- The text of a number in decimal: at least one digit, and no zero in front of others. -/
structure IsDecimal (n : Nat) (text : String) : Prop where
  nonempty : text ≠ ""
  digits : ∀ c ∈ text.toList, c.isDigit
  value : Nat.ofDigitChars 10 text.toList 0 = n
  unpadded : text.toList.head? = some '0' → text = "0"

/-- Only zero starts with the digit zero. -/
theorem head?_toDigits {n : Nat} (h : (Nat.toDigits 10 n).head? = some '0') : n = 0 := by
  induction n using Nat.strongRecOn with
  | ind n ih =>
    rw [Nat.toDigits_eq_if (by decide)] at h
    split at h
    -- the first digit of a longer number is that of its tenth part
    · have hdigit : ∀ m < 10, m.digitChar = '0' → m = 0 := by decide
      exact hdigit n (by assumption) (Option.some.inj h)
    · rw [List.head?_append_of_ne_nil _ Nat.toDigits_ne_nil] at h
      have := ih (n / 10) (by omega) h
      omega

theorem isDecimal_toString (n : Nat) : IsDecimal n (toString n) := by
  have htext : (toString n).toList = Nat.toDigits 10 n := Nat.toList_repr
  refine ⟨?_, ?_, ?_, ?_⟩
  · exact Nat.repr_ne_empty
  · intro c hc
    rw [htext] at hc
    exact Nat.isDigit_of_mem_toDigits (by decide) (by decide) hc
  · rw [htext]
    exact Nat.ofDigitChars_ten_toDigits
  · intro h
    rw [htext] at h
    rw [head?_toDigits h]
    rfl

/-! ## Ids -/

variable {α : Type} {p q : String} {i j : Nat}

theorem eq_nil_of_cons_eq_append {a : α} {as bs t : List α} (ha : a ∉ as)
    (h : a :: as = t ++ a :: bs) : t = [] := by
  cases t with
  | nil => rfl
  | cons b t =>
    obtain ⟨-, rfl⟩ := List.cons.inj h
    simp at ha

/-- There is only one way to cut a list at the last `a` in it. -/
theorem append_cons_inj {a : α} {xs ys as bs : List α} (ha : a ∉ as) (hb : a ∉ bs)
    (h : xs ++ a :: as = ys ++ a :: bs) : xs = ys ∧ as = bs := by
  -- whichever list is cut later, what there is between the cuts is empty
  rcases List.append_eq_append_iff.1 h with ⟨t, rfl, ht⟩ | ⟨t, rfl, ht⟩
  · obtain rfl := eq_nil_of_cons_eq_append ha ht
    simpa using ht
  · obtain rfl := eq_nil_of_cons_eq_append hb ht
    simpa using ht.symm

theorem childClientId_of_ne (hp : p ≠ "") (i : Nat) :
    childClientId p i = some (p ++ "-" ++ toString i) := if_neg hp

/-- **An id says which stem and which index it is made of.** -/
theorem childClientId_inj (hp : p ≠ "") (hq : q ≠ "")
    (h : childClientId p i = childClientId q j) : p = q ∧ i = j := by
  have hyphen (n : Nat) : '-' ∉ (toString n).toList := by
    intro hmem
    exact absurd ((isDecimal_toString n).digits _ hmem) (by decide)
  rw [childClientId_of_ne hp, childClientId_of_ne hq, Option.some.injEq] at h
  have hchars : p.toList ++ '-' :: (toString i).toList = q.toList ++ '-' :: (toString j).toList := by
    simpa using congrArg String.toList h
  obtain ⟨hstem, hindex⟩ := append_cons_inj (hyphen i) (hyphen j) hchars
  refine ⟨String.toList_inj.1 hstem, ?_⟩
  rw [← (isDecimal_toString i).value, hindex, (isDecimal_toString j).value]

theorem childClientId_eq_none : childClientId p i = none ↔ p = "" := by
  unfold childClientId
  split <;> simp [*]

/-! ## Children -/

variable {n : UInt32}

theorem map_index_childrenOf (p : String) (n : UInt32) :
    (childrenOf p n).map Child.index = List.range n.toNat := by
  simp [childrenOf, Function.comp_def]

theorem clientId_of_mem {child : Child} (h : child ∈ childrenOf p n) :
    child.clientId = childClientId p child.index := by
  obtain ⟨i, -, rfl⟩ := List.mem_map.1 h
  rfl

/-- **No two children of a container share an id.** -/
theorem nodup_clientIds (p : String) (n : UInt32) :
    ((childrenOf p n).filterMap Child.clientId).Nodup := by
  have hids : (childrenOf p n).filterMap Child.clientId =
      (List.range n.toNat).filterMap (childClientId p) := by
    rw [childrenOf, List.filterMap_map]
    rfl
  rw [hids]
  refine List.nodup_range.filterMap ?_
  intro i j id hi hj
  -- without a stem there are no ids at all
  have hp : p ≠ "" := by
    rintro rfl
    cases hi
  exact (childClientId_inj hp hp (hi.trans hj.symm)).2

end TopicListeners
