import TopicListeners.Proofs.Sorted

/-!
# Dictionaries as maps

What is under a key of a dictionary is what was put there last, and a dictionary whose entries are
in order is known by what is under its keys. So the order in which distinct keys are put into it
leaves no trace.

* `get?_set`, `get?_foldl_set`: what is under a key after one entry, and after many.
* `mem_iff_get?`: an ordered dictionary has exactly the entries that looking up finds.
* `mem_set_iff`: its entries once one has been put into it.
* `ofEntries_eq_of_perm`: **entries under distinct keys make the same dictionary in any order.**
* `ofEntries_perm`, `set_perm`: no entry is lost unless another one is under its key.
-/

namespace TopicListeners.Dictionary

variable {α : Type}

/-- The order of entries is that of their keys. -/
def entryOrder (x y : String × α) : Ordering := Text.Utf8.order x.1 y.1

instance : Std.TransCmp (entryOrder (α := α)) where
  eq_swap {x y} := by
    have h : Text.Utf8.order x.1 y.1 = (Text.Utf8.order y.1 x.1).swap := Std.OrientedCmp.eq_swap
    exact h
  isLE_trans {x y z} hxy hyz := by
    have h : (Text.Utf8.order x.1 z.1).isLE := Std.TransCmp.isLE_trans hxy hyz
    exact h

/-- The entries are in the order of their keys, and no key comes twice. -/
def Ordered (d : Dictionary α) : Prop := Sorted.Increasing entryOrder d

theorem ordered_set {d : Dictionary α} (h : d.Ordered) (key : String) (a : α) :
    (d.set key a).Ordered := Sorted.increasing_insert (key, a) h

theorem ordered_foldl_set {d : Dictionary α} (h : d.Ordered) (es : List (String × α)) :
    Ordered (es.foldl (fun d e => d.set e.1 e.2) d) := Sorted.increasing_foldl_insert es h

theorem ordered_ofEntries (es : List (String × α)) : (ofEntries es).Ordered :=
  ordered_foldl_set List.Pairwise.nil es

/-! ## Looking up -/

theorem get?_cons (key : String) (e : String × α) (d : Dictionary α) :
    get? (e :: d) key = if key = e.1 then some e.2 else d.get? key := by
  unfold get?
  rw [List.lookup_cons]
  by_cases h : key = e.1
  · rw [if_pos h, beq_iff_eq.2 h]
  · rw [if_neg h, beq_eq_false_iff_ne.2 h]

/-- **What is under a key** once an entry has been put into a dictionary. -/
theorem get?_set (d : Dictionary α) (key other : String) (a : α) :
    (d.set key a).get? other = if other = key then some a else d.get? other := by
  induction d with
  | nil => exact get?_cons other (key, a) []
  | cons e d ih =>
    unfold set Sorted.insert
    cases h : Text.Utf8.order key e.1 with
    | lt => simp only [get?_cons]
    | eq =>
      -- the entry of the same key is hidden either way
      have hkey : key = e.1 := Std.LawfulEqCmp.eq_of_compare h
      simp only [get?_cons, ← hkey]
      by_cases hother : other = key <;> simp [hother]
    | gt =>
      have hkey : e.1 ≠ key := by
        rintro rfl
        have hself : Text.Utf8.order e.1 e.1 = .eq := Std.ReflCmp.compare_self
        cases hself.symm.trans h
      have ih : get? (Sorted.insert entryOrder (key, a) d) other = _ := ih
      simp only [get?_cons]
      change (if other = e.1 then _ else get? (Sorted.insert entryOrder (key, a) d) other) = _
      rw [ih]
      by_cases hother : other = e.1
      · simp [hother, hkey]
      · simp [hother]

/-- **What is under a key after many entries**: of those under the key the last one. -/
theorem get?_foldl_set (d : Dictionary α) (es : List (String × α)) (key : String) :
    get? (es.foldl (fun d e => d.set e.1 e.2) d) key =
      (es.reverse.lookup key).or (d.get? key) := by
  induction es generalizing d with
  | nil => rfl
  | cons e es ih =>
    have hlast : List.lookup key [e] = if key = e.1 then some e.2 else none := get?_cons key e []
    rw [List.foldl_cons, ih, get?_set, List.reverse_cons, List.lookup_append, Option.or_assoc,
      hlast]
    by_cases h : key = e.1 <;> simp [h]

theorem get?_ofEntries (es : List (String × α)) (key : String) :
    (ofEntries es).get? key = es.reverse.lookup key := by
  rw [ofEntries, get?_foldl_set, get?_empty, Option.or_none]

/-! ## Entries -/

/-- Under distinct keys, looking up finds exactly the entries. -/
theorem mem_iff_of_nodup {d : Dictionary α} (h : (d.map Prod.fst).Nodup) {key : String} {a : α} :
    (key, a) ∈ d ↔ d.get? key = some a := by
  induction d with
  | nil => simp
  | cons e d ih =>
    obtain ⟨name, b⟩ := e
    obtain ⟨hname, hd⟩ := List.nodup_cons.1 h
    rw [get?_cons, List.mem_cons, ih hd]
    by_cases hkey : key = name
    · subst hkey
      have hnone : ¬ get? d key = some a := by
        rw [← ih hd]
        intro hmem
        have hkeys : key ∈ d.map Prod.fst := List.mem_map_of_mem hmem
        exact hname hkeys
      simp [hnone, eq_comm]
    · simp [hkey]

/-- Under distinct keys it does not matter in which order the entries are looked through. -/
theorem lookup_eq_of_perm {es fs : List (String × α)} (hes : (es.map Prod.fst).Nodup)
    (h : es.Perm fs) (key : String) : es.lookup key = fs.lookup key := by
  have hfs : (fs.map Prod.fst).Nodup := (h.map Prod.fst).nodup_iff.1 hes
  refine Option.ext fun a => ?_
  have hleft : (key, a) ∈ es ↔ es.lookup key = some a := mem_iff_of_nodup hes
  have hright : (key, a) ∈ fs ↔ fs.lookup key = some a := mem_iff_of_nodup hfs
  rw [← hleft, ← hright, h.mem_iff]

theorem Ordered.nodup_keys {d : Dictionary α} (h : d.Ordered) : (d.map Prod.fst).Nodup := by
  rw [List.Nodup, List.pairwise_map]
  refine List.Pairwise.imp ?_ h
  intro x y hxy heq
  have hself : Text.Utf8.order x.1 x.1 = .eq := Std.ReflCmp.compare_self
  rw [entryOrder, ← heq, hself] at hxy
  cases hxy

/-- An ordered dictionary has exactly the entries that looking up finds. -/
theorem mem_iff_get? {d : Dictionary α} (h : d.Ordered) {key : String} {a : α} :
    (key, a) ∈ d ↔ d.get? key = some a := mem_iff_of_nodup h.nodup_keys

theorem Ordered.ext {d e : Dictionary α} (hd : d.Ordered) (he : e.Ordered)
    (h : ∀ key, d.get? key = e.get? key) : d = e := by
  refine Sorted.Increasing.eq_of_mem_iff hd he ?_
  rintro ⟨key, a⟩
  rw [mem_iff_get? hd, mem_iff_get? he, h]

/-- The entries of an ordered dictionary once one has been put into it. -/
theorem mem_set_iff {d : Dictionary α} (h : d.Ordered) {key name : String} {a b : α} :
    (name, b) ∈ d.set key a ↔ if name = key then b = a else (name, b) ∈ d := by
  rw [mem_iff_get? (ordered_set h key a), get?_set, mem_iff_get? h]
  split_ifs
  · rw [Option.some.injEq, eq_comm]
  · rfl

theorem mem_keys_set {d : Dictionary α} (h : d.Ordered) {key name : String} {a : α} :
    name ∈ (d.set key a).map Prod.fst ↔ name = key ∨ name ∈ d.map Prod.fst := by
  simp only [List.mem_map, Prod.exists, exists_and_right, exists_eq_right, mem_set_iff h]
  by_cases hname : name = key <;> simp [hname]

/-- **Entries under distinct keys make the same dictionary in any order.** -/
theorem ofEntries_eq_of_perm {es : List (String × α)} {d : Dictionary α} (hd : d.Ordered)
    (h : es.Perm d) : ofEntries es = d := by
  have hkeys : (es.reverse.map Prod.fst).Nodup :=
    (((List.reverse_perm es).trans h).map Prod.fst).nodup_iff.2 hd.nodup_keys
  refine (ordered_ofEntries es).ext hd fun key => ?_
  rw [get?_ofEntries]
  exact lookup_eq_of_perm hkeys ((List.reverse_perm es).trans h) key

/-- Entries under distinct keys can be looked up as they come. -/
theorem get?_ofEntries_of_nodup {es : List (String × α)} (hkeys : (es.map Prod.fst).Nodup)
    (key : String) : (ofEntries es).get? key = es.lookup key := by
  rw [get?_ofEntries, ← lookup_eq_of_perm hkeys (List.reverse_perm es).symm]

theorem nodup_of_keys {es : List (String × α)} (hkeys : (es.map Prod.fst).Nodup) : es.Nodup :=
  List.Pairwise.of_map Prod.fst (fun _ _ hne heq => hne (congrArg Prod.fst heq)) hkeys

/-- **Entries under distinct keys are all kept.** -/
theorem ofEntries_perm {es : List (String × α)} (hkeys : (es.map Prod.fst).Nodup) :
    (ofEntries es).Perm es := by
  refine (List.perm_ext_iff_of_nodup (ordered_ofEntries es).nodup (nodup_of_keys hkeys)).2 ?_
  rintro ⟨key, a⟩
  rw [mem_iff_get? (ordered_ofEntries es), get?_ofEntries_of_nodup hkeys]
  exact (mem_iff_of_nodup hkeys).symm

/-- An entry under a key that is not there is one entry more. -/
theorem set_perm {d : Dictionary α} (h : d.Ordered) {key : String} (hkey : d.get? key = none)
    (a : α) : (d.set key a).Perm ((key, a) :: d) := by
  have hnot : key ∉ d.map Prod.fst := by
    intro hmem
    obtain ⟨⟨name, b⟩, hb, rfl⟩ := List.mem_map.1 hmem
    cases ((mem_iff_get? h).1 hb).symm.trans hkey
  have hkeys : (((key, a) :: d).map Prod.fst).Nodup := List.nodup_cons.2 ⟨hnot, h.nodup_keys⟩
  refine (List.perm_ext_iff_of_nodup (ordered_set h key a).nodup (nodup_of_keys hkeys)).2 ?_
  rintro ⟨name, b⟩
  rw [mem_iff_get? (ordered_set h key a), get?_set, mem_iff_of_nodup hkeys, get?_cons]

end TopicListeners.Dictionary
