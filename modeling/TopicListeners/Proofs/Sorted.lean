import TopicListeners.Dictionary
import TopicListeners.Proofs.Text.Utf8

/-!
# Increasing lists

A list that insertions have built is strictly increasing, for any comparison that is transitive, and
a strictly increasing list is known by its members. Texts are linearly ordered by their bytes.

* `increasing_insert`, `increasing_ofList`: insertions keep lists increasing.
* `Increasing.eq_of_mem_iff`: **an increasing list is known by its members.**
* `mem_ofList_iff`: a list and the sorted list of its members have the same members.
-/

namespace TopicListeners

namespace Text.Utf8

/-- A text is known by its bytes. -/
theorem encode_toList_inj {s t : String} (h : encode s.toList = encode t.toList) : s = t := by
  have hs : decode (encode s.toList) = .ok s.toList := decode_eq_ok_iff.2 rfl
  have ht : decode (encode s.toList) = .ok t.toList := decode_eq_ok_iff.2 h
  have hlist : s.toList = t.toList := by simpa using hs.symm.trans ht
  exact String.toList_injective hlist

instance : Std.TransCmp order where
  eq_swap := Std.OrientedOrd.eq_swap
  isLE_trans := Std.TransOrd.isLE_trans

instance : Std.LawfulEqCmp order where
  compare_self := Std.ReflOrd.compare_self
  eq_of_compare h := encode_toList_inj (Std.LawfulEqOrd.eq_of_compare h)

end Text.Utf8

namespace Sorted

variable {α : Type} {cmp : α → α → Ordering}

/-- Each member comes before all that follow it. -/
def Increasing (cmp : α → α → Ordering) (as : List α) : Prop :=
  as.Pairwise fun a b => cmp a b = .lt

theorem increasing_insert [Std.TransCmp cmp] (a : α) {bs : List α} (h : Increasing cmp bs) :
    Increasing cmp (insert cmp a bs) := by
  induction bs with
  | nil => exact List.pairwise_singleton _ _
  | cons b bs ih =>
    obtain ⟨hb, hbs⟩ := List.pairwise_cons.1 h
    unfold insert
    -- the new member comes before `b`, in its place, or after it
    cases hab : cmp a b with
    | lt =>
      refine List.pairwise_cons.2 ⟨?_, h⟩
      intro c hc
      rcases List.mem_cons.1 hc with rfl | hc
      · exact hab
      · exact Std.TransCmp.lt_trans hab (hb c hc)
    | eq =>
      refine List.pairwise_cons.2 ⟨?_, hbs⟩
      intro c hc
      exact Std.TransCmp.lt_of_eq_of_lt hab (hb c hc)
    | gt =>
      refine List.pairwise_cons.2 ⟨?_, ih hbs⟩
      intro c hc
      rcases mem_of_mem_insert hc with rfl | hc
      · exact Std.OrientedCmp.gt_iff_lt.1 hab
      · exact hb c hc

theorem increasing_foldl_insert [Std.TransCmp cmp] (as : List α) {bs : List α}
    (h : Increasing cmp bs) : Increasing cmp (as.foldl (fun bs a => insert cmp a bs) bs) := by
  induction as generalizing bs with
  | nil => exact h
  | cons a as ih => exact ih (increasing_insert a h)

theorem increasing_ofList [Std.TransCmp cmp] (as : List α) : Increasing cmp (ofList cmp as) :=
  increasing_foldl_insert as List.Pairwise.nil

theorem Increasing.nodup [Std.ReflCmp cmp] {as : List α} (h : Increasing cmp as) : as.Nodup := by
  refine List.Pairwise.imp ?_ h
  rintro a b hab rfl
  have haa : cmp a a = .eq := Std.ReflCmp.compare_self
  cases haa.symm.trans hab

/-- **An increasing list is known by its members.** -/
theorem Increasing.eq_of_mem_iff [Std.OrientedCmp cmp] {as bs : List α} (ha : Increasing cmp as)
    (hb : Increasing cmp bs) (h : ∀ c, c ∈ as ↔ c ∈ bs) : as = bs := by
  have hperm : as.Perm bs := (List.perm_ext_iff_of_nodup ha.nodup hb.nodup).2 h
  refine hperm.eq_of_pairwise ?_ ha hb
  intro a b _ _ hab hba
  exact absurd hba (Std.OrientedCmp.not_lt_of_lt hab)

/-! ## Members -/

theorem mem_insert_iff [Std.LawfulEqCmp cmp] {a c : α} {bs : List α} :
    c ∈ insert cmp a bs ↔ c = a ∨ c ∈ bs := by
  refine ⟨mem_of_mem_insert, ?_⟩
  rintro (rfl | hc)
  · exact mem_insert_self cmp c bs
  · induction bs with
    | nil => cases hc
    | cons b bs ih =>
      unfold insert
      cases hab : cmp a b with
      | lt => exact List.mem_cons_of_mem a hc
      | eq =>
        -- the member that is replaced is the new one itself
        obtain rfl : a = b := Std.LawfulEqCmp.eq_of_compare hab
        exact hc
      | gt =>
        rcases List.mem_cons.1 hc with rfl | hc
        · exact List.mem_cons_self
        · exact List.mem_cons_of_mem b (ih hc)

theorem mem_foldl_insert_iff [Std.LawfulEqCmp cmp] {c : α} (as bs : List α) :
    c ∈ as.foldl (fun bs a => insert cmp a bs) bs ↔ c ∈ as ∨ c ∈ bs := by
  induction as generalizing bs with
  | nil => simp
  | cons a as ih => rw [List.foldl_cons, ih, mem_insert_iff, List.mem_cons, or_left_comm, or_assoc]

theorem mem_ofList_iff [Std.LawfulEqCmp cmp] {c : α} {as : List α} :
    c ∈ ofList cmp as ↔ c ∈ as := by
  rw [ofList, mem_foldl_insert_iff]
  simp

end Sorted

end TopicListeners
