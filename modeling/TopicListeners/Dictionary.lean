import TopicListeners.Text.Utf8

/-!
# Sorted lists and dictionaries

Lists kept in the order of a comparison, without two members that compare as equal. A new member
takes the place of the one it is equal to. A dictionary is such a list: values under texts, each
text once, in the order of the texts' bytes.

* `mem_insert_self`: the new member is in the list.
* `mem_of_mem_insert`: the others were there before.
* `get?_empty`: nothing is in the empty dictionary.
-/

namespace TopicListeners.Sorted

variable {α : Type}

/-- A sorted list with one more member. -/
def insert (cmp : α → α → Ordering) (a : α) : List α → List α
  | [] => [a]
  | b :: bs =>
    match cmp a b with
    | .lt => a :: b :: bs
    | .eq => a :: bs
    | .gt => b :: insert cmp a bs

/-- The sorted list of the members of any list, of equal ones the last. -/
def ofList (cmp : α → α → Ordering) (as : List α) : List α :=
  as.foldl (fun bs a => insert cmp a bs) []

/-- The new member is in the list. -/
theorem mem_insert_self (cmp : α → α → Ordering) (a : α) (bs : List α) : a ∈ insert cmp a bs := by
  induction bs with
  | nil => simp [insert]
  | cons b bs ih =>
    simp only [insert]
    split <;> simp [ih]

/-- The other members were there before. -/
theorem mem_of_mem_insert {cmp : α → α → Ordering} {a c : α} {bs : List α}
    (h : c ∈ insert cmp a bs) : c = a ∨ c ∈ bs := by
  induction bs with
  | nil => simpa [insert] using h
  | cons b bs ih =>
    simp only [insert] at h
    split at h
    · simpa using h
    · simp only [List.mem_cons] at h ⊢
      exact h.imp_right .inr
    · simp only [List.mem_cons] at h ⊢
      rcases h with h | h
      · exact .inr (.inl h)
      · exact (ih h).imp_right .inr

end TopicListeners.Sorted

namespace TopicListeners

/-! ## Dictionaries -/

/-- Values under texts. -/
abbrev Dictionary (α : Type) := List (String × α)

namespace Dictionary

variable {α : Type}

/-- A dictionary with a value under a text, instead of the one that was there. -/
def set (d : Dictionary α) (key : String) (a : α) : Dictionary α :=
  Sorted.insert (fun x y => Text.Utf8.order x.1 y.1) (key, a) d

/-- The value under a text. -/
def get? (d : Dictionary α) (key : String) : Option α := List.lookup key d

/-- The dictionary of entries, of two under one text the later one. -/
def ofEntries (entries : List (String × α)) : Dictionary α :=
  entries.foldl (fun d e => d.set e.1 e.2) []

@[simp] theorem get?_empty (key : String) : get? ([] : Dictionary α) key = none := rfl

end Dictionary

end TopicListeners
