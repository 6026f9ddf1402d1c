import TopicListeners.Proofs.Sorted
import TopicListeners.Topic.Record

/-!
# Sets of topic partitions

Partitions are kept as a set in two ways: in the order of their topics and numbers, and without any
order, to be counted. Both views have the same partitions, each once, and neither depends on the
order in which partitions come or on how often they come.

* `order_eq_lt_iff`: which of two partitions comes first.
* `sorted_perm`: the views have the same partitions.
* `sorted_canonical`: **the sorted view of any partitions**, and when records share a partition.
-/

namespace TopicListeners

namespace Text.Utf8

theorem compare_eq_lt_iff {as bs : List UInt8} : compare as bs = .lt ↔ as < bs := by
  rw [List.compare_eq_compareLex]
  induction as generalizing bs with
  | nil => cases bs <;> simp [List.compareLex]
  | cons a as ih =>
    cases bs with
    | nil => simp [List.compareLex]
    | cons b bs =>
      rw [List.compareLex_cons_cons, Ordering.then_eq_lt, Std.compare_eq_lt,
        Std.compare_eq_iff_eq, List.cons_lt_cons_iff, ih]

end Text.Utf8

namespace TopicPartition

open Text

/-- **One partition comes before another**: by the bytes of the topics, and within a topic by the
numbers, negative ones first. -/
def Precedes (p q : TopicPartition) : Prop :=
  Utf8.encode p.topic.toList < Utf8.encode q.topic.toList ∨
    (p.topic = q.topic ∧ p.partition.toInt < q.partition.toInt)

instance : Std.TransCmp order :=
  inferInstanceAs (Std.TransCmp (compareLex
    (compareOn fun p : TopicPartition => Utf8.encode p.topic.toList) (compareOn partition)))

theorem order_eq_eq_iff {p q : TopicPartition} : order p q = .eq ↔ p = q := by
  obtain ⟨s, m⟩ := p
  obtain ⟨t, n⟩ := q
  rw [order, compareLex_eq_eq, TopicPartition.mk.injEq]
  exact and_congr Std.LawfulEqCmp.compare_eq_iff_eq Std.compare_eq_iff_eq

instance : Std.LawfulEqCmp order where
  compare_self := order_eq_eq_iff.2 rfl
  eq_of_compare := order_eq_eq_iff.1

theorem order_eq_lt_iff {p q : TopicPartition} : order p q = .lt ↔ p.Precedes q := by
  have htopics : Utf8.order p.topic q.topic = .lt ↔
      Utf8.encode p.topic.toList < Utf8.encode q.topic.toList := Utf8.compare_eq_lt_iff
  have hnumbers : compareOn partition p q = .lt ↔ p.partition.toInt < q.partition.toInt := by
    rw [← Int32.lt_iff_toInt_lt]
    exact Std.compare_eq_lt
  rw [order, compareLex, Ordering.then_eq_lt, htopics, hnumbers,
    Std.LawfulEqCmp.compare_eq_iff_eq, Precedes]

/-! ## The two views -/

variable (ps : List TopicPartition)

theorem increasing_sorted : Sorted.Increasing order (sorted ps) := Sorted.increasing_ofList ps

theorem nodup_sorted : (sorted ps).Nodup := (increasing_sorted ps).nodup

theorem mem_sorted_iff {p : TopicPartition} : p ∈ sorted ps ↔ p ∈ ps := Sorted.mem_ofList_iff

theorem nodup_eraseDups : (ps : List TopicPartition) → ps.eraseDups.Nodup
  | [] => List.nodup_nil
  | p :: ps => by
    rw [List.eraseDups_cons, List.nodup_cons, List.mem_eraseDups]
    exact ⟨by simp, nodup_eraseDups (ps.filter fun q => !q == p)⟩
termination_by ps => ps.length
decreasing_by exact Nat.lt_succ_of_le (List.length_filter_le _ _)

/-- **The views have the same partitions.** -/
theorem sorted_perm : (sorted ps).Perm ps.eraseDups := by
  refine (List.perm_ext_iff_of_nodup (nodup_sorted ps) (nodup_eraseDups ps)).2 ?_
  intro p
  rw [mem_sorted_iff, List.mem_eraseDups]

/-- The sorted view depends on nothing but which partitions there are. -/
theorem sorted_eq_sorted_iff {ps qs : List TopicPartition} :
    sorted ps = sorted qs ↔ ∀ p, p ∈ ps ↔ p ∈ qs := by
  constructor
  · intro h p
    rw [← mem_sorted_iff ps, h, mem_sorted_iff]
  · intro h
    refine (increasing_sorted ps).eq_of_mem_iff (increasing_sorted qs) ?_
    intro p
    exact (mem_sorted_iff ps).trans ((h p).trans (mem_sorted_iff qs).symm)

/-- **The sorted view of any partitions.** It has each of them once and no others, in strict order,
and as many as there are different ones. Two lists with the same members, in whatever order and
however often repeated, have the same sorted view. Records share a partition iff they share the topic
and the number. -/
theorem sorted_canonical :
    (sorted ps).Pairwise Precedes ∧
    (∀ p, (sorted ps).count p = if p ∈ ps then 1 else 0) ∧
    ((sorted ps).Perm ps.eraseDups ∧ (sorted ps).length = count ps) ∧
    (∀ qs, sorted qs = sorted ps ↔ ∀ p, p ∈ qs ↔ p ∈ ps) ∧
    ∀ r s : Record, r.topicPartition = s.topicPartition ↔
      r.topic = s.topic ∧ r.partition = s.partition := by
  refine ⟨?_, ?_, ⟨sorted_perm ps, (sorted_perm ps).length_eq⟩, fun qs => sorted_eq_sorted_iff,
    Record.topicPartition_eq_iff⟩
  · exact (increasing_sorted ps).imp order_eq_lt_iff.1
  · intro p
    rw [(nodup_sorted ps).count]
    simp only [mem_sorted_iff]

/-- Repeated partitions, a negative number and a topic that begins like another one. -/
example : sorted [⟨"b", 0⟩, ⟨"ab", 0⟩, ⟨"a", 1⟩, ⟨"b", 0⟩, ⟨"a", -1⟩] =
    [⟨"a", -1⟩, ⟨"a", 1⟩, ⟨"ab", 0⟩, ⟨"b", 0⟩] := by
  decide +kernel

end TopicPartition

end TopicListeners
