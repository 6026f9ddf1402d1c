import TopicListeners.Proofs.Client.Layers
import TopicListeners.Proofs.Settings.Loading

/-!
# Commits on the client's own account

Whether consumers commit offsets on their own is an entry of theirs, and it is read twice: by the
client library, which takes several spellings of a flag, and by the provider of the consumers, which
compares the entry with one of them. Neither a group nor a client id goes before this entry, so both
readers see the same text: the one that was added last, or else the one that the settings call for.

* `get?_autoCommit`: the text that both readers see.
* `autoCommits_iff`: **the provider tells the truth** except about a flag that was added in another
  spelling of truth.
* `not_autoCommits`: there it does not.
-/

namespace TopicListeners

/-- A spelling of truth, in either case of its letters. -/
def SaysTrue (s : String) : Prop :=
  s.toList.map Char.toLower ∈ ["true".toList, "t".toList, "1".toList]

/-- A spelling of falsity, in either case of its letters. -/
def SaysFalse (s : String) : Prop :=
  s.toList.map Char.toLower ∈ ["false".toList, "f".toList, "0".toList]

instance (s : String) : Decidable (SaysTrue s) := inferInstanceAs (Decidable (_ ∈ _))

instance (s : String) : Decidable (SaysFalse s) := inferInstanceAs (Decidable (_ ∈ _))

theorem SaysTrue.not_saysFalse {s : String} (h : SaysTrue s) : ¬ SaysFalse s := by
  unfold SaysFalse
  rcases List.mem_cons.1 h with h | h
  · rw [h]
    decide
  · rcases List.mem_pair.1 h with h | h <;> rw [h] <;> decide

/-- **How the client library reads a flag**, as far as it is known. What it makes of texts other
than these is no flag. -/
structure ReadsFlags (read : String → Option Bool) : Prop where
  true_iff : ∀ s, read s = some true ↔ SaysTrue s
  false_iff : ∀ s, read s = some false ↔ SaysFalse s

/-- Whether consumers with these entries commit on their own, as the client library has it: they do
unless told otherwise. Nothing if the entry is no flag to it. -/
def clientCommits? (read : String → Option Bool) (entries : Dictionary String) : Option Bool :=
  match entries.get? "enable.auto.commit" with
  | none => some true
  | some s => read s

namespace ConsumerClient

variable {read : String → Option Bool} (hread : ReadsFlags read) (b : BrokerSettings)
  (c : ConsumerSettings) (added : List (String × String)) (group clientId : Option String)

/-- The text that both readers see. -/
def autoCommitText : String :=
  (added.reverse.lookup "enable.auto.commit").getD (toString c.autoCommit)

theorem layered_autoCommit :
    layered b c added group clientId "enable.auto.commit" = some (autoCommitText c added) := by
  have hbase : (baseEntries b c).lookup "enable.auto.commit" = some (toString c.autoCommit) := rfl
  have htls : List.lookup "enable.auto.commit"
    [("security.protocol", "ssl"), ("enable.ssl.certificate.verification", "false")] = none := rfl
  simp only [layered, layers, findSome?_layers, hbase, htls, autoCommitText]
  cases added.reverse.lookup "enable.auto.commit" <;> simp

/-- **Both readers see the same text**, with whatever group and client id a consumer is made. -/
theorem get?_autoCommit :
    ((customized b c added).entries group clientId).get? "enable.auto.commit" =
      some (autoCommitText c added) := by
  rw [get?_entries, layered_autoCommit]

theorem autoCommits_eq :
    (customized b c added).provider.autoCommits = (autoCommitText c added == "true") := by
  have hproperties := get?_properties b c added "enable.auto.commit"
  rw [layered_autoCommit] at hproperties
  show commitsAutomatically (customized b c added).properties = _
  rw [commitsAutomatically, autoCommitKey, hproperties]

include hread

theorem read_toString (flag : Bool) : read (toString flag) = some flag := by
  cases flag
  · exact (hread.false_iff _).2 (by decide)
  · exact (hread.true_iff _).2 (by decide)

/-- **The provider tells the truth** about the consumers it provides, as far as their flag is one to
the client library, except if the flag was added and says true in another way than `true`. -/
theorem autoCommits_iff {flag : Bool}
    (h : clientCommits? read ((customized b c added).entries group clientId) = some flag) :
    (customized b c added).provider.autoCommits = flag ↔
      ¬ ∃ s, added.reverse.lookup "enable.auto.commit" = some s ∧ s ≠ "true" ∧ SaysTrue s := by
  have hread_text : read (autoCommitText c added) = some flag := by
    rw [clientCommits?, get?_autoCommit] at h
    exact h
  rw [autoCommits_eq]
  unfold autoCommitText at hread_text ⊢
  cases hadded : added.reverse.lookup "enable.auto.commit" with
  | none =>
    -- the settings spell the flag as the provider compares it
    rw [hadded, Option.getD_none, read_toString hread, Option.some.injEq] at hread_text
    subst hread_text
    cases c.autoCommit <;> decide
  | some s =>
    rw [hadded, Option.getD_some] at hread_text
    simp only [Option.getD_some, Option.some.injEq, exists_eq_left', ← hread.true_iff, hread_text]
    cases flag with
    | true => simp
    | false =>
      have hne : s ≠ "true" := by
        rintro rfl
        have htrue : read "true" = some true := (hread.true_iff _).2 (by decide)
        cases htrue.symm.trans hread_text
      simp [hne]

end ConsumerClient

/-- The flag that a text is to the client library. -/
def clientFlag? (s : String) : Option Bool :=
  if SaysTrue s then some true else if SaysFalse s then some false else none

theorem readsFlags_clientFlag : ReadsFlags clientFlag? where
  true_iff s := by
    unfold clientFlag?
    split_ifs with htrue hfalse <;> simp [htrue]
  false_iff s := by
    unfold clientFlag?
    split_ifs with htrue hfalse
    · simp [htrue.not_saysFalse]
    · simp [hfalse]
    · simp [hfalse]

namespace ConsumerClient

/-- A client with the settings of an empty environment, and a flag in capital letters added. -/
def capitalized : ConsumerClient :=
  customized (.denoted fun _ => none) (.denoted fun _ => none) [("enable.auto.commit", "TRUE")]

/-- The consumers of `capitalized` commit on their own, but its provider denies it. -/
theorem not_autoCommits :
    ¬ ∀ (read : String → Option Bool) (_ : ReadsFlags read) (b : BrokerSettings)
      (c : ConsumerSettings) (added : List (String × String)) (group clientId : Option String)
      (flag : Bool), clientCommits? read ((customized b c added).entries group clientId) =
        some flag → (customized b c added).provider.autoCommits = flag := by
  intro h
  have hcommits : clientCommits? clientFlag? (capitalized.entries none none) = some true := by
    decide
  have hauto := h clientFlag? readsFlags_clientFlag _ _ _ none none true hcommits
  cases hauto

/-- With a flag in one capital letter that is added first and a spelled-out one that is added last,
the provider tells the truth. -/
theorem autoCommits_iff_overridden :
    let added := [("enable.auto.commit", "T"), ("enable.auto.commit", "true")]
    let client := customized (.denoted fun _ => none) (.denoted fun _ => none) added
    ReadsFlags clientFlag? ∧ clientCommits? clientFlag? (client.entries (some "g") none) =
      some true ∧ client.provider.autoCommits = true := by
  intro added client
  have hcommits : clientCommits? clientFlag? (client.entries (some "g") none) = some true := by
    decide
  refine ⟨readsFlags_clientFlag, hcommits, ?_⟩
  refine (autoCommits_iff readsFlags_clientFlag _ _ added _ _ hcommits).2 ?_
  rintro ⟨s, hs, hne, -⟩
  cases hs
  exact hne rfl

end ConsumerClient

end TopicListeners
