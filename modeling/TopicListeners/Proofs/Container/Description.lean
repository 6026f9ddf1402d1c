import TopicListeners.Proofs.Container.Building
import TopicListeners.Proofs.Numeral.Text
import TopicListeners.Proofs.Text.Delimited

/-!
# Containers told from the log

What is logged of a container whose settings say so can be read in one way only. Topics and client
ids may have any characters in them, but they are quoted; the texts of all other values have no comma
in them, so each ends where the next field begins. The threshold is the one value that its text does
not tell, as all that is no number is written alike; and the labels at the end are not quoted.

* `told_ackMode` … `told_optionalWord`: the values of each kind can be told from their texts.
* `agreesWith_of_describe`: settings that are described alike agree.
* `announcement_unambiguous`: **no container is logged as another one.**
-/

namespace TopicListeners

open Text Numeral

variable {σ τ : Type}

/-! ## Values of each kind -/

theorem told_ackMode : Told AckMode.describe := by
  refine .of_comma_not_mem (fun m => ?_) (fun m n h => ?_)
  · cases m <;> decide
  · revert h
    cases m <;> cases n <;> decide

theorem told_flag : Told (toString : Bool → String) := by
  refine .of_comma_not_mem (fun b => ?_) (fun b b' h => ?_)
  · cases b <;> decide
  · revert h
    cases b <;> cases b' <;> decide

theorem comma_not_mem_toString (n : Nat) : ',' ∉ (toString n).toList := by
  intro h
  exact absurd ((isDecimal_toString n).digits _ h) (by decide)

theorem toString_inj {m n : Nat} (h : toString m = toString n) : m = n := by
  rw [← (isDecimal_toString m).value, h, (isDecimal_toString n).value]

theorem told_word32 : Told fun n : UInt32 => toString n.toNat :=
  .of_comma_not_mem (fun n => comma_not_mem_toString n.toNat)
    fun _ _ h => UInt32.toNat_inj.1 (toString_inj h)

theorem told_word64 : Told fun n : UInt64 => toString n.toNat :=
  .of_comma_not_mem (fun n => comma_not_mem_toString n.toNat)
    fun _ _ h => UInt64.toNat_inj.1 (toString_inj h)

theorem told_whole : Told fun n : Int32 => toString n.toInt := by
  refine .of_comma_not_mem (fun n h => ?_) (fun m n h => ?_)
  · rcases Single.isDigit_of_mem_toString h with h | h
    · exact absurd h (by decide)
    · cases h
  · have hread := Single.readWhole?_toString m.toInt
    rw [h, Single.readWhole?_toString] at hread
    exact Int32.toInt_inj.1 (Option.some.inj hread).symm

theorem told_optionalWord :
    Told fun o : Option UInt64 => describeOption (o.map fun n => toString n.toNat) := by
  refine .of_comma_not_mem (fun o => ?_) (fun o o' h => ?_)
  · refine comma_not_mem_describeOption fun s hs => ?_
    obtain ⟨n, -, rfl⟩ := Option.map_eq_some_iff.1 hs
    exact comma_not_mem_toString n.toNat
  · exact Option.map_injective (fun _ _ h => told_word64.inj h) (describeOption_inj h)

/-! ## Settings -/

namespace ContainerSettings

/-- Settings that agree in all that can be told from their descriptions. -/
structure AgreesWith (s : ContainerSettings σ) (s' : ContainerSettings τ) : Prop where
  ackMode : s.ackMode = s'.ackMode
  asyncAcks : s.asyncAcks = s'.asyncAcks
  clientId : s.clientId = s'.clientId
  ackCount : s.ackCount = s'.ackCount
  ackTime : s.ackTime = s'.ackTime
  pollTimeout : s.pollTimeout = s'.pollTimeout
  idleBetweenPolls : s.idleBetweenPolls = s'.idleBetweenPolls
  idleEventInterval : s.idleEventInterval = s'.idleEventInterval
  idlePartitionEventInterval : s.idlePartitionEventInterval = s'.idlePartitionEventInterval
  monitorInterval : s.monitorInterval = s'.monitorInterval
  logContainerConfig : s.logContainerConfig = s'.logContainerConfig
  missingTopicsFatal : s.missingTopicsFatal = s'.missingTopicsFatal
  stopImmediate : s.stopImmediate = s'.stopImmediate

/-- The fields before the labels are apart from those of any other settings. -/
theorem fieldsApart (s : ContainerSettings σ) (s' : ContainerSettings τ) :
    List.Forall₂ FieldsApart (s.fields.take 14) (s'.fields.take 14) := by
  have hthreshold : Apart s.noPollThreshold.write s'.noPollThreshold.write :=
    apart_of_comma_not_mem (Single.comma_not_mem_write _) (Single.comma_not_mem_write _)
  exact .cons ⟨rfl, told_ackMode.apart _ _⟩ <| .cons ⟨rfl, told_flag.apart _ _⟩ <|
    .cons ⟨rfl, told_quoted.apart _ _⟩ <| .cons ⟨rfl, told_word32.apart _ _⟩ <|
    .cons ⟨rfl, told_word64.apart _ _⟩ <| .cons ⟨rfl, told_word64.apart _ _⟩ <|
    .cons ⟨rfl, hthreshold⟩ <| .cons ⟨rfl, told_word64.apart _ _⟩ <|
    .cons ⟨rfl, told_optionalWord.apart _ _⟩ <| .cons ⟨rfl, told_optionalWord.apart _ _⟩ <|
    .cons ⟨rfl, told_whole.apart _ _⟩ <| .cons ⟨rfl, told_flag.apart _ _⟩ <|
    .cons ⟨rfl, told_flag.apart _ _⟩ <| .cons ⟨rfl, told_flag.apart _ _⟩ .nil

/-- **Settings that are described alike agree.** -/
theorem agreesWith_of_describe {s : ContainerSettings σ} {s' : ContainerSettings τ}
    (h : s.describe = s'.describe) : s.AgreesWith s' := by
  -- the labels come last, so each of the other fields has one behind it
  have hlabels {ρ : Type} (t : ContainerSettings ρ) : t.fields.drop 14 ≠ [] := List.cons_ne_nil _ _
  have hdescribe {ρ : Type} (t : ContainerSettings ρ) : t.describe =
      describeStructure "ContainerProperties" (t.fields.take 14 ++ t.fields.drop 14) := by
    rw [List.take_append_drop, describe]
  rw [hdescribe, hdescribe] at h
  have hfields := describeStructure_inj (fieldsApart s s') (hlabels s) (hlabels s') h
  simp only [fields, List.take_succ_cons, List.take_zero, List.cons.injEq, Prod.mk.injEq, true_and,
    and_true] at hfields
  obtain ⟨hackMode, hasyncAcks, hclientId, hackCount, hackTime, hpollTimeout, -, hidleBetweenPolls,
    hidle, hidlePartition, hmonitor, hlog, hfatal, hstop⟩ := hfields
  exact {
    ackMode := told_ackMode.inj hackMode
    asyncAcks := told_flag.inj hasyncAcks
    clientId := told_quoted.inj hclientId
    ackCount := told_word32.inj hackCount
    ackTime := told_word64.inj hackTime
    pollTimeout := told_word64.inj hpollTimeout
    idleBetweenPolls := told_word64.inj hidleBetweenPolls
    idleEventInterval := told_optionalWord.inj hidle
    idlePartitionEventInterval := told_optionalWord.inj hidlePartition
    monitorInterval := told_whole.inj hmonitor
    logContainerConfig := told_flag.inj hlog
    missingTopicsFatal := told_flag.inj hfatal
    stopImmediate := told_flag.inj hstop }

end ContainerSettings

/-! ## Containers -/

/-- **No container is logged as another one.** Of any two containers that log their settings, each is
shown by one event. If these show the same text for the topics, the topics are the same, and if they
show the same text for the settings, the settings agree, whatever characters there are in topics and
client ids. -/
theorem Container.announcement_unambiguous {b : Blueprint σ} {b' : Blueprint τ}
    {topics topics' : List String} {c : Container σ} {c' : Container τ}
    (h : (b.build topics).1 = .ok c) (h' : (b'.build topics').1 = .ok c')
    (hlog : c.settings.logContainerConfig = true) (hlog' : c'.settings.logContainerConfig = true) :
    ∃ shown properties shown' properties',
      Shows (b.build topics).2 shown properties ∧
      Shows (b'.build topics').2 shown' properties' ∧
      (shown = shown' → c.topics = c'.topics) ∧
      (properties = properties' → c.settings.AgreesWith c'.settings) := by
  refine ⟨_, _, _, _, shows_of_build h hlog, shows_of_build h' hlog', ?_, ?_⟩
  · exact fun hsame => describeList_inj hsame
  · exact fun hsame => ContainerSettings.agreesWith_of_describe hsame

/-- What a container with a client id is built from. -/
def Blueprint.ofClientId (id : String) : Blueprint Ledger :=
  empty.run
    [.provider (.recording "cluster" [] 0 none), .container (.clientId id),
      .container (.logContainerConfig true)]

/-- Neither can a topic pass for two topics, nor a client id for the fields that follow it. -/
theorem Container.announcement_unambiguous_forged :
    let b := Blueprint.ofClientId "app"
    let b' := Blueprint.ofClientId "app\", ack_count: 1, x: \""
    ∃ c c' shown properties shown' properties',
      (b.build ["a", "b"]).1 = .ok c ∧ c.settings.logContainerConfig = true ∧
      (b'.build ["a\", \"b"]).1 = .ok c' ∧ c'.settings.logContainerConfig = true ∧
      Shows (b.build ["a", "b"]).2 shown properties ∧
      Shows (b'.build ["a\", \"b"]).2 shown' properties' ∧
      shown ≠ shown' ∧ properties ≠ properties' := by
  intro b b'
  have hbuild : (b.build ["a", "b"]).1 =
    .ok (b.snapshot (.recording "cluster" [] 0 none) 1 ["a", "b"]) := rfl
  have hbuild' : (b'.build ["a\", \"b"]).1 =
    .ok (b'.snapshot (.recording "cluster" [] 0 none) 1 ["a\", \"b"]) := rfl
  obtain ⟨shown, properties, shown', properties', hshows, hshows', htopics, hsettings⟩ :=
    announcement_unambiguous hbuild hbuild' rfl rfl
  refine ⟨_, _, shown, properties, shown', properties', hbuild, rfl, hbuild', rfl, hshows, hshows',
    ?_, ?_⟩
  · intro hsame
    exact absurd (htopics hsame) (by decide)
  · intro hsame
    exact absurd (hsettings hsame).clientId (by decide)

end TopicListeners
