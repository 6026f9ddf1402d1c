import TopicListeners.Collaborator
import TopicListeners.Proofs.Payload.Soundness

/-!
# Converting records

A record is converted into a message iff it has a payload that is JSON. Only a record without a
payload is empty: no bytes at all are a payload that is not JSON.

* `isJson_iff`: what is JSON can be read, and only that.
* `json_convert`: **the converter accepts exactly JSON.**
-/

namespace TopicListeners

open Payload Grammar

theorem Payload.isJson_iff {bs : List UInt8} : IsJson bs ↔ ∃ v, read bs = .ok v := by
  simp only [IsJson, read_eq_ok_iff_writes]

/-- Whether a byte string is JSON is found out by reading it. -/
instance (bs : List UInt8) : Decidable (IsJson bs) :=
  decidable_of_iff ((read bs).toOption.isSome = true) <| by
    rw [isJson_iff]
    cases read bs <;> simp [Except.toOption]

/-- At most 127 arrays may be open at once. -/
example : IsJson (List.replicate 127 91 ++ List.replicate 127 93) ∧
    ¬ IsJson (List.replicate 128 91 ++ List.replicate 128 93) := by
  decide +kernel

namespace Message

variable {r : Record} {bs : List UInt8}

theorem ofRecord_of_isJson (h : r.payload = some bs) (hbs : IsJson bs) :
    ∃ m, ofRecord r = .ok m := by
  obtain ⟨v, hv⟩ := isJson_iff.1 hbs
  unfold ofRecord
  simp only [h, hv]
  exact ⟨_, rfl⟩

theorem ofRecord_of_not_isJson (h : r.payload = some bs) (hbs : ¬ IsJson bs) :
    ∃ f, ofRecord r = .error (.payload f) := by
  unfold ofRecord
  cases hread : read bs with
  | ok v => exact absurd (isJson_iff.2 ⟨v, hread⟩) hbs
  | error f =>
    simp only [h, hread]
    exact ⟨f, rfl⟩

end Message

/-- **The converter accepts exactly JSON.** A record without a payload is empty, and a payload that
is not JSON is at fault. -/
theorem Converter.json_convert {σ : Type} (r : Record) (s : σ) :
    (((Converter.json.convert r).run s).value = .error .empty ↔ r.payload = none) ∧
      ((∃ m, ((Converter.json.convert r).run s).value = .ok m) ↔
        ∃ bs, r.payload = some bs ∧ IsJson bs) ∧
      ((∃ f, ((Converter.json.convert r).run s).value = .error (.payload f)) ↔
        ∃ bs, r.payload = some bs ∧ ¬ IsJson bs) ∧
      ¬ IsJson [] := by
  have hvalue : ((Converter.json.convert r).run s).value = Message.ofRecord r := rfl
  rw [hvalue]
  have hnil : ¬ IsJson [] := by
    rw [isJson_iff]
    rintro ⟨v, hv⟩
    cases hv
  cases hpayload : r.payload with
  | none => simp [Message.ofRecord_absent hpayload, hnil]
  | some bs =>
    by_cases hbs : IsJson bs
    · obtain ⟨m, hm⟩ := Message.ofRecord_of_isJson hpayload hbs
      simp [hm, hbs, hnil]
    · obtain ⟨f, hf⟩ := Message.ofRecord_of_not_isJson hpayload hbs
      simp [hf, hbs, hnil]

end TopicListeners
