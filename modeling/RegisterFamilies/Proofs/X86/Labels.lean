import RegisterFamilies.Enumeration.Json
import RegisterFamilies.Proofs.X86.Spelling
import RegisterFamilies.X86.Walk

namespace RegisterFamilies

namespace Enumeration

variable {α : Type} [Enumeration α] {a : α} {s : String} {v : Json} {x : Except Json.Mismatch α}

/-- What a JSON value is read as. The key of an object is looked at if it is the only one, and what
stands at the key if that is a label. -/
inductive Reads : Json → Except Json.Mismatch α → Prop where
  | string (a : α) : Reads (.string (label a)) (.ok a)
  | entry (a : α) : Reads (.object [(label a, .null)]) (.ok a)
  | unknownString {s : String} (hs : ∀ a : α, label a ≠ s) :
      Reads (.string s) (.error (.label s ((all : List α).map label)))
  | unknownKey {key : String} (hk : ∀ a : α, label a ≠ key) (payload : Json) :
      Reads (.object [(key, payload)]) (.error (.label key ((all : List α).map label)))
  | payload (a : α) {payload : Json} (hp : payload ≠ .null) :
      Reads (.object [(label a, payload)]) (.error (.kind payload "unit"))
  | entryCount {entries : List (String × Json)} (hl : entries.length ≠ 1) :
      Reads (.object entries) (.error .entryCount)
  | otherKind {v : Json} (hs : ∀ s, v ≠ .string s) (ho : ∀ entries, v ≠ .object entries) :
      Reads v (.error (.kind v "string or map"))

theorem ofLabel_label (a : α) : ofLabel (label a) = .ok a := by
  rw [ofLabel, ofLabel?_eq_some_iff.2 rfl]

theorem ofLabel_of_unknown (hs : ∀ a : α, label a ≠ s) :
    (ofLabel s : Except Json.Mismatch α) = .error (.label s ((all : List α).map label)) := by
  have hnone : (ofLabel? s : Option α) = none := by
    apply Option.eq_none_iff_forall_ne_some.2
    intro a ha
    exact hs a (ofLabel?_eq_some_iff.1 ha).symm
  rw [ofLabel, hnone]

theorem exists_label_or_unknown (α : Type) [Enumeration α] (s : String) :
    (∃ a : α, label a = s) ∨ ∀ a : α, label a ≠ s := by
  by_cases h : ∃ a : α, label a = s
  · exact .inl h
  · exact .inr fun a ha => h ⟨a, ha⟩

theorem Reads.ofJson_eq (h : Reads v x) : ofJson v = x := by
  cases h with
  | string a => exact ofLabel_label a
  | entry a => simp only [ofJson, ofLabel_label]
  | unknownString hs => exact ofLabel_of_unknown hs
  | unknownKey hk payload => simp only [ofJson, ofLabel_of_unknown hk]
  | payload a hp =>
    simp only [ofJson, ofLabel_label]
  | @entryCount entries hl =>
    match entries, hl with
    | [], _ => rfl
    | [_], hl => exact (hl rfl).elim
    | _ :: _ :: _, _ => rfl
  | otherKind hs ho =>
    cases v with
    | string s => exact (hs s rfl).elim
    | object entries => exact (ho entries rfl).elim
    | null | bool | int | float | array => rfl

theorem exists_reads (α : Type) [Enumeration α] (v : Json) :
    ∃ x : Except Json.Mismatch α, Reads v x := by
  cases v with
  | string s =>
    rcases exists_label_or_unknown α s with ⟨a, rfl⟩ | hs
    · exact ⟨_, .string a⟩
    · exact ⟨_, .unknownString hs⟩
  | object entries =>
    by_cases hl : entries.length = 1
    · obtain ⟨⟨key, payload⟩, rfl⟩ := List.length_eq_one_iff.1 hl
      rcases exists_label_or_unknown α key with ⟨a, rfl⟩ | hk
      · by_cases hp : payload = .null
        · subst payload
          exact ⟨_, .entry a⟩
        · exact ⟨_, .payload a hp⟩
      · exact ⟨_, .unknownKey hk payload⟩
    · exact ⟨_, .entryCount hl⟩
  | null | bool | int | float | array => exact ⟨_, .otherKind nofun nofun⟩

theorem ofJson_eq_iff : ofJson v = x ↔ Reads v x := by
  refine ⟨fun h => ?_, Reads.ofJson_eq⟩
  obtain ⟨y, hy⟩ := exists_reads α v
  rw [← h, hy.ofJson_eq]
  exact hy

theorem ofJson_eq_ok_iff :
    ofJson v = .ok a ↔ v = toJson a ∨ v = .object [(label a, .null)] := by
  rw [ofJson_eq_iff]
  constructor
  · intro h
    cases h with
    | string => exact .inl rfl
    | entry => exact .inr rfl
  · rintro (rfl | rfl)
    · exact .string a
    · exact .entry a

theorem ofJson_toJson (a : α) : ofJson (toJson a) = .ok a := ofJson_eq_ok_iff.2 (.inl rfl)

theorem reread (α : Type) [Enumeration α] (v : Json) :
    (ofJson v >>= fun a : α => ofJson (toJson a)) = (ofJson v : Except Json.Mismatch α) := by
  cases (ofJson v : Except Json.Mismatch α) with
  | ok a => exact ofJson_toJson a
  | error e => rfl

/-- The labels of the type are what it has in JSON: alone or as the only key of an object, they
stand for its values, and nothing else does. -/
structure JsonForm (α : Type) [Enumeration α] : Prop where
  reads (v : Json) (x : Except Json.Mismatch α) : ofJson v = x ↔ Reads v x
  accepts (v : Json) (a : α) : ofJson v = .ok a ↔ v = toJson a ∨ v = .object [(label a, .null)]
  roundtrip (a : α) : ofJson (toJson a) = .ok a
  reread (v : Json) :
    (ofJson v >>= fun a : α => ofJson (toJson a)) = (ofJson v : Except Json.Mismatch α)

theorem jsonForm (α : Type) [Enumeration α] : JsonForm α where
  reads _ _ := ofJson_eq_iff
  accepts _ _ := ofJson_eq_ok_iff
  roundtrip := ofJson_toJson
  reread := reread α

end Enumeration

namespace X86

open Enumeration

theorem Register.toJson_eq_text (r : Register) : toJson r = .string (.ofList (r.text {})) := by
  rw [toJson, label_eq_name, text, Text.Layout.text_default, String.ofList_toList]

theorem Family.toJson_eq_text (f : Family) : toJson f = .string (.ofList (f.text {})) := by
  rw [toJson, label_eq_name, text, Text.Layout.text_default, String.ofList_toList]

namespace Register

theorem parse_name (r : Register) : parse r.name = pure r := by
  have h := parse_sigil_name (.inl rfl) r
  rw [List.nil_append, String.ofList_toList] at h
  exact h

theorem ofJson_string_eq_ok_iff {s : String} {r : Register} :
    ofJson (.string s) = .ok r ↔ parse s = pure r ∧ s = r.name := by
  rw [ofJson_eq_ok_iff, toJson, Json.string.injEq, label_eq_name]
  constructor
  · rintro (rfl | h)
    · exact ⟨parse_name r, rfl⟩
    · cases h
  · rintro ⟨_, h⟩
    exact .inl h

/-- Widths, registers, families and generations are read from their labels in JSON, which for
registers and families are their names as texts show them. No other spelling of a register is. -/
theorem jsonForm_and_ofJson_string :
    (JsonForm Width ∧ JsonForm Register ∧ JsonForm Family ∧ JsonForm Generation) ∧
    (∀ r : Register, toJson r = .string (.ofList (r.text {}))) ∧
    (∀ f : Family, toJson f = .string (.ofList (f.text {}))) ∧
    ∀ (s : String) (r : Register), ofJson (.string s) = .ok r ↔ parse s = pure r ∧ s = r.name :=
  ⟨⟨jsonForm Width, jsonForm Register, jsonForm Family, jsonForm Generation⟩, toJson_eq_text,
    Family.toJson_eq_text, fun _ _ => ofJson_string_eq_ok_iff⟩

end Register

example : Generation.all.map label = ["x86_16", "x86_32", "x86_64"] := by decide

end X86

end RegisterFamilies
