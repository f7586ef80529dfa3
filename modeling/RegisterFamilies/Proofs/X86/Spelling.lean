import RegisterFamilies.Proofs.Text.Trimming
import RegisterFamilies.X86.Spelling

namespace RegisterFamilies.X86.Register

open Text

variable {s : String} {r : Register} {c : Char} {l : List Char}

theorem isLower_of_mem_name (h : c ∈ r.name.toList) : c.isLower = true := by
  have hall : r.name.toList.all Char.isLower = true := by
    cases r <;> rfl
  exact List.all_eq_true.1 hall c h

theorem isAlpha_of_isLower_toLower (h : c.toLower.isLower = true) : c.isAlpha = true := by
  by_cases hu : c.isUpper = true
  · exact Bool.or_eq_true_iff.2 (.inl hu)
  · -- all but capital letters are left as they are
    have hc : c.toLower = c := dif_neg fun hr => hu (decide_eq_true hr)
    rw [hc] at h
    exact Bool.or_eq_true_iff.2 (.inr h)

theorem isAlpha_of_map_toLower (h : l.map Char.toLower = r.name.toList) :
    ∀ c ∈ l, c.isAlpha = true := by
  intro c hc
  have hmem : c.toLower ∈ r.name.toList := by
    rw [← h]
    exact List.mem_map_of_mem hc
  exact isAlpha_of_isLower_toLower (isLower_of_mem_name hmem)

theorem exists_eq_append_dropSigil (l : List Char) :
    ∃ sigil, (sigil = [] ∨ sigil = ['%']) ∧ l = sigil ++ dropSigil l := by
  rw [dropSigil.eq_def]
  split
  · exact ⟨['%'], .inr rfl, rfl⟩
  · exact ⟨[], .inl rfl, rfl⟩

theorem dropSigil_eq_self (h : ∀ c ∈ l, c.isAlpha = true) : dropSigil l = l := by
  rw [dropSigil.eq_def]
  split
  · cases h '%' List.mem_cons_self
  · rfl

theorem spells_iff :
    Spells s r ↔ (dropSigil (trim s.toList)).map Char.toLower = r.name.toList := by
  refine ⟨?_, fun h => ?_⟩
  · rintro ⟨before, sigil, name, after, hs, hbefore, hafter, hsigil, hname⟩
    have halpha := isAlpha_of_map_toLower hname
    have hblank (c : Char) (hc : c ∈ name) : isBlank c = false :=
      isBlank_eq_false_of_isAlpha (halpha c hc)
    have hword : ∀ c ∈ sigil ++ name, isBlank c = false := by
      rcases hsigil with rfl | rfl
      · exact hblank
      · exact List.forall_mem_cons.2 ⟨by decide, hblank⟩
    have hdrop : dropSigil (sigil ++ name) = name := by
      rcases hsigil with rfl | rfl
      · exact dropSigil_eq_self halpha
      · rfl
    rw [hs, List.append_assoc before, (trims_append hbefore hafter hword).trim_eq, hdrop, hname]
  · obtain ⟨before, after, hbefore, hafter, hs, _⟩ := trims_trim s.toList
    obtain ⟨sigil, hsigil, ht⟩ := exists_eq_append_dropSigil (trim s.toList)
    refine ⟨before, sigil, _, after, ?_, hbefore, hafter, hsigil, h⟩
    rw [List.append_assoc before, ← ht, ← hs]

theorem map_toLower_name (r : Register) : r.name.toList.map Char.toLower = r.name.toList := by
  cases r <;> rfl

/-- Blanks and a percent sign around a name make no difference. -/
theorem spells_ofList {before sigil after : List Char} (hb : Blank before) (ha : Blank after)
    (hs : sigil = [] ∨ sigil = ['%']) (r : Register) :
    Spells (.ofList (before ++ sigil ++ r.name.toList ++ after)) r :=
  ⟨before, sigil, r.name.toList, after, String.toList_ofList, hb, ha, hs, map_toLower_name r⟩

theorem find?_name_eq_some_iff :
    (all.find? fun r => r.name.toList = l) = some r ↔ l = r.name.toList := by
  refine ⟨fun h => ?_, ?_⟩
  · have h := List.find?_some h
    exact (of_decide_eq_true h).symm
  · rintro rfl
    have h := Enumeration.ofLabel?_label r
    simp only [Enumeration.ofLabel?, label_eq_name, ← String.toList_inj] at h
    exact h

theorem ofName?_eq_some_iff : ofName? s = some r ↔ Spells s r := by
  rw [ofName?, find?_name_eq_some_iff, spells_iff]

theorem ofName?_eq_none_iff : ofName? s = none ↔ ∀ r, ¬ Spells s r := by
  simp only [Option.eq_none_iff_forall_ne_some, ne_eq, ofName?_eq_some_iff]

theorem parse_of_ofName?_eq_some (h : ofName? s = some r) : parse s = pure r := by
  rw [parse, h]

theorem Spells.parse_eq (h : Spells s r) : parse s = pure r :=
  parse_of_ofName?_eq_some (ofName?_eq_some_iff.2 h)

theorem parse_sigil_name {sigil : List Char} (hs : sigil = [] ∨ sigil = ['%']) (r : Register) :
    parse (.ofList (sigil ++ r.name.toList)) = pure r := by
  have h := spells_ofList blank_nil blank_nil hs r
  rw [List.nil_append, List.append_nil] at h
  exact h.parse_eq

theorem parse_of_ofName?_eq_none (h : ofName? s = none) :
    parse s = ⟨[.unknownRegister s], .error (.unknownRegister s)⟩ := by
  rw [parse, h]
  rfl

theorem parse_result_eq_ok_iff : (parse s).result = .ok r ↔ ofName? s = some r := by
  cases h : ofName? s with
  | some r' =>
    rw [parse_of_ofName?_eq_some h, Traced.result_pure, Except.ok.injEq, Option.some.injEq]
  | none =>
    rw [parse_of_ofName?_eq_none h]
    simp only [reduceCtorEq]

/-- A text is read as the register that it spells, without a record. One that spells none is refused
as it stands, and recorded so. -/
theorem ofName?_eq_some_iff_spells (s : String) :
    (∀ r, ofName? s = some r ↔ Spells s r) ∧
    (ofName? s = none ↔ ∀ r, ¬ Spells s r) ∧
    (∀ r, (parse s).result = .ok r ↔ ofName? s = some r) ∧
    (∀ r, parse s = pure r ↔ Spells s r) ∧
    (parse s = ⟨[.unknownRegister s], .error (.unknownRegister s)⟩ ↔ ∀ r, ¬ Spells s r) ∧
    (Event.unknownRegister s).level = .trace ∧
    (Event.unknownRegister s).message = "unknown register" ∧
    (Event.unknownRegister s).fields = [("name", .text s)] := by
  refine ⟨fun r => ofName?_eq_some_iff, ofName?_eq_none_iff, fun r => parse_result_eq_ok_iff,
    fun r => ⟨fun h => ?_, fun h => ?_⟩, ⟨fun h => ?_, fun h => ?_⟩, rfl, rfl, rfl⟩
  · apply ofName?_eq_some_iff.1
    apply parse_result_eq_ok_iff.1
    rw [h, Traced.result_pure]
  · exact parse_of_ofName?_eq_some (ofName?_eq_some_iff.2 h)
  · intro r hr
    rw [parse_of_ofName?_eq_some (ofName?_eq_some_iff.2 hr)] at h
    cases congrArg Traced.result h
  · exact parse_of_ofName?_eq_none (ofName?_eq_none_iff.2 h)

/-- Blanks after the percent sign are not dropped. -/
example : ofName? "% eax" = none := by decide

end RegisterFamilies.X86.Register
