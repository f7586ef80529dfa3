import Mathlib.Data.List.Basic
import RegisterFamilies.Proofs.X86.Spelling

namespace RegisterFamilies

namespace Text

variable {l : List Char} {n : Nat}

/-- A text in a field has this many characters of it before itself and after itself. An odd one goes
after a text in the centre. -/
def Alignment.Shares (before after : Nat) : Alignment → Prop
  | left => before = 0
  | centre => before = after ∨ before + 1 = after
  | right => after = 0

theorem Alignment.shares_before (a : Alignment) (missing : Nat) :
    a.Shares (a.before missing) (missing - a.before missing) := by
  cases a with
  | left => rfl
  | centre =>
    change missing / 2 = missing - missing / 2 ∨ missing / 2 + 1 = missing - missing / 2
    omega
  | right => exact Nat.sub_self missing

theorem Alignment.before_le (a : Alignment) (missing : Nat) : a.before missing ≤ missing := by
  cases a with
  | left => exact Nat.zero_le missing
  | centre => exact Nat.div_le_self missing 2
  | right => exact Nat.le_refl missing

namespace Layout

variable {layout : Layout} {default : Alignment}

def taken (layout : Layout) (n : Nat) : Nat := layout.precision.elim n (min · n)

theorem taken_le (layout : Layout) (n : Nat) : layout.taken n ≤ n := by
  rw [taken]
  cases layout.precision with
  | none => exact Nat.le_refl n
  | some p => exact Nat.min_le_right p n

theorem taken_eq_self (h : ∀ p, layout.precision = some p → n ≤ p) : layout.taken n = n := by
  rw [taken]
  cases hp : layout.precision with
  | none => rfl
  | some p => exact Nat.min_eq_right (h p hp)

theorem text_eq_pad (layout : Layout) (l : List Char) :
    layout.text l = layout.pad .left (l.take (layout.taken l.length)) := by
  rw [text, taken]
  cases layout.precision with
  | none => rw [Option.elim_none, List.take_length]
  | some p => rw [Option.elim_some, ← List.take_eq_take_min]

theorem exists_pad_eq (layout : Layout) (default : Alignment) (l : List Char) : ∃ before after,
    (layout.alignment.getD default).Shares before after ∧
    before + after = layout.width - l.length ∧
    layout.pad default l =
      List.replicate before layout.fill ++ l ++ List.replicate after layout.fill :=
  ⟨_, _, Alignment.shares_before _ _, Nat.add_sub_of_le (Alignment.before_le _ _), rfl⟩

theorem length_pad (layout : Layout) (default : Alignment) (l : List Char) :
    (layout.pad default l).length = max layout.width l.length := by
  obtain ⟨before, after, _, hsum, heq⟩ := layout.exists_pad_eq default l
  rw [heq, List.length_append, List.length_append, List.length_replicate, List.length_replicate]
  omega

theorem length_text (layout : Layout) (l : List Char) :
    (layout.text l).length = max layout.width (layout.taken l.length) := by
  rw [text_eq_pad, length_pad, List.length_take_of_le (layout.taken_le l.length)]

end Layout

end Text

namespace X86.Register

open Text

variable {r s : Register} {c : Char} {before after : List Char} {n : Nat}

theorem length_name (r : Register) : r.name.toList.length =
    if r.name.toList.head? = some 'e' ∨ r.name.toList.head? = some 'r' then 3 else 2 := by
  cases r <;> rfl

theorem name_ne_nil (r : Register) : r.name.toList ≠ [] := by
  apply List.ne_nil_of_length_pos
  rw [length_name]
  split
  · exact Nat.zero_lt_succ 2
  · exact Nat.zero_lt_succ 1

/-- No name continues another one. -/
theorem eq_of_name_prefix (h : s.name.toList <+: r.name.toList) : s = r := by
  obtain ⟨rest, hrest⟩ := h
  have hhead : s.name.toList.head? = r.name.toList.head? := by
    rw [← hrest, List.head?_append_of_ne_nil _ s.name_ne_nil]
  have hlen : s.name.toList.length = r.name.toList.length := by
    rw [length_name, length_name, hhead]
  have hname := List.IsPrefix.eq_of_length ⟨rest, hrest⟩ hlen
  exact name_injective (String.toList_inj.1 hname)

theorem isAlpha_of_mem_name (h : c ∈ r.name.toList) : c.isAlpha = true :=
  isAlpha_of_map_toLower r.map_toLower_name c h

theorem isBlank_eq_false_of_mem_name (h : c ∈ r.name.toList) : isBlank c = false :=
  isBlank_eq_false_of_isAlpha (isAlpha_of_mem_name h)

/-- The beginning of a name, between blanks, spells a register only if it is the whole name. -/
theorem not_spells_take (hb : Blank before) (ha : Blank after) (hn : n < r.name.toList.length) :
    ¬ Spells (.ofList (before ++ r.name.toList.take n ++ after)) s := by
  intro h
  have hsub (c : Char) (hc : c ∈ r.name.toList.take n) := List.mem_of_mem_take hc
  have htrim := trims_append hb ha fun c hc => isBlank_eq_false_of_mem_name (hsub c hc)
  rw [spells_iff, String.toList_ofList, htrim.trim_eq,
    dropSigil_eq_self fun c hc => isAlpha_of_mem_name (hsub c hc), List.map_take,
    map_toLower_name] at h
  have hsr : s = r := by
    apply eq_of_name_prefix
    rw [← h]
    exact List.take_prefix n _
  rw [hsr] at h
  have hlen := congrArg List.length h
  rw [List.length_take_of_le (Nat.le_of_lt hn)] at hlen
  omega

theorem exists_text_eq (r : Register) {layout : Layout} (hf : layout.fill = ' ') :
    ∃ before after, (layout.alignment.getD .left).Shares before after ∧
      r.text layout = List.replicate before ' ' ++
        r.name.toList.take (layout.taken r.name.length) ++ List.replicate after ' ' := by
  obtain ⟨before, after, hs, _, heq⟩ := layout.exists_pad_eq .left
    (r.name.toList.take (layout.taken r.name.length))
  refine ⟨before, after, hs, ?_⟩
  rw [text, Layout.text_eq_pad, String.length_toList, heq, hf]

/-- A register in a field of blanks is read back if the field holds all of its name, also with a
percent sign before the name, and is else refused as it stands. -/
theorem parse_text_of_fill_blank (r : Register) (layout : Layout) (hf : layout.fill = ' ') :
    (r.text layout).length = max layout.width (layout.taken r.name.length) ∧
    ∃ before after, (layout.alignment.getD .left).Shares before after ∧
      r.text layout = List.replicate before ' ' ++
        r.name.toList.take (layout.taken r.name.length) ++ List.replicate after ' ' ∧
      ((∀ p, layout.precision = some p → r.name.length ≤ p) →
        parse (.ofList (r.text layout)) = pure r ∧
        parse (.ofList (List.replicate before ' ' ++ '%' :: r.name.toList ++
          List.replicate after ' ')) = pure r) ∧
      ∀ p, layout.precision = some p → p < r.name.length →
        parse (.ofList (r.text layout)) =
          ⟨[.unknownRegister (.ofList (r.text layout))],
            .error (.unknownRegister (.ofList (r.text layout)))⟩ := by
  have hlen : (r.text layout).length = max layout.width (layout.taken r.name.length) := by
    rw [text, Layout.length_text, String.length_toList]
  obtain ⟨before, after, hs, heq⟩ := r.exists_text_eq hf
  have hb := blank_replicate before
  have ha := blank_replicate after
  refine ⟨hlen, before, after, hs, heq, fun hp => ?_, fun p hp hlt => ?_⟩
  · rw [Layout.taken_eq_self hp, ← String.length_toList, List.take_length] at heq
    have hplain := spells_ofList hb ha (.inl rfl) r
    have hpercent := spells_ofList hb ha (.inr rfl) r
    rw [List.append_nil, ← heq] at hplain
    rw [List.append_assoc _ ['%']] at hpercent
    exact ⟨hplain.parse_eq, hpercent.parse_eq⟩
  · have htaken : layout.taken r.name.length < r.name.toList.length := by
      rw [Layout.taken, hp, Option.elim_some, String.length_toList]
      omega
    apply parse_of_ofName?_eq_none
    apply ofName?_eq_none_iff.2
    intro s
    rw [heq]
    exact not_spells_take hb ha htaken

def centred : Layout := { alignment := some .centre, width := 8 }

theorem parse_text_centred :
    String.ofList (Register.eax.text centred) = "  eax   " ∧ parse "  eax   " = pure .eax ∧
      String.ofList (Register.eax.text { centred with precision := some 2 }) = "   ea   " ∧
      parse "   ea   " =
        ⟨[.unknownRegister "   ea   "], .error (.unknownRegister "   ea   ")⟩ := by
  have hwhole : String.ofList (Register.eax.text centred) = "  eax   " := by decide
  have hcut : String.ofList (Register.eax.text { centred with precision := some 2 }) =
      "   ea   " := by decide
  obtain ⟨_, _, _, _, _, hread, _⟩ := parse_text_of_fill_blank .eax centred rfl
  obtain ⟨_, _, _, _, _, _, hrefuse⟩ :=
    parse_text_of_fill_blank .eax { centred with precision := some 2 } rfl
  rw [hwhole] at hread
  rw [hcut] at hrefuse
  exact ⟨hwhole, (hread fun p hp => (by cases hp)).1, hcut, hrefuse 2 rfl (by decide)⟩

end X86.Register

end RegisterFamilies
