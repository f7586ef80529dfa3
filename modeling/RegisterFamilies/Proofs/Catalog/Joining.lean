import RegisterFamilies.Catalog.Table
import RegisterFamilies.Proofs.Catalog.FirstDefect
import RegisterFamilies.Proofs.Catalog.Ownership

namespace RegisterFamilies

namespace Catalog

variable {ρ φ : Type} {c d e : Catalog ρ φ} {f : φ} {a b r : ρ} {w : Width}

/-- The two catalogs are about the same registers and families, whichever of them they list. -/
structure Alike (d c : Catalog ρ φ) : Prop where
  name : d.name = c.name
  display : d.display = c.display
  width : d.width = c.width
  isHighByte : d.isHighByte = c.isHighByte
  familyName : d.familyName = c.familyName
  members : d.members = c.members

/-- The families of `c` are among those of `e`. -/
structure Extends (e c : Catalog ρ φ) : Prop extends Alike e c where
  families : ∀ f ∈ c.families, f ∈ e.families

/-- For the registers of `c` the catalog `e` has the answers that `c` has. -/
structure AnswersAs [DecidableEq ρ] [DecidableEq φ] (e c : Catalog ρ φ) : Prop where
  findFamily : ∀ r ∈ c.registers, e.findFamily r = c.findFamily r
  sibling? : ∀ r ∈ c.registers, ∀ w, e.sibling? r w = c.sibling? r w
  sibling : ∀ r ∈ c.registers, ∀ w, e.sibling r w = c.sibling r w
  aliases : ∀ a ∈ c.registers, ∀ b ∈ c.registers, e.aliases a b = c.aliases a b

namespace Alike

theorem membersOfWidth_eq (h : d.Alike c) : d.membersOfWidth = c.membersOfWidth := by
  funext f w
  rw [membersOfWidth, membersOfWidth, h.members, h.width]

theorem lowMembers_eq (h : d.Alike c) : d.lowMembers = c.lowMembers := by
  funext f w
  rw [lowMembers, lowMembers, h.members, h.width, h.isHighByte]

theorem highMembers_eq (h : d.Alike c) : d.highMembers = c.highMembers := by
  funext f w
  rw [highMembers, highMembers, h.members, h.width, h.isHighByte]

theorem familyConsistent (h : d.Alike c) (hc : c.FamilyConsistent f) : d.FamilyConsistent f where
  nonempty := by
    rw [h.members]
    exact hc.nonempty
  low w := by
    rw [h.lowMembers_eq]
    exact hc.low w
  high w := by
    rw [h.lowMembers_eq, h.highMembers_eq]
    exact hc.high w
  wide w hw := by
    rw [h.highMembers_eq]
    exact hc.wide w hw

theorem ordered (h : d.Alike c) (hc : c.Ordered f) : d.Ordered f := by
  rw [Ordered, h.members, h.width]
  exact hc

theorem validated_eq (h : d.Alike c) : d.validated = c.validated := by
  funext f
  rw [validated, validated, widths, widths, h.familyName, h.members, h.width]

theorem siblingIn?_eq (h : d.Alike c) (f : φ) (r : ρ) (w : Width) :
    d.siblingIn? f r w = c.siblingIn? f r w := by
  rw [siblingIn?, siblingIn?, memberOfWidth?, memberOfWidth?, h.membersOfWidth_eq, h.width,
    h.isHighByte]

end Alike

theorem append_extends_left (c d : Catalog ρ φ) : (c ++ d).Extends c where
  name := rfl
  display := rfl
  width := rfl
  isHighByte := rfl
  familyName := rfl
  members := rfl
  families _ hf := List.mem_append_left _ hf

theorem append_extends_right (h : d.Alike c) : (c ++ d).Extends d where
  name := h.name.symm
  display := h.display.symm
  width := h.width.symm
  isHighByte := h.isHighByte.symm
  familyName := h.familyName.symm
  members := h.members.symm
  families _ hf := List.mem_append_right _ hf

theorem slots_append (h : d.Alike c) : (c ++ d).slots = c.slots ++ d.slots := by
  have happ : (c ++ d).slots = (c.families ++ d.families).flatMap c.members := rfl
  rw [happ, List.flatMap_append, slots, slots, h.members]

theorem Alike.not_mem_registers (h : d.Alike c)
    (hn : ∀ a ∈ c.registers, ∀ b ∈ d.registers, c.name a ≠ d.name b) (hr : r ∈ c.registers) :
    r ∉ d.registers := by
  intro hd
  apply hn r hr r hd
  rw [h.name]

theorem Consistent.append (hc : c.Consistent) (hd : d.Consistent) (h : d.Alike c)
    (hn : ∀ a ∈ c.registers, ∀ b ∈ d.registers, c.name a ≠ d.name b) : (c ++ d).Consistent where
  names := by
    have hnames : (c ++ d).registers.map (c ++ d).name =
        c.registers.map c.name ++ d.registers.map d.name := by
      rw [h.name]
      exact List.map_append
    rw [hnames, List.nodup_append]
    refine ⟨hc.names, hd.names, ?_⟩
    intro s hs t ht
    obtain ⟨a, ha, rfl⟩ := List.mem_map.1 hs
    obtain ⟨b, hb, rfl⟩ := List.mem_map.1 ht
    exact hn a ha b hb
  partition := by
    rw [slots_append h]
    exact hc.partition.append hd.partition
  families f hf := by
    cases List.mem_append.1 hf with
    | inl hf => exact (append_extends_left c d).familyConsistent (hc.families f hf)
    | inr hf => exact (append_extends_right h).familyConsistent (hd.families f hf)

theorem ordered_append (h : d.Alike c) (hc : ∀ f ∈ c.families, c.Ordered f)
    (hd : ∀ f ∈ d.families, d.Ordered f) : ∀ f ∈ (c ++ d).families, (c ++ d).Ordered f := by
  intro f hf
  cases List.mem_append.1 hf with
  | inl hf => exact (append_extends_left c d).ordered (hc f hf)
  | inr hf => exact (append_extends_right h).ordered (hd f hf)

variable [DecidableEq ρ]

theorem validate_of_result_eq_ok (hv : c.validate.result = .ok ()) :
    c.validate = ⟨c.families.map c.validated, .ok ()⟩ := by
  obtain ⟨names, owners, hf⟩ := firstDefect?_eq_none_iff.1 (validate_result_eq_ok_iff.1 hv)
  have h : c.Verdict c.families (.ok ()) := by
    apply Verdict.accepted names
    · intro r hr
      exact ownershipDefect?_eq_none_iff.1 (owners r hr)
    · intro g hg
      exact familyDefect?_eq_none_iff_forall.1 (hf g hg)
  exact h.validate_eq

namespace Extends

theorem findFamily_eq_ok (h : e.Extends c) (he : e.Consistent) (hr : c.findFamily r = .ok f) :
    e.findFamily r = .ok f := by
  obtain ⟨hf, hm⟩ := mem_families_of_findFamily hr
  apply he.findFamily_eq_ok_iff.2
  rw [h.members]
  exact ⟨h.families f hf, hm⟩

theorem answersAs [DecidableEq φ] (h : e.Extends c) (he : e.Consistent) (hc : c.Consistent) :
    e.AnswersAs c := by
  have hfind (r : ρ) (hr : r ∈ c.registers) : e.findFamily r = c.findFamily r := by
    obtain ⟨f, hf⟩ := hc.exists_findFamily hr
    rw [hf, h.findFamily_eq_ok he hf]
  have hfamily (r : ρ) (hr : r ∈ c.registers) : e.familyOf r = c.familyOf r := by
    rw [familyOf, familyOf, hfind r hr, h.display]
  have hsibling (r : ρ) (hr : r ∈ c.registers) (w : Width) : e.sibling? r w = c.sibling? r w := by
    obtain ⟨f, hf⟩ := hc.exists_findFamily hr
    rw [sibling?_eq hf, sibling?_eq (h.findFamily_eq_ok he hf), h.siblingIn?_eq, h.display,
      h.familyName]
  refine ⟨hfind, hsibling, ?_, ?_⟩
  · intro r hr w
    rw [sibling, sibling, hsibling r hr, h.name]
  · intro a ha b hb
    rw [aliases, aliases, hfamily a ha, hfamily b hb, h.width]

end Extends

theorem aliases_of_family_ne [DecidableEq φ] {g : φ} (ha : c.findFamily a = .ok f)
    (hb : c.findFamily b = .ok g) (hne : f ≠ g) : c.aliases a b = pure false := by
  rw [aliases_eq ha hb]
  apply congrArg pure
  apply decide_eq_false
  intro h
  rcases h with rfl | ⟨_, he⟩
  · rw [ha] at hb
    cases hb
    exact hne rfl
  · exact hne he

/-- Two accepted catalogs without a register name in common make up one that is accepted, with both
records. Each keeps its answers, and no register of one aliases one of the other. -/
theorem validate_append [DecidableEq φ] (hc : c.validate.result = .ok ())
    (hd : d.validate.result = .ok ()) (h : d.Alike c)
    (hn : ∀ a ∈ c.registers, ∀ b ∈ d.registers, c.name a ≠ d.name b) :
    (c ++ d).validate = ⟨c.validate.events ++ d.validate.events, .ok ()⟩ ∧
      (c ++ d).AnswersAs c ∧ (c ++ d).AnswersAs d ∧
      ∀ a ∈ c.registers, ∀ b ∈ d.registers,
        (c ++ d).aliases a b = pure false ∧ (c ++ d).aliases b a = pure false := by
  obtain ⟨hcc, hco⟩ := validate_result_eq_ok_iff_consistent.1 hc
  obtain ⟨hdc, hdo⟩ := validate_result_eq_ok_iff_consistent.1 hd
  have hj := hcc.append hdc h hn
  have hv : (c ++ d).validate.result = .ok () :=
    validate_result_eq_ok_iff_consistent.2 ⟨hj, ordered_append h hco hdo⟩
  have hl := append_extends_left c d
  have hr := append_extends_right h
  refine ⟨?_, hl.answersAs hj hcc, hr.answersAs hj hdc, ?_⟩
  · have hevents : (c ++ d).families.map (c ++ d).validated =
        c.families.map c.validated ++ d.families.map d.validated := by
      rw [h.validated_eq]
      exact List.map_append
    rw [validate_of_result_eq_ok hv, validate_of_result_eq_ok hc, validate_of_result_eq_ok hd,
      hevents]
  · intro a ha b hb
    obtain ⟨f, hf⟩ := hcc.exists_findFamily ha
    obtain ⟨g, hg⟩ := hdc.exists_findFamily hb
    obtain ⟨hfc, _⟩ := mem_families_of_findFamily hf
    obtain ⟨_, hbg⟩ := mem_families_of_findFamily hg
    have hne : f ≠ g := by
      intro he
      -- a common family would have `b` as a member in `c`, which lists all members of its families
      subst g
      rw [h.members] at hbg
      exact h.not_mem_registers hn (hcc.mem_registers hfc hbg) hb
    have hfa := hl.findFamily_eq_ok hj hf
    have hgb := hr.findFamily_eq_ok hj hg
    exact ⟨aliases_of_family_ne hfa hgb hne, aliases_of_family_ne hgb hfa hne.symm⟩

end Catalog

namespace X86

/-- The destination index with its parts, and no other. -/
def destinationCatalog : Catalog Register Family :=
  { catalog with registers := [.di, .edi, .rdi], families := [.di] }

theorem validate_base_append_destination :
    baseCatalog.validate.result = .ok () ∧ destinationCatalog.validate.result = .ok () ∧
      destinationCatalog.Alike baseCatalog ∧
      (∀ a ∈ baseCatalog.registers, ∀ b ∈ destinationCatalog.registers,
        baseCatalog.name a ≠ destinationCatalog.name b) ∧
      (baseCatalog ++ destinationCatalog).validate.result = .ok () ∧
      (baseCatalog ++ destinationCatalog).sibling? .rbx .byte = pure (some .bl) ∧
      (baseCatalog ++ destinationCatalog).aliases .bl .di = pure false := by
  have hb : baseCatalog.validate.result = .ok () := rfl
  have hd : destinationCatalog.validate.result = .ok () := rfl
  have h : destinationCatalog.Alike baseCatalog := ⟨rfl, rfl, rfl, rfl, rfl, rfl⟩
  have hn : ∀ a ∈ baseCatalog.registers, ∀ b ∈ destinationCatalog.registers,
      baseCatalog.name a ≠ destinationCatalog.name b := by decide
  obtain ⟨hv, hbase, _, haliases⟩ := Catalog.validate_append hb hd h hn
  have hrbx : baseCatalog.sibling? .rbx .byte = pure (some .bl) := rfl
  obtain ⟨hbl, _⟩ := haliases .bl (by decide) .di (by decide)
  exact ⟨hb, hd, h, hn, congrArg Traced.result hv,
    (hbase.sibling? .rbx (by decide) .byte).trans hrbx, hbl⟩

end X86

end RegisterFamilies
