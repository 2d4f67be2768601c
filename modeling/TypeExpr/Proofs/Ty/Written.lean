import TypeExpr.Proofs.Atom.Names
import TypeExpr.Proofs.Ty.TwoLevel

/-!
# `TypeExpr.Proofs.Ty.Written`: the text of a group

The parts of the text of a group are what is written for its atoms (`parts_render_group`), provided
that leaves are written with characters of names only. So the text gives the group away, and two
members of a union with one sorting key are one member (`Segmental.eq_of_sortKey_eq`). What is
written of any type with two levels holds no blanks (`TwoLevel.isBlank_of_mem_render`).
-/

namespace TypeExpr.Ty

/-- The text of a type as a member of a union. -/
def written (leaf : Atom → Text) (t : Ty) : Text := t.enclose (t.render leaf)

theorem render_combine (leaf : Atom → Text) (mode : Mode) (ts : List Ty) :
    (Ty.combine mode ts).render leaf = [mode.separator].intercalate (ts.map (written leaf)) := by
  rw [render, renderMembers_eq_map]
  rfl

theorem render_group (leaf : Atom → Text) (as : List Atom) :
    (group as).render leaf = ['&'].intercalate (as.map leaf) := by
  rw [group, render_combine, List.map_map]
  rfl

theorem written_group (leaf : Atom → Text) (as : List Atom) :
    (group as).written leaf = '(' :: ((group as).render leaf ++ [')']) := rfl

section Leaves

variable {leaf : Atom → Text} (hl : Atom.Spells leaf)
include hl

/-- The text of a group holds the characters of names and the separator. -/
theorem not_mem_render_group {as : List Atom} (h : ∀ a ∈ as, a.WellFormed) {c : Char}
    (hname : isNameChar c = false) (hsep : c ≠ '&') : c ∉ (group as).render leaf := by
  rw [render_group]
  intro hm
  rcases Text.mem_intercalate hm with rfl | ⟨s, hs, hc⟩
  · exact hsep rfl
  · obtain ⟨a, ha, rfl⟩ := List.mem_map.mp hs
    exact hl.not_mem_leaf (h a ha) hname hc

theorem parts_render_group {as : List Atom} (hne : as ≠ []) (h : ∀ a ∈ as, a.WellFormed) :
    ((group as).render leaf).parts '&' = as.map leaf := by
  have hsep : ∀ s ∈ as.map leaf, '&' ∉ s := by
    intro s hs
    obtain ⟨a, ha, rfl⟩ := List.mem_map.mp hs
    exact hl.not_mem_leaf (h a ha) (by decide)
  rw [render_group, Text.parts_intercalate (mt List.map_eq_nil_iff.mp hne) hsep, List.map_map]
  exact List.map_congr_left fun a ha => hl.trim_leaf (h a ha)

/-! ### No blanks -/

theorem isBlank_of_mem_render_group {as : List Atom} (h : ∀ a ∈ as, a.WellFormed) {c : Char}
    (hc : c ∈ (group as).render leaf) : isBlank c = false := by
  rw [render_group] at hc
  rcases Text.mem_intercalate hc with rfl | ⟨s, hs, hc⟩
  · decide
  · obtain ⟨a, ha, rfl⟩ := List.mem_map.mp hs
    exact isBlank_of_isNameChar (hl.isNameChar_leaf (h a ha) hc)

theorem Segmental.isBlank_of_mem_written {t : Ty} (h : Segmental Atom.WellFormed t) {c : Char}
    (hc : c ∈ t.written leaf) : isBlank c = false := by
  cases h with
  | atom h => exact isBlank_of_isNameChar (hl.isNameChar_leaf h hc)
  | group _ h =>
      rw [written_group] at hc
      rcases List.mem_cons.mp hc with rfl | hc
      · decide
      · rcases List.mem_append.mp hc with hc | hc
        · exact isBlank_of_mem_render_group hl h hc
        · rw [List.mem_singleton.mp hc]
          decide

/-- What is written of a type with two levels holds no blanks. -/
theorem TwoLevel.isBlank_of_mem_render {t : Ty} (h : TwoLevel Atom.WellFormed t) {c : Char}
    (hc : c ∈ t.render leaf) : isBlank c = false := by
  cases h with
  | group _ h => exact isBlank_of_mem_render_group hl h hc
  | union _ h =>
      rw [render_combine] at hc
      rcases Text.mem_intercalate hc with rfl | ⟨s, hs, hc⟩
      · decide
      · obtain ⟨u, hu, rfl⟩ := List.mem_map.mp hs
        exact (h u hu).isBlank_of_mem_written hl hc

end Leaves

/-! ### Sorting keys -/

theorem map_ofName_map_name {as : List Atom} (h : ∀ a ∈ as, a.WellFormed) :
    (as.map Atom.name).map Atom.ofName = as := by
  rw [List.map_map]
  exact (List.map_congr_left fun a ha => (Atom.wellFormed_iff.mp (h a ha)).2).trans (List.map_id as)

/-- Groups with one documentation are one group. -/
theorem eq_of_documentation_group_eq {as bs : List Atom} (hne : as ≠ []) (hne' : bs ≠ [])
    (has : ∀ a ∈ as, a.WellFormed) (hbs : ∀ b ∈ bs, b.WellFormed)
    (h : (group as).documentation = (group bs).documentation) : as = bs := by
  have hnames : as.map Atom.name = bs.map Atom.name := by
    rw [← parts_render_group Atom.spells_name hne has,
      ← parts_render_group Atom.spells_name hne' hbs]
    exact congrArg (Text.parts '&') h
  rw [← map_ofName_map_name has, hnames, map_ofName_map_name hbs]

/-- **Keys tell members apart.** Members of a union that rank equal are the same. -/
theorem Segmental.eq_of_sortKey_eq {s t : Ty} (hs : Segmental Atom.WellFormed s)
    (ht : Segmental Atom.WellFormed t) (h : s.sortKey = t.sortKey) : s = t := by
  have hrank := congrArg SortKey.rank h
  cases hs with
  | atom _ =>
      cases ht with
      | atom _ => rw [sortKey_atom_inj.mp h]
      | group _ _ => exact absurd hrank Nat.zero_ne_one
  | @group as two has =>
      cases ht with
      | atom _ => exact absurd hrank Nat.one_ne_zero
      | @group bs two' hbs =>
          have hdocumentation : (Ty.group as).documentation = (Ty.group bs).documentation :=
            congrArg SortKey.spelling h
          rw [eq_of_documentation_group_eq (List.ne_nil_of_length_pos (by omega))
            (List.ne_nil_of_length_pos (by omega)) has hbs hdocumentation]

end TypeExpr.Ty
