import TypeExpr.Proofs.Text.Comparison
import TypeExpr.Proofs.Ty.Legal
import TypeExpr.Proofs.Ty.Written

/-!
# `TypeExpr.Proofs.Ty.GroupOrder`: the order of groups

Groups in a union are kept in the order of their documentation. That is also the order of their
declarations and of their lists of names (`groups_ordered_alike`), so it does not depend on the form
a union is written in.

The separator of an intersection comes before every character of a name (`amp_lt_of_isNameChar`), so
joined names compare like the lists of them. A declaration puts a backslash in front of each name,
since the atoms of a group are classes (`ParsedGroup.exists_classes`), and that does not change how
lists of names compare.
-/

namespace TypeExpr

/-- The separator of an intersection comes before every character of a name. -/
theorem amp_lt_of_isNameChar {c : Char} (h : isNameChar c = true) : '&' < c := by
  by_cases hc : c.toNat < 0x80
  · have hafter :=
      forall_ascii (p := fun c => !isNameChar c || decide ('&' < c)) (by decide +kernel) hc
    simpa [h] using hafter
  · have hcode : '&'.toNat < c.toNat := Nat.lt_of_lt_of_le (by decide) (Nat.le_of_not_lt hc)
    exact hcode

namespace Ty

/-- The names of the atoms of a type, from left to right. -/
def names (t : Ty) : List Text := t.atoms.map Atom.name

theorem names_group (as : List Atom) : (group as).names = as.map Atom.name := by
  rw [names, atoms_group]

/-! ### Groups of classes -/

section Classes

variable {as bs : List Atom}

theorem above_of_mem_map {leaf : Atom → Text} (hl : Atom.Spells leaf) (h : ∀ a ∈ as, a.WellFormed) :
    ∀ s ∈ as.map leaf, Text.Above '&' s := by
  intro s hs c hc
  obtain ⟨a, ha, rfl⟩ := List.mem_map.mp hs
  exact amp_lt_of_isNameChar (hl.isNameChar_leaf (h a ha) hc)

/-- What is written for groups compares like the lists of what is written for their atoms. -/
theorem compare_render_group {leaf : Atom → Text} (hl : Atom.Spells leaf) (hne : as ≠ [])
    (hne' : bs ≠ []) (has : ∀ a ∈ as, a.WellFormed) (hbs : ∀ b ∈ bs, b.WellFormed) :
    compare ((group as).render leaf) ((group bs).render leaf) =
      compare (as.map leaf) (bs.map leaf) := by
  rw [render_group, render_group]
  exact Text.compare_intercalate (above_of_mem_map hl has) (above_of_mem_map hl hbs)
    (mt List.map_eq_nil_iff.mp hne) (mt List.map_eq_nil_iff.mp hne')

/-- The full names of classes are their names with a backslash in front. -/
theorem map_fullName_of_classes (h : ∀ a ∈ as, a.isBuiltin = false) :
    as.map Atom.fullName = (as.map Atom.name).map ('\\' :: ·) := by
  rw [List.map_map]
  refine List.map_congr_left fun a ha => ?_
  rw [Atom.fullName, if_neg (by simp [h a ha])]
  rfl

end Classes

/-! ### Groups that are parsed -/

/-- An intersection that some text is parsed as, or that is a member of what it is parsed as. -/
def ParsedGroup (g : Ty) : Prop :=
  g.mode? = some .intersection ∧ ∃ t u, parse t = .ok u ∧ (g = u ∨ g ∈ u.members)

theorem TwoLevel.exists_group {ok : Atom → Prop} {u g : Ty} (h : TwoLevel ok u)
    (hg : g = u ∨ g ∈ u.members) (hmode : g.mode? = some .intersection) :
    ∃ as, g = Ty.group as ∧ 2 ≤ as.length ∧ ∀ a ∈ as, ok a := by
  cases h with
  | @group as two h =>
      rcases hg with rfl | hg
      · exact ⟨as, rfl, two, h⟩
      · obtain ⟨a, -, rfl⟩ := List.mem_map.mp hg
        cases hmode
  | @union ts two h =>
      rcases hg with rfl | hg
      · cases hmode
      · cases h g hg with
        | atom _ => cases hmode
        | @group as two h => exact ⟨as, rfl, two, h⟩

theorem Compatible.of_mem {u g : Ty} (h : u.Compatible) (hg : g = u ∨ g ∈ u.members) :
    g.Compatible := by
  rcases hg with rfl | hg
  · exact h
  · cases u with
    | atom a => cases hg
    | combine mode ts => exact (compatible_combine_iff.mp h).2 g hg

/-- Companions in an intersection are classes. -/
theorem isBuiltin_of_companions {as : List Atom} (two : 2 ≤ as.length)
    (h : as.Pairwise (Atom.Companions .intersection)) : ∀ a ∈ as, a.isBuiltin = false := by
  obtain ⟨a, b, as, rfl⟩ : ∃ a b rest, as = a :: b :: rest := by
    match as, two with
    | a :: b :: rest, _ => exact ⟨a, b, rest, rfl⟩
  have hfirst := (List.pairwise_cons.mp h).1
  intro c hc
  rcases List.mem_cons.mp hc with rfl | hc
  · exact (hfirst b List.mem_cons_self).1.1
  · exact (hfirst c hc).2.1

/-- A parsed group is a group of classes. -/
theorem ParsedGroup.exists_classes {g : Ty} (h : g.ParsedGroup) :
    ∃ as : List Atom, g = group as ∧ as ≠ [] ∧ (∀ a ∈ as, a.WellFormed) ∧
      ∀ a ∈ as, a.isBuiltin = false := by
  obtain ⟨hmode, t, u, hu, hg⟩ := h
  obtain ⟨d, hd, hcompatible, rfl⟩ := parse_eq_ok_iff.mp hu
  have htwo : TwoLevel Atom.WellFormed d.canonical := hd.twoLevel.canonical
  obtain ⟨as, rfl, two, has⟩ := htwo.exists_group hg hmode
  have hlegal : (group as).Compatible := ((compatible_canonical_iff d).mpr hcompatible).of_mem hg
  have hcompanions := (compatible_combine_iff.mp hlegal).1
  rw [atomicMembers_map_atom] at hcompanions
  exact ⟨as, rfl, List.ne_nil_of_length_pos (by omega), has,
    isBuiltin_of_companions two hcompanions⟩

/-! ### Order -/

variable {g h : Ty}

theorem ParsedGroup.compare_documentation (hg : g.ParsedGroup) (hh : h.ParsedGroup) :
    compare g.documentation h.documentation = compare g.names h.names := by
  obtain ⟨as, rfl, hne, has, -⟩ := hg.exists_classes
  obtain ⟨bs, rfl, hne', hbs, -⟩ := hh.exists_classes
  rw [names_group, names_group]
  exact compare_render_group Atom.spells_name hne hne' has hbs

theorem ParsedGroup.compare_declaration (hg : g.ParsedGroup) (hh : h.ParsedGroup) :
    compare g.declaration h.declaration = compare g.names h.names := by
  obtain ⟨as, rfl, hne, has, hclasses⟩ := hg.exists_classes
  obtain ⟨bs, rfl, hne', hbs, hclasses'⟩ := hh.exists_classes
  have hrender : compare (group as).declaration (group bs).declaration =
      compare (as.map Atom.fullName) (bs.map Atom.fullName) :=
    compare_render_group Atom.spells_fullName hne hne' has hbs
  rw [hrender, map_fullName_of_classes hclasses, map_fullName_of_classes hclasses',
    Text.compare_map_cons, names_group, names_group]

/-- Of two groups the one that canonical order puts first has the documentation that comes first. -/
theorem isLE_compare_documentation_of_le (hg : g.mode? = some .intersection)
    (hh : h.mode? = some .intersection) (hle : g.le h = true) :
    (compare g.documentation h.documentation).isLE = true := by
  cases g with
  | atom a => cases hg
  | combine mode ts =>
      cases h with
      | atom b => cases hh
      | combine mode' us =>
          rw [← Text.le_eq_isLE_compare]
          simpa [le, sortKey, SortKey.le] using hle

/-- **Groups are ordered alike in any form.** Comparing the documentation of two groups that were
parsed, comparing their declarations and comparing their lists of names give the same result. So in
a union that was parsed both the documentation and the declarations of the groups are in order. -/
theorem groups_ordered_alike :
    (∀ g h : Ty, g.ParsedGroup → h.ParsedGroup →
      compare g.documentation h.documentation = compare g.names h.names ∧
      compare g.declaration h.declaration = compare g.names h.names) ∧
    ∀ t ms, parse t = .ok (.combine .union ms) →
      (ms.filter fun m => m.mode? == some .intersection).Pairwise fun g h =>
        (compare g.documentation h.documentation).isLE = true ∧
        (compare g.declaration h.declaration).isLE = true := by
  refine ⟨fun g h hg hh => ⟨hg.compare_documentation hh, hg.compare_declaration hh⟩,
    fun t ms ht => ?_⟩
  have hsorted : ms.Pairwise fun g h => g.le h = true := by
    obtain ⟨d, -, -, hd⟩ := parse_eq_ok_iff.mp ht
    refine pairwise_of_mem_combinations_canonical d (.union, ms) ?_
    rw [← hd]
    exact List.mem_cons_self
  refine (hsorted.filter _).imp_of_mem fun {g h} hgmem hhmem hle => ?_
  obtain ⟨hg, hgmode⟩ := List.mem_filter.mp hgmem
  obtain ⟨hh, hhmode⟩ := List.mem_filter.mp hhmem
  have hgparsed : g.ParsedGroup := ⟨beq_iff_eq.mp hgmode, t, _, ht, .inr hg⟩
  have hhparsed : h.ParsedGroup := ⟨beq_iff_eq.mp hhmode, t, _, ht, .inr hh⟩
  have hdocumentation := isLE_compare_documentation_of_le hgparsed.1 hhparsed.1 hle
  refine ⟨hdocumentation, ?_⟩
  rwa [hgparsed.compare_declaration hhparsed, ← hgparsed.compare_documentation hhparsed]

/-- A group whose names are the first names of another group, and one with a name that begins like
another and goes on with a backslash. -/
theorem groups_ordered_alike_instances :
    let a : Atom := .ofClass "A".toList
    let b : Atom := .ofClass "B".toList
    let ab : Atom := .ofClass "A\\B".toList
    let c : Atom := .ofClass "C".toList
    (group [a, b]).ParsedGroup ∧ (group [a, b, c]).ParsedGroup ∧
    compare (group [a, b]).documentation (group [a, b, c]).documentation = .lt ∧
    compare (group [a, b]).declaration (group [a, b, c]).declaration = .lt ∧
    parse "B&A\\B|(C&B&A)|int|A&B".toList =
      .ok (.combine .union
        [.atom (.ofKeyword .int), group [a, b], group [a, b, c], group [ab, b]]) ∧
    [group [a, b], group [a, b, c], group [ab, b]].Pairwise fun g h =>
      (compare g.documentation h.documentation).isLE = true ∧
      (compare g.declaration h.declaration).isLE = true := by
  intro a b ab c
  have hparse : parse "B&A\\B|(C&B&A)|int|A&B".toList =
      .ok (.combine .union
        [.atom (.ofKeyword .int), group [a, b], group [a, b, c], group [ab, b]]) := by
    decide +kernel
  have hshort : (group [a, b]).ParsedGroup := ⟨rfl, _, _, hparse, .inr (by decide)⟩
  have hlong : (group [a, b, c]).ParsedGroup := ⟨rfl, _, _, hparse, .inr (by decide)⟩
  have hcompare := groups_ordered_alike.1 _ _ hshort hlong
  exact ⟨hshort, hlong, hcompare.1.trans (by decide), hcompare.2.trans (by decide), hparse,
    groups_ordered_alike.2 _ _ hparse⟩

end Ty
end TypeExpr
