import TypeExpr.Proofs.Ty.Legal
import TypeExpr.Proofs.Ty.Written

/-!
# `TypeExpr.Proofs.RoundTrip`: writing a type and parsing it

What is written for a type reads back as that type, but for two things that the text does not show:
that unions stood inside unions, and the order in which members are kept. So parsing gives the
canonical form of the spliced type, if it is legal.

Three facts carry this. Joined texts that are joined again may as well be joined at once, so a
nested union is written like its members in its place (`Nested.written_eq`). What is written for an
atom or a group holds no `|` and reads back by itself (`Segmental.readsMember`). And the two sorts
of leaves are only used through `Atom.Spells`, so the declaration and the documentation need no
separate proofs.
-/

namespace TypeExpr.Ty

/-! ### Types that can be written -/

/-- An atom, a group of two atoms or more, or a union of one or more such types. -/
inductive Nested (ok : Atom → Prop) : Ty → Prop
  | segment {t : Ty} (h : Segmental ok t) : Nested ok t
  | union {ts : List Ty} (hne : ts ≠ []) (h : ∀ t ∈ ts, Nested ok t) :
      Nested ok (.combine .union ts)

/-- A group of two well-formed atoms or more, or a union, with unions in it nested to any depth,
that comes to two members or more once these are spliced. -/
inductive Writable : Ty → Prop
  | group {as : List Atom} (two : 2 ≤ as.length) (h : ∀ a ∈ as, a.WellFormed) : Writable (group as)
  | union {ts : List Ty} (h : ∀ t ∈ ts, Nested Atom.WellFormed t)
      (two : 2 ≤ (memberAlternatives ts).length) : Writable (.combine .union ts)

/-- What is read can be written. -/
theorem TwoLevel.writable {t : Ty} (h : TwoLevel Atom.WellFormed t) : t.Writable := by
  cases h with
  | group two h => exact .group two h
  | union two h =>
      refine .union (fun t ht => .segment (h t ht)) ?_
      rw [memberAlternatives_eq_self h]
      exact two

/-! ### Nested unions -/

variable {ok : Atom → Prop} {leaf : Atom → Text}

theorem Nested.alternatives_ne_nil {t : Ty} (h : Nested ok t) : t.alternatives ≠ [] := by
  induction h with
  | segment h => simp [h.alternatives_eq]
  | @union ts hne _ ih =>
      obtain ⟨t, ts, rfl⟩ := List.exists_cons_of_ne_nil hne
      rw [alternatives, memberAlternatives]
      exact List.append_ne_nil_of_left_ne_nil (ih t (by simp)) _

theorem Nested.segmental {t : Ty} (h : Nested ok t) : ∀ u ∈ t.alternatives, Segmental ok u := by
  induction h with
  | segment h =>
      rw [h.alternatives_eq]
      simpa using h
  | union _ _ ih =>
      rw [alternatives, memberAlternatives_eq_flatMap]
      intro u hu
      obtain ⟨t, ht, hu⟩ := List.mem_flatMap.mp hu
      exact ih t ht u hu

/-- A nested union is written as its members would be written in its place. -/
theorem Nested.written_eq {t : Ty} (h : Nested ok t) :
    t.written leaf = ['|'].intercalate (t.alternatives.map (written leaf)) := by
  induction h with
  | segment h => rw [h.alternatives_eq, List.map_singleton, List.intercalate_singleton]
  | @union ts _ h ih =>
      -- each member is its own alternatives joined, and joining these again joins all of them
      have hwritten : (Ty.combine .union ts).written leaf =
          ['|'].intercalate (ts.map (written leaf)) := render_combine leaf .union ts
      rw [hwritten, List.map_congr_left ih, alternatives, memberAlternatives_eq_flatMap,
        List.map_flatMap, Text.intercalate_flatMap]
      exact fun t ht => mt List.map_eq_nil_iff.mp (h t ht).alternatives_ne_nil

/-- A union is written as the members that splicing gives it. -/
theorem render_union_eq {ts : List Ty} (h : ∀ t ∈ ts, Nested ok t) :
    (Ty.combine .union ts).render leaf =
      ['|'].intercalate ((memberAlternatives ts).map (written leaf)) := by
  rw [render_combine, List.map_congr_left fun t ht => (h t ht).written_eq,
    memberAlternatives_eq_flatMap, List.map_flatMap, Text.intercalate_flatMap]
  · rfl
  · exact fun t ht => mt List.map_eq_nil_iff.mp (h t ht).alternatives_ne_nil

/-! ### Segments -/

section Leaves

variable (hl : Atom.Spells leaf)
include hl

theorem amp_mem_render_group {as : List Atom} (two : 2 ≤ as.length)
    (h : ∀ a ∈ as, a.WellFormed) : '&' ∈ (group as).render leaf := by
  have hne : as ≠ [] := List.ne_nil_of_length_pos (by omega)
  rw [← Text.two_le_length_parts, parts_render_group hl hne h, List.length_map]
  exact two

/-- What is written for the atoms of a group reads back one by one. -/
theorem forall₂_parts_render_group {as : List Atom} (hne : as ≠ []) (h : ∀ a ∈ as, a.WellFormed) :
    List.Forall₂ (fun s a => Rules.standard.readAtom s = .ok a)
      (((group as).render leaf).parts '&') as := by
  rw [parts_render_group hl hne h, List.forall₂_map_left_iff, List.forall₂_same]
  exact fun a ha => hl.ofText_leaf (h a ha)

/-- A group reads back without parentheses. -/
theorem readsGroup_render {as : List Atom} (hne : as ≠ []) (h : ∀ a ∈ as, a.WellFormed) :
    ReadsGroup .standard ((group as).render leaf) as := by
  have hopen := not_mem_render_group hl h (c := '(') (by decide) (by decide)
  rw [readsGroup_iff_of_not_mem hopen]
  exact forall₂_parts_render_group hl hne h

/-- A group reads back in parentheses. -/
theorem readsGroup_written {as : List Atom} (hne : as ≠ []) (h : ∀ a ∈ as, a.WellFormed) :
    ReadsGroup .standard ((group as).written leaf) as := by
  rw [written_group, readsGroup_enclosed_iff]
  exact forall₂_parts_render_group hl hne h

theorem trim_render_group {as : List Atom} (h : ∀ a ∈ as, a.WellFormed) :
    ((group as).render leaf).trim = (group as).render leaf :=
  Text.trim_eq_self_of_forall fun _ hc => isBlank_of_mem_render_group hl h hc

/-- What is written for a member is a segment. -/
theorem Segmental.bar_not_mem {t : Ty} (h : Segmental Atom.WellFormed t) :
    '|' ∉ t.written leaf := by
  cases h with
  | atom h => exact hl.not_mem_leaf h (by decide)
  | @group as _ h =>
      have hbar := not_mem_render_group hl h (c := '|') (by decide) (by decide)
      simp [written_group, hbar]

theorem Segmental.trim_written {t : Ty} (h : Segmental Atom.WellFormed t) :
    (t.written leaf).trim = t.written leaf := by
  cases h with
  | atom h => exact hl.trim_leaf h
  | group _ _ => exact Text.trim_enclosed _

/-- A member reads back by itself. -/
theorem Segmental.readsMember {t : Ty} (h : Segmental Atom.WellFormed t) :
    ReadsMember .standard (t.written leaf) t := by
  cases h with
  | atom h => exact .atom (hl.not_mem_leaf h (by decide)) (hl.ofText_leaf h)
  | @group as two h =>
      have hamp : '&' ∈ (Ty.group as).written leaf :=
        List.mem_cons_of_mem _ (List.mem_append_left _ (amp_mem_render_group hl two h))
      exact .group hamp (readsGroup_written hl (List.ne_nil_of_length_pos (by omega)) h)

/-! ### Whole types -/

/-- **Reading what is written.** The text of a type reads as the type, spliced. -/
theorem Writable.reads {t : Ty} (h : t.Writable) : Reads .standard (t.render leaf) t.splice := by
  cases h with
  | @group as two h =>
      -- at the root a group has no parentheses
      refine .group (not_mem_render_group hl h (by decide) (by decide))
        (amp_mem_render_group hl two h) ?_
      rw [trim_render_group hl h]
      exact readsGroup_render hl (List.ne_nil_of_length_pos (by omega)) h
  | @union ts h two =>
      have hsegmental : ∀ u ∈ memberAlternatives ts, Segmental Atom.WellFormed u := by
        rw [memberAlternatives_eq_flatMap]
        intro u hu
        obtain ⟨t, ht, hu⟩ := List.mem_flatMap.mp hu
        exact (h t ht).segmental u hu
      have hparts : ((Ty.combine .union ts).render leaf).parts '|' =
          (memberAlternatives ts).map (written leaf) := by
        have hne : memberAlternatives ts ≠ [] := List.ne_nil_of_length_pos (by omega)
        rw [render_union_eq h, Text.parts_intercalate (mt List.map_eq_nil_iff.mp hne), List.map_map]
        · exact List.map_congr_left fun u hu => (hsegmental u hu).trim_written hl
        · intro s hs
          obtain ⟨u, hu, rfl⟩ := List.mem_map.mp hs
          exact (hsegmental u hu).bar_not_mem hl
      refine .union ?_ ?_
      · rw [← Text.two_le_length_parts, hparts, List.length_map]
        exact two
      · rw [hparts, List.forall₂_map_left_iff, List.forall₂_same]
        exact fun u hu => (hsegmental u hu).readsMember hl

/-- A type that is legal once spliced and put in order is parsed from its text in that form. -/
theorem Writable.parse_render {t : Ty} (h : t.Writable) (hlegal : t.splice.canonical.Legal) :
    parse (t.render leaf) = .ok t.splice.canonical := by
  rw [legal_iff_compatible, compatible_canonical_iff] at hlegal
  exact parse_eq_ok_iff.mpr ⟨t.splice, h.reads hl, hlegal, rfl⟩

/-- The text of any other type is refused. -/
theorem Writable.parse_render_of_not_legal {t : Ty} (h : t.Writable)
    (hlegal : ¬ t.splice.canonical.Legal) :
    ∃ e, parse (t.render leaf) = .error e ∧ e.isIllegal = true := by
  rw [legal_iff_compatible, compatible_canonical_iff] at hlegal
  exact parse_eq_error_of_not_compatible (h.reads hl) hlegal

/-- What was parsed is parsed again from its text. -/
theorem parse_render_of_parse {s : Text} {u : Ty} (h : parse s = .ok u) :
    parse (u.render leaf) = .ok u := by
  obtain ⟨d, hd, hcompatible, rfl⟩ := parse_eq_ok_iff.mp h
  -- what was parsed has nothing to splice and is in order
  have htwo : TwoLevel Atom.WellFormed d.canonical := hd.twoLevel.canonical
  have hself : d.canonical.splice.canonical = d.canonical := by
    rw [htwo.splice_eq, canonical_canonical]
  have hlegal : d.canonical.splice.canonical.Legal := by
    rw [hself, legal_iff_compatible, compatible_canonical_iff]
    exact hcompatible
  have hparse := htwo.writable.parse_render hl hlegal
  rwa [hself] at hparse

end Leaves

/-- **Writing, then parsing, normalises.** Both the declaration and the documentation of a type are
parsed as the type with nested unions spliced and members in order, if that is legal, and else
refused as an illegal combination. A type that was parsed comes back as it was. -/
theorem parse_of_written :
    (∀ t : Ty, t.Writable →
      (t.splice.canonical.Legal →
        parse t.documentation = .ok t.splice.canonical ∧
          parse t.declaration = .ok t.splice.canonical) ∧
      (¬ t.splice.canonical.Legal →
        (∃ e, parse t.documentation = .error e ∧ e.isIllegal = true) ∧
          ∃ e, parse t.declaration = .error e ∧ e.isIllegal = true)) ∧
    ∀ s u, parse s = .ok u → parse u.documentation = .ok u ∧ parse u.declaration = .ok u := by
  refine ⟨fun t ht => ⟨fun hlegal => ?_, fun hlegal => ?_⟩, fun s u hu => ?_⟩
  · exact ⟨ht.parse_render Atom.spells_name hlegal, ht.parse_render Atom.spells_fullName hlegal⟩
  · exact ⟨ht.parse_render_of_not_legal Atom.spells_name hlegal,
      ht.parse_render_of_not_legal Atom.spells_fullName hlegal⟩
  · exact ⟨parse_render_of_parse Atom.spells_name hu, parse_render_of_parse Atom.spells_fullName hu⟩

/-- A union that is nested and out of order, one that is illegal, and a text that is parsed. -/
theorem parse_of_written_instances :
    parse (Ty.combine .union [.combine .union [.atom (.ofKeyword .null),
          group [.ofClass "B".toList, .ofClass "A".toList]],
        .atom (.ofClass "B".toList)]).documentation =
      .ok (.combine .union [.atom (.ofClass "B".toList), .atom (.ofKeyword .null),
        group [.ofClass "A".toList, .ofClass "B".toList]]) ∧
    (∃ e, parse (Ty.combine .union [.atom (.ofKeyword .bool),
        .combine .union [.atom (.ofKeyword .trueValue)]]).declaration = .error e ∧
      e.isIllegal = true) ∧
    parse "int|A".toList =
      .ok (.combine .union [.atom (.ofClass "A".toList), .atom (.ofKeyword .int)]) ∧
    parse (Ty.combine .union
        [.atom (.ofClass "A".toList), .atom (.ofKeyword .int)]).documentation =
      .ok (.combine .union [.atom (.ofClass "A".toList), .atom (.ofKeyword .int)]) := by
  have hnested : Writable (.combine .union [.combine .union [.atom (.ofKeyword .null),
      group [.ofClass "B".toList, .ofClass "A".toList]], .atom (.ofClass "B".toList)]) := by
    refine .union ?_ (by decide)
    refine List.forall_mem_cons.mpr ⟨.union (by simp) ?_, List.forall_mem_singleton.mpr ?_⟩
    · exact List.forall_mem_cons.mpr ⟨.segment (.atom (by decide +kernel)),
        List.forall_mem_singleton.mpr (.segment (.group (by decide) (by decide +kernel)))⟩
    · exact .segment (.atom (by decide +kernel))
  have hcovered : Writable (.combine .union [.atom (.ofKeyword .bool),
      .combine .union [.atom (.ofKeyword .trueValue)]]) := by
    refine .union ?_ (by decide)
    refine List.forall_mem_cons.mpr ⟨.segment (.atom (by decide +kernel)),
      List.forall_mem_singleton.mpr (.union (by simp) (List.forall_mem_singleton.mpr ?_))⟩
    exact .segment (.atom (by decide +kernel))
  have hparsed : parse "int|A".toList =
      .ok (.combine .union [.atom (.ofClass "A".toList), .atom (.ofKeyword .int)]) := by
    decide +kernel
  refine ⟨?_, ?_, hparsed, (parse_of_written.2 _ _ hparsed).1⟩
  · exact ((parse_of_written.1 _ hnested).1 (by decide +kernel)).1.trans (by decide +kernel)
  · exact ((parse_of_written.1 _ hcovered).2 (by decide +kernel)).2

end TypeExpr.Ty
