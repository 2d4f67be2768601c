import TypeExpr.Proofs.OrderIndependence

/-!
# `TypeExpr.Proofs.Heredity`: legality pair by pair

Atoms are combined legally just if every two of them are (`accepted_join_iff_pairs`), although each
is checked against all the others at once. Groups in a union do not count there: a union is parsed
just if each group is parsed by itself, and so is the union of the atoms without the groups
(`accepted_join_iff_groups`). A lone atom has nothing to answer to.

So members of a combination can be left out (`accepted_join_of_sublist`,
`Segment.accepted_of_sublist`). Segments are read one by one (`ReadsEach`), and leaving out texts
leaves out what they are read as, while what is left are companions two by two as before.
-/

namespace TypeExpr

/-- The texts with the separator of the mode between them. -/
def Mode.join (mode : Mode) (ts : List Text) : Text := [mode.separator].intercalate ts

namespace Ty

/-- The text is parsed under the standard rules. -/
def Accepted (t : Text) : Prop := ∃ u, parse t = .ok u

instance (t : Text) : Decidable (Accepted t) :=
  match h : parse t with
  | .ok _ => isTrue ⟨_, h⟩
  | .error _ => isFalse fun ⟨_, hu⟩ => nomatch h.symm.trans hu

theorem accepted_iff {t : Text} : Accepted t ↔ ∃ d, Reads .standard t d ∧ d.Compatible := by
  constructor
  · intro h
    obtain ⟨u, hu⟩ := h
    obtain ⟨d, hd, hcompatible, -⟩ := parse_eq_ok_iff.mp hu
    exact ⟨d, hd, hcompatible⟩
  · intro h
    obtain ⟨d, hd, hcompatible⟩ := h
    exact ⟨d.canonical, parse_eq_ok_iff.mpr ⟨d, hd, hcompatible, rfl⟩⟩

/-- A text that is read as a tree is read as no other, so that tree decides. -/
theorem accepted_iff_of_reads {t : Text} {d : Ty} (hd : Reads .standard t d) :
    Accepted t ↔ d.Compatible := by
  constructor
  · intro h
    obtain ⟨u, hu⟩ := h
    exact ((parse_eq_ok_iff_of_reads hd).mp hu).1
  · exact fun h => accepted_iff.mpr ⟨d, hd, h⟩

theorem compatible_map_atom_iff {mode : Mode} {as : List Atom} :
    (combine mode (as.map .atom)).Compatible ↔ as.Pairwise (Atom.Companions mode) := by
  rw [compatible_combine_iff, atomicMembers_map_atom]
  refine and_iff_left fun d hd => ?_
  obtain ⟨a, -, rfl⟩ := List.mem_map.mp hd
  exact compatible_atom a

/-! ### Segments by themselves -/

/-- A group is parsed by itself just if it is read as a compatible member. -/
theorem accepted_iff_of_amp_mem {s : Text} (hbar : '|' ∉ s) (hamp : '&' ∈ s) :
    Accepted s ↔ ∃ d, ReadsMember .standard s.trim d ∧ d.Compatible := by
  constructor
  · intro h
    obtain ⟨d, hd, hcompatible⟩ := accepted_iff.mp h
    cases hd with
    | group _ _ has => exact ⟨_, .group (Text.amp_mem_trim.mpr hamp) has, hcompatible⟩
    | union h _ => exact absurd h hbar
  · intro h
    obtain ⟨d, hd, hcompatible⟩ := h
    cases hd with
    | atom h _ => exact absurd (Text.amp_mem_trim.mpr hamp) h
    | group _ has => exact accepted_iff.mpr ⟨_, .group hbar hamp has, hcompatible⟩

theorem readsMember_atom {s : Text} {a : Atom} (h : Atom.ofText s = .ok a) :
    ReadsMember .standard s.trim (.atom a) := by
  refine .atom ?_ (Atom.ofText_trim_eq_ok_iff.mpr h)
  rw [Text.amp_mem_trim]
  exact Atom.not_mem_of_ofText h (by decide) (by decide)

/-- Texts that are read as atoms hold no character of the syntax around them. -/
theorem plain_of_forall₂_ofText {ss : List Text} {as : List Atom}
    (h : List.Forall₂ (fun s a => Atom.ofText s = .ok a) ss as) :
    ∀ s ∈ ss, ∀ c ∈ ['|', '&', '(', ')'], c ∉ s := by
  intro s hs c hc
  obtain ⟨a, -, ha⟩ := forall₂_exists_of_mem_right h.flip hs
  have hother : isNameChar c = false ∧ isBlank c = false := by
    simp only [List.mem_cons, List.not_mem_nil, or_false] at hc
    rcases hc with rfl | rfl | rfl | rfl <;> decide
  exact Atom.not_mem_of_ofText ha hother.1 hother.2

/-- What the texts are read as, one by one, as segments of a union. -/
def ReadsEach (ss : List Text) (ds : List Ty) : Prop :=
  List.Forall₂ (fun s d => ReadsMember .standard s.trim d) ss ds

/-- The texts that are no groups. -/
def ungrouped (ss : List Text) : List Text := ss.filter fun s => !s.contains '&'

/-- The atoms among the members are what the texts that are no groups are read as. -/
theorem forall₂_atomicMembers {ss : List Text} {ds : List Ty} (h : ReadsEach ss ds) :
    List.Forall₂ (fun s a => Atom.ofText s = .ok a) (ungrouped ss) (atomicMembers ds) := by
  unfold ungrouped
  induction h with
  | nil => exact .nil
  | @cons s d ss ds hd _ ih =>
      cases hd with
      | atom hamp ha =>
          rw [List.filter_cons_of_pos (by simpa using mt Text.amp_mem_trim.mpr hamp)]
          exact .cons (Atom.ofText_trim_eq_ok_iff.mp ha) ih
      | group hamp _ =>
          rw [List.filter_cons_of_neg (by simpa using Text.amp_mem_trim.mp hamp)]
          exact ih

/-! ### Joined texts -/

section Join

variable {mode : Mode} {ss : List Text}

theorem parts_join_union (two : 2 ≤ ss.length) (hbar : ∀ s ∈ ss, '|' ∉ s) :
    (Mode.union.join ss).parts '|' = ss.map Text.trim :=
  Text.parts_intercalate (List.ne_nil_of_length_pos (by omega)) hbar

theorem bar_mem_join_union (two : 2 ≤ ss.length) (hbar : ∀ s ∈ ss, '|' ∉ s) :
    '|' ∈ Mode.union.join ss := by
  rw [← Text.two_le_length_parts, parts_join_union two hbar, List.length_map]
  exact two

theorem reads_join_union (two : 2 ≤ ss.length) (hbar : ∀ s ∈ ss, '|' ∉ s) {ds : List Ty}
    (h : ReadsEach ss ds) : Reads .standard (Mode.union.join ss) (.combine .union ds) := by
  refine .union (bar_mem_join_union two hbar) ?_
  rw [parts_join_union two hbar, List.forall₂_map_left_iff]
  exact h

/-- **Unions.** A union is parsed just if its segments are read as compatible members, and the atoms
among these are companions two by two. -/
theorem accepted_join_union_iff (two : 2 ≤ ss.length) (hbar : ∀ s ∈ ss, '|' ∉ s) :
    Accepted (Mode.union.join ss) ↔ ∃ ds, ReadsEach ss ds ∧
      (atomicMembers ds).Pairwise (Atom.Companions .union) ∧ ∀ d ∈ ds, d.Compatible := by
  constructor
  · intro h
    obtain ⟨d, hd, hcompatible⟩ := accepted_iff.mp h
    cases hd with
    | group hnone _ _ => exact absurd (bar_mem_join_union two hbar) hnone
    | @union ds _ hds =>
        rw [parts_join_union two hbar, List.forall₂_map_left_iff] at hds
        exact ⟨ds, hds, compatible_combine_iff.mp hcompatible⟩
  · intro h
    obtain ⟨ds, hds, h⟩ := h
    exact accepted_iff.mpr ⟨_, reads_join_union two hbar hds, compatible_combine_iff.mpr h⟩

theorem reads_join (two : 2 ≤ ss.length) {as : List Atom}
    (h : List.Forall₂ (fun s a => Atom.ofText s = .ok a) ss as) :
    Reads .standard (mode.join ss) (.combine mode (as.map .atom)) := by
  have hplain := plain_of_forall₂_ofText h
  cases mode with
  | union =>
      refine reads_join_union two (fun s hs => hplain s hs '|' (by simp)) ?_
      rw [ReadsEach, List.forall₂_map_right_iff]
      exact h.imp fun _ _ => readsMember_atom
  | intersection =>
      let s : Segment :=
        ⟨ss, none, List.ne_nil_of_length_pos (by omega), hplain, by simp⟩
      exact Segment.reads_group (s := s) two (Segment.readsGroup_standard_iff.mpr h)

/-! ### Pairs -/

theorem accepted_join_iff (two : 2 ≤ ss.length) {as : List Atom}
    (h : List.Forall₂ (fun s a => Atom.ofText s = .ok a) ss as) :
    Accepted (mode.join ss) ↔ as.Pairwise (Atom.Companions mode) := by
  rw [accepted_iff_of_reads (reads_join two h), compatible_map_atom_iff]

/-- **Pairs decide.** Atoms in a combination are parsed just if every two of them are. -/
theorem accepted_join_iff_pairs (two : 2 ≤ ss.length) (h : ∀ s ∈ ss, ∃ a, Atom.ofText s = .ok a) :
    Accepted (mode.join ss) ↔ ∀ i j (hi : i < ss.length) (hj : j < ss.length), i ≠ j →
      Accepted (mode.join [ss[i], ss[j]]) := by
  obtain ⟨as, has⟩ := exists_forall₂ h
  have hlength := has.length_eq
  have hpair : ∀ i j (hi : i < ss.length) (hj : j < ss.length),
      Accepted (mode.join [ss[i], ss[j]]) ↔ Atom.Companions mode as[i] as[j] := by
    intro i j hi hj
    have hatoms : List.Forall₂ (fun s a => Atom.ofText s = .ok a) [ss[i], ss[j]] [as[i], as[j]] :=
      .cons (has.get hi (hlength ▸ hi)) (.cons (has.get hj (hlength ▸ hj)) .nil)
    rw [accepted_join_iff (by simp) hatoms, List.pairwise_pair]
  rw [accepted_join_iff two has, List.pairwise_iff_getElem]
  constructor
  · intro hpairwise i j hi hj hne
    rw [hpair i j hi hj]
    -- companionship is symmetric, so a pair may be taken in the order of the list
    rcases Nat.lt_or_gt_of_ne hne with hlt | hlt
    · exact hpairwise i j (hlength ▸ hi) (hlength ▸ hj) hlt
    · exact (hpairwise j i (hlength ▸ hj) (hlength ▸ hi) hlt).symm
  · intro haccepted i j hi hj hlt
    rw [← hlength] at hi hj
    exact (hpair i j hi hj).mp (haccepted i j hi hj (Nat.ne_of_lt hlt))

/-! ### Groups and atoms -/

/-- **Groups stand by themselves.** A union is parsed just if each of its groups is, and so is the
union of the atoms alone, if there are two or more. -/
theorem accepted_join_iff_groups (two : 2 ≤ ss.length) (hbar : ∀ s ∈ ss, '|' ∉ s)
    (hatoms : ∀ s ∈ ss, '&' ∉ s → ∃ a, Atom.ofText s = .ok a) :
    Accepted (Mode.union.join ss) ↔ (∀ s ∈ ss, '&' ∈ s → Accepted s) ∧
      (2 ≤ (ungrouped ss).length → Accepted (Mode.union.join (ungrouped ss))) := by
  constructor
  · intro h
    obtain ⟨ds, hds, hpairwise, hcompatible⟩ := (accepted_join_union_iff two hbar).mp h
    refine ⟨fun s hs hamp => ?_, fun htwo => ?_⟩
    · obtain ⟨d, hd, hread⟩ := forall₂_exists_of_mem_right hds.flip hs
      exact (accepted_iff_of_amp_mem (hbar s hs) hamp).mpr ⟨d, hread, hcompatible d hd⟩
    · exact (accepted_join_iff htwo (forall₂_atomicMembers hds)).mpr hpairwise
  · intro h
    obtain ⟨hgroups, hungrouped⟩ := h
    have hmembers : ∀ s ∈ ss, ∃ d, ReadsMember .standard s.trim d ∧ d.Compatible := by
      intro s hs
      by_cases hamp : '&' ∈ s
      · exact (accepted_iff_of_amp_mem (hbar s hs) hamp).mp (hgroups s hs hamp)
      · obtain ⟨a, ha⟩ := hatoms s hs hamp
        exact ⟨.atom a, readsMember_atom ha, compatible_atom a⟩
    obtain ⟨ds, hds⟩ := exists_forall₂ hmembers
    have hread : ReadsEach ss ds := hds.imp fun _ _ hd => hd.1
    have has := forall₂_atomicMembers hread
    refine (accepted_join_union_iff two hbar).mpr ⟨ds, hread, ?_, fun d hd => ?_⟩
    · by_cases htwo : 2 ≤ (ungrouped ss).length
      · exact (accepted_join_iff htwo has).mp (hungrouped htwo)
      -- a lone atom is in no pair
      · rw [has.length_eq] at htwo
        exact List.pairwise_iff_getElem.mpr fun i j _ _ _ => absurd htwo (by omega)
    · obtain ⟨s, -, hcompatible⟩ := forall₂_exists_of_mem_right hds hd
      exact hcompatible.2

/-! ### Members left out -/

/-- Segments can be left out of a union. -/
theorem accepted_join_of_sublist {us : List Text} (hbar : ∀ s ∈ ss, '|' ∉ s)
    (h : Accepted (Mode.union.join ss)) (hsub : us.Sublist ss) (two : 2 ≤ us.length) :
    Accepted (Mode.union.join us) := by
  have htwo : 2 ≤ ss.length := Nat.le_trans two hsub.length_le
  obtain ⟨ds, hds, hpairwise, hcompatible⟩ := (accepted_join_union_iff htwo hbar).mp h
  obtain ⟨es, hes, hread⟩ := exists_sublist_of_forall₂ hds hsub
  refine (accepted_join_union_iff two fun s hs => hbar s (hsub.subset hs)).mpr ⟨es, hread, ?_, ?_⟩
  · exact hpairwise.sublist (hes.filterMap atom?)
  · exact fun e he => hcompatible e (hes.subset he)

end Join
end Ty

namespace Segment

open Ty

/-- A group is parsed just if its texts are read as companions two by two. -/
theorem accepted_text_iff {s : Segment} (two : 2 ≤ s.texts.length) :
    Accepted s.text ↔ ∃ as, List.Forall₂ (fun t a => Atom.ofText t = .ok a) s.texts as ∧
      as.Pairwise (Atom.Companions .intersection) := by
  constructor
  · intro h
    obtain ⟨d, hd, hcompatible⟩ := accepted_iff.mp h
    cases hd with
    | @group as _ _ has =>
        exact ⟨as, readsGroup_standard_iff.mp has, compatible_map_atom_iff.mp hcompatible⟩
    | union hbar _ => exact absurd hbar s.bar_not_mem_text
  · intro h
    obtain ⟨as, has, hpairwise⟩ := h
    exact accepted_iff.mpr ⟨_, reads_group two (readsGroup_standard_iff.mpr has),
      compatible_map_atom_iff.mpr hpairwise⟩

/-- Texts can be left out of a group, and parentheses put around it or taken away. -/
theorem accepted_of_sublist {s s' : Segment} (h : Accepted s.text)
    (hsub : s'.texts.Sublist s.texts) (two : 2 ≤ s'.texts.length) : Accepted s'.text := by
  obtain ⟨as, has, hpairwise⟩ := (accepted_text_iff (Nat.le_trans two hsub.length_le)).mp h
  obtain ⟨bs, hbs, hread⟩ := exists_sublist_of_forall₂ has hsub
  exact (accepted_text_iff two).mpr ⟨bs, hread, hpairwise.sublist hbs⟩

/-- Every text of a group that is parsed is the text of a segment. -/
theorem exists_text_eq {t : Text} (hbar : '|' ∉ t) (h : Accepted t) :
    ∃ s : Segment, s.text = t := by
  obtain ⟨d, hd, -⟩ := accepted_iff.mp h
  cases hd with
  | union h _ => exact absurd h hbar
  | @group as _ _ has =>
      obtain ⟨hclosed, hparts⟩ := has
      have hplain : ∀ {inner : Text},
          List.Forall₂ (fun s a => Rules.standard.readAtom s = .ok a) (inner.parts '&') as →
          ∀ s ∈ inner.splitOn '&', ∀ c ∈ ['|', '&', '(', ')'], c ∉ s := fun h =>
        plain_of_forall₂_ofText ((List.forall₂_map_left_iff.mp h).imp
          fun _ _ => Atom.ofText_trim_eq_ok_iff.mp)
      rcases Text.unwrap_eq_or hclosed with hbare | henclosed
      · rw [hbare, Text.parts_trim (by decide)] at hparts
        let s : Segment := ⟨t.splitOn '&', none, List.splitOn_ne_nil '&' t, hplain hparts, by simp⟩
        exact ⟨s, List.intercalate_splitOn '&'⟩
      · obtain ⟨before, after, ht, -, hbefore, hafter⟩ := Text.exists_eq_trim t
        let s : Segment := ⟨t.trim.unwrap.splitOn '&', some (before, after),
          List.splitOn_ne_nil '&' _, hplain hparts, by simpa using ⟨hbefore, hafter⟩⟩
        have hbody : s.body = t.trim.unwrap := List.intercalate_splitOn '&'
        refine ⟨s, ?_⟩
        rw [text_of_some rfl, hbody, ← henclosed]
        exact ht.symm

end Segment

/-! ### Legality -/

/-- **Legality is pairwise and hereditary.** Atoms in a union, or in an intersection, are parsed
just if every two of them are. A union whose segments are groups and atoms is parsed just if each
group is parsed by itself and, if there are two atoms or more, the union of the atoms is. So
segments can be left out of a union, and texts out of a group, as long as two are left. Whatever is
parsed and is no union is a group of this kind. -/
theorem legality_pairwise_and_hereditary :
    (∀ (mode : Mode) (ts : List Text), 2 ≤ ts.length → (∀ t ∈ ts, ∃ a, Atom.ofText t = .ok a) →
      (Ty.Accepted (mode.join ts) ↔ ∀ i j (hi : i < ts.length) (hj : j < ts.length), i ≠ j →
        Ty.Accepted (mode.join [ts[i], ts[j]]))) ∧
    (∀ t : Text, '|' ∈ t → (∀ s ∈ t.splitOn '|', '&' ∉ s → ∃ a, Atom.ofText s = .ok a) →
      (Ty.Accepted t ↔ (∀ s ∈ t.splitOn '|', '&' ∈ s → Ty.Accepted s) ∧
        (2 ≤ (Ty.ungrouped (t.splitOn '|')).length →
          Ty.Accepted (Mode.union.join (Ty.ungrouped (t.splitOn '|')))))) ∧
    (∀ t : Text, '|' ∈ t → Ty.Accepted t → ∀ us : List Text, us.Sublist (t.splitOn '|') →
      2 ≤ us.length → Ty.Accepted (Mode.union.join us)) ∧
    (∀ t : Text, '|' ∉ t → Ty.Accepted t → ∃ s : Segment, s.text = t) ∧
    ∀ s s' : Segment, Ty.Accepted s.text → s'.texts.Sublist s.texts → 2 ≤ s'.texts.length →
      Ty.Accepted s'.text := by
  -- a text is the union of its segments, none of which holds a bar
  have hjoin : ∀ t : Text, Mode.union.join (t.splitOn '|') = t :=
    fun _ => List.intercalate_splitOn '|'
  have hbar : ∀ t : Text, ∀ s ∈ t.splitOn '|', '|' ∉ s := fun t s => Text.not_mem_of_mem_splitOn
  have htwo : ∀ t : Text, '|' ∈ t → 2 ≤ (t.splitOn '|').length := by
    intro t ht
    rw [← Text.two_le_length_parts, Text.parts, List.length_map] at ht
    exact ht
  refine ⟨fun mode ts two h => Ty.accepted_join_iff_pairs two h, fun t ht hatoms => ?_,
    fun t ht h us hsub two => ?_, fun t ht h => Segment.exists_text_eq ht h,
    fun s s' h hsub two => Segment.accepted_of_sublist h hsub two⟩
  · conv => lhs; rw [← hjoin t]
    exact Ty.accepted_join_iff_groups (htwo t ht) (hbar t) hatoms
  · rw [← hjoin t] at h
    exact Ty.accepted_join_of_sublist (hbar t) h hsub two

/-- A pair in a union, an intersection with a bad pair, a union with a bad group, and segments and
texts left out. -/
theorem legality_pairwise_and_hereditary_instances :
    Ty.Accepted "null|A".toList ∧ ¬ Ty.Accepted "A&B&a".toList ∧
    ¬ Ty.Accepted "A|( B&int )|null".toList ∧ Ty.Accepted "( B&C )|null".toList ∧
    (∃ s : Segment, s.text = " (A& B) ".toList) ∧ Ty.Accepted "A&C".toList := by
  let enclosed : Segment :=
    ⟨["A".toList, "B".toList, "C".toList], some ([], []), by simp, by simp, by simp⟩
  let bare : Segment := ⟨["A".toList, "C".toList], none, by simp, by simp, by simp⟩
  refine ⟨?_, ?_, ?_, ?_, ?_, ?_⟩
  · have hatoms : ∀ t ∈ ["A".toList, "int".toList, "null".toList], ∃ a, Atom.ofText t = .ok a := by
      refine List.forall_mem_cons.mpr ⟨⟨.ofClass "A".toList, ?_⟩, List.forall_mem_cons.mpr
        ⟨⟨.ofKeyword .int, ?_⟩, List.forall_mem_singleton.mpr ⟨.ofKeyword .null, ?_⟩⟩⟩
      · decide +kernel
      · decide +kernel
      · decide +kernel
    have hpairs := (legality_pairwise_and_hereditary.1 .union _ (by decide) hatoms).mp
      (by decide +kernel)
    exact hpairs 2 0 (by decide) (by decide) (by decide)
  · have hatoms : ∀ t ∈ ["A".toList, "B".toList, "a".toList], ∃ a, Atom.ofText t = .ok a := by
      refine List.forall_mem_cons.mpr ⟨⟨.ofClass "A".toList, ?_⟩, List.forall_mem_cons.mpr
        ⟨⟨.ofClass "B".toList, ?_⟩, List.forall_mem_singleton.mpr ⟨.ofClass "a".toList, ?_⟩⟩⟩
      · decide +kernel
      · decide +kernel
      · decide +kernel
    intro h
    have hpairs := (legality_pairwise_and_hereditary.1 .intersection _ (by decide) hatoms).mp h
    exact absurd (hpairs 0 2 (by decide) (by decide) (by decide)) (by decide +kernel)
  · have hatoms : ∀ s ∈ List.splitOn '|' "A|( B&int )|null".toList, '&' ∉ s →
        ∃ a, Atom.ofText s = .ok a := by
      have hsplit : List.splitOn '|' "A|( B&int )|null".toList =
          ["A".toList, "( B&int )".toList, "null".toList] := by decide +kernel
      rw [hsplit]
      refine List.forall_mem_cons.mpr ⟨fun _ => ⟨.ofClass "A".toList, ?_⟩, List.forall_mem_cons.mpr
        ⟨fun h => absurd (by decide) h, List.forall_mem_singleton.mpr fun _ =>
          ⟨.ofKeyword .null, ?_⟩⟩⟩
      · decide +kernel
      · decide +kernel
    intro h
    have hgroups := ((legality_pairwise_and_hereditary.2.1 _ (by decide) hatoms).mp h).1
    exact absurd (hgroups "( B&int )".toList (by decide +kernel) (by decide)) (by decide +kernel)
  · exact legality_pairwise_and_hereditary.2.2.1 "A|( B&C )|null".toList (by decide)
      (by decide +kernel) ["( B&C )".toList, "null".toList] (by decide +kernel) (by decide)
  · exact legality_pairwise_and_hereditary.2.2.2.1 _ (by decide) (by decide +kernel)
  · exact legality_pairwise_and_hereditary.2.2.2.2 enclosed bare (by decide +kernel)
      (by decide +kernel) (by decide)

end TypeExpr
