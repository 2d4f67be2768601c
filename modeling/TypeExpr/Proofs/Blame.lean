import TypeExpr.Proofs.Heredity

/-!
# `TypeExpr.Proofs.Blame`: whom a refusal blames

When a composite type is refused as an illegal combination, the error names one atom and some of its
siblings. The blame is just (`refusal_blames_first`): the atom is the first in canonical order,
among the atoms of one combination, that objects to the others; what it is in conflict with stands
beside it in that combination; and with any one of them alone it is refused as well.

The atoms of one combination are found in the text (`Ty.Siblings`). That the first in order to
object is the one to be blamed is a property of the verdict on a list of atoms
(`Rules.verdict_standard_eq_error`), and that nobody innocent is named is one of the rules on pairs
(`Atom.culprits_of_conflict?`).
-/

namespace TypeExpr

/-! ### The first atom to object -/

/-- An entry in the list of entries and their others stands where it stands in the list itself, and
those before it are listed before it. -/
theorem Ty.exists_of_withOthers_eq {α : Type} {xs : List α} {ps qs : List (α × List α)}
    {p : α × List α} (h : withOthers xs = ps ++ p :: qs) :
    ∃ before after, xs = before ++ p.1 :: after ∧ p.2 = before ++ after ∧
      ∀ earlier y later, before = earlier ++ y :: later →
        (y, earlier ++ later ++ p.1 :: after) ∈ ps := by
  induction xs generalizing ps p qs with
  | nil => simp [withOthers] at h
  | cons x xs ih =>
      rw [withOthers] at h
      cases ps with
      | nil =>
          obtain ⟨rfl, -⟩ := List.cons.inj h
          exact ⟨[], xs, rfl, rfl, fun earlier y later hnil => by simp at hnil⟩
      | cons p₀ ps =>
          obtain ⟨rfl, hmap⟩ := List.cons.inj h
          obtain ⟨ps', rest, hxs, rfl, hcons⟩ := List.map_eq_append_iff.mp hmap
          obtain ⟨p', qs', rfl, rfl, -⟩ := List.map_eq_cons_iff.mp hcons
          obtain ⟨before, after, hsplit, hothers, hbefore⟩ := ih hxs
          refine ⟨x :: before, after, by rw [hsplit]; rfl, by rw [hothers]; rfl, ?_⟩
          intro earlier y later hcut
          -- `x` has all the rest as its others, and what comes after it has `x` among them
          cases earlier with
          | nil =>
              obtain ⟨rfl, rfl⟩ := List.cons.inj hcut
              rw [hsplit]
              exact List.mem_cons_self ..
          | cons z earlier =>
              obtain ⟨rfl, hrest⟩ := List.cons.inj hcut
              exact List.mem_cons_of_mem _
                (List.mem_map.mpr ⟨_, hbefore earlier y later hrest, rfl⟩)

/-- The verdict on atoms that do not pass is that of the first to object to the others. -/
theorem Rules.verdict_standard_eq_error {mode : Mode} {as : List Atom} {e : Error}
    (h : standard.verdict mode as = .error e) :
    ∃ before a after, as = before ++ a :: after ∧ before ++ after ≠ [] ∧
      Atom.check mode a (before ++ after) = .error e ∧
      ∀ earlier b later, before = earlier ++ b :: later →
        Atom.check mode b (earlier ++ later ++ a :: after) = .ok () := by
  obtain ⟨ps, ⟨a, others⟩, qs, hpairs, hpassed, hrefused⟩ := forM_eq_error_iff.mp h
  obtain ⟨before, after, has, rfl, hbefore⟩ := Ty.exists_of_withOthers_eq hpairs
  split at hrefused
  · cases hrefused
  · next hne =>
      refine ⟨before, a, after, has, by simpa using hne, hrefused, fun earlier b later hcut => ?_⟩
      have hb := hpassed _ (hbefore earlier b later hcut)
      rwa [if_neg (by simp)] at hb

/-! ### Combinations in a text -/

namespace Ty

/-- The atoms of one combination in a text, in the order of the text: those of a union, those of a
group that is the whole text, or those of a group that is a segment of a union. -/
inductive Siblings (t : Text) : Mode → List Atom → Prop
  | union {as : List Atom} (hbar : '|' ∈ t)
      (h : List.Forall₂ (fun s a => Atom.ofText s = .ok a) (ungrouped (t.splitOn '|')) as) :
      Siblings t .union as
  | group {as : List Atom} (hbar : '|' ∉ t) (hamp : '&' ∈ t) (h : ReadsGroup .standard t.trim as) :
      Siblings t .intersection as
  | nested {s : Text} {as : List Atom} (hbar : '|' ∈ t) (hs : s ∈ t.splitOn '|') (hamp : '&' ∈ s)
      (h : ReadsGroup .standard s.trim as) : Siblings t .intersection as

theorem Siblings.wellFormed {t : Text} {mode : Mode} {as : List Atom} (h : Siblings t mode as) :
    ∀ a ∈ as, a.WellFormed := by
  intro a ha
  cases h with
  | union _ h =>
      obtain ⟨s, -, hs⟩ := forall₂_exists_of_mem_right h ha
      exact ⟨s, hs⟩
  | group _ _ h => exact h.readable a ha
  | nested _ _ _ h => exact h.readable a ha

theorem settle_eq_error_iff {rules : Rules} {mode : Mode} {ts : List Ty} {e : Error} :
    settle rules mode ts = .error e ↔
      rules.verdict mode (sortAtoms (atomicMembers ts)) = .error e := by
  rw [settle, bind_eq_error_iff, atomicMembers_sort]
  refine or_iff_left fun h => ?_
  obtain ⟨_, -, h⟩ := h
  cases h

theorem isIllegal_of_ofText {s : Text} {e : Error} (h : Atom.ofText s = .error e) :
    e.isIllegal = false := by
  rw [Atom.ofText_eq_error h]
  rfl

variable {t : Text} {e : Error}

/-- Once its atoms are read, a group is refused only if they do not pass. -/
theorem verdict_of_buildGroup (h : buildGroup .standard t = .error e)
    (hillegal : e.isIllegal = true) :
    ∃ as, ReadsGroup .standard t as ∧
      Rules.standard.verdict .intersection (sortAtoms as) = .error e := by
  by_cases hread : ∃ as, ReadsGroup .standard t as
  · obtain ⟨as, has⟩ := hread
    rw [buildGroup_of_readsGroup has, finish_group, settle_eq_error_iff,
      atomicMembers_map_atom] at h
    exact ⟨as, has, h⟩
  · unfold buildGroup at h
    split at h
    · cases h
      cases hillegal
    · next hclosed =>
        rcases bind_eq_error_iff.mp h with h | ⟨ts, hts, -⟩
        · obtain ⟨s, -, hs⟩ := exists_mem_of_mapM_eq_error h
          rw [isIllegal_of_ofText (map_eq_error_iff.mp hs)] at hillegal
          cases hillegal
        · obtain ⟨as, has⟩ := exists_forall₂_of_mapM (fun s u hu => (map_eq_ok_iff.mp hu).imp
            fun _ => And.left) hts
          exact absurd ⟨as, eq_false_of_ne_true hclosed, has⟩ hread

/-- A segment of a union is refused only as a group. -/
theorem verdict_of_buildMember (h : buildMember .standard t = .error e)
    (hillegal : e.isIllegal = true) :
    '&' ∈ t ∧ ∃ as, ReadsGroup .standard t as ∧
      Rules.standard.verdict .intersection (sortAtoms as) = .error e := by
  unfold buildMember at h
  split at h
  · next hamp => exact ⟨by simpa using hamp, verdict_of_buildGroup h hillegal⟩
  · rw [isIllegal_of_ofText (map_eq_error_iff.mp h)] at hillegal
    cases hillegal

/-- Once its segments are built, a union is refused only if the atoms among them do not pass. -/
theorem verdict_of_settle_union {us : List Ty}
    (hus : (t.parts '|').mapM (buildMember .standard) = .ok us)
    (h : settle .standard .union us = .error e) :
    ∃ as, List.Forall₂ (fun s a => Atom.ofText s = .ok a) (ungrouped (t.splitOn '|')) as ∧
      Rules.standard.verdict .union (sortAtoms as) = .error e := by
  obtain ⟨ds, hds⟩ := exists_forall₂_of_mapM (fun _ _ => readsMember_of_buildMember) hus
  have hread : ReadsEach (t.splitOn '|') ds := List.forall₂_map_left_iff.mp hds
  rw [mapM_buildMember hds, ← finishMembers_eq_mapM] at hus
  obtain ⟨rfl, -⟩ := finishMembers_eq_ok_iff.mp hus
  rw [settle_eq_error_iff, atomicMembers_canonicalMembers] at h
  exact ⟨atomicMembers ds, forall₂_atomicMembers hread, h⟩

/-- A text is refused as an illegal combination only if the atoms of some combination in it do not
pass. -/
theorem verdict_of_build (h : build .standard t = .error e) (hillegal : e.isIllegal = true) :
    ∃ mode as, Siblings t mode as ∧ Rules.standard.verdict mode (sortAtoms as) = .error e := by
  unfold build at h
  split at h
  · cases h
    cases hillegal
  · next hcomposite =>
      split at h
      · next hbar =>
          have hbar : '|' ∈ t := by simpa using hbar
          rcases bind_eq_error_iff.mp h with h | ⟨us, hus, h⟩
          · obtain ⟨_, hs, h⟩ := exists_mem_of_mapM_eq_error h
            obtain ⟨s, hsegment, rfl⟩ := List.mem_map.mp hs
            obtain ⟨hamp, as, has, hverdict⟩ := verdict_of_buildMember h hillegal
            exact ⟨_, as, .nested hbar hsegment (Text.amp_mem_trim.mp hamp) has, hverdict⟩
          · obtain ⟨as, has, hverdict⟩ := verdict_of_settle_union hus h
            exact ⟨_, as, .union hbar has, hverdict⟩
      · next hbar =>
          have hbar : '|' ∉ t := by simpa using hbar
          have hcomposite : t.isComposite = true := by simpa using hcomposite
          have hamp : '&' ∈ t := (Text.isComposite_iff.mp hcomposite).resolve_left hbar
          obtain ⟨as, has, hverdict⟩ := verdict_of_buildGroup h hillegal
          exact ⟨_, as, .group hbar hamp has, hverdict⟩

/-! ### Pairs -/

/-- Two atoms of which one does not tolerate the other are refused when they stand alone. -/
theorem parse_pair_of_not_tolerates {mode : Mode} {a o : Atom} (ha : a.WellFormed)
    (ho : o.WellFormed) (h : ¬ a.Tolerates mode o) :
    ∃ e, parse (mode.join [a.name, o.name]) = .error e ∧ e.isIllegal = true := by
  have hatoms : List.Forall₂ (fun s a => Atom.ofText s = .ok a) [a.name, o.name] [a, o] :=
    .cons (Atom.spells_name.ofText_leaf ha) (.cons (Atom.spells_name.ofText_leaf ho) .nil)
  refine parse_eq_error_of_not_compatible (reads_join (by simp) hatoms) fun hcompatible => h ?_
  exact (List.pairwise_pair.mp (compatible_map_atom_iff.mp hcompatible)).1

end Ty

/-! ### Blame -/

/-- The error justly blames an atom that stands between others in the order in which atoms answer to
each other: it is what the atom's check says, none of the atoms before it is refused, and each
sibling it names is one of the others and, alone with the atom, is refused company. -/
structure Error.BlamesFirst (e : Error) (mode : Mode) (before : List Atom) (a : Atom)
    (after : List Atom) : Prop where
  text_eq : e.text = a.name
  conflicts_ne_nil : e.conflicts ≠ []
  conflicts_sublist : e.conflicts.Sublist ((before ++ after).map Atom.name)
  pair_refused : ∀ name ∈ e.conflicts,
    ∃ e', Ty.parse (mode.join [e.text, name]) = .error e' ∧ e'.isIllegal = true
  refused : Atom.check mode a (before ++ after) = .error e.unplaced
  first : ∀ earlier b later, before = earlier ++ b :: later →
    Atom.check mode b (earlier ++ later ++ a :: after) = .ok ()

/-- **Blame is just.** If a text is refused as an illegal combination, the error blames the first
atom, in canonical order, that objects to its siblings in some combination of the text; and it
names, of these siblings, one or more with any of which alone the atom is refused as well. -/
theorem refusal_blames_first {t : Text} {e : Error} (h : Ty.parse t = .error e)
    (hillegal : e.isIllegal = true) :
    ∃ mode as before a after, Ty.Siblings t mode as ∧ Ty.sortAtoms as = before ++ a :: after ∧
      e.BlamesFirst mode before a after := by
  obtain ⟨e', hbuild, hfault, htext⟩ :=
    exists_error_of_unplaced_eq (Ty.unplaced_parseWith .standard t) h
  rw [← Error.isIllegal_eq_of_fault_eq hfault] at hillegal
  -- the verdict on one combination is the check of one atom in it
  obtain ⟨mode, as, hsiblings, hverdict⟩ := Ty.verdict_of_build hbuild hillegal
  obtain ⟨before, a, after, has, hne, hcheck, hfirst⟩ := Rules.verdict_standard_eq_error hverdict
  obtain ⟨c, hconflict, rfl⟩ := Atom.check_eq_error hcheck
  have hculprits := Atom.culprits_of_conflict? hconflict
  have hconflicts : e.conflicts = c.culprits.map Atom.name := by
    rw [Error.conflicts, ← hfault]
    rfl
  have hplaced : e.unplaced = a.blame c := by
    rw [Error.unplaced, ← hfault, ← htext]
    rfl
  have hwell : ∀ b ∈ before ++ a :: after, b.WellFormed := fun b hb =>
    hsiblings.wellFormed b ((Ty.sortAtoms_perm as).subset (has ▸ hb))
  refine ⟨mode, as, before, a, after, hsiblings, has, htext.symm, ?_, ?_, ?_, ?_, hfirst⟩
  · rw [hconflicts]
    exact mt List.map_eq_nil_iff.mp (hculprits.ne_nil hne)
  · rw [hconflicts]
    exact hculprits.sublist.map Atom.name
  · intro name hname
    rw [hconflicts] at hname
    obtain ⟨o, ho, rfl⟩ := List.mem_map.mp hname
    have hother : o ∈ before ++ after := hculprits.sublist.subset ho
    rw [← htext]
    refine Ty.parse_pair_of_not_tolerates (hwell a (by simp)) (hwell o ?_)
      (hculprits.not_tolerates o ho)
    rw [List.mem_append, List.mem_cons]
    exact (List.mem_append.mp hother).imp_right .inr
  · rw [hplaced]
    exact hcheck

/-- A keyword blamed in a group within a union, after the two classes beside it were accepted; and a
keyword blamed in a union, for two of its four siblings. -/
theorem refusal_blames_first_instances :
    (∃ mode as before a after, Ty.Siblings "null|( c & INT & b )|b".toList mode as ∧
      Ty.sortAtoms as = before ++ a :: after ∧
      Error.BlamesFirst ⟨.illegal .notIntersectable ["b".toList, "c".toList], "int".toList,
        some ⟨11, 14⟩⟩ mode before a after) ∧
    ∃ mode as before a after, Ty.Siblings "A|true|bool|x|False".toList mode as ∧
      Ty.sortAtoms as = before ++ a :: after ∧
      Error.BlamesFirst ⟨.illegal .covers ["false".toList, "true".toList], "bool".toList,
        some ⟨7, 11⟩⟩ mode before a after :=
  ⟨refusal_blames_first (by decide +kernel) rfl, refusal_blames_first (by decide +kernel) rfl⟩

end TypeExpr
