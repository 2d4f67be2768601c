import TypeExpr.Proofs.Ty.Reading

/-!
# `TypeExpr.Proofs.Ty.TwoLevel`: the shape of what is read

Whatever is read has one of two shapes: a group of two atoms or more, or a union of two members or
more, each an atom or such a group. Nothing is nested deeper. The shape is kept by the canonical
form (`TwoLevel.canonical`), and there is nothing in it to splice (`TwoLevel.splice_eq`).
-/

namespace TypeExpr.Ty

/-- An atom, or a group of two atoms or more, with a condition on the atoms. -/
inductive Segmental (ok : Atom → Prop) : Ty → Prop
  | atom {a : Atom} (h : ok a) : Segmental ok (.atom a)
  | group {as : List Atom} (two : 2 ≤ as.length) (h : ∀ a ∈ as, ok a) : Segmental ok (group as)

/-- A group of two atoms or more, or a union of two members or more that are atoms or such
groups. -/
inductive TwoLevel (ok : Atom → Prop) : Ty → Prop
  | group {as : List Atom} (two : 2 ≤ as.length) (h : ∀ a ∈ as, ok a) : TwoLevel ok (group as)
  | union {ts : List Ty} (two : 2 ≤ ts.length) (h : ∀ t ∈ ts, Segmental ok t) :
      TwoLevel ok (.combine .union ts)

/-! ### What is read -/

/-- Some text is read as the atom. -/
def Readable (rules : Rules) (a : Atom) : Prop := ∃ s, rules.readAtom s = .ok a

variable {rules : Rules} {t : Text} {ok : Atom → Prop}

theorem ReadsGroup.length_eq {as : List Atom} (h : ReadsGroup rules t as) :
    as.length = t.count '&' + 1 := by
  rw [← h.2.length_eq, Text.length_parts, Text.count_unwrap (by decide) (by decide) h.1]

theorem ReadsGroup.two_le {as : List Atom} (h : ReadsGroup rules t as) (hamp : '&' ∈ t) :
    2 ≤ as.length := by
  have hpos : 0 < t.count '&' := List.count_pos_iff.mpr hamp
  rw [h.length_eq]
  omega

theorem ReadsGroup.readable {as : List Atom} (h : ReadsGroup rules t as) :
    ∀ a ∈ as, Readable rules a := by
  intro a ha
  obtain ⟨s, -, hs⟩ := forall₂_exists_of_mem_right h.2 ha
  exact ⟨s, hs⟩

theorem ReadsMember.segmental {d : Ty} (h : ReadsMember rules t d) :
    Segmental (Readable rules) d := by
  cases h with
  | atom _ ha => exact .atom ⟨t, ha⟩
  | group hamp has => exact .group (has.two_le hamp) has.readable

theorem Reads.twoLevel {d : Ty} (h : Reads rules t d) : TwoLevel (Readable rules) d := by
  cases h with
  | group _ hamp has =>
      exact .group (has.two_le (Text.amp_mem_trim.mpr hamp)) has.readable
  | union hbar hts =>
      refine .union ?_ fun u hu => ?_
      · rw [← hts.length_eq, Text.two_le_length_parts]
        exact hbar
      · obtain ⟨s, -, hs⟩ := forall₂_exists_of_mem_right hts hu
        exact hs.segmental

/-! ### Leaves -/

theorem ReadsMember.length_atoms {d : Ty} (h : ReadsMember rules t d) :
    d.atoms.length = t.count '&' + 1 := by
  cases h with
  | atom hamp _ => rw [List.count_eq_zero.mpr hamp, atoms, List.length_singleton]
  | group _ has => rw [atoms_group, has.length_eq]

theorem length_memberAtoms_of_reads {ss : List Text} {ts : List Ty}
    (h : List.Forall₂ (ReadsMember rules) ss ts) :
    (memberAtoms ts).length = ss.flatten.count '&' + ss.length := by
  induction h with
  | nil => rfl
  | cons hs _ ih =>
      rw [memberAtoms, List.length_append, List.flatten_cons, List.count_append, List.length_cons,
        ih, hs.length_atoms]
      omega

/-- **No leaf is lost or repeated.** There is one more than there are separators. -/
theorem Reads.length_atoms {d : Ty} (h : Reads rules t d) :
    d.atoms.length = t.count '|' + t.count '&' + 1 := by
  cases h with
  | group hbar _ has =>
      rw [atoms_group, has.length_eq, Text.count_trim (by decide), List.count_eq_zero.mpr hbar]
      omega
  | union _ hts =>
      rw [atoms, length_memberAtoms_of_reads hts, Text.count_flatten_parts (by decide) (by decide),
        Text.length_parts]
      omega

/-! ### Combinations -/

theorem Segmental.forall_combinations {P : Mode × List Ty → Prop} {d : Ty} (h : Segmental ok d)
    (hgroup : ∀ as : List Atom, 2 ≤ as.length → P (.intersection, as.map .atom)) :
    ∀ c ∈ d.combinations, P c := by
  intro c hc
  cases h with
  | atom _ => exact absurd hc List.not_mem_nil
  | @group as two _ =>
      rw [combinations_group, List.mem_singleton] at hc
      rw [hc]
      exact hgroup as two

/-- What holds of groups and of unions of their kind holds of every combination. -/
theorem TwoLevel.forall_combinations {P : Mode × List Ty → Prop} {d : Ty} (h : TwoLevel ok d)
    (hgroup : ∀ as : List Atom, 2 ≤ as.length → P (.intersection, as.map .atom))
    (hunion : ∀ ts : List Ty, 2 ≤ ts.length → (∀ t ∈ ts, Segmental ok t) → P (.union, ts)) :
    ∀ c ∈ d.combinations, P c := by
  cases h with
  | group two h => exact (Segmental.group two h).forall_combinations hgroup
  | @union ts two h =>
      intro c hc
      rw [combinations] at hc
      rcases List.mem_cons.mp hc with rfl | hc
      · exact hunion ts two h
      · obtain ⟨t, ht, hc⟩ := mem_memberCombinations.mp hc
        exact (h t ht).forall_combinations hgroup c hc

/-! ### Canonical form and splicing -/

theorem Segmental.canonical {d : Ty} (h : Segmental ok d) : Segmental ok d.canonical := by
  cases h with
  | atom h => exact .atom h
  | @group as two h =>
      rw [canonical_group]
      have hperm := sortAtoms_perm as
      exact .group (hperm.length_eq ▸ two) fun a ha => h a (hperm.mem_iff.mp ha)

theorem TwoLevel.canonical {d : Ty} (h : TwoLevel ok d) : TwoLevel ok d.canonical := by
  cases h with
  | @group as two h =>
      rw [canonical_group]
      have hperm := sortAtoms_perm as
      exact .group (hperm.length_eq ▸ two) fun a ha => h a (hperm.mem_iff.mp ha)
  | @union ts two h =>
      rw [canonical_combine]
      refine .union ?_ fun u hu => ?_
      · rw [length_sort, List.length_map]
        exact two
      · obtain ⟨t, ht, rfl⟩ := List.mem_map.mp (mem_sort.mp hu)
        exact (h t ht).canonical

theorem Segmental.alternatives_eq {d : Ty} (h : Segmental ok d) : d.alternatives = [d] := by
  cases h <;> rfl

theorem memberAlternatives_eq_self {ts : List Ty} (h : ∀ t ∈ ts, Segmental ok t) :
    memberAlternatives ts = ts := by
  induction ts with
  | nil => rfl
  | cons t ts ih =>
      rw [memberAlternatives, (h t (by simp)).alternatives_eq,
        ih fun u hu => h u (List.mem_cons_of_mem _ hu), List.singleton_append]

/-- There is nothing to splice in a type of two levels. -/
theorem TwoLevel.splice_eq {d : Ty} (h : TwoLevel ok d) : d.splice = d := by
  cases h with
  | group _ _ => rfl
  | union _ h => rw [splice, memberAlternatives_eq_self h]

end TypeExpr.Ty
