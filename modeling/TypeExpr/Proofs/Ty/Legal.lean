import TypeExpr.Proofs.Atom.Company
import TypeExpr.Proofs.Ty.Reading

/-!
# `TypeExpr.Proofs.Ty.Legal`: legal types

A type is **legal** if every atom in it that has siblings is accepted beside them. This is what the
standard rules approve of (`approved_standard_iff_legal`). Asked of all siblings at once, it amounts
to a condition on pairs: a type is **compatible** if the atoms of each combination are companions
two by two (`legal_iff_compatible`), which does not depend on the order of members
(`compatible_canonical_iff`).
-/

namespace TypeExpr

/-! ### Verdicts of the standard rules -/

namespace Rules

/-- Atoms pass the standard rules just if they are companions two by two. -/
theorem verdict_standard_eq_ok_iff {mode : Mode} {as : List Atom} :
    standard.verdict mode as = .ok () ↔ as.Pairwise (Atom.Companions mode) := by
  rw [verdict_eq_ok_iff]
  refine Iff.trans ?_ (Ty.forall_withOthers_iff (R := Atom.Tolerates mode))
  refine forall₂_congr fun p _ => ?_
  cases hp : p.2 with
  | nil => simp
  | cons o os =>
      have hne : o :: os ≠ [] := List.cons_ne_nil o os
      exact ⟨fun h => (Atom.check_eq_ok_iff_tolerates hne).mp (h hne),
        fun h _ => (Atom.check_eq_ok_iff_tolerates hne).mpr h⟩

theorem isIllegal_of_verdict {mode : Mode} {as : List Atom} {e : Error}
    (h : standard.verdict mode as = .error e) : e.isIllegal = true := by
  obtain ⟨before, p, after, -, -, hp⟩ := forM_eq_error_iff.mp h
  split at hp
  · cases hp
  · obtain ⟨c, -, rfl⟩ := Atom.check_eq_error hp
    rfl

end Rules

namespace Ty

/-! ### Legal and compatible types -/

/-- Every atom that has siblings in a combination is accepted beside them. -/
def Legal (t : Ty) : Prop :=
  ∀ c ∈ t.combinations, ∀ p ∈ withOthers (atomicMembers c.2), p.2 ≠ [] →
    p.1.accepts c.1 p.2 = true

instance (t : Ty) : Decidable t.Legal :=
  inferInstanceAs (Decidable (∀ c ∈ t.combinations, ∀ p ∈ withOthers (atomicMembers c.2),
    p.2 ≠ [] → p.1.accepts c.1 p.2 = true))

/-- The atoms of every combination are companions two by two. -/
def Compatible (t : Ty) : Prop :=
  ∀ c ∈ t.combinations, (atomicMembers c.2).Pairwise (Atom.Companions c.1)

theorem approved_standard_iff_legal {t : Ty} : t.Approved .standard ↔ t.Legal := by
  refine forall₂_congr fun c _ => ?_
  rw [Rules.verdict_eq_ok_iff]
  refine forall₂_congr fun p _ => forall_congr' fun _ => ?_
  exact Atom.check_eq_ok_iff

theorem approved_standard_iff_compatible {t : Ty} : t.Approved .standard ↔ t.Compatible :=
  forall₂_congr fun _ _ => Rules.verdict_standard_eq_ok_iff

theorem legal_iff_compatible {t : Ty} : t.Legal ↔ t.Compatible := by
  rw [← approved_standard_iff_legal, approved_standard_iff_compatible]

theorem compatible_combine_iff {mode : Mode} {ts : List Ty} :
    (combine mode ts).Compatible ↔
      (atomicMembers ts).Pairwise (Atom.Companions mode) ∧ ∀ t ∈ ts, t.Compatible := by
  unfold Compatible
  rw [combinations, List.forall_mem_cons]
  refine and_congr_right fun _ => ?_
  constructor
  · exact fun h t ht c hc => h c (mem_memberCombinations.mpr ⟨t, ht, hc⟩)
  · intro h c hc
    obtain ⟨t, ht, hc⟩ := mem_memberCombinations.mp hc
    exact h t ht c hc

theorem compatible_atom (a : Atom) : (Ty.atom a).Compatible :=
  fun _ hc => absurd hc List.not_mem_nil

theorem atomicMembers_canonicalMembers (ts : List Ty) :
    atomicMembers (canonicalMembers ts) = atomicMembers ts := by
  induction ts with
  | nil => rfl
  | cons t ts ih =>
      unfold atomicMembers at ih ⊢
      rw [canonicalMembers, List.filterMap_cons, List.filterMap_cons, ih]
      cases t <;> rfl

mutual
/-- Putting members in order changes nothing about compatibility. -/
theorem compatible_canonical_iff : ∀ (t : Ty), t.canonical.Compatible ↔ t.Compatible
  | .atom a => Iff.rfl
  | .combine mode ts => by
      -- companionship is symmetric, so the order of atoms does not matter to it
      have hperm : (atomicMembers (sort (canonicalMembers ts))).Perm (atomicMembers ts) :=
        atomicMembers_canonicalMembers ts ▸ atomicMembers_perm (sort_perm _)
      have hmembers := compatible_canonicalMembers_iff ts
      rw [canonical, compatible_combine_iff, compatible_combine_iff,
        hperm.pairwise_iff Atom.Companions.symm, ← hmembers]
      exact and_congr_right fun _ => forall_congr' fun t => by rw [mem_sort]

theorem compatible_canonicalMembers_iff : ∀ (ts : List Ty),
    (∀ t ∈ canonicalMembers ts, t.Compatible) ↔ ∀ t ∈ ts, t.Compatible
  | [] => Iff.rfl
  | t :: ts => by
      rw [canonicalMembers, List.forall_mem_cons, List.forall_mem_cons,
        compatible_canonical_iff t, compatible_canonicalMembers_iff ts]
end

/-! ### Parsing under the standard rules -/

theorem finish_standard_eq_ok_iff {d u : Ty} :
    finish .standard d = .ok u ↔ d.Compatible ∧ u = d.canonical := by
  rw [finish_eq_ok_iff, approved_standard_iff_compatible]
  constructor
  · intro h
    obtain ⟨rfl, hu⟩ := h
    exact ⟨(compatible_canonical_iff d).mp hu, rfl⟩
  · intro h
    obtain ⟨hd, rfl⟩ := h
    exact ⟨rfl, (compatible_canonical_iff d).mpr hd⟩

theorem parse_eq_ok_iff {t : Text} {u : Ty} :
    parse t = .ok u ↔ ∃ d, Reads .standard t d ∧ d.Compatible ∧ u = d.canonical := by
  rw [parse, parseWith_eq_ok_iff]
  refine exists_congr fun d => and_congr_right fun _ => ?_
  rw [← finish_standard_eq_ok_iff, finish_eq_ok_iff]

theorem unplaced_parse_of_reads {t : Text} {d : Ty} (hd : Reads .standard t d) :
    unplaced (parse t) = unplaced (finish .standard d) := by
  rw [← build_of_reads hd]
  exact unplaced_parseWith .standard t

/-- A text that is read as a tree is parsed just if the tree is compatible. -/
theorem parse_eq_ok_iff_of_reads {t : Text} {d : Ty} (hd : Reads .standard t d) {u : Ty} :
    parse t = .ok u ↔ d.Compatible ∧ u = d.canonical := by
  rw [eq_ok_iff_of_unplaced_eq (unplaced_parse_of_reads hd), finish_standard_eq_ok_iff]

/-- A union of compatible members fails only with the verdict on the atoms among them. -/
theorem finish_union_of_compatible {ds : List Ty} (h : ∀ d ∈ ds, d.Compatible) :
    finish .standard (.combine .union ds) = settle .standard .union (ds.map canonical) := by
  have hmembers : ds.mapM (finish .standard) = .ok (ds.map canonical) := by
    rw [mapM_eq_ok_iff, List.forall₂_map_right_iff, List.forall₂_same]
    exact fun d hd => finish_standard_eq_ok_iff.mpr ⟨h d hd, rfl⟩
  rw [finish_combine, hmembers]
  rfl

/-- A text that is read as an incompatible tree is refused as an illegal combination. -/
theorem parse_eq_error_of_not_compatible {t : Text} {d : Ty} (hd : Reads .standard t d)
    (h : ¬ d.Compatible) : ∃ e, parse t = .error e ∧ e.isIllegal = true := by
  -- parsing can only fail with a verdict, and it cannot succeed
  cases ht : parse t with
  | ok u => exact absurd ((parse_eq_ok_iff_of_reads hd).mp ht).1 h
  | error e =>
      obtain ⟨e', hfinish, hfault, -⟩ := parseWith_eq_error_of_reads hd ht
      obtain ⟨c, -, hverdict⟩ := finish_eq_error hfinish
      exact ⟨e, rfl, Error.isIllegal_eq_of_fault_eq hfault ▸ Rules.isIllegal_of_verdict hverdict⟩

end Ty
end TypeExpr
