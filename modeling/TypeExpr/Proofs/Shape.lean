import TypeExpr.Proofs.Ty.Legal
import TypeExpr.Proofs.Ty.TwoLevel

/-!
# `TypeExpr.Proofs.Shape`: what a parsed type looks like

Whatever rules are given, what a parser returns is **well-shaped**: every combination has two
members or more, in canonical order and atoms first, and only a union holds combinations, which are
intersections. It is also **built from** the text: cutting the text at separators and trimming the
parts gives the members, each once. So there are as many leaves as the separators call for.

None of this asks anything of the rules: a reader of atoms may accept texts with parentheses in
them, and name and rank the atoms as it likes. The standard rules add that atoms in one combination
go up strictly, and are told apart by their names in lower case.
-/

namespace TypeExpr

/-- Whether an atom stands before another one by precedence and then by name. -/
def Atom.Precedes (a b : Atom) : Prop :=
  a.precedence < b.precedence ∨
    a.precedence = b.precedence ∧ a.name.le b.name = true ∧ a.name ≠ b.name

namespace Ty

/-! ### Well-shaped types -/

/-- What every combination in a type looks like. -/
structure WellShaped (t : Ty) : Prop where
  two_le_length : ∀ c ∈ t.combinations, 2 ≤ c.2.length
  members_of_union : ∀ c ∈ t.combinations, c.1 = .union →
    ∀ m ∈ c.2, (∃ a, m = .atom a) ∨ ∃ ms, m = .combine .intersection ms
  members_of_intersection : ∀ c ∈ t.combinations, c.1 = .intersection →
    ∀ m ∈ c.2, ∃ a, m = .atom a
  sorted : ∀ c ∈ t.combinations, c.2.Pairwise fun s t => s.le t = true
  atoms_first : ∀ c ∈ t.combinations, ∃ (as : List Atom) (gs : List Ty),
    c.2 = as.map .atom ++ gs ∧ ∀ g ∈ gs, g.atom? = none

/-- A type of two levels is well-shaped once its members are in order. -/
theorem TwoLevel.wellShaped {ok : Atom → Prop} {d : Ty} (h : TwoLevel ok d) :
    d.canonical.WellShaped := by
  have htwo := h.canonical
  have hsorted := pairwise_of_mem_combinations_canonical d
  refine ⟨?_, ?_, ?_, hsorted, fun c hc => exists_atoms_append (hsorted c hc)⟩
  · refine htwo.forall_combinations (fun as two => ?_) fun ts two _ => two
    rw [List.length_map]
    exact two
  · refine htwo.forall_combinations (fun as _ hmode => nomatch hmode) fun ts _ hts _ m hm => ?_
    cases hts m hm with
    | atom _ => exact .inl ⟨_, rfl⟩
    | group _ _ => exact .inr ⟨_, rfl⟩
  · refine htwo.forall_combinations (fun as _ _ m hm => ?_) fun ts _ _ hmode => nomatch hmode
    obtain ⟨a, -, rfl⟩ := List.mem_map.mp hm
    exact ⟨a, rfl⟩

/-! ### Where the members come from -/

/-- A group with the atoms that the parts of its text are read as, in whatever order. -/
inductive GroupFrom (rules : Rules) (t : Text) : Ty → Prop
  | mk {as : List Atom} {ms : List Ty} (hclosed : t.isUnclosed = false)
      (hread : List.Forall₂ (fun s a => rules.readAtom s = .ok a) (t.unwrap.parts '&') as)
      (hms : ms.Perm (as.map .atom)) : GroupFrom rules t (.combine .intersection ms)

/-- What a segment without `&` is read as, or the group that comes from any other segment. -/
inductive SegmentFrom (rules : Rules) (s : Text) : Ty → Prop
  | atom {a : Atom} (hamp : '&' ∉ s) (h : rules.readAtom s = .ok a) : SegmentFrom rules s (.atom a)
  | group {g : Ty} (hamp : '&' ∈ s) (h : GroupFrom rules s g) : SegmentFrom rules s g

/-- A union with what comes from the parts of a text, in whatever order, or the group that comes
from a text without `|`. -/
inductive BuiltFrom (rules : Rules) (t : Text) : Ty → Prop
  | group {g : Ty} (hbar : '|' ∉ t) (h : GroupFrom rules t.trim g) : BuiltFrom rules t g
  | union {ss ms : List Ty} (hbar : '|' ∈ t)
      (h : List.Forall₂ (SegmentFrom rules) (t.parts '|') ss) (hms : ms.Perm ss) :
      BuiltFrom rules t (.combine .union ms)

variable {rules : Rules} {t : Text}

theorem ReadsGroup.groupFrom {as : List Atom} (h : ReadsGroup rules t as) :
    GroupFrom rules t (group as).canonical := by
  rw [canonical_group]
  exact .mk h.1 h.2 ((sortAtoms_perm as).map _)

theorem ReadsMember.segmentFrom {d : Ty} (h : ReadsMember rules t d) :
    SegmentFrom rules t d.canonical := by
  cases h with
  | atom hamp ha => exact .atom hamp ha
  | group hamp has => exact .group hamp has.groupFrom

/-- **Where members come from.** What is read, in canonical form, is built from its text. -/
theorem Reads.builtFrom {d : Ty} (h : Reads rules t d) : BuiltFrom rules t d.canonical := by
  cases h with
  | group hbar _ has => exact .group hbar has.groupFrom
  | @union ts hbar hts =>
      rw [canonical_combine]
      refine .union hbar (List.forall₂_map_right_iff.mpr ?_) (sort_perm _)
      exact hts.imp fun _ _ hd => hd.segmentFrom

/-! ### Atoms under the standard rules -/

/-- Among atoms with different names, canonical order is strict. -/
theorem precedes_of_le {a b : Atom} (h : (Ty.atom a).le (.atom b) = true) (hne : a.name ≠ b.name) :
    a.Precedes b := by
  unfold Atom.Precedes
  simp only [le, sortKey, SortKey.le, Nat.lt_irrefl, decide_false, Bool.false_or, BEq.rfl,
    Bool.true_and, Bool.or_eq_true, Bool.and_eq_true, beq_iff_eq] at h
  rcases h with h | ⟨hprecedence, hname⟩
  · exact .inl (of_decide_eq_true h)
  · exact .inr ⟨hprecedence, hname, hne⟩

/-- Sorted members whose atoms are companions have their atoms go up strictly. -/
theorem pairwise_precedes {mode : Mode} {ts : List Ty} (hts : ts.Pairwise fun s t => s.le t = true)
    (h : (atomicMembers ts).Pairwise (Atom.Companions mode)) :
    (atomicMembers ts).Pairwise fun a b => a.Precedes b ∧ a.name.lower ≠ b.name.lower := by
  refine (pairwise_atomicMembers hts).imp₂ (fun a b hle hcompanions => ?_) h
  have hlower : a.name.lower ≠ b.name.lower := hcompanions.identity_ne
  exact ⟨precedes_of_le hle fun hname => hlower (congrArg Text.lower hname), hlower⟩

/-! ### Parsing -/

/-- **The shape of parsed types.** Under any rules, a parsed type is well-shaped, has a leaf more
than the text has separators, and is built from the text. Under the standard rules, atoms that are
siblings go up strictly and differ in lower case. -/
theorem shape_of_parse (t : Text) (u : Ty) :
    (∀ rules, parseWith rules t = .ok u →
      u.WellShaped ∧ u.atoms.length = t.count '|' + t.count '&' + 1 ∧ BuiltFrom rules t u) ∧
    (parse t = .ok u → ∀ c ∈ u.combinations,
      (atomicMembers c.2).Pairwise fun a b => a.Precedes b ∧ a.name.lower ≠ b.name.lower) := by
  constructor
  · intro rules h
    obtain ⟨d, hd, rfl, -⟩ := parseWith_eq_ok_iff.mp h
    refine ⟨hd.twoLevel.wellShaped, ?_, hd.builtFrom⟩
    rw [(atoms_canonical_perm d).length_eq, hd.length_atoms]
  · intro h c hc
    obtain ⟨d, -, hcompatible, rfl⟩ := parse_eq_ok_iff.mp h
    exact pairwise_precedes (pairwise_of_mem_combinations_canonical d c hc)
      ((compatible_canonical_iff d).mpr hcompatible c hc)

/-- A group whose atoms are any texts, with parentheses in them, and a union under the standard
rules. -/
theorem shape_of_parse_instances :
    (∃ u, parseWith (.ofPredicate (fun _ _ _ => true) fun s => .ok (.ofClass s))
        "(A&B)&(C&D)".toList = .ok u ∧ u.WellShaped) ∧
    ∃ u, parse "b|(D&C)|a".toList = .ok u ∧ ∀ c ∈ u.combinations,
      (atomicMembers c.2).Pairwise fun a b => a.Precedes b ∧ a.name.lower ≠ b.name.lower := by
  have hgroup : parseWith (.ofPredicate (fun _ _ _ => true) fun s => .ok (.ofClass s))
      "(A&B)&(C&D)".toList =
      .ok (group (["(C", "A", "B)", "D"].map fun s => .ofClass s.toList)) := by decide +kernel
  have hunion : parse "b|(D&C)|a".toList =
      .ok (.combine .union [.atom (.ofClass "a".toList), .atom (.ofClass "b".toList),
        group [.ofClass "C".toList, .ofClass "D".toList]]) := by decide +kernel
  exact ⟨⟨_, hgroup, ((shape_of_parse _ _).1 _ hgroup).1⟩, _, hunion, (shape_of_parse _ _).2 hunion⟩

end Ty
end TypeExpr
