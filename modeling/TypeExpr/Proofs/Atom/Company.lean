import TypeExpr.Atom.Legality

/-!
# `TypeExpr.Proofs.Atom.Company`: legality sibling by sibling

The rules on company are stated against all siblings at once and tried in a fixed order, and each is
one-sided: `bool` objects to `false`, not the other way round. What they decide is a relation on
pairs. An atom with siblings objects to none of them just if it **tolerates** each of them
(`conflict?_eq_none_iff`), and two atoms are **companions** if each tolerates the other.
What is named in a conflict are siblings that are not tolerated (`culprits_of_conflict?`).
-/

namespace TypeExpr.Atom

/-! ### Pairs of atoms -/

/-- Whether, in a union, the first atom takes in the second, or the two have a name of their own. -/
def overlaps (a b : Atom) : Bool :=
  (a.isNamed .bool && (b.isNamed .falseValue || b.isNamed .trueValue)) ||
    (a.isNamed .iterable && b.isNamed .array) ||
    (a.isNamed .object && !b.isBuiltin) ||
    (a.isNamed .trueValue && b.isNamed .falseValue)

/-- Whether an atom has no objection to a sibling. -/
def Tolerates : Mode → Atom → Atom → Prop
  | .union, a, b => loners.any a.isNamed = false ∧ b.identity ≠ a.identity ∧ a.overlaps b = false
  | .intersection, a, b => a.isBuiltin = false ∧ b.identity ≠ a.identity

/-- Whether two atoms may stand side by side. -/
def Companions (mode : Mode) (a b : Atom) : Prop := a.Tolerates mode b ∧ b.Tolerates mode a

theorem Companions.symm {mode : Mode} {a b : Atom} (h : a.Companions mode b) :
    b.Companions mode a := ⟨h.2, h.1⟩

/-- Companions are told apart by their names in lower case. -/
theorem Companions.identity_ne {mode : Mode} {a b : Atom} (h : a.Companions mode b) :
    a.identity ≠ b.identity := by
  cases mode with
  | union => exact h.2.2.1
  | intersection => exact h.2.2

/-! ### Rules against all siblings -/

theorem conflictWith_eq_none_iff {objection : Objection} {culprits : List Atom} :
    conflictWith objection culprits = none ↔ culprits = [] := by
  simp [conflictWith]

theorem duplicateConflict?_eq_none_iff {mode : Mode} {a : Atom} {others : List Atom} :
    duplicateConflict? mode a others = none ↔ ∀ o ∈ others, o.identity ≠ a.identity := by
  simp [duplicateConflict?]

/-- The one-sided rules of a union that concern a pair, taken together. -/
theorem overlaps_eq_false_iff {a o : Atom} :
    a.overlaps o = false ↔ a.coversKeyword o = false ∧
      (a.isNamed .object = true → o.isBuiltin = true) ∧
      (a.isNamed .trueValue = true → o.isNamed .falseValue = false) := by
  unfold overlaps coversKeyword
  cases a.isNamed .object <;> cases a.isNamed .trueValue <;> simp [and_assoc]

theorem unionConflict?_eq_none_iff {a : Atom} {others : List Atom} :
    unionConflict? a others = none ↔ loners.any a.isNamed = false ∧
      ∀ o ∈ others, o.identity ≠ a.identity ∧ a.overlaps o = false := by
  unfold unionConflict?
  split
  · next hl => simp [hl]
  · next hl =>
      have hobject : (if a.isNamed .object then
          conflictWith .coversClasses (others.filter (!·.isBuiltin)) else none) = none ↔
          ∀ o ∈ others, a.isNamed .object = true → o.isBuiltin = true := by
        cases a.isNamed .object <;> simp [conflictWith_eq_none_iff]
      have htrue : (if a.isNamed .trueValue then
          conflictWith .spellsBool (others.filter (·.isNamed .falseValue)) else none) = none ↔
          ∀ o ∈ others, a.isNamed .trueValue = true → o.isNamed .falseValue = false := by
        cases a.isNamed .trueValue <;> simp [conflictWith_eq_none_iff]
      have hcovers : conflictWith .covers (others.filter a.coversKeyword) = none ↔
          ∀ o ∈ others, a.coversKeyword o = false := by
        simp [conflictWith_eq_none_iff]
      -- the rules are tried in turn, so there is no conflict just if none of them finds one
      simp only [Option.orElse_eq_orElse, Option.orElse_eq_or, Option.or_eq_none_iff, hobject,
        htrue, hcovers, duplicateConflict?_eq_none_iff, overlaps_eq_false_iff,
        eq_false_of_ne_true hl, true_and, forall_and]

theorem intersectionConflict?_eq_none_iff {a : Atom} {others : List Atom} :
    intersectionConflict? a others = none ↔
      a.isBuiltin = false ∧ ∀ o ∈ others, o.identity ≠ a.identity := by
  unfold intersectionConflict?
  split
  · next hb => simp [hb]
  · next hb => simp [duplicateConflict?_eq_none_iff, hb]

/-- **Sibling by sibling.** An atom that has siblings objects to none just if it tolerates each. -/
theorem conflict?_eq_none_iff {mode : Mode} {a : Atom} {others : List Atom} (hne : others ≠ []) :
    conflict? mode a others = none ↔ ∀ o ∈ others, a.Tolerates mode o := by
  obtain ⟨b, bs, rfl⟩ := List.exists_cons_of_ne_nil hne
  cases mode with
  | union =>
      rw [conflict?, unionConflict?_eq_none_iff]
      exact ⟨fun h o ho => ⟨h.1, h.2 o ho⟩, fun h => ⟨(h b (by simp)).1, fun o ho => (h o ho).2⟩⟩
  | intersection =>
      rw [conflict?, intersectionConflict?_eq_none_iff]
      exact ⟨fun h o ho => ⟨h.1, h.2 o ho⟩, fun h => ⟨(h b (by simp)).1, fun o ho => (h o ho).2⟩⟩

/-! ### Culprits -/

/-- What holds of the siblings named in a conflict: they are some of the siblings, in the order they
are in, and none of them is tolerated. -/
structure Culprits (mode : Mode) (a : Atom) (others culprits : List Atom) : Prop where
  sublist : culprits.Sublist others
  ne_nil : others ≠ [] → culprits ≠ []
  not_tolerates : ∀ o ∈ culprits, ¬ a.Tolerates mode o

/-- An atom that tolerates nobody may name all siblings. -/
theorem Culprits.all {mode : Mode} {a : Atom} (h : ∀ o, ¬ a.Tolerates mode o) (others : List Atom) :
    Culprits mode a others others := ⟨List.Sublist.refl others, id, fun o _ => h o⟩

theorem culprits_of_conflictWith {mode : Mode} {a : Atom} {others : List Atom} {p : Atom → Bool}
    (hp : ∀ o, p o = true → ¬ a.Tolerates mode o) {objection : Objection} {c : Conflict}
    (h : conflictWith objection (others.filter p) = some c) :
    Culprits mode a others c.culprits := by
  unfold conflictWith at h
  split at h
  · cases h
  · next hne =>
      cases h
      exact ⟨List.filter_sublist, fun _ => by simpa using hne,
        fun o ho => hp o (List.mem_filter.mp ho).2⟩

theorem culprits_of_duplicateConflict? {mode : Mode} {a : Atom} {others : List Atom} {c : Conflict}
    (h : duplicateConflict? mode a others = some c) : Culprits mode a others c.culprits := by
  obtain ⟨o, ho, rfl⟩ := Option.map_eq_some_iff.mp h
  refine ⟨List.singleton_sublist.mpr (List.mem_of_find?_eq_some ho), fun _ => List.cons_ne_nil o [],
    List.forall_mem_singleton.mpr ?_⟩
  have hsame : o.identity = a.identity := by simpa using List.find?_some ho
  cases mode with
  | union => exact fun htolerates => htolerates.2.1 hsame
  | intersection => exact fun htolerates => htolerates.2 hsame

theorem culprits_of_unionConflict? {a : Atom} {others : List Atom} {c : Conflict}
    (h : unionConflict? a others = some c) : Culprits .union a others c.culprits := by
  unfold unionConflict? at h
  split at h
  · next hloner =>
      cases h
      have hnone : ∀ o, ¬ a.Tolerates .union o := fun o h => by simp [Tolerates, hloner] at h
      exact .all hnone others
  · simp only [Option.orElse_eq_orElse, Option.orElse_eq_or, Option.or_eq_some_iff] at h
    -- the other rules are about pairs, and an atom overlaps whatever they object to
    have hfilter : ∀ {objection p}, (∀ o, p o = true → a.overlaps o ≠ false) →
        conflictWith objection (others.filter p) = some c →
          Culprits .union a others c.culprits := by
      intro objection p hp h
      refine culprits_of_conflictWith (fun o ho hnone => ?_) h
      exact hp o ho hnone.2.2
    rcases h with h | ⟨-, h | ⟨-, h | ⟨-, h⟩⟩⟩
    · exact culprits_of_duplicateConflict? h
    · exact hfilter (fun o ho hnone => by simp [overlaps_eq_false_iff, ho] at hnone) h
    · split at h
      · next hobject =>
          refine hfilter (fun o ho hnone => ?_) h
          have hbuiltin : o.isBuiltin = true := (overlaps_eq_false_iff.mp hnone).2.1 hobject
          simp [hbuiltin] at ho
      · cases h
    · split at h
      · next htrue =>
          exact hfilter (fun o ho hnone => by simp [overlaps_eq_false_iff, htrue, ho] at hnone) h
      · cases h

theorem culprits_of_conflict? {mode : Mode} {a : Atom} {others : List Atom} {c : Conflict}
    (h : conflict? mode a others = some c) : Culprits mode a others c.culprits := by
  cases mode with
  | union => exact culprits_of_unionConflict? h
  | intersection =>
      rw [conflict?, intersectionConflict?] at h
      split at h
      · next hbuiltin =>
          cases h
          have hnone : ∀ o, ¬ a.Tolerates .intersection o := fun o h => by
            simp [Tolerates, hbuiltin] at h
          exact .all hnone others
      · exact culprits_of_duplicateConflict? h

/-- **Culprits are siblings.** -/
theorem culprits_subset {mode : Mode} {a : Atom} {others : List Atom} {c : Conflict}
    (h : conflict? mode a others = some c) : c.culprits ⊆ others :=
  (culprits_of_conflict? h).sublist.subset

/-! ### Checks -/

/-- Accepting an atom is finding nothing it objects to; refusing it is blaming it for a conflict. -/
theorem check_eq_error {mode : Mode} {a : Atom} {others : List Atom} {e : Error}
    (h : check mode a others = .error e) :
    ∃ c, conflict? mode a others = some c ∧ e = a.blame c := by
  unfold check at h
  split at h
  · exact absurd h (by simp)
  · next c hc => exact ⟨c, hc, (Except.error.inj h).symm⟩

theorem check_eq_ok_iff_tolerates {mode : Mode} {a : Atom} {others : List Atom}
    (hne : others ≠ []) :
    check mode a others = .ok () ↔ ∀ o ∈ others, a.Tolerates mode o := by
  rw [check_eq_ok_iff, accepts, Option.isNone_iff_eq_none, conflict?_eq_none_iff hne]

end TypeExpr.Atom
