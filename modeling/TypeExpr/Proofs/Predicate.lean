import TypeExpr.Proofs.Atom.Company
import TypeExpr.Proofs.Ty.Lockstep

/-!
# `TypeExpr.Proofs.Predicate`: legality as a bare predicate

The rules on company can be asked for no more than a yes or no (`Atom.accepts`), and rules can be
built from such a predicate (`Rules.ofPredicate`). Rules built from the atoms' own predicate refuse
the same atom at the same moment as the standard rules, so reading goes the same way under both.
What differs is how much a refusal says: the standard rules give a reason and name the siblings that
are in conflict, the others name all siblings.
-/

namespace TypeExpr

/-- The second error tells of the same trouble in the same place. It is the very same, unless it
tells of a refusal: then it may give another reason, and it names all the atoms that the first one
names. -/
structure Error.Retold (e e' : Error) : Prop where
  text : e'.text = e.text
  span : e'.span = e.span
  isIllegal : e'.isIllegal = e.isIllegal
  eq_of_not_illegal : e.isIllegal = false → e' = e
  conflicts : e.conflicts ⊆ e'.conflicts

theorem Error.Retold.refl (e : Error) : e.Retold e :=
  ⟨rfl, rfl, rfl, fun _ => rfl, List.Subset.refl _⟩

theorem Error.Retold.locate {e e' : Error} (h : e.Retold e') (s : Span) :
    (e.locate s).Retold (e'.locate s) where
  text := h.text
  span := by rw [Error.locate, Error.locate, h.span]
  isIllegal := h.isIllegal
  eq_of_not_illegal hlegal := by rw [h.eq_of_not_illegal hlegal]
  conflicts := h.conflicts

/-- Blaming an atom for its conflict with all siblings names those it has a conflict with. -/
theorem Atom.retold_blame {mode : Mode} {a : Atom} {others : List Atom} {c : Conflict}
    (h : conflict? mode a others = some c) :
    (a.blame c).Retold (a.blame ⟨.refused mode, others⟩) where
  text := rfl
  span := rfl
  isIllegal := rfl
  eq_of_not_illegal hlegal := nomatch hlegal
  conflicts := List.map_subset name (culprits_subset h)

/-- **The same refusals.** Atoms are read the same, and one is refused in the same company. -/
theorem counterparts_ofPredicate :
    Counterparts Error.Retold 0 .standard (.ofPredicate Atom.accepts Atom.ofText) where
  placed fault t s := .refl _
  read t s := by
    have hplace : s.shift 0 = s := rfl
    simp only [Rules.standard, Rules.ofPredicate, hplace]
    cases Atom.ofText t with
    | ok a => exact .ok a
    | error e => exact .error (.refl _)
  check mode a others s _ := by
    simp only [Rules.standard, Rules.ofPredicate]
    cases hc : Atom.conflict? mode a others with
    | none =>
        have haccepts : Atom.accepts mode a others = true := by
          rw [Atom.accepts, hc, Option.isNone_none]
        rw [Atom.check_eq_ok_iff.mpr haccepts, haccepts]
        exact .ok ()
    | some c =>
        have haccepts : Atom.accepts mode a others = false := by
          rw [Atom.accepts, hc, Option.isNone_some]
        have hcheck : Atom.check mode a others = .error (a.blame c) := by rw [Atom.check, hc]
        rw [hcheck, haccepts]
        exact .error ((Atom.retold_blame hc).locate s)

namespace Ty

variable {R : Error → Error → Prop} {rules rules' : Rules}

/-- Rules that are counterparts for one text read it in lockstep. -/
theorem lockstep_inquire (h : Counterparts R 0 rules rules') (t : Text) :
    Lockstep id R (inquire rules t) (inquire rules' t) := by
  simp only [inquire]
  split
  · exact .ofExcept (.error (h.placed _ _ _))
  · split
    · exact h.readUnion _
    · exact h.readGroup _

/-- **A predicate is enough.** Under rules built from the atoms' own predicate, a text leads to the
same questions as under the standard rules, and to the same type or to an error that tells of the
same trouble. -/
theorem parse_by_predicate (t : Text) :
    (inquire (.ofPredicate Atom.accepts Atom.ofText) t).asked = (inquire .standard t).asked ∧
    ((∃ u, parse t = .ok u ∧ parseWith (.ofPredicate Atom.accepts Atom.ofText) t = .ok u) ∨
      ∃ e e', parse t = .error e ∧
        parseWith (.ofPredicate Atom.accepts Atom.ofText) t = .error e' ∧ e.Retold e') := by
  have hlockstep := lockstep_inquire counterparts_ofPredicate t
  refine ⟨hlockstep.asked_eq, ?_⟩
  cases hparse : parse t with
  | ok u => exact .inl ⟨u, rfl, hlockstep.agree.eq_ok hparse⟩
  | error e =>
      obtain ⟨e', he', hretold⟩ := hlockstep.agree.exists_error hparse
      exact .inr ⟨e, e', rfl, he', hretold⟩

/-- One refusal told twice: with the sibling that is covered, and with all siblings. -/
example :
    parse "bool|int|false".toList =
      .error ⟨.illegal .covers ["false".toList], "bool".toList, some ⟨0, 4⟩⟩ ∧
    parseWith (.ofPredicate Atom.accepts Atom.ofText) "bool|int|false".toList =
      .error ⟨.illegal (.refused .union) ["int".toList, "false".toList], "bool".toList,
        some ⟨0, 4⟩⟩ := by
  decide +kernel

end Ty
end TypeExpr
