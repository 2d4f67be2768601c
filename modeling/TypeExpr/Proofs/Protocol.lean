import TypeExpr.Proofs.Ty.Steps

/-!
# `TypeExpr.Proofs.Protocol`: which questions are asked, and when

Under rules built from a predicate, the questions put to the predicate are those of the steps of the
text (`Ty.steps`), in their order, up to the first step that fails. What the steps of a text are can
be read off their definition: segments from left to right; for a group all its atoms are read, and
then each is asked about beside the others; and last the atoms that are segments by themselves are
asked about, if there are two or more. Groups are not asked about.

The error of the step that fails is the outcome. A reader of atoms may give a position with its
error, which is then kept, and a refusal is placed where the refused atom stands.
-/

namespace TypeExpr

/-! ### Steps under a predicate -/

variable {accepts : Mode → Atom → List Atom → Bool} {readAtom : Text → Except Error Atom}

/-- Reading an atom fails where the reader of atoms does, which may know the position better. -/
theorem Ty.Step.failure?_read {p : Piece} {e : Error} :
    (Ty.Step.read p).failure? (.ofPredicate accepts readAtom) = some e ↔
      ∃ e', readAtom p.text = .error e' ∧ e = ⟨e'.fault, e'.text, e'.span.or (some p.span)⟩ := by
  simp only [failure?, Rules.ofPredicate, Error.locate]
  cases readAtom p.text <;> simp [eq_comm]

/-- A question fails where the predicate does, and the refusal names the atom and all its
siblings. -/
theorem Ty.Step.failure?_ask {c : Consultation} {place : Span} {e : Error} :
    (Ty.Step.ask c place).failure? (.ofPredicate accepts readAtom) = some e ↔
      accepts c.mode c.atom c.others = false ∧
        e = ⟨.illegal (.refused c.mode) (c.others.map Atom.name), c.atom.name, some place⟩ := by
  simp only [failure?, Rules.ofPredicate]
  cases accepts c.mode c.atom c.others <;> simp [Atom.blame, Error.locate, eq_comm]

/-! ### Questions in order -/

/-- **The protocol of questions.** A text without separators is refused at once. Any other has its
steps: if none fails, all their questions are asked and a type is returned; if one is the first to
fail, the questions up to it are asked and its error is returned. -/
theorem Ty.asked_step_by_step (accepts : Mode → Atom → List Atom → Bool)
    (readAtom : Text → Except Error Atom) (t : Text) :
    (t.isComposite = false → inquire (.ofPredicate accepts readAtom) t =
      ⟨[], .error ⟨.notComposite, t, some (Span.whole t.length)⟩⟩) ∧
    (t.isComposite = true →
      ((∀ s ∈ steps readAtom t, s.failure? (.ofPredicate accepts readAtom) = none) →
        (inquire (.ofPredicate accepts readAtom) t).asked =
            (steps readAtom t).filterMap Step.question? ∧
          ∃ u, (inquire (.ofPredicate accepts readAtom) t).outcome = .ok u) ∧
      ∀ before s after e, steps readAtom t = before ++ s :: after →
        (∀ r ∈ before, r.failure? (.ofPredicate accepts readAtom) = none) →
        s.failure? (.ofPredicate accepts readAtom) = some e →
        (inquire (.ofPredicate accepts readAtom) t).asked =
            (before ++ [s]).filterMap Step.question? ∧
          (inquire (.ofPredicate accepts readAtom) t).outcome = .error e) ∧
    (∀ p e, (Step.read p).failure? (.ofPredicate accepts readAtom) = some e ↔
      ∃ e', readAtom p.text = .error e' ∧ e = ⟨e'.fault, e'.text, e'.span.or (some p.span)⟩) ∧
    (∀ p, (Step.unclosed p).failure? (.ofPredicate accepts readAtom) =
      some ⟨.unclosedGroup, p.text, some p.span⟩) ∧
    ∀ c place e, (Step.ask c place).failure? (.ofPredicate accepts readAtom) = some e ↔
      accepts c.mode c.atom c.others = false ∧
        e = ⟨.illegal (.refused c.mode) (c.others.map Atom.name), c.atom.name, some place⟩ := by
  refine ⟨fun h => ?_, fun h => ?_, fun _ _ => Step.failure?_read, fun _ => rfl,
    fun _ _ _ => Step.failure?_ask⟩
  · simp [inquire, h, Inquiry.ofExcept]
  · have hfollows := follows_inquire (.ofPredicate accepts readAtom) h
    refine ⟨hfollows.asked_of_none, fun before s after e hsteps hbefore hs => ?_⟩
    have hsame : steps (Rules.ofPredicate accepts readAtom).readAtom t = before ++ s :: after :=
      hsteps
    rw [hsame] at hfollows
    exact hfollows.asked_of_failure hbefore hs

/-- A text without separators, a union in which every question is answered with yes, and the same
union where one atom of the group is refused. -/
theorem Ty.asked_step_by_step_instances :
    inquire (.ofPredicate (fun _ _ _ => true) Atom.ofText) "int".toList =
      ⟨[], .error ⟨.notComposite, "int".toList, some ⟨0, 3⟩⟩⟩ ∧
    (inquire (.ofPredicate (fun _ _ _ => true) Atom.ofText) "b|(D&C)|a".toList).asked =
      [⟨.intersection, .ofClass "C".toList, [.ofClass "D".toList]⟩,
        ⟨.intersection, .ofClass "D".toList, [.ofClass "C".toList]⟩,
        ⟨.union, .ofClass "a".toList, [.ofClass "b".toList]⟩,
        ⟨.union, .ofClass "b".toList, [.ofClass "a".toList]⟩] ∧
    (inquire (.ofPredicate (fun _ a _ => a.name != "D".toList) Atom.ofText)
        "b|(D&C)|a".toList).outcome =
      .error ⟨.illegal (.refused .intersection) ["C".toList], "D".toList, some ⟨3, 4⟩⟩ := by
  refine ⟨?_, ?_, ?_⟩
  · exact (asked_step_by_step _ _ _).1 (by decide +kernel)
  · have hnone : ((steps Atom.ofText "b|(D&C)|a".toList).all fun s =>
        (s.failure? (.ofPredicate (fun _ _ _ => true) Atom.ofText)).isNone) = true := by
      decide +kernel
    have hasked := ((asked_step_by_step (fun _ _ _ => true) Atom.ofText "b|(D&C)|a".toList).2.1
      (by decide +kernel)).1 fun s hs =>
        Option.isNone_iff_eq_none.mp (List.all_eq_true.mp hnone s hs)
    exact hasked.1.trans (by decide +kernel)
  · have hsteps : steps Atom.ofText "b|(D&C)|a".toList =
        [.read ⟨0, "b".toList⟩, .read ⟨3, "D".toList⟩, .read ⟨5, "C".toList⟩,
          .ask ⟨.intersection, .ofClass "C".toList, [.ofClass "D".toList]⟩ ⟨5, 6⟩] ++
        .ask ⟨.intersection, .ofClass "D".toList, [.ofClass "C".toList]⟩ ⟨3, 4⟩ ::
        [.read ⟨8, "a".toList⟩, .ask ⟨.union, .ofClass "a".toList, [.ofClass "b".toList]⟩ ⟨8, 9⟩,
          .ask ⟨.union, .ofClass "b".toList, [.ofClass "a".toList]⟩ ⟨0, 1⟩] := by decide +kernel
    refine (((asked_step_by_step (fun _ a _ => a.name != "D".toList) Atom.ofText
      "b|(D&C)|a".toList).2.1 (by decide +kernel)).2 _ _ _ _ hsteps ?_ (by decide +kernel)).2
    simp only [List.forall_mem_cons]
    decide +kernel

end TypeExpr
