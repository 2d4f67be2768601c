import TypeExpr.Hint
import TypeExpr.Proofs.Outcome
import TypeExpr.Proofs.Text.Parts

/-!
# `TypeExpr.Proofs.Hint.Reading`: three ways to read a hint

Neither blanks nor the mark of a nullable type are separators, so whether a hint is composite can be
seen from the text as it was given. A text without separators is read as an atom
(`parseWith_of_not_isComposite`), one with separators and a mark is refused
(`parseWith_of_isMarked`), and any other is read as a composite type (`parseWith_of_isComposite`).
-/

namespace TypeExpr

/-- Blanks around a text hold no separator. -/
theorem Text.isComposite_trim (t : Text) : t.trim.isComposite = t.isComposite := by
  rw [Bool.eq_iff_iff, isComposite_iff, isComposite_iff, bar_mem_trim, amp_mem_trim]

namespace Hint

variable {rules : Rules} {t : Text}

/-! ### Marks -/

/-- Whether a text begins, after blanks, with the mark of a nullable type. -/
def isMarked (t : Text) : Bool := (unmarked t.trim).1

/-- A text without the blanks around it and without the mark. -/
def bare (t : Text) : Text := (unmarked t.trim).2

theorem unmarked_of_not_mem (h : '?' ∉ t) : unmarked t = (false, t) := by
  unfold unmarked
  split
  · exact absurd (List.mem_cons_self ..) h
  · rfl

theorem isMarked_iff : isMarked t = true ↔ t.trim.head? = some '?' := by
  unfold isMarked unmarked
  split
  · next h => simp [h]
  · next h =>
      constructor
      · intro hm
        cases hm
      · intro hm
        obtain ⟨rest, ht⟩ := List.head?_eq_some_iff.mp hm
        exact absurd ht (h rest)

/-- Taking off blanks and a mark takes off no separator. -/
theorem isComposite_bare (t : Text) : (bare t).isComposite = t.isComposite := by
  rw [← Text.isComposite_trim t]
  unfold bare unmarked
  split
  · next h => simp [h, Text.isComposite]
  · rfl

/-! ### Cases -/

theorem parseWith_of_not_isComposite (h : t.isComposite = false) :
    parseWith rules t =
      (readAtom rules (isMarked t) (bare t)).mapError (·.locate (Span.whole t.length)) := by
  have hbare : (unmarked t.trim).2.isComposite = false := (isComposite_bare t).trans h
  rw [parseWith, inquire]
  simp only [hbare]
  rfl

theorem parseWith_of_isMarked (h : t.isComposite = true) (hm : isMarked t = true) :
    parseWith rules t = .error ⟨.nullableComposite, t, some (Span.whole t.length)⟩ := by
  have hbare : (unmarked t.trim).2.isComposite = true := (isComposite_bare t).trans h
  have hmark : (unmarked t.trim).1 = true := hm
  rw [parseWith, inquire]
  simp only [hbare, hmark]
  rfl

theorem parseWith_of_isComposite (h : t.isComposite = true) (hm : isMarked t = false) :
    parseWith rules t = (Ty.parseWith rules t).map fun u => ⟨u, false⟩ := by
  have hbare : (unmarked t.trim).2.isComposite = true := (isComposite_bare t).trans h
  have hmark : (unmarked t.trim).1 = false := hm
  rw [parseWith, inquire]
  simp only [hbare, hmark, Ty.parseWith]
  cases hu : (Ty.inquire rules t).outcome with
  | error e => simp [Inquiry.bind_of_error hu, Except.map]
  | ok u => simp [Inquiry.bind_of_ok hu, Except.map]

/-- An atom is a hint if it may stand alone and, where it is marked, may be marked. -/
theorem readAtom_eq_ok_iff {nullable : Bool} {h : Hint} :
    readAtom rules nullable t = .ok h ↔ ∃ a, rules.readAtom t = .ok a ∧
      a.checkStandalone = .ok () ∧ (nullable = true → a.checkNullable = .ok ()) ∧
      h = ⟨.atom a, nullable⟩ := by
  rw [readAtom, bind_eq_ok_iff]
  refine exists_congr fun a => and_congr_right fun _ => ?_
  cases a.checkStandalone with
  | error e => simp [bind, Except.bind]
  | ok _ =>
      -- the second check is made only where there is a mark
      cases nullable with
      | false => simp [bind, Except.bind, pure, Except.pure, eq_comm]
      | true => cases a.checkNullable <;> simp [bind, Except.bind, pure, Except.pure, eq_comm]

/-- An atom is refused as a hint because it has no name, or because it may not stand as it does. -/
theorem readAtom_eq_error {nullable : Bool} {e : Error}
    (h : readAtom .standard nullable t = .error e) :
    e = ⟨.invalidName, t, none⟩ ∨ ∃ (a : Atom) (o : Objection), e = a.blame ⟨o, []⟩ := by
  rw [readAtom, bind_eq_error_iff] at h
  rcases h with h | ⟨a, -, h⟩
  · exact .inl (Atom.ofText_eq_error h)
  · refine .inr ⟨a, ?_⟩
    rcases bind_eq_error_iff.mp h with h | ⟨_, -, h⟩
    · unfold Atom.checkStandalone at h
      split at h
      · exact ⟨_, (Except.error.inj h).symm⟩
      · cases h
    · cases nullable with
      | false => cases h
      | true =>
          rcases bind_eq_error_iff.mp h with h | ⟨_, -, h⟩
          · unfold Atom.checkNullable at h
            split at h
            · exact ⟨_, (Except.error.inj h).symm⟩
            · cases h
          · cases h

/-- **What a hint is.** It is an atom that was read from a text without separators, or a composite
type that is not marked. -/
theorem parseWith_eq_ok_iff {h : Hint} :
    parseWith rules t = .ok h ↔
      (t.isComposite = false ∧ readAtom rules (isMarked t) (bare t) = .ok h) ∨
      (t.isComposite = true ∧ isMarked t = false ∧
        ∃ u, Ty.parseWith rules t = .ok u ∧ h = ⟨u, false⟩) := by
  cases hc : t.isComposite with
  | false =>
      rw [parseWith_of_not_isComposite hc]
      cases readAtom rules (isMarked t) (bare t) <;> simp [Except.mapError]
  | true =>
      cases hm : isMarked t with
      | true => simp [parseWith_of_isMarked hc hm]
      | false =>
          rw [parseWith_of_isComposite hc hm, map_eq_ok_iff]
          simp [eq_comm]

theorem parseWith_eq_ok_iff_of_not_isComposite (hc : t.isComposite = false) {h : Hint} :
    parseWith rules t = .ok h ↔ readAtom rules (isMarked t) (bare t) = .ok h := by
  simp [parseWith_eq_ok_iff, hc]

end Hint
end TypeExpr
