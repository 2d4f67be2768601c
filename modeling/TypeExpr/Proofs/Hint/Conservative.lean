import TypeExpr.Proofs.Hint.RoundTrip
import TypeExpr.Proofs.Location

/-!
# `TypeExpr.Proofs.Hint.Conservative`: hints beside types

Composite types are read as types and as hints, and the two readers see different texts: one looks
for separators in the text as it was given, the other after blanks and a mark were taken off. They
agree all the same (`extends_types_conservatively`). What is a type is the hint of that type; a text
with separators fails as a hint just as it fails as a type, unless it is marked, and then it is
neither; and a text without separators is never refused as a hint for being none.
-/

namespace TypeExpr

theorem Ty.exists_combine_of_parse {t : Text} {u : Ty} (h : parse t = .ok u) :
    ∃ mode ts, u = .combine mode ts := by
  obtain ⟨d, hd, -, rfl⟩ := parse_eq_ok_iff.mp h
  cases hd with
  | group _ _ _ => exact ⟨_, _, canonical_group _⟩
  | union _ _ => exact ⟨_, _, canonical_combine ..⟩

namespace Hint

variable {t : Text}

/-- Hints that are no atoms are composite types without a mark. -/
theorem parse_combine_iff {h : Hint} :
    (parse t = .ok h ∧ ∃ mode ts, h.type = .combine mode ts) ↔
      Ty.parse t = .ok h.type ∧ h.nullable = false := by
  constructor
  · intro hh
    obtain ⟨hparse, mode, ts, htype⟩ := hh
    rcases parseWith_eq_ok_iff.mp hparse with ⟨-, hatom⟩ | ⟨-, -, u, hu, rfl⟩
    · obtain ⟨a, -, -, -, rfl⟩ := readAtom_eq_ok_iff.mp hatom
      cases htype
    · exact ⟨hu, rfl⟩
  · intro hh
    obtain ⟨hparse, hplain⟩ := hh
    obtain ⟨u, nullable⟩ := h
    obtain rfl : nullable = false := hplain
    exact ⟨parse_of_parse_type hparse, Ty.exists_combine_of_parse hparse⟩

/-- A text with separators and no mark fails as a hint just as it fails as a type. -/
theorem parse_eq_error_iff (hc : t.isComposite = true) (hm : isMarked t = false) {e : Error} :
    parse t = .error e ↔ Ty.parse t = .error e := by
  rw [parse, parseWith_of_isComposite hc hm, map_eq_error_iff, Ty.parse]

/-- A text with separators and a mark is no type. -/
theorem exists_parse_type_eq_error (hc : t.isComposite = true) (hm : isMarked t = true) :
    ∃ e, Ty.parse t = .error e := by
  cases h : Ty.parse t with
  | error e => exact ⟨e, rfl⟩
  | ok u =>
      have hhint := parse_of_parse_type h
      rw [parse, parseWith_of_isMarked hc hm] at hhint
      cases hhint

/-- No text is refused as a hint for want of separators. -/
theorem fault_ne_notComposite {e : Error} (h : parse t = .error e) : e.fault ≠ .notComposite := by
  cases hc : t.isComposite with
  | false =>
      rw [parse, parseWith_of_not_isComposite hc] at h
      cases hread : readAtom .standard (isMarked t) (bare t) with
      | ok a => simp [hread, Except.mapError] at h
      | error e' =>
          obtain rfl : e'.locate _ = e := by simpa [hread, Except.mapError] using h
          rcases readAtom_eq_error hread with rfl | ⟨a, o, rfl⟩
          · simp
          · simp [Atom.blame]
  | true =>
      cases hm : isMarked t with
      | true =>
          rw [parse, parseWith_of_isMarked hc hm] at h
          cases h
          simp
      | false =>
          obtain ⟨s, -, hs⟩ := Ty.failsWith_of_isComposite hc ((parse_eq_error_iff hc hm).mp h)
          cases hs with
          | read he _ => simp [he]
          | unclosed he => simp [he]
          | ask he _ => simp [he, Atom.blame]

/-- **Hints extend types conservatively.** A text is a hint of a composite type just if it is that
type, and then the hint is not marked. If it holds a separator and does not begin, after blanks,
with a question mark, it fails as a hint just if it fails as a type, with the same error; if it
does, it fails as both. And no text fails as a hint because it is not composite. -/
theorem extends_types_conservatively (t : Text) :
    (∀ h, (parse t = .ok h ∧ ∃ mode ts, h.type = .combine mode ts) ↔
      Ty.parse t = .ok h.type ∧ h.nullable = false) ∧
    (t.isComposite = true → t.find? (fun c => !isBlank c) ≠ some '?' →
      ∀ e, parse t = .error e ↔ Ty.parse t = .error e) ∧
    (t.isComposite = true → t.find? (fun c => !isBlank c) = some '?' →
      (∃ e, parse t = .error e) ∧ ∃ e, Ty.parse t = .error e) ∧
    ∀ e, parse t = .error e → e.fault ≠ .notComposite := by
  refine ⟨fun h => parse_combine_iff, fun hc hfirst e => ?_, fun hc hfirst => ?_,
    fun e => fault_ne_notComposite⟩
  · rw [← Text.head?_trim] at hfirst
    exact parse_eq_error_iff hc (eq_false_of_ne_true (mt isMarked_iff.mp hfirst))
  · rw [← Text.head?_trim] at hfirst
    have hm : isMarked t = true := isMarked_iff.mpr hfirst
    exact ⟨⟨_, parseWith_of_isMarked hc hm⟩, exists_parse_type_eq_error hc hm⟩

/-- A union with blanks around it, a group that is not closed, a mark before a group, and a keyword
that cannot be marked. -/
theorem extends_types_conservatively_instances :
    (Ty.parse "\tB|(A& C) ".toList = .ok (.combine .union [.atom (.ofClass "B".toList),
        .combine .intersection [.atom (.ofClass "A".toList), .atom (.ofClass "C".toList)]]) ∧
      ∃ mode ts, parse "\tB|(A& C) ".toList = .ok ⟨.combine mode ts, false⟩) ∧
    parse " B|(A&C".toList = .error ⟨.unclosedGroup, "(A&C".toList, some ⟨3, 7⟩⟩ ∧
    ((∃ e, parse " ?(A&B)|C".toList = .error e) ∧ ∃ e, Ty.parse " ?(A&B)|C".toList = .error e) ∧
    ∃ e, parse "?null".toList = .error e ∧ e.fault ≠ .notComposite := by
  have hunion : Ty.parse "\tB|(A& C) ".toList = .ok (.combine .union [.atom (.ofClass "B".toList),
      .combine .intersection [.atom (.ofClass "A".toList), .atom (.ofClass "C".toList)]]) := by
    decide +kernel
  have hnull : parse "?null".toList =
      .error ⟨.illegal .notStandalone [], "null".toList, some ⟨0, 5⟩⟩ := by decide +kernel
  refine ⟨⟨hunion, _, _, (((extends_types_conservatively _).1 ⟨_, false⟩).mpr ⟨hunion, rfl⟩).1⟩,
    ?_, ?_, _, hnull, (extends_types_conservatively _).2.2.2 _ hnull⟩
  · exact ((extends_types_conservatively _).2.1 (by decide) (by decide) _).mpr (by decide +kernel)
  · exact (extends_types_conservatively _).2.2.1 (by decide) (by decide)

end Hint
end TypeExpr
