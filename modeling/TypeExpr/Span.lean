/-!
# `TypeExpr.Span`: a stretch of a text by position

A span is the pair of positions before its first character and after its last, counted in code
points from the start of the text it belongs to.
-/

namespace TypeExpr

/-- The characters of a text from position `start` up to, not including, `stop`. -/
structure Span where
  start : Nat
  stop : Nat
deriving DecidableEq, Repr

namespace Span

/-- All of a text of the given length. -/
def whole (length : Nat) : Span := ⟨0, length⟩

/-- The characters that a span picks out of a text. -/
def of (s : Span) (t : List Char) : List Char := (t.drop s.start).take (s.stop - s.start)

/-- The span shifted by an offset. -/
def shift (s : Span) (offset : Nat) : Span := ⟨s.start + offset, s.stop + offset⟩

/-- A span that picks out something cuts the text in three. If it does not pick out all that it is
long, nothing is behind. -/
theorem exists_around {s : Span} {t : List Char} (h : s.of t ≠ []) :
    ∃ before after, t = before ++ s.of t ++ after ∧ before.length = s.start ∧
      (after = [] ∨ (s.of t).length = s.stop - s.start) := by
  have hlength : (s.of t).length = min (s.stop - s.start) (t.length - s.start) := by
    rw [of, List.length_take, List.length_drop]
  have hpos : 0 < (s.of t).length := List.length_pos_iff.mpr h
  refine ⟨t.take s.start, (t.drop s.start).drop (s.stop - s.start), ?_, ?_, ?_⟩
  · rw [of, List.append_assoc, List.take_append_drop, List.take_append_drop]
  · rw [List.length_take]
    omega
  · rw [List.drop_eq_nil_iff, List.length_drop]
    omega

end Span
end TypeExpr
