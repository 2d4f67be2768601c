import TypeExpr.Span
import TypeExpr.Text.Blank

/-!
# `TypeExpr.Piece`: part of a text, with its position

A piece is a stretch of a text that knows where it begins. Cutting a piece at a separator and
trimming blanks off it both keep the positions right, so whatever is found in a piece can be pointed
at in the whole text. The texts of the parts are those of plain splitting (`map_text_cut`), and a
trimmed piece holds the trimmed text (`text_trim`).
-/

namespace TypeExpr

/-- A stretch of a text and the position at which it begins. -/
structure Piece where
  start : Nat
  text : Text
deriving DecidableEq, Repr

namespace Piece

/-- A whole text as a piece of itself. -/
def ofText (t : Text) : Piece := ⟨0, t⟩

/-- The position after the last character. -/
def stop (p : Piece) : Nat := p.start + p.text.length

/-- Where the piece lies. -/
def span (p : Piece) : Span := ⟨p.start, p.stop⟩

/-! ### Trimming -/

/-- The piece without the blanks at either end. -/
def trim (p : Piece) : Piece := ⟨p.start + p.text.indent, p.text.trim⟩

@[simp] theorem text_trim (p : Piece) : p.trim.text = p.text.trim := rfl

/-! ### Cutting -/

/-- The parts of `t` between separators, where `t` begins at position `n`. -/
def cutFrom (sep : Char) : Nat → Text → List Piece
  | n, [] => [⟨n, []⟩]
  | n, c :: rest =>
    if c = sep then ⟨n, []⟩ :: cutFrom sep (n + 1) rest
    else (cutFrom sep (n + 1) rest).modifyHead fun p => ⟨n, c :: p.text⟩

/-- The parts of a piece between separators. -/
def cut (sep : Char) (p : Piece) : List Piece := cutFrom sep p.start p.text

theorem map_text_cutFrom (sep : Char) (n : Nat) (t : Text) :
    (cutFrom sep n t).map text = t.splitOn sep := by
  induction t generalizing n with
  | nil => rfl
  | cons c rest ih =>
    by_cases h : c = sep
    · simp [cutFrom, List.splitOn_cons_eq_if_modifyHead, h, ih]
    · rw [cutFrom, if_neg h, List.splitOn_cons_eq_if_modifyHead, if_neg (by simpa using h),
        ← ih (n + 1)]
      cases cutFrom sep (n + 1) rest <;> rfl

/-- Cutting a piece is splitting its text. -/
theorem map_text_cut (sep : Char) (p : Piece) : (p.cut sep).map text = p.text.splitOn sep :=
  map_text_cutFrom sep p.start p.text

end Piece
end TypeExpr
