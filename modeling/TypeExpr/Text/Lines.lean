import TypeExpr.Text.Basic

/-!
# `TypeExpr.Text.Lines`: lines of a text and places in it

A line ends after a carriage return and line feed, after either of them alone, or at the end of the
text. Lines keep their breaks, so together they are the text (`flatten_lines`); the last one has
none, and may be empty. A position falls into the last line that begins at it or before it, also if
it lies past the end of the text.
-/

namespace TypeExpr.Text

/-- Whether a character breaks a line. -/
def isBreak (c : Char) : Bool := c == '\r' || c == '\n'

/-- The lines of a text, with their breaks. -/
def lines : Text → List Text
  | [] => [[]]
  | '\r' :: '\n' :: rest => ['\r', '\n'] :: lines rest
  | c :: rest => if isBreak c then [c] :: lines rest else (lines rest).modifyHead (c :: ·)

theorem lines_ne_nil (t : Text) : lines t ≠ [] := by
  fun_induction lines t with
  | case1 => simp
  | case2 => simp
  | case3 => simp
  | case4 c rest _ _ ih => simpa [List.modifyHead_eq_nil_iff] using ih

/-- The lines one after the other are the text. -/
theorem flatten_lines (t : Text) : (lines t).flatten = t := by
  fun_induction lines t with
  | case1 => rfl
  | case2 rest ih => simp [ih]
  | case3 c rest _ _ ih => simp [ih]
  | case4 c rest _ _ ih =>
    obtain ⟨l, ls, h⟩ := List.exists_cons_of_ne_nil (lines_ne_nil rest)
    rw [h] at ih ⊢
    simpa using ih

/-- A position by the row it is in, counted from zero, the line of that row, and the distance from
the line's beginning. -/
structure Place where
  row : Nat
  line : Text
  column : Nat
deriving DecidableEq, Repr

/-- The place of a position among lines. Past the last line, the column goes on counting. -/
def placeIn : List Text → Nat → Place
  | [], n => ⟨0, [], n⟩
  | [l], n => ⟨0, l, n⟩
  | l :: m :: rest, n =>
    if n < l.length then ⟨0, l, n⟩
    else
      let p := placeIn (m :: rest) (n - l.length)
      { p with row := p.row + 1 }

/-- The place of a position in a text. -/
def place (t : Text) (n : Nat) : Place := placeIn t.lines n

end TypeExpr.Text
