import TypeExpr.Span
import TypeExpr.Text.Blank
import TypeExpr.Text.Lines
import TypeExpr.Text.Numeral

/-!
# `TypeExpr.Report.Annotation`: a line of text with a stretch of it underlined

An annotation shows the line in which a span begins, under its number, and below it as many carets
as the span is long, so far as the line reaches, with a caption. Tabs in front of the span stand in
the second line as well, so the carets stay under what they point at.
-/

namespace TypeExpr

/-- A span of a text, and what to say about it. -/
structure Annotation where
  source : Text
  span : Span
  caption : Text
deriving DecidableEq, Repr

namespace Annotation

/-- The margin in front of a line: its number, right-aligned after at least one blank, and a bar. -/
def margin (number : Nat) : Text := (' ' :: Text.ofNat number).leftpad 6 ' ' ++ " |".toList

/-- A blank as wide as a character. -/
def blanked (c : Char) : Char := if c == '\t' then '\t' else ' '

/-- Where the span begins. -/
def place (a : Annotation) : Text.Place := a.source.place a.span.start

/-- The number of the line shown, counted from one. -/
def number (a : Annotation) : Nat := a.place.row + 1

/-- What stands before the carets. -/
def padding (a : Annotation) : Text :=
  (margin a.number ++ a.place.line.take a.place.column).map blanked

/-- How many carets there are: one for each character of the span on its line, and at least one. -/
def caretCount (a : Annotation) : Nat :=
  max 1 (min (max 1 (a.span.stop - a.span.start)) (a.place.line.length - a.place.column))

/-- The line shown, without trailing blanks. -/
def shown (a : Annotation) : Text := (margin a.number ++ a.place.line).trimEnd

/-- The line below it. -/
def pointer (a : Annotation) : Text :=
  a.padding ++ List.replicate a.caretCount '^' ++ ' ' :: a.caption

/-- Both lines. -/
def illustrate (a : Annotation) : Text := a.shown ++ '\n' :: a.pointer

/-- The annotation of a stretch that may end anywhere, even before the text begins. Then it is
empty, as if it ended where the text begins. -/
def between (source : Text) (start : Nat) (stop : Int) (caption : Text) : Annotation :=
  ⟨source, ⟨start, stop.toNat⟩, caption⟩

/-- The width of the stretch is an integer, which an end before the beginning makes negative. -/
theorem caretCount_between (source : Text) (start : Nat) (stop : Int) (caption : Text) :
    ((between source start stop caption).caretCount : Int) =
      let p := source.place start
      max 1 (min (max 1 (stop - start)) (p.line.length - p.column)) := by
  simp only [caretCount, place, between]
  omega

theorem caretCount_pos (a : Annotation) : 0 < a.caretCount := by
  unfold caretCount
  omega

end Annotation
end TypeExpr
