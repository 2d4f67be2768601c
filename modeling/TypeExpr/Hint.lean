import TypeExpr.Ty.Parse

/-!
# `TypeExpr.Hint`: complete type hints

A hint is what may stand where a declaration wants a type: an atom, which may be marked nullable by
a question mark in front, or a composite type, which spells its nullability as a member. Spans in
errors refer to the text as given; an error in a hint without separators is about all of it.
-/

namespace TypeExpr

/-- A type, marked nullable or not. -/
structure Hint where
  type : Ty
  nullable : Bool
deriving DecidableEq, Repr

namespace Hint

/-- Takes the mark of a nullable type off a text, and says whether it was there. -/
def unmarked : Text → Bool × Text
  | '?' :: rest => (true, rest)
  | t => (false, t)

/-- Reads an atom that can be a hint by itself. -/
def readAtom (rules : Rules) (nullable : Bool) (t : Text) : Except Error Hint := do
  let a ← rules.readAtom t
  a.checkStandalone
  if nullable then a.checkNullable
  return ⟨.atom a, nullable⟩

/-- Reads a hint, keeping account of the questions put to the rules. -/
def inquire (rules : Rules) (t : Text) : Inquiry Hint :=
  let everything := Span.whole t.length
  match unmarked t.trim with
  | (nullable, bare) =>
    if !bare.isComposite then
      .ofExcept ((readAtom rules nullable bare).mapError (·.locate everything))
    else if nullable then .ofExcept (.error ⟨.nullableComposite, t, some everything⟩)
    else return ⟨← Ty.inquire rules t, false⟩

/-- Reads a hint under given rules. -/
def parseWith (rules : Rules) (t : Text) : Except Error Hint := (inquire rules t).outcome

/-- Reads a hint under the standard rules. -/
def parse (t : Text) : Except Error Hint := parseWith .standard t

/-- The mark in front of a nullable type. -/
def mark (h : Hint) : Text := if h.nullable then ['?'] else []

/-- The hint as a declaration wants it. -/
def declaration (h : Hint) : Text := h.mark ++ h.type.declaration

/-- The hint as a reader wants it. -/
def documentation (h : Hint) : Text := h.mark ++ h.type.documentation

/-- Whether two hints are declared alike. -/
def equals (a b : Hint) : Bool := a.declaration == b.declaration

end Hint
end TypeExpr
