import TypeExpr.Inquiry
import TypeExpr.Piece
import TypeExpr.Ty.Order

/-!
# `TypeExpr.Ty.Parse`: composite types from text

A text with a separator in it denotes a composite type. One look decides its mode: with a `|` it is
a union, whose segments are atoms or, where they hold a `&`, groups; without it is a group, an
intersection of atoms that may stand in one pair of parentheses. Since a group is cut at every `&`,
no part of it is a group again, and nesting ends there.

Whatever is built has its members in canonical order, and each of its atoms has answered to the
others. Nested groups are not asked about: they were checked when they were built. Errors carry the
span of the segment they are about, counted in the whole text.
-/

namespace TypeExpr.Ty

/-! ### Members and their siblings -/

/-- A member, and where in the text it was found. -/
structure Placed where
  type : Ty
  span : Span

/-- Every entry of a list paired with the entries at other positions. -/
def withOthers {α : Type} : List α → List (α × List α)
  | [] => []
  | x :: xs => (x, xs) :: (withOthers xs).map fun p => (p.1, x :: p.2)

/-- The atoms among the members, each with its place. -/
def placedAtoms (ms : List Placed) : List (Atom × Span) :=
  ms.filterMap fun m => m.type.atom?.map (·, m.span)

/-- Asks the rules about one atom and its siblings. An atom without siblings is not asked about. -/
def consult (rules : Rules) (mode : Mode) (a : Atom × Span) (others : List Atom) : Inquiry Unit :=
  if others.isEmpty then pure ()
  else ⟨[⟨mode, a.1, others⟩], (rules.check mode a.1 others).mapError (·.locate a.2)⟩

/-- Lets each atom among the members answer to the others. -/
def validate (rules : Rules) (mode : Mode) (ms : List Placed) : Inquiry Unit :=
  (withOthers (placedAtoms ms)).forM fun p => consult rules mode p.1 (p.2.map Prod.fst)

/-- Combines members: puts them in order, then lets the atoms among them answer to each other. -/
def assemble (rules : Rules) (mode : Mode) (ms : List Placed) : Inquiry Ty := do
  let sorted := sortByKey (·.type.sortKey) ms
  validate rules mode sorted
  return .combine mode (sorted.map (·.type))

/-! ### Reading segments -/

/-- Reads a trimmed segment as an atom. -/
def readLeaf (rules : Rules) (p : Piece) : Inquiry Placed :=
  .ofExcept (((rules.readAtom p.text).map fun a => ⟨.atom a, p.span⟩).mapError (·.locate p.span))

/-- The inside of a group: what stands between its parentheses, if it opens with one. -/
def groupBody (p : Piece) : Except Error Piece :=
  match p.text with
  | '(' :: rest =>
    if rest.getLast? = some ')' then .ok (Piece.trim ⟨p.start + 1, rest.dropLast⟩)
    else .error ⟨.unclosedGroup, p.text, some p.span⟩
  | _ => .ok p

/-- Reads a trimmed segment as a group. -/
def readGroup (rules : Rules) (p : Piece) : Inquiry Ty := do
  let body ← .ofExcept (groupBody p)
  let members ← (body.cut '&').mapM fun q => readLeaf rules q.trim
  assemble rules .intersection members

/-- Reads a trimmed segment of a union: a group if it holds a `&`, and else an atom. -/
def readSegment (rules : Rules) (p : Piece) : Inquiry Placed :=
  if p.text.contains '&' then return ⟨← readGroup rules p, p.span⟩ else readLeaf rules p

/-- Reads a trimmed text as a union. -/
def readUnion (rules : Rules) (p : Piece) : Inquiry Ty := do
  let members ← (p.cut '|').mapM fun q => readSegment rules q.trim
  assemble rules .union members

/-! ### Reading expressions -/

/-- Reads a composite type, keeping account of the questions put to the rules. -/
def inquire (rules : Rules) (t : Text) : Inquiry Ty :=
  let p := (Piece.ofText t).trim
  if !t.isComposite then .ofExcept (.error ⟨.notComposite, t, some (Span.whole t.length)⟩)
  else if p.text.contains '|' then readUnion rules p
  else readGroup rules p

/-- Reads a composite type under given rules. -/
def parseWith (rules : Rules) (t : Text) : Except Error Ty := (inquire rules t).outcome

/-- Reads a composite type under the standard rules. -/
def parse (t : Text) : Except Error Ty := parseWith .standard t

end TypeExpr.Ty
