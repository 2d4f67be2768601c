import TypeExpr.Atom.Basic

/-!
# `TypeExpr.Atom.Legality`: which atoms may stand together

An atom answers to its siblings. In a union it may object to all company, to a sibling that is the
same type, to siblings it covers already, or to a sibling with which it spells a keyword; in an
intersection only classes may stand, and no class twice. The rules are tried in that order, and the
first that applies names the siblings in conflict.

Two further rules concern an atom by itself: what may be the whole of a type, and what may be marked
nullable.
-/

namespace TypeExpr

/-- An objection to an atom, with the siblings it conflicts with. -/
structure Conflict where
  objection : Objection
  culprits : List Atom
deriving DecidableEq, Repr

namespace Atom

/-! ### Company -/

/-- The keywords that allow no company in a union. -/
def loners : List Keyword := [.mixed, .void, .never]

/-- Whether the atom, in a union, makes a keyword beside it redundant. -/
def coversKeyword (a other : Atom) : Bool :=
  (a.isNamed .bool && (other.isNamed .falseValue || other.isNamed .trueValue)) ||
    (a.isNamed .iterable && other.isNamed .array)

/-- The conflict with those siblings that fit a description, if there are any. -/
def conflictWith (objection : Objection) (culprits : List Atom) : Option Conflict :=
  if culprits.isEmpty then none else some ⟨objection, culprits⟩

/-- The conflict with the first sibling that is the same type. -/
def duplicateConflict? (mode : Mode) (a : Atom) (others : List Atom) : Option Conflict :=
  (others.find? fun o => o.identity == a.identity).map fun o => ⟨.duplicate mode, [o]⟩

/-- What an atom of a union objects to in its siblings. -/
def unionConflict? (a : Atom) (others : List Atom) : Option Conflict :=
  if loners.any a.isNamed then some ⟨.excludesCompany, others⟩
  else duplicateConflict? .union a others
    <|> conflictWith .covers (others.filter a.coversKeyword)
    <|> (if a.isNamed .object then
          conflictWith .coversClasses (others.filter (!·.isBuiltin)) else none)
    <|> (if a.isNamed .trueValue then
          conflictWith .spellsBool (others.filter (·.isNamed .falseValue)) else none)

/-- What an atom of an intersection objects to in its siblings. -/
def intersectionConflict? (a : Atom) (others : List Atom) : Option Conflict :=
  if a.isBuiltin then some ⟨.notIntersectable, others⟩
  else duplicateConflict? .intersection a others

/-- What an atom objects to in its siblings. -/
def conflict? : Mode → Atom → List Atom → Option Conflict
  | .union => unionConflict?
  | .intersection => intersectionConflict?

/-- The error that blames an atom for a conflict. -/
def blame (a : Atom) (c : Conflict) : Error :=
  ⟨.illegal c.objection (c.culprits.map name), a.name, none⟩

/-- Accepts an atom that objects to none of its siblings. -/
def check (mode : Mode) (a : Atom) (others : List Atom) : Except Error Unit :=
  match conflict? mode a others with
  | none => .ok ()
  | some c => .error (a.blame c)

/-- Whether an atom may keep the company of others. -/
def accepts (mode : Mode) (a : Atom) (others : List Atom) : Bool := (conflict? mode a others).isNone

theorem check_eq_ok_iff {mode : Mode} {a : Atom} {others : List Atom} :
    check mode a others = .ok () ↔ accepts mode a others = true := by
  unfold check accepts
  cases conflict? mode a others <;> simp

/-! ### An atom by itself -/

/-- The keywords that mean nothing by themselves. -/
def dependents : List Keyword := [.null, .falseValue, .trueValue]

/-- The keywords that cannot be marked nullable. -/
def unmarkable : List Keyword := [.null, .mixed, .void, .never, .falseValue, .trueValue]

/-- Accepts an atom that may be the whole of a type. -/
def checkStandalone (a : Atom) : Except Error Unit :=
  if dependents.any a.isNamed then .error (a.blame ⟨.notStandalone, []⟩) else .ok ()

/-- Accepts an atom that may be marked nullable. -/
def checkNullable (a : Atom) : Except Error Unit :=
  if unmarkable.any a.isNamed then .error (a.blame ⟨.notNullable, []⟩) else .ok ()

end Atom
end TypeExpr
