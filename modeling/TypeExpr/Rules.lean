import TypeExpr.Atom.Legality

/-!
# `TypeExpr.Rules`: what building a type needs to know about atoms

Whoever builds a composite type asks two things: how a text is read as an atom, and whether an atom
may keep the company of its siblings. The standard rules answer by name and precedence. Others may
be built from a bare predicate; a refusal then names the atom and all its siblings.
-/

namespace TypeExpr

/-- How atoms are read, and which may stand together. -/
structure Rules where
  readAtom : Text → Except Error Atom
  check : Mode → Atom → List Atom → Except Error Unit

namespace Rules

/-- Keywords and class names, with the legality rules of atoms. -/
def standard : Rules := ⟨Atom.ofText, Atom.check⟩

/-- Rules that refuse an atom wherever a predicate fails of it and its siblings. -/
def ofPredicate (accepts : Mode → Atom → List Atom → Bool)
    (readAtom : Text → Except Error Atom) : Rules where
  readAtom := readAtom
  check mode a others :=
    if accepts mode a others then .ok () else .error (a.blame ⟨.refused mode, others⟩)

end Rules
end TypeExpr
