import TypeExpr.Ty.Basic
import TypeExpr.Text.Numeral

/-!
# `TypeExpr.Ty.Render`: types as text

A type is written by joining its members with the separator of its mode; an intersection that is a
member stands in parentheses. Only the leaves differ between the two written forms: a declaration
names classes from the root, documentation leaves the root out.

The outline of a type shows its structure instead, one node a line, each four blanks deeper than the
node above it.
-/

namespace TypeExpr.Ty

/-! ### Written forms -/

/-- The text of a member: an intersection stands in parentheses. -/
def enclose : Ty → Text → Text
  | .combine .intersection _, t => '(' :: t ++ [')']
  | _, t => t

mutual
/-- The text of a type, given how its atoms are written. -/
def render (leaf : Atom → Text) : Ty → Text
  | .atom a => leaf a
  | .combine mode ts => [mode.separator].intercalate (renderMembers leaf ts)

/-- The texts of a list of members. -/
def renderMembers (leaf : Atom → Text) : List Ty → List Text
  | [] => []
  | t :: ts => t.enclose (t.render leaf) :: renderMembers leaf ts
end

theorem renderMembers_eq_map (leaf : Atom → Text) (ts : List Ty) :
    renderMembers leaf ts = ts.map fun t => t.enclose (t.render leaf) := by
  induction ts with
  | nil => rfl
  | cons t ts ih => simp [renderMembers, ih]

/-- The type as a declaration wants it: class names from the root. -/
def declaration : Ty → Text := render Atom.fullName

/-- The type as a reader wants it: bare class names. -/
def documentation : Ty → Text := render Atom.name

/-- The text of a type whose leaves nobody can write: there is one just if there are no leaves. -/
def abstractText? (t : Ty) : Option Text :=
  if t.atoms.isEmpty then some (t.render Atom.name) else none

/-! ### Outline -/

/-- How much deeper each level of an outline stands. -/
def outlineStep : Text := "    ".toList

/-- The line of an atom in an outline, less its indent. -/
def outlineLeaf (a : Atom) : Text :=
  a.name ++ " (".toList ++ (if a.isBuiltin then "built-in".toList else "class".toList) ++
    ", ".toList ++ Text.ofInt a.precedence ++ ")".toList

mutual
/-- The nodes of a type, one a line, each as deep as it is nested. -/
def outline (indent : Text) : Ty → List Text
  | .atom a => [indent ++ outlineLeaf a]
  | .combine mode ts => (indent ++ mode.name) :: outlineMembers (indent ++ outlineStep) ts

/-- The outlines of a list of members, one after the other. -/
def outlineMembers (indent : Text) : List Ty → List Text
  | [] => []
  | t :: ts => t.outline indent ++ outlineMembers indent ts
end

mutual
/-- An outline has a line for every node. -/
theorem length_outline (indent : Text) : (t : Ty) → (t.outline indent).length = t.size
  | .atom _ => rfl
  | .combine _ ts => by
    simp [outline, size, length_outlineMembers _ ts, Nat.add_comm]

theorem length_outlineMembers (indent : Text) :
    (ts : List Ty) → (outlineMembers indent ts).length = memberSize ts
  | [] => rfl
  | t :: ts => by
    simp [outlineMembers, memberSize, length_outline indent t, length_outlineMembers indent ts]
end

mutual
/-- An outline that stands deeper has the same lines, each that much deeper. -/
theorem outline_append (i j : Text) : (t : Ty) → t.outline (i ++ j) = (t.outline j).map (i ++ ·)
  | .atom _ => by simp [outline]
  | .combine _ ts => by simp [outline, outlineMembers_append i (j ++ outlineStep) ts]

theorem outlineMembers_append (i j : Text) :
    (ts : List Ty) → outlineMembers (i ++ j) ts = (outlineMembers j ts).map (i ++ ·)
  | [] => rfl
  | t :: ts => by simp [outlineMembers, outline_append i j t, outlineMembers_append i j ts]
end

end TypeExpr.Ty
