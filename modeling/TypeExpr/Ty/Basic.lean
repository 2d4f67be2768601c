import TypeExpr.Atom.Basic

/-!
# `TypeExpr.Ty.Basic`: types

A type is an atom, or members combined in a union or an intersection. The type allows any nesting
and any number of members; what a reader produces is narrower. Equality is structural and decidable.
-/

namespace TypeExpr

/-- A type: an atom, or a combination of types. -/
inductive Ty where
  | atom (a : Atom)
  | combine (mode : Mode) (members : List Ty)
deriving Repr

namespace Ty

/-! ### Equality -/

mutual
/-- Decides whether two types are the same tree. -/
def decEq : (s t : Ty) → Decidable (s = t)
  | .atom a, .atom b =>
    if h : a = b then isTrue (by rw [h]) else isFalse fun e => h (Ty.atom.inj e)
  | .atom _, .combine _ _ => isFalse (by simp)
  | .combine _ _, .atom _ => isFalse (by simp)
  | .combine m ss, .combine n ts =>
    if h : m = n then
      match decEqMembers ss ts with
      | isTrue hs => isTrue (by rw [h, hs])
      | isFalse hs => isFalse fun e => hs (Ty.combine.inj e).2
    else isFalse fun e => h (Ty.combine.inj e).1

/-- Decides whether two lists of members are the same. -/
def decEqMembers : (ss ts : List Ty) → Decidable (ss = ts)
  | [], [] => isTrue rfl
  | [], _ :: _ => isFalse (by simp)
  | _ :: _, [] => isFalse (by simp)
  | s :: ss, t :: ts =>
    match decEq s t with
    | isFalse h => isFalse fun e => h (List.cons.inj e).1
    | isTrue h =>
      match decEqMembers ss ts with
      | isTrue hs => isTrue (by rw [h, hs])
      | isFalse hs => isFalse fun e => hs (List.cons.inj e).2
end

instance : DecidableEq Ty := decEq

/-! ### Views -/

/-- The atom, if the type is one. -/
def atom? : Ty → Option Atom
  | .atom a => some a
  | .combine _ _ => none

/-- The mode, if the type is a combination. -/
def mode? : Ty → Option Mode
  | .atom _ => none
  | .combine mode _ => some mode

/-- The members of a combination; an atom has none. -/
def members : Ty → List Ty
  | .atom _ => []
  | .combine _ ts => ts

mutual
/-- The atoms of a type from left to right. -/
def atoms : Ty → List Atom
  | .atom a => [a]
  | .combine _ ts => memberAtoms ts

/-- The atoms of a list of members from left to right. -/
def memberAtoms : List Ty → List Atom
  | [] => []
  | t :: ts => t.atoms ++ memberAtoms ts
end

mutual
/-- How many nodes a type has, leaves included. -/
def size : Ty → Nat
  | .atom _ => 1
  | .combine _ ts => 1 + memberSize ts

/-- How many nodes the members have together. -/
def memberSize : List Ty → Nat
  | [] => 0
  | t :: ts => t.size + memberSize ts
end

end Ty
end TypeExpr
