import TypeExpr.Error
import TypeExpr.Keyword
import TypeExpr.Text.Blank
import TypeExpr.Text.Word

/-!
# `TypeExpr.Atom.Basic`: atoms and how they are read

An atom is a leaf of a type: a keyword, or the name of a class. It has a name and a precedence, and
counts as built-in if the precedence is not zero.

A text is read as an atom after its blanks and one leading backslash are taken off. A keyword may be
written in any case; a class name keeps its letters, and is a sequence of identifiers with
backslashes between them. Rules from outside may supply atoms of any name and precedence.
-/

namespace TypeExpr

/-- A leaf of a type. -/
structure Atom where
  name : Text
  precedence : Int
deriving DecidableEq, Repr

/-- A word character that is no digit, and then word characters. -/
def Text.isIdentifier : Text → Bool
  | [] => false
  | c :: rest => startsWord c && rest.all isWord

/-- Identifiers with backslashes between them. -/
def Text.isClassName (t : Text) : Bool := (t.splitOn '\\').all isIdentifier

/-- The text without one backslash at its beginning. -/
def Text.unqualified : Text → Text
  | '\\' :: rest => rest
  | t => t

namespace Atom

/-- The atom of a built-in type. -/
def ofKeyword (k : Keyword) : Atom := ⟨k.spelling, k.precedence⟩

/-- The atom of a class. -/
def ofClass (name : Text) : Atom := ⟨name, 0⟩

/-- Whether the atom is a built-in type and not a class. -/
def isBuiltin (a : Atom) : Bool := a.precedence != 0

/-- Whether the atom goes by the name of a keyword. -/
def isNamed (a : Atom) (k : Keyword) : Bool := a.name == k.spelling

/-- What two atoms share if they are the same type: names do not tell cases apart. -/
def identity (a : Atom) : Text := a.name.lower

/-- The name by which the atom is declared: a class name is written from the root. -/
def fullName (a : Atom) : Text := if a.isBuiltin then a.name else '\\' :: a.name

/-- Reads a keyword or a class name. -/
def ofText (t : Text) : Except Error Atom :=
  let bare := t.trim.unqualified
  match Keyword.ofText? bare.lower with
  | some k => .ok (ofKeyword k)
  | none => if bare.isClassName then .ok (ofClass bare) else .error ⟨.invalidName, t, none⟩

@[simp] theorem isBuiltin_ofKeyword (k : Keyword) : (ofKeyword k).isBuiltin = true := by
  cases k <;> rfl

@[simp] theorem isNamed_ofKeyword (k l : Keyword) : (ofKeyword k).isNamed l = decide (k = l) := by
  rw [isNamed, Bool.eq_iff_iff, beq_iff_eq, decide_eq_true_iff]
  exact Keyword.spelling_inj

@[simp] theorem isBuiltin_ofClass (name : Text) : (ofClass name).isBuiltin = false := rfl

/-- Reading gives a keyword, or a class whose name is well-formed and spells no keyword. -/
theorem ofText_eq_ok {t : Text} {a : Atom} (h : ofText t = .ok a) :
    (∃ k, a = ofKeyword k ∧ t.trim.unqualified.lower = k.spelling) ∨
      (a = ofClass t.trim.unqualified ∧ t.trim.unqualified.isClassName = true ∧
        Keyword.ofText? t.trim.unqualified.lower = none) := by
  unfold ofText at h
  simp only at h
  split at h
  · next k hk =>
    exact .inl ⟨k, (Except.ok.inj h).symm, Keyword.ofText?_eq_some_iff.mp hk⟩
  · next hk =>
    split at h
    · next hc => exact .inr ⟨(Except.ok.inj h).symm, hc, hk⟩
    · exact absurd h (by simp)

/-- Reading fails in one way only, and says nothing of a position. -/
theorem ofText_eq_error {t : Text} {e : Error} (h : ofText t = .error e) :
    e = ⟨.invalidName, t, none⟩ := by
  unfold ofText at h
  simp only at h
  split at h
  · exact absurd h (by simp)
  · split at h
    · exact absurd h (by simp)
    · exact (Except.error.inj h).symm

end Atom
end TypeExpr
