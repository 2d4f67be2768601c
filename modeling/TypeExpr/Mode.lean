import TypeExpr.Text.Basic

/-!
# `TypeExpr.Mode`: unions and intersections

Types combine in two ways, each written with a separator of its own.
-/

namespace TypeExpr

/-- The two ways to combine types. -/
inductive Mode where
  | union
  | intersection
deriving DecidableEq, Repr

namespace Mode

/-- The character written between the members. -/
def separator : Mode → Char
  | union => '|'
  | intersection => '&'

/-- The name of the mode. -/
def name : Mode → Text
  | union => "union".toList
  | intersection => "intersection".toList

/-- The name of the mode with its article. -/
def withArticle : Mode → Text
  | union => "a union".toList
  | intersection => "an intersection".toList

theorem name_inj {m n : Mode} : m.name = n.name ↔ m = n := by
  cases m <;> cases n <;> decide

end Mode

/-- Whether a text holds a separator of either mode. -/
def Text.isComposite (t : Text) : Bool := t.contains '|' || t.contains '&'

theorem Text.isComposite_iff {t : Text} : t.isComposite = true ↔ '|' ∈ t ∨ '&' ∈ t := by
  simp [isComposite]

end TypeExpr
