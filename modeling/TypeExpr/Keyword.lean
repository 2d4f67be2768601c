import TypeExpr.Text.Lowercase

/-!
# `TypeExpr.Keyword`: the built-in types

Fifteen names denote built-in types. Each has a precedence, its place in the order in which a
composite type lists its atoms; class names have precedence zero and so come before them all.
-/

namespace TypeExpr

/-- The built-in types. -/
inductive Keyword where
  | bool
  | int
  | float
  | string
  | array
  | callable
  | iterable
  | object
  | static
  | mixed
  | void
  | falseValue
  | trueValue
  | null
  | never
deriving DecidableEq, Repr

namespace Keyword

/-- All keywords by ascending precedence. -/
def all : List Keyword :=
  [bool, int, float, string, array, callable, iterable, object, static, mixed, void, falseValue,
    trueValue, null, never]

/-- How a keyword is written. -/
def spelling : Keyword → Text
  | bool => "bool".toList
  | int => "int".toList
  | float => "float".toList
  | string => "string".toList
  | array => "array".toList
  | callable => "callable".toList
  | iterable => "iterable".toList
  | object => "object".toList
  | static => "static".toList
  | mixed => "mixed".toList
  | void => "void".toList
  | falseValue => "false".toList
  | trueValue => "true".toList
  | null => "null".toList
  | never => "never".toList

/-- The place of a keyword in canonical order, counted from one. -/
def precedence : Keyword → Nat
  | bool => 1
  | int => 2
  | float => 3
  | string => 4
  | array => 5
  | callable => 6
  | iterable => 7
  | object => 8
  | static => 9
  | mixed => 10
  | void => 11
  | falseValue => 12
  | trueValue => 13
  | null => 14
  | never => 15

/-- The keyword a text spells, in exactly its letters. -/
def ofText? (t : Text) : Option Keyword := all.find? fun k => k.spelling == t

theorem mem_all (k : Keyword) : k ∈ all := by cases k <;> decide

theorem spelling_inj {k l : Keyword} : k.spelling = l.spelling ↔ k = l := by
  revert k l
  have : ∀ k ∈ all, ∀ l ∈ all, k.spelling = l.spelling ↔ k = l := by decide
  exact fun {k l} => this k (mem_all k) l (mem_all l)

@[simp] theorem ofText?_spelling (k : Keyword) : ofText? k.spelling = some k := by
  cases k <;> decide

/-- A text is read as a keyword just if it is that keyword's spelling. -/
theorem ofText?_eq_some_iff {t : Text} {k : Keyword} : ofText? t = some k ↔ t = k.spelling := by
  constructor
  · intro h
    have := List.find?_some h
    simpa using (beq_iff_eq.mp this).symm
  · rintro rfl
    exact ofText?_spelling k

/-- Keywords are written in lower case. -/
@[simp] theorem lower_spelling (k : Keyword) : k.spelling.lower = k.spelling := by
  have h : (k.spelling.all fun c => decide (c.toNat < 0x80) && !c.isUpper) = true := by
    cases k <;> rfl
  exact Text.lower_eq_self fun c hc => by simpa using List.all_eq_true.mp h c hc

end Keyword
end TypeExpr
