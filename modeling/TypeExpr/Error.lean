import TypeExpr.Mode
import TypeExpr.Span

/-!
# `TypeExpr.Error`: what can be wrong with a type expression

An error says what the fault is, which text is at fault, and, once that is known, where that text
stands. The wording is one function of the fault and the text (`Error.message`). The innermost
reader that knows a position wins: `Error.locate` fills in a position only where there is none.
-/

namespace TypeExpr

/-- Why an atom may not stand where it does. -/
inductive Objection where
  /-- It allows no company in a union. -/
  | excludesCompany
  /-- It is there twice. -/
  | duplicate (mode : Mode)
  /-- In a union it takes in the atoms named. -/
  | covers
  /-- In a union it takes in every class, such as those named. -/
  | coversClasses
  /-- In a union the two together have a name of their own. -/
  | spellsBool
  /-- Only classes can be intersected. -/
  | notIntersectable
  /-- It means nothing by itself. -/
  | notStandalone
  /-- It cannot be marked nullable. -/
  | notNullable
  /-- A rule given from outside refuses it. -/
  | refused (mode : Mode)
deriving DecidableEq, Repr

/-- What is wrong. -/
inductive Fault where
  /-- The text holds no separator. -/
  | notComposite
  /-- An intersection opens a parenthesis and does not close it. -/
  | unclosedGroup
  /-- A composite type is marked nullable. -/
  | nullableComposite
  /-- The text is neither a keyword nor a class name. -/
  | invalidName
  /-- A reader given from outside rejects the text, in words of its own. -/
  | unreadable (reason : Text)
  /-- An atom may not keep company with the atoms named, or may not stand where it does. -/
  | illegal (objection : Objection) (conflicts : List Text)
deriving DecidableEq, Repr

/-- A fault, the text at fault, and where that text stands if anyone knows. -/
structure Error where
  fault : Fault
  text : Text
  span : Option Span
deriving DecidableEq, Repr

namespace Error

/-- Names one after the other. -/
def listed (names : List Text) : Text := ", ".toList.intercalate names

/-- A text between double quotes, as it stands. -/
def named (t : Text) : Text := '"' :: t ++ ['"']

/-- What is said of an atom to which there is an objection, and of the atoms it conflicts with. -/
def objectionMessage (atom : Text) (conflicts : List Text) : Objection → Text
  | .excludesCompany =>
    "Type ".toList ++ named atom ++ " cannot be composed in a union with any other types".toList
  | .duplicate mode =>
    "Type ".toList ++ named atom ++ " cannot be composed in ".toList ++ mode.withArticle ++
      " with the same type".toList
  | .covers =>
    "Type ".toList ++ named atom ++ " already covers ".toList ++ listed (conflicts.map named) ++
      "; the union is redundant".toList
  | .coversClasses =>
    "Type ".toList ++ named atom ++ " already covers the class types ".toList ++
      listed (conflicts.map named) ++ "; the union is redundant".toList
  | .spellsBool =>
    "Type ".toList ++ named atom ++ " cannot be composed in a union with ".toList ++
      listed (conflicts.map named) ++ ": use \"bool\" instead".toList
  | .notIntersectable =>
    "Type ".toList ++ named atom ++ " cannot be part of an intersection type".toList
  | .notStandalone => "Type ".toList ++ named atom ++ " cannot be used as a standalone type".toList
  | .notNullable => "Type ".toList ++ named atom ++ " cannot be marked nullable".toList
  | .refused mode =>
    "Type ".toList ++ named atom ++ " cannot be composed in ".toList ++ mode.withArticle ++
      " with ".toList ++ listed conflicts

/-- The error in words. -/
def message (e : Error) : Text :=
  match e.fault with
  | .notComposite =>
    "Type ".toList ++ named e.text ++ " is not a union or intersection type".toList
  | .unclosedGroup =>
    "Invalid intersection type ".toList ++ named e.text ++ ": missing closing parenthesis".toList
  | .nullableComposite =>
    "Type ".toList ++ named e.text ++ " is a composite type, ".toList ++
      "and therefore cannot also be marked nullable with the \"?\" prefix".toList
  | .invalidName =>
    "Provided type ".toList ++ named e.text ++ " is not a keyword or a valid class name".toList
  | .unreadable reason => reason
  | .illegal objection conflicts => objectionMessage e.text conflicts objection

/-- The atoms an error names as in conflict with its own. -/
def conflicts (e : Error) : List Text :=
  match e.fault with
  | .illegal _ names => names
  | _ => []

/-- Whether the error is about atoms that are well-formed but may not be combined as they are. -/
def isIllegal (e : Error) : Bool :=
  match e.fault with
  | .illegal _ _ => true
  | _ => false

/-- The error, with a position if it had none. -/
def locate (e : Error) (span : Span) : Error := { e with span := e.span.or (some span) }

@[simp] theorem fault_locate (e : Error) (s : Span) : (e.locate s).fault = e.fault := rfl

theorem isIllegal_eq_of_fault_eq {e e' : Error} (h : e'.fault = e.fault) :
    e'.isIllegal = e.isIllegal := by
  rw [isIllegal, isIllegal, h]

end Error
end TypeExpr
