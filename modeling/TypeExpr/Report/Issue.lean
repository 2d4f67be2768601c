import TypeExpr.Error
import TypeExpr.Report.Annotation

/-!
# `TypeExpr.Report.Issue`: trouble that is worth telling

An issue has an introduction, pictures of the places it is about, and closing remarks. An error in
an expression makes an issue that underlines the text at fault, or the whole expression if nobody
knows where that is.
-/

namespace TypeExpr

/-- Something to tell: an introduction, pictures, and closing remarks. -/
structure Issue where
  intro : Text
  annotations : List Annotation
  footer : List Text
deriving DecidableEq, Repr

namespace Issue

/-- The issue in full: the introduction, an empty line, and the rest below it. -/
def text (i : Issue) : Text :=
  ['\n'].intercalate (i.intro :: [] :: i.annotations.map Annotation.illustrate ++ i.footer)

/-- What is written beside the carets under an error. -/
def caption (e : Error) : Text :=
  match e.fault with
  | .illegal _ [] => "not allowed here".toList
  | .illegal _ conflicts => "conflicts with ".toList ++ Error.listed conflicts
  | .notComposite => "no '|' or '&' in sight".toList
  | _ => "confused here".toList

/-- What is remarked below an error. -/
def remarks (e : Error) : List Text :=
  if e.isIllegal then ["These types cannot be combined this way.".toList] else []

/-- The issue that an error in an expression makes. -/
def ofError (expression : Text) (e : Error) : Issue where
  intro := e.message
  annotations := [⟨expression, e.span.getD (Span.whole expression.length), caption e⟩]
  footer := remarks e

@[simp] theorem intro_ofError (expression : Text) (e : Error) :
    (ofError expression e).intro = e.message := rfl

end Issue
end TypeExpr
