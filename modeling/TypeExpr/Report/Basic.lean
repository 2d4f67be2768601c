import TypeExpr.Report.Issue
import TypeExpr.Report.Outburst

/-!
# `TypeExpr.Report.Basic`: collecting issues and telling them

A report keeps the issues submitted to it in order. It may have a cap, and calls a halt when
recording an issue makes their number equal to it; without a cap it takes any number. What it has to
say it says on request: all issues, under an exclamation, or in a talkative mood single remarks.
-/

namespace TypeExpr

/-- Issues in the order of submission, with how talkative the report is and at how many issues, if
at any, it calls a halt. -/
structure Report where
  verbosity : Int
  cap : Option Int
  issues : List Issue
deriving DecidableEq, Repr

namespace Report

/-- A report without issues. -/
def fresh (verbosity : Int) (cap : Option Int) : Report := ⟨verbosity, cap, []⟩

/-- How talkative a report is unless told otherwise. -/
def defaultVerbosity : Int := 0

/-- How many issues a report takes unless told otherwise. -/
def defaultCap : Option Int := some 3

/-- Whether there is nothing to complain of. -/
def isOk (r : Report) : Bool := r.issues.isEmpty

/-- Whether there is something to complain of. -/
def isSick (r : Report) : Bool := !r.issues.isEmpty

/-- The report with one issue more. -/
def record (r : Report) (i : Issue) : Report := { r with issues := r.issues ++ [i] }

/-- Whether the number of issues has come to the cap: a halt is called where recording brings it
there. -/
def atCap (r : Report) : Bool := r.cap == some (r.issues.length : Int)

/-- The report without its issues. -/
def reset (r : Report) : Report := { r with issues := [] }

/-- A text as a line of its own. -/
def line (t : Text) : Text := t ++ ['\n']

/-- What the report prints of a remark: all of it, or nothing if it is not talkative. -/
def remark (r : Report) (args : List Text) : Text :=
  if r.verbosity = 0 then [] else line ([' '].intercalate args)

/-- The rule above a complaint. -/
def banner : Text := List.replicate 60 '*'

/-- The rule above each issue. -/
def separator : Text := (List.replicate 20 "  -".toList).flatten

/-- One issue as it is printed. -/
def entry (i : Issue) : Text := line separator ++ line i.text

/-- All issues as they are printed under an exclamation; nothing if there are none. -/
def complaint (r : Report) (outburst : Text) : Text :=
  if r.isOk then [] else line banner ++ line outburst ++ r.issues.flatMap entry

@[simp] theorem issues_record (r : Report) (i : Issue) :
    (r.record i).issues = r.issues ++ [i] := rfl

end Report
end TypeExpr
