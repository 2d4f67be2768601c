import TypeExpr.Hint
import TypeExpr.Report.Basic

/-!
# `TypeExpr.Report.Session`: working with a report step by step

A session puts one request after another to a report and notes, for each, what it answered, what it
printed, and how it stood afterwards. A step that calls a halt or fails an assertion answers so, and
the session goes on from the report as the step left it.
-/

namespace TypeExpr

/-- A request to a report. -/
inductive Step where
  /-- Read a hint, and record what is wrong with it. -/
  | hint (expression : Text)
  /-- Read a composite type, and record what is wrong with it. -/
  | parse (expression : Text)
  /-- Record an issue. -/
  | issue (i : Issue)
  /-- Remark something. -/
  | info (args : List Text)
  /-- Forget all issues. -/
  | reset
  /-- Tell all issues. -/
  | complain
  /-- Insist that there are no issues. -/
  | assert (message : Text)
  /-- List all issues. -/
  | issues
deriving DecidableEq, Repr

/-- What a report answers. -/
inductive Reply where
  /-- Nothing. -/
  | done
  /-- The declaration of what was read. -/
  | declaration (t : Text)
  /-- The introduction and the full text of each issue. -/
  | described (issues : List (Text × Text))
  /-- The cap is reached. -/
  | tooManyIssues
  /-- There are issues where there should be none. -/
  | assertionFailed (message : Text)
deriving DecidableEq, Repr

/-- A report, the choices its exclamations are made with, and how many have been used. -/
structure Session where
  choices : Choices
  report : Report
  drawn : Nat

/-- How a step went: the session after it, the answer, and what was printed. -/
structure StepOutcome where
  session : Session
  reply : Reply
  printed : Text

namespace Session

/-- A session that begins with a given report. -/
def start (choices : Choices) (report : Report) : Session := ⟨choices, report, 0⟩

/-- The next exclamation. -/
def outburst (s : Session) : Text := Outburst.text s.choices s.drawn

/-- The session after an exclamation. -/
def afterOutburst (s : Session) : Session := { s with drawn := s.drawn + Outburst.draws }

/-- Records an issue, and calls a halt if that reaches the cap. -/
def submit (s : Session) (i : Issue) : StepOutcome :=
  let report := s.report.record i
  ⟨{ s with report := report }, if report.atCap then .tooManyIssues else .done, []⟩

/-- Answers with the declaration of what was read, or records what is wrong with it. -/
def settle (s : Session) (expression : Text) : Except Error Text → StepOutcome
  | .ok declaration => ⟨s, .declaration declaration, []⟩
  | .error e => s.submit (.ofError expression e)

/-- One step of a session. -/
def step (s : Session) : Step → StepOutcome
  | .hint expression => s.settle expression ((Hint.parse expression).map Hint.declaration)
  | .parse expression => s.settle expression ((Ty.parse expression).map Ty.declaration)
  | .issue i => s.submit i
  | .info args => ⟨s, .done, s.report.remark args⟩
  | .reset => ⟨{ s with report := s.report.reset }, .done, []⟩
  | .complain =>
    if s.report.isOk then ⟨s, .done, []⟩
    else ⟨s.afterOutburst, .done, s.report.complaint s.outburst⟩
  | .assert message =>
    if s.report.isOk then ⟨s, .done, []⟩
    else
      let next := s.afterOutburst
      ⟨next.afterOutburst, .assertionFailed (next.outburst ++ ' ' :: message),
        s.report.complaint s.outburst⟩
  | .issues => ⟨s, .described (s.report.issues.map fun i => (i.intro, i.text)), []⟩

/-- The outcomes of steps, each taken from where the one before it ended. -/
def run (s : Session) : List Step → List StepOutcome
  | [] => []
  | step :: rest =>
    let outcome := s.step step
    outcome :: run outcome.session rest

end Session
end TypeExpr
