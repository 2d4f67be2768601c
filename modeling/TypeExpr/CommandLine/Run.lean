import TypeExpr.CommandLine.Arguments
import TypeExpr.Hint
import TypeExpr.Report.Basic

/-!
# `TypeExpr.CommandLine.Run`: the command

The command reads each expression as a hint and prints its canonical form. What is wrong with an
expression is kept in a report, and told at the end, or as soon as the cap on issues is reached. The
exit status says whether anything was wrong.
-/

namespace TypeExpr.CommandLine

/-- What a call leaves behind: the exit status and the text on either output. -/
structure Result where
  status : Nat
  stdout : Text
  stderr : Text
deriving DecidableEq, Repr

/-- What has been done so far: the report, the text on either output, and whether the report has
called a halt. -/
structure Progress where
  report : Report
  stdout : Text
  stderr : Text
  halted : Bool
deriving DecidableEq, Repr

namespace Progress

/-- Before the first expression. -/
def start (o : Options) : Progress := ⟨Report.fresh o.check o.maxIssues, [], [], false⟩

/-- What is printed of a hint that was read. -/
def printed (o : Options) (h : Hint) : Text :=
  if 0 < o.check then []
  else
    Report.line (if o.doc then h.documentation else h.declaration) ++
      if o.tree then (h.type.outline Ty.outlineStep).flatMap Report.line else []

/-- The remark made on an expression that was read. -/
def chatter (expression : Text) (h : Hint) : Text :=
  Text.quoted expression ++ " is ".toList ++ h.declaration

/-- Goes through one expression, unless a halt was called. -/
def advance (o : Options) (p : Progress) (expression : Text) : Progress :=
  if p.halted then p
  else
    match Hint.parse expression with
    | .ok h =>
      { p with
        stdout := p.stdout ++ printed o h
        stderr := p.stderr ++ p.report.remark [chatter expression h] }
    | .error e =>
      let report := p.report.record (.ofError expression e)
      { p with report := report, halted := report.atCap }

/-- Goes through all expressions. -/
def complete (o : Options) : Progress := o.expressions.foldl (advance o) (start o)

end Progress

/-- What is printed when the cap on issues is reached. -/
def givingUp : Text :=
  Report.line (List.replicate 35 " *".toList).flatten ++
    Report.line "Giving up after a few issues. One crisis at a time, eh?".toList

/-- What is printed when a check finds nothing wrong. -/
def approval : Text := Report.line "Looks plausible to me.".toList

/-- Tells what is wrong, and settles the exit status. -/
def conclude (choices : Choices) (o : Options) (p : Progress) : Result :=
  let complaint := p.report.complaint (Outburst.text choices 0)
  if p.halted then ⟨1, p.stdout, p.stderr ++ complaint ++ givingUp⟩
  else if p.report.isSick then ⟨1, p.stdout, p.stderr ++ complaint⟩
  else ⟨0, p.stdout, p.stderr ++ if 0 < o.check then approval else []⟩

/-- Does what a call asks for. -/
def execute (choices : Choices) (o : Options) : Result := conclude choices o (Progress.complete o)

/-- Runs the command on its arguments. Without any it introduces itself. -/
def run (choices : Choices) (arguments : List Text) : Result :=
  if arguments.isEmpty then ⟨0, introduction, []⟩
  else
    match Options.ofArguments arguments with
    | .ok o => execute choices o
    | .error .help => ⟨0, helpText, []⟩
    | .error (.misuse e) => ⟨2, [], e.report⟩

end TypeExpr.CommandLine
