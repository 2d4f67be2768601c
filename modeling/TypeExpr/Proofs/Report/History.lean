import Mathlib.Data.List.DropRight
import TypeExpr.Proofs.Report.Complaint
import TypeExpr.Report.Session

/-!
# `TypeExpr.Proofs.Report.History`: what a report holds, and why

What a report holds is settled by the steps it was put to: the issues that they submitted since the
last reset, in order (`held`). Nothing that a step answers or prints changes this, so a session may
go on after a halt or a failed assertion and still holds every issue that was submitted. A complaint
and a failed assertion print all of them (`Step.Prints`).

Each fact is one about a single step first (`report_step`, `prints_step`,
`reply_eq_tooManyIssues_iff`). A step in the middle of a session is a step of the session that the
steps before it lead to (`getElem?_run`), and that session holds what they left (`report_after`).
-/

namespace TypeExpr

/-- What is wrong with an expression, as an issue; nothing if it could be read. -/
def complaintAbout? {α : Type} (expression : Text) : Except Error α → Option Issue
  | .ok _ => none
  | .error e => some (.ofError expression e)

namespace Step

/-- The issue that a step submits: the one it is given, or what is wrong with an expression. -/
def submission? : Step → Option Issue
  | .hint expression => complaintAbout? expression (Hint.parse expression)
  | .parse expression => complaintAbout? expression (Ty.parse expression)
  | .issue i => some i
  | .info _ | .reset | .complain | .assert _ | .issues => none

/-- The error of an expression that a step is to read and that cannot be read. -/
inductive Fails : Step → Error → Prop
  | hint {expression : Text} {e : Error} (h : Hint.parse expression = .error e) :
      Fails (.hint expression) e
  | parse {expression : Text} {e : Error} (h : Ty.parse expression = .error e) :
      Fails (.parse expression) e

/-- What a step prints when the report holds issues. A remark is printed if the report is talkative;
a complaint and an assertion tell all issues, once each and in order, if there are any. -/
def Prints (choices : Choices) (verbosity : Int) (issues : List Issue) (printed : Text) :
    Step → Prop
  | .info args => printed = if verbosity = 0 then [] else [' '].intercalate args ++ ['\n']
  | .complain | .assert _ =>
    if issues = [] then printed = []
    else ∃ position,
      printed = (complaintLines (Outburst.text choices position) issues).flatMap (· ++ ['\n'])
  | .hint _ | .parse _ | .issue _ | .reset | .issues => printed = []

/-- The issues submitted since the last reset, in order. -/
def held (steps : List Step) : List Issue :=
  (steps.rtakeWhile (· ≠ .reset)).filterMap submission?

theorem held_concat (steps : List Step) (step : Step) :
    held (steps ++ [step]) =
      if step = .reset then [] else held steps ++ step.submission?.toList := by
  unfold held
  rw [List.rtakeWhile_concat]
  by_cases h : step = .reset
  · simp [h]
  · cases hs : step.submission? <;> simp [h, hs]

/-- The issue of an expression that cannot be read is introduced by the error in words. -/
theorem Fails.exists_submission {step : Step} {e : Error} (h : step.Fails e) :
    ∃ i, step.submission? = some i ∧ i.intro = e.message := by
  cases h with
  | hint h => exact ⟨_, by rw [submission?, h, complaintAbout?], Issue.intro_ofError _ e⟩
  | parse h => exact ⟨_, by rw [submission?, h, complaintAbout?], Issue.intro_ofError _ e⟩

/-- A step that is given no issue, and reads nothing that it cannot read, submits none. -/
theorem submission?_eq_none (step : Step) (hfails : ∀ e, ¬ step.Fails e)
    (hissue : ∀ i, step ≠ .issue i) : step.submission? = none := by
  cases step with
  | hint t =>
      cases h : Hint.parse t with
      | ok x => rw [submission?, h, complaintAbout?]
      | error e => exact absurd (.hint h) (hfails e)
  | parse t =>
      cases h : Ty.parse t with
      | ok x => rw [submission?, h, complaintAbout?]
      | error e => exact absurd (.parse h) (hfails e)
  | issue i => exact absurd rfl (hissue i)
  | info | reset | complain | assert | issues => rfl

end Step

namespace Session

/-! ### One step -/

variable (s : Session) (step : Step)

/-- Settling what came of an expression submits what is wrong with it, and does nothing else to the
session. -/
theorem session_settle (expression : Text) (x : Except Error Text) :
    (s.settle expression x).session =
      { s with report.issues := s.report.issues ++ (complaintAbout? expression x).toList } := by
  cases x with
  | ok t => simp [settle, complaintAbout?]
  | error e => rfl

theorem complaintAbout?_map {α β : Type} (f : α → β) (expression : Text) (x : Except Error α) :
    complaintAbout? expression (x.map f) = complaintAbout? expression x := by
  cases x <;> rfl

/-- **What a step does to the report.** A reset takes all issues away; any other step adds the issue
that it submits, if it submits one. -/
theorem report_step :
    (s.step step).session.report =
      { s.report with
        issues := if step = .reset then [] else s.report.issues ++ step.submission?.toList } := by
  cases step with
  | hint t => simp [Session.step, session_settle, complaintAbout?_map, Step.submission?]
  | parse t => simp [Session.step, session_settle, complaintAbout?_map, Step.submission?]
  | issue i => simp [Session.step, submit, Report.record, Step.submission?]
  | info args => simp [Session.step, Step.submission?]
  | reset => simp [Session.step, Report.reset]
  | complain =>
      simp only [Session.step]
      split <;> simp [Step.submission?, afterOutburst]
  | assert message =>
      simp only [Session.step]
      split <;> simp [Step.submission?, afterOutburst]
  | issues => simp [Session.step, Step.submission?]

theorem choices_step : (s.step step).session.choices = s.choices := by
  cases step with
  | hint t => simp only [Session.step, session_settle]
  | parse t => simp only [Session.step, session_settle]
  | complain =>
      simp only [Session.step]
      split <;> rfl
  | assert message =>
      simp only [Session.step]
      split <;> rfl
  | issue | info | reset | issues => rfl

theorem printed_settle (expression : Text) (x : Except Error Text) :
    (s.settle expression x).printed = [] := by
  cases x <;> rfl

theorem complaint_eq (h : s.report.issues ≠ []) :
    s.report.complaint s.outburst =
      (complaintLines (Outburst.text s.choices s.drawn) s.report.issues).flatMap (· ++ ['\n']) := by
  rw [Report.flatMap_complaintLines]
  simp [Report.complaint, Report.isOk, h, outburst]

/-- **What a step prints.** -/
theorem prints_step :
    step.Prints s.choices s.report.verbosity s.report.issues (s.step step).printed := by
  cases step with
  | hint t => exact s.printed_settle ..
  | parse t => exact s.printed_settle ..
  | info args => rfl
  | complain =>
      by_cases h : s.report.issues = []
      · simp [Step.Prints, Session.step, Report.isOk, h]
      · simp only [Step.Prints, Session.step, Report.isOk, h, List.isEmpty_iff, if_false]
        exact ⟨s.drawn, s.complaint_eq h⟩
  | assert message =>
      by_cases h : s.report.issues = []
      · simp [Step.Prints, Session.step, Report.isOk, h]
      · simp only [Step.Prints, Session.step, Report.isOk, h, List.isEmpty_iff, if_false]
        exact ⟨s.drawn, s.complaint_eq h⟩
  | issue | reset | issues => rfl

theorem reply_settle_eq_tooManyIssues_iff (expression : Text) (x : Except Error Text) :
    (s.settle expression x).reply = .tooManyIssues ↔
      (complaintAbout? expression x).isSome ∧
        s.report.cap = some ((s.settle expression x).session.report.issues.length : Int) := by
  cases x with
  | ok t => simp [settle, complaintAbout?]
  | error e => simp [settle, submit, complaintAbout?, Report.atCap, Report.record]

/-- **When a step calls a halt**: it submits an issue, and with that their number is the cap. -/
theorem reply_eq_tooManyIssues_iff :
    (s.step step).reply = .tooManyIssues ↔
      step.submission?.isSome ∧
        s.report.cap = some ((s.step step).session.report.issues.length : Int) := by
  cases step with
  | hint t =>
      simp only [Session.step, reply_settle_eq_tooManyIssues_iff, complaintAbout?_map,
        Step.submission?]
  | parse t =>
      simp only [Session.step, reply_settle_eq_tooManyIssues_iff, complaintAbout?_map,
        Step.submission?]
  | issue i => simp [Session.step, submit, Step.submission?, Report.atCap, Report.record]
  | complain =>
      simp only [Session.step]
      split <;> simp [Step.submission?]
  | assert message =>
      simp only [Session.step]
      split <;> simp [Step.submission?]
  | info | reset | issues => simp [Session.step, Step.submission?]

/-- An assertion fails just if there are issues; nothing else does. -/
theorem exists_reply_eq_assertionFailed_iff :
    (∃ text, (s.step step).reply = .assertionFailed text) ↔
      (∃ message, step = .assert message) ∧ s.report.issues ≠ [] := by
  have hsettle : ∀ expression x text, (s.settle expression x).reply ≠ .assertionFailed text := by
    intro expression x text
    cases x with
    | ok t => simp [settle]
    | error e =>
        simp only [settle, submit]
        split <;> simp
  cases step with
  | hint t => simp [Session.step, hsettle]
  | parse t => simp [Session.step, hsettle]
  | issue i =>
      simp only [Session.step, submit]
      split <;> simp
  | complain =>
      simp only [Session.step]
      split <;> simp
  | assert message => by_cases h : s.report.issues = [] <;> simp [Session.step, Report.isOk, h]
  | info | reset | issues => simp [Session.step]

/-! ### Many steps -/

/-- The session that steps lead to. -/
def after (s : Session) (steps : List Step) : Session :=
  steps.foldl (fun s step => (s.step step).session) s

theorem after_concat (steps : List Step) :
    s.after (steps ++ [step]) = ((s.after steps).step step).session := by
  simp [after]

/-- A step in the middle of a session is taken from where the steps before it lead. -/
theorem getElem?_run (before rest : List Step) :
    (s.run (before ++ step :: rest))[before.length]? = some ((s.after before).step step) := by
  induction before generalizing s with
  | nil => rfl
  | cons first before ih =>
      rw [List.cons_append, run, List.length_cons, List.getElem?_cons_succ, ih]
      rfl

variable (choices : Choices) (verbosity : Int) (cap : Option Int)

theorem choices_after (steps : List Step) : (s.after steps).choices = s.choices := by
  induction steps using List.reverseRecOn with
  | nil => rfl
  | append_singleton steps step ih => rw [after_concat, choices_step, ih]

/-- **What a report holds** after any steps are the issues submitted since the last reset. -/
theorem report_after (steps : List Step) :
    ((start choices (.fresh verbosity cap)).after steps).report =
      ⟨verbosity, cap, Step.held steps⟩ := by
  induction steps using List.reverseRecOn with
  | nil => rfl
  | append_singleton steps step ih => rw [after_concat, report_step, ih, Step.held_concat]

end Session

/-! ### Accounts of a session -/

/-- What there is to say about a step and its outcome, in a session that went through other steps
before. -/
structure Step.AccountedFor (choices : Choices) (verbosity : Int) (cap : Option Int)
    (before : List Step) (step : Step) (o : StepOutcome) : Prop where
  /-- The report holds what was submitted since the last reset. -/
  report : o.session.report = ⟨verbosity, cap, held (before ++ [step])⟩
  /-- Apart from a reset, a step adds what it submits, and changes nothing about the issues
  before. -/
  added : step ≠ .reset → held (before ++ [step]) = held before ++ step.submission?.toList
  /-- An expression that cannot be read submits an issue with the words of the error. -/
  failing : ∀ e, step.Fails e → ∃ i, step.submission? = some i ∧ i.intro = e.message
  /-- Nothing else is submitted but the issues that steps are given. -/
  silent : (∀ e, ¬ step.Fails e) → (∀ i, step ≠ .issue i) → step.submission? = none
  isOk : o.session.report.isOk = true ↔ o.session.report.issues = []
  isSick : o.session.report.isSick = !o.session.report.isOk
  /-- An assertion fails just if there are issues. -/
  assertion : (∃ text, o.reply = .assertionFailed text) ↔
    (∃ message, step = .assert message) ∧ held before ≠ []
  unchanged : ∀ message, step = .assert message → o.session.report.issues = held before
  printed : step.Prints choices verbosity (held before) o.printed

/-- **A report holds what was submitted.** Whatever steps a session takes, each of them is accounted
for: the report then holds the issues submitted since the last reset, and what the step answers and
prints goes by the issues held. -/
theorem session_accounted_for (choices : Choices) (verbosity : Int) (cap : Option Int)
    (before : List Step) (step : Step) (rest : List Step) :
    ∃ o, ((Session.start choices (.fresh verbosity cap)).run
        (before ++ step :: rest))[before.length]? = some o ∧
      step.AccountedFor choices verbosity cap before o := by
  let s := (Session.start choices (.fresh verbosity cap)).after before
  have hbefore : s.report = ⟨verbosity, cap, Step.held before⟩ :=
    Session.report_after choices verbosity cap before
  have hreport : (s.step step).session.report = ⟨verbosity, cap, Step.held (before ++ [step])⟩ := by
    rw [Session.report_step, hbefore, Step.held_concat]
  have hprints := s.prints_step step
  rw [hbefore, Session.choices_after] at hprints
  refine ⟨s.step step, Session.getElem?_run .., ?_⟩
  constructor
  case report => exact hreport
  case added => exact fun h => by rw [Step.held_concat, if_neg h]
  case failing => exact fun e h => h.exists_submission
  case silent => exact step.submission?_eq_none
  case isOk => rw [Report.isOk, List.isEmpty_iff]
  case isSick => rfl
  case assertion => rw [Session.exists_reply_eq_assertionFailed_iff, hbefore]
  case unchanged =>
    rintro message rfl
    simp [hreport, Step.held_concat, Step.submission?]
  case printed => exact hprints

/-- Of two issues the second one reaches the cap, and is told all the same. -/
theorem session_accounted_for_complaint :
    let before : List Step :=
      [.issue ⟨"Mind the gap.".toList, [⟨"A B".toList, ⟨1, 2⟩, "here".toList⟩],
          ["See above.".toList]⟩,
        .parse "A|\n\t(B & int)".toList]
    ∃ o, ((Session.start (fun k => k) (.fresh 0 (some 2))).run
        (before ++ [.complain]))[2]? = some o ∧
      Step.AccountedFor (fun k => k) 0 (some 2) before .complain o ∧
      o.printed =
        ["************************************************************",
          "Oh, ARGH! I have no idea what the right answer is.",
          "  -  -  -  -  -  -  -  -  -  -  -  -  -  -  -  -  -  -  -  -",
          "Mind the gap.",
          "",
          "     1 |A B",
          "         ^ here",
          "See above.",
          "  -  -  -  -  -  -  -  -  -  -  -  -  -  -  -  -  -  -  -  -",
          "Type \"int\" cannot be part of an intersection type",
          "",
          "     2 |\t(B & int)",
          "        \t     ^^^ conflicts with B",
          "These types cannot be combined this way."].flatMap fun l => l.toList ++ ['\n'] := by
  intro before
  obtain ⟨o, ho, haccounted⟩ :=
    session_accounted_for (fun k => k) 0 (some 2) before .complain []
  have hprinted := congrArg (Option.map StepOutcome.printed) ho
  exact ⟨o, ho, haccounted, Option.some.inj (hprinted.symm.trans (by decide +kernel))⟩

/-- **When a report calls a halt.** A step of a session calls a halt just if it submits an issue and
with that their number is the cap. So behind the cap, until the next reset, issues are taken without
a halt. -/
theorem halt_at_cap_only (choices : Choices) (verbosity : Int) (cap : Option Int)
    (before : List Step) (step : Step) (rest : List Step) :
    ∃ o, ((Session.start choices (.fresh verbosity cap)).run
        (before ++ step :: rest))[before.length]? = some o ∧
      (o.reply = .tooManyIssues ↔
        step.submission?.isSome ∧ cap = some (o.session.report.issues.length : Int)) ∧
      ∀ m, cap = some m → m ≤ (Step.held before).length → o.reply ≠ .tooManyIssues := by
  let s := (Session.start choices (.fresh verbosity cap)).after before
  have hbefore : s.report = ⟨verbosity, cap, Step.held before⟩ :=
    Session.report_after choices verbosity cap before
  have hhalt := s.reply_eq_tooManyIssues_iff step
  rw [hbefore] at hhalt
  refine ⟨s.step step, Session.getElem?_run .., hhalt, fun m hm hreached hreply => ?_⟩
  obtain ⟨hsome, hcap⟩ := hhalt.mp hreply
  obtain ⟨i, hi⟩ := Option.isSome_iff_exists.mp hsome
  have hreset : step ≠ .reset := by
    rintro rfl
    cases hi
  -- the issue comes on top of those that had reached the cap before it
  rw [Session.report_step, hbefore, if_neg hreset, hi] at hcap
  simp only [hm, Option.some.injEq, Option.toList_some, List.length_append,
    List.length_singleton] at hcap
  omega

/-- Under a cap of one the second issue is held, and no halt is called. -/
theorem second_issue_without_halt :
    ∃ o, ((Session.start (fun _ => 0) (.fresh 0 (some 1))).run
        [.issue ⟨"one".toList, [], []⟩, .issue ⟨"two".toList, [], []⟩])[1]? = some o ∧
      o.session.report.issues = [⟨"one".toList, [], []⟩, ⟨"two".toList, [], []⟩] ∧
      o.reply ≠ .tooManyIssues :=
  ⟨_, rfl, rfl, by decide⟩

end TypeExpr
