import Mathlib.Data.List.Infix
import TypeExpr.CommandLine.Run
import TypeExpr.Proofs.Report.Complaint

/-!
# `TypeExpr.Proofs.CommandLine.Accounting`: what a call accounts for

A call reads expressions one after the other until their list or its patience ends. What is to
become of a list is said without a call: which of its expressions are read and which are refused
(`readings`, `failures`), and how far a cap lets a call go (`processed`).

The `ledger` of a list is the progress such a call has made. Going through one expression more keeps
to the ledger (`advance_ledger`), so a call ends with the ledger of all its expressions
(`complete_eq_ledger`), and status and outputs are read off it (`execute_eq`). What is printed of
the issues is the complaint about them, line by line (`complaintLines`).
-/

namespace TypeExpr.CommandLine

/-! ### What there is to account for -/

/-- The expressions that are read, each with the hint it is read as. -/
def readings (es : List Text) : List (Text × Hint) :=
  es.filterMap fun e =>
    match Hint.parse e with
    | .ok h => some (e, h)
    | .error _ => none

/-- The expressions that are refused, each with what is wrong with it. -/
def failures (es : List Text) : List (Text × Error) :=
  es.filterMap fun e =>
    match Hint.parse e with
    | .ok _ => none
    | .error x => some (e, x)

/-- Whether expressions reach the cap: it is one or more, and no more than the number of those that
are refused. -/
def capReached (cap : Option Int) (es : List Text) : Bool :=
  cap.elim false fun m => 1 ≤ m && m ≤ (failures es).length

/-- The expressions a call goes through: the shortest beginning that reaches the cap, or all. -/
def processed (cap : Option Int) (es : List Text) : List Text :=
  (es.inits.find? (capReached cap)).getD es

section Lists

variable {es : List Text} {e : Text}

theorem readings_concat_of_ok {h : Hint} (he : Hint.parse e = .ok h) :
    readings (es ++ [e]) = readings es ++ [(e, h)] := by
  simp [readings, he]

theorem readings_concat_of_error {x : Error} (he : Hint.parse e = .error x) :
    readings (es ++ [e]) = readings es := by
  simp [readings, he]

theorem failures_concat_of_ok {h : Hint} (he : Hint.parse e = .ok h) :
    failures (es ++ [e]) = failures es := by
  simp [failures, he]

theorem failures_concat_of_error {x : Error} (he : Hint.parse e = .error x) :
    failures (es ++ [e]) = failures es ++ [(e, x)] := by
  simp [failures, he]

/-- Nothing is refused just if everything is read. -/
theorem failures_eq_nil_iff : failures es = [] ↔ ∀ e ∈ es, ∃ h, Hint.parse e = .ok h := by
  rw [failures, List.filterMap_eq_nil_iff]
  refine forall₂_congr fun e _ => ?_
  cases Hint.parse e <;> simp

/-! ### How far a call goes -/

variable {cap : Option Int}

theorem capReached_eq_true_iff :
    capReached cap es = true ↔ ∃ m, cap = some m ∧ 1 ≤ m ∧ m ≤ (failures es).length := by
  cases cap <;> simp [capReached]

/-- A cap that is reached stays so. -/
theorem capReached_of_isPrefix {fs : List Text} (hsub : es <+: fs) (h : capReached cap es = true) :
    capReached cap fs = true := by
  obtain ⟨m, hcap, hpos, hm⟩ := capReached_eq_true_iff.mp h
  have hlength : (failures es).length ≤ (failures fs).length := (hsub.filterMap _).length_le
  exact capReached_eq_true_iff.mpr ⟨m, hcap, hpos, by omega⟩

/-- No cap is reached where nothing is refused. -/
theorem capReached_of_failures_eq_nil (cap : Option Int) (h : failures es = []) :
    capReached cap es = false := by
  refine Bool.eq_false_iff.mpr fun hreached => ?_
  obtain ⟨m, -, hpos, hm⟩ := capReached_eq_true_iff.mp hreached
  rw [h, List.length_nil] at hm
  omega

theorem capReached_concat_of_ok {h : Hint} (he : Hint.parse e = .ok h) :
    capReached cap (es ++ [e]) = capReached cap es := by
  rw [capReached, failures_concat_of_ok he, capReached]

/-- A cap that was not reached is reached where the number of those refused comes to it. -/
theorem capReached_concat_of_error {x : Error} (he : Hint.parse e = .error x)
    (h : capReached cap es = false) :
    capReached cap (es ++ [e]) = (cap == some ((failures (es ++ [e])).length : Int)) := by
  rw [Bool.eq_iff_iff, capReached_eq_true_iff, beq_iff_eq, failures_concat_of_error he,
    List.length_append, List.length_singleton]
  have hbefore : ¬∃ m, cap = some m ∧ 1 ≤ m ∧ m ≤ (failures es).length :=
    mt capReached_eq_true_iff.mpr (Bool.eq_false_iff.mp h)
  constructor
  · intro hreached
    obtain ⟨m, rfl, hpos, hm⟩ := hreached
    have hmore : ¬m ≤ (failures es).length := fun hle => hbefore ⟨m, rfl, hpos, hle⟩
    exact congrArg some (by omega)
  · intro hcap
    exact ⟨_, hcap, by omega, Int.le_refl _⟩

/-- No beginning reaches a cap that all do not reach. -/
theorem find?_inits_eq_none (h : capReached cap es = false) :
    es.inits.find? (capReached cap) = none := by
  refine List.find?_eq_none.mpr fun fs hfs hreached => ?_
  have hall := capReached_of_isPrefix ((List.mem_inits fs es).mp hfs) hreached
  exact Bool.false_ne_true (h.symm.trans hall)

/-- Without a halt everything is gone through. -/
theorem processed_eq_self (h : capReached cap es = false) : processed cap es = es := by
  rw [processed, find?_inits_eq_none h, Option.getD_none]

/-- Up to a halt everything is gone through, with the expression that calls it. -/
theorem processed_concat (h : capReached cap es = false) :
    processed cap (es ++ [e]) = es ++ [e] := by
  cases hlast : capReached cap (es ++ [e]) with
  | false => exact processed_eq_self hlast
  | true => simp [processed, find?_inits_eq_none h, hlast]

/-- Behind a halt nothing is gone through. -/
theorem processed_concat_of_reached (h : capReached cap es = true) :
    processed cap (es ++ [e]) = processed cap es := by
  have hfound : (es.inits.find? (capReached cap)).isSome = true :=
    List.find?_isSome.mpr ⟨es, (List.mem_inits es es).mpr (List.prefix_refl es), h⟩
  obtain ⟨fs, hfs⟩ := Option.isSome_iff_exists.mp hfound
  simp [processed, hfs]

/-- A call that reaches the cap goes through the expressions up to the one that is refused and makes
their number equal to it. -/
theorem exists_of_capReached (h : capReached cap es = true) :
    ∃ before e after x, es = before ++ e :: after ∧ processed cap es = before ++ [e] ∧
      Hint.parse e = .error x ∧ cap = some ((failures (before ++ [e])).length : Int) := by
  induction es using List.reverseRecOn with
  | nil => exact absurd (h.symm.trans (capReached_of_failures_eq_nil cap rfl)) (by decide)
  | append_singleton es e ih =>
      cases hes : capReached cap es with
      | true =>
          obtain ⟨before, e', after, x, rfl, hprocessed, hx, hcap⟩ := ih hes
          refine ⟨before, e', after ++ [e], x, by simp, ?_, hx, hcap⟩
          rw [processed_concat_of_reached hes, hprocessed]
      | false =>
          cases he : Hint.parse e with
          | ok hint =>
              rw [capReached_concat_of_ok he, hes] at h
              exact absurd h Bool.false_ne_true
          | error x =>
              rw [capReached_concat_of_error he hes, beq_iff_eq] at h
              exact ⟨es, e, [], x, rfl, processed_concat hes, he, h⟩

end Lists

/-! ### What becomes of them -/

/-- The text printed of a hint: its documentation or its declaration. -/
def form (doc : Bool) (h : Hint) : Text := if doc then h.documentation else h.declaration

/-- The lines printed of a hint that was read. -/
def told (o : Options) (h : Hint) : List Text :=
  form o.doc h :: if o.tree then (h.type.outline []).map ("    ".toList ++ ·) else []

/-- What goes to the standard output for hints that were read. -/
def printout (o : Options) (rs : List (Text × Hint)) : Text :=
  if 0 < o.check then [] else (rs.flatMap fun r => told o r.2).flatMap Report.line

/-- The remarks made on expressions that were read. -/
def remarks (o : Options) (rs : List (Text × Hint)) : Text :=
  if o.check = 0 then [] else rs.flatMap fun r => Report.line (Progress.chatter r.1 r.2)

/-- The issues made of expressions that were refused. -/
def issues (fs : List (Text × Error)) : List Issue := fs.map fun f => .ofError f.1 f.2

/-- The progress of a call that has met expressions: those it went through are printed or recorded,
and it has come to a halt if they reach the cap. -/
def ledger (o : Options) (es : List Text) : Progress :=
  let seen := processed o.maxIssues es
  ⟨⟨o.check, o.maxIssues, issues (failures seen)⟩, printout o (readings seen),
    remarks o (readings seen), capReached o.maxIssues es⟩

/-- What is printed of a hint that was read: its lines, unless the call is a check. -/
theorem printed_eq_told (o : Options) (h : Hint) :
    Progress.printed o h = if 0 < o.check then [] else (told o h).flatMap Report.line := by
  have houtline : (h.type.outline []).map ("    ".toList ++ ·) = h.type.outline Ty.outlineStep :=
    (Ty.outline_append Ty.outlineStep [] h.type).symm
  simp only [Progress.printed, told, form, houtline]
  cases o.tree <;> simp

theorem printout_concat (o : Options) (rs : List (Text × Hint)) (e : Text) (h : Hint) :
    printout o (rs ++ [(e, h)]) = printout o rs ++ Progress.printed o h := by
  rw [printed_eq_told, printout, printout]
  split <;> simp

theorem remarks_concat (o : Options) (rs : List (Text × Hint)) (e : Text) (h : Hint)
    (cap : Option Int) (is : List Issue) :
    remarks o (rs ++ [(e, h)]) =
      remarks o rs ++ Report.remark ⟨o.check, cap, is⟩ [Progress.chatter e h] := by
  simp only [remarks, Report.remark, Int.natCast_eq_zero]
  split <;> simp

theorem issues_concat (fs : List (Text × Error)) (e : Text) (x : Error) :
    issues (fs ++ [(e, x)]) = issues fs ++ [.ofError e x] := by
  simp [issues]

/-! ### Going through the list -/

section Run

variable {o : Options} {es : List Text} {e : Text}

/-- What the ledger shows as long as the cap is not reached. -/
theorem ledger_of_not_reached (h : capReached o.maxIssues es = false) :
    ledger o es = ⟨⟨o.check, o.maxIssues, issues (failures es)⟩, printout o (readings es),
      remarks o (readings es), false⟩ := by
  rw [ledger, processed_eq_self h, h]

theorem ledger_nil : ledger o [] = .start o := by
  rw [ledger_of_not_reached (capReached_of_failures_eq_nil o.maxIssues rfl)]
  simp [Progress.start, Report.fresh, issues, printout, remarks, failures, readings]

/-- A report halts a call just where it reaches the cap. -/
theorem atCap_record {x : Error} (he : Hint.parse e = .error x)
    (h : capReached o.maxIssues es = false) :
    (Report.record ⟨o.check, o.maxIssues, issues (failures es)⟩ (.ofError e x)).atCap =
      capReached o.maxIssues (es ++ [e]) := by
  have hlength :
      (issues (failures es) ++ [Issue.ofError e x]).length = (failures (es ++ [e])).length := by
    rw [failures_concat_of_error he, ← issues_concat, issues, List.length_map]
  rw [capReached_concat_of_error he h, Report.atCap, Report.issues_record, hlength]
  rfl

/-- **One expression more** is entered in the ledger. -/
theorem advance_ledger (o : Options) (es : List Text) (e : Text) :
    Progress.advance o (ledger o es) e = ledger o (es ++ [e]) := by
  cases hreached : capReached o.maxIssues es with
  | true =>
      have hstill : capReached o.maxIssues (es ++ [e]) = true :=
        capReached_of_isPrefix (List.prefix_append es [e]) hreached
      rw [ledger, ledger, processed_concat_of_reached hreached, hreached, hstill]
      rfl
  | false =>
      cases he : Hint.parse e with
      | ok h =>
          have hstill : capReached o.maxIssues (es ++ [e]) = false :=
            (capReached_concat_of_ok he).trans hreached
          rw [ledger_of_not_reached hreached, ledger_of_not_reached hstill,
            readings_concat_of_ok he, failures_concat_of_ok he, printout_concat,
            remarks_concat o _ e h o.maxIssues (issues (failures es))]
          simp [Progress.advance, he]
      | error x =>
          rw [ledger_of_not_reached hreached, ledger, processed_concat hreached,
            ← atCap_record he hreached, readings_concat_of_error he, failures_concat_of_error he,
            issues_concat]
          simp [Progress.advance, he, Report.record]

theorem foldl_advance_ledger (o : Options) (es fs : List Text) :
    fs.foldl (Progress.advance o) (ledger o es) = ledger o (es ++ fs) := by
  induction fs generalizing es with
  | nil => rw [List.foldl_nil, List.append_nil]
  | cons e fs ih =>
      rw [List.foldl_cons, advance_ledger, ih, List.append_assoc, List.singleton_append]

/-- **All expressions** are in the ledger at the end. -/
theorem complete_eq_ledger (o : Options) : Progress.complete o = ledger o o.expressions := by
  rw [Progress.complete, ← ledger_nil, foldl_advance_ledger, List.nil_append]

/-! ### What a call leaves behind -/

/-- What is told of issues: an exclamation, and each of them once. -/
def complaint (choices : Choices) (is : List Issue) : Text :=
  Report.line Report.banner ++ Report.line (Outburst.text choices 0) ++ is.flatMap Report.entry

/-- Where something is refused, something is refused before a halt. -/
theorem failures_processed_ne_nil (cap : Option Int) (h : failures es ≠ []) :
    failures (processed cap es) ≠ [] := by
  cases hreached : capReached cap es with
  | false => rwa [processed_eq_self hreached]
  | true =>
      obtain ⟨before, e, after, x, -, hprocessed, hx, -⟩ := exists_of_capReached hreached
      simp [hprocessed, failures_concat_of_error hx]

/-- **A call in full.** It approves if nothing is refused; otherwise it complains, and gives up if
the cap is reached. -/
theorem execute_eq (choices : Choices) (o : Options) :
    execute choices o =
      let seen := processed o.maxIssues o.expressions
      if failures o.expressions = [] then
        ⟨0, printout o (readings seen),
          remarks o (readings seen) ++ if 0 < o.check then approval else []⟩
      else
        ⟨1, printout o (readings seen),
          remarks o (readings seen) ++ complaint choices (issues (failures seen)) ++
            if capReached o.maxIssues o.expressions then givingUp else []⟩ := by
  rw [execute, complete_eq_ledger]
  by_cases hnone : failures o.expressions = []
  · have hgoing := capReached_of_failures_eq_nil o.maxIssues hnone
    rw [ledger_of_not_reached hgoing, processed_eq_self hgoing]
    simp [conclude, Report.isSick, issues, hnone]
  · have hissues : issues (failures (processed o.maxIssues o.expressions)) ≠ [] :=
      mt List.map_eq_nil_iff.mp (failures_processed_ne_nil o.maxIssues hnone)
    cases hreached : capReached o.maxIssues o.expressions with
    | true =>
        simp [conclude, ledger, Report.complaint, Report.isOk, complaint, hreached, hissues, hnone]
    | false =>
        simp [conclude, ledger, Report.complaint, Report.isOk, Report.isSick, complaint, hreached,
          hissues, hnone]

/-- **What a call accounts for.** The expressions it goes through are all of them, or those up to
the one that is refused and makes the number of those refused equal to the cap. For each one of them
that is read its lines are printed, in order, unless the call is a check, and each one that is
refused leaves an issue in the report. The status says whether any expression at all is refused,
whatever else is asked for; if so, all issues are told once, and the call gives up just if the cap
is reached. -/
theorem execute_accounts (choices : Choices) (o : Options) :
    let seen := processed o.maxIssues o.expressions
    let result := execute choices o
    (if capReached o.maxIssues o.expressions then
      ∃ before e after x, o.expressions = before ++ e :: after ∧ seen = before ++ [e] ∧
        Hint.parse e = .error x ∧ o.maxIssues = some ((failures seen).length : Int)
      else seen = o.expressions) ∧
    result.status = (if failures o.expressions = [] then 0 else 1) ∧
    result.stdout =
      (if 0 < o.check then []
        else ((readings seen).flatMap fun r => told o r.2).flatMap (· ++ ['\n'])) ∧
    (Progress.complete o).report.issues = (failures seen).map (fun f => .ofError f.1 f.2) ∧
    result.stderr =
      ((if o.check = 0 then []
          else (readings seen).flatMap fun r =>
            Text.quoted r.1 ++ " is ".toList ++ r.2.declaration ++ ['\n']) ++
        if failures o.expressions = [] then
          if 0 < o.check then "Looks plausible to me.\n".toList else []
        else
          (complaintLines (Outburst.text choices 0) (issues (failures seen))).flatMap
              (· ++ ['\n']) ++
            if capReached o.maxIssues o.expressions then
              " * * * * * * * * * * * * * * * * * * * * * * * * * * * * * * * * * * *\n".toList ++
                "Giving up after a few issues. One crisis at a time, eh?\n".toList
            else []) ∧
    ∀ choices' doc check tree cap,
      (execute choices' ⟨o.expressions, doc, check, tree, cap⟩).status = result.status := by
  refine ⟨?_, ?_, ?_, ?_, ?_, ?_⟩
  · split
    · next hreached =>
        obtain ⟨before, e, after, x, hes, hseen, hx, hcap⟩ := exists_of_capReached hreached
        exact ⟨before, e, after, x, hes, hseen, hx, hseen ▸ hcap⟩
    · next hgoing => exact processed_eq_self (Bool.eq_false_iff.mpr hgoing)
  · rw [execute_eq]
    split <;> rfl
  · rw [execute_eq]
    split <;> rfl
  · rw [complete_eq_ledger]
    rfl
  · have happroval : approval = "Looks plausible to me.\n".toList := by decide
    have hgivingUp : givingUp =
        " * * * * * * * * * * * * * * * * * * * * * * * * * * * * * * * * * * *\n".toList ++
          "Giving up after a few issues. One crisis at a time, eh?\n".toList := by
      decide +kernel
    rw [execute_eq, ← happroval, ← hgivingUp, Report.flatMap_complaintLines]
    split
    · rfl
    · exact List.append_assoc ..
  · intro choices' doc check tree cap
    rw [execute_eq, execute_eq]
    split <;> rfl

/-- Under a cap of two a call ends with the second expression that is refused. -/
theorem execute_accounts_tree :
    let o : Options := ⟨["int".toList, "A&?".toList, "(B&\\A)|int".toList, "A&int".toList,
      "C".toList], false, 0, true, some 2⟩
    let result := execute (fun k => k) o
    processed (some 2) o.expressions = o.expressions.take 4 ∧
    result.status = 1 ∧
    result.stdout =
      ["int",
        "    int (built-in, 2)",
        "int|(\\A&\\B)",
        "    union",
        "        int (built-in, 2)",
        "        intersection",
        "            A (class, 0)",
        "            B (class, 0)"].flatMap (fun l => l.toList ++ ['\n']) ∧
    result.stderr =
      ["************************************************************",
        "Oh, ARGH! I have no idea what the right answer is.",
        "  -  -  -  -  -  -  -  -  -  -  -  -  -  -  -  -  -  -  -  -",
        "Provided type \"?\" is not a keyword or a valid class name",
        "",
        "     1 |A&?",
        "          ^ confused here",
        "  -  -  -  -  -  -  -  -  -  -  -  -  -  -  -  -  -  -  -  -",
        "Type \"int\" cannot be part of an intersection type",
        "",
        "     1 |A&int",
        "          ^^^ conflicts with A",
        "These types cannot be combined this way.",
        " * * * * * * * * * * * * * * * * * * * * * * * * * * * * * * * * * * *",
        "Giving up after a few issues. One crisis at a time, eh?"].flatMap
          (fun l => l.toList ++ ['\n']) := by
  intro o result
  obtain ⟨-, hstatus, hstdout, -, hstderr, -⟩ := execute_accounts (fun k => k) o
  refine ⟨?_, hstatus.trans ?_, hstdout.trans ?_, hstderr.trans ?_⟩ <;> decide +kernel

end Run
end TypeExpr.CommandLine
