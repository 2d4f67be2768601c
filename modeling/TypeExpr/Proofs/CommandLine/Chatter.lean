import TypeExpr.Proofs.CommandLine.Idempotence

/-!
# `TypeExpr.Proofs.CommandLine.Chatter`: what a check says

A call that checks prints no hint on the standard output, and makes a remark on every expression
that is read. It does so from the first time the option is given: giving it again changes nothing
(`check_chatters_from_first`), although the option is explained as one to be repeated for more
chatter.

The option is counted as often as it is given (`ofArguments_checks`), but a call only asks whether
the count is zero. A remark is one line, since neither a quoted text nor a declaration holds a line
feed (`newline_not_mem_chatter`).
-/

namespace TypeExpr.CommandLine

/-! ### Counting an option -/

theorem sortArguments_checks (k : Nat) (es : List Text) :
    sortArguments (List.replicate k "--check".toList ++ "--".toList :: es) =
      .ok (List.replicate k (.long .check none) ++ .separator :: es.map .operand) := by
  have hcheck : sortArgument "--check".toList = .ok (.long .check none) := by decide
  induction k with
  | zero => rfl
  | succ k ih =>
      rw [List.replicate_succ, List.cons_append, sortArguments, if_neg (by decide), hcheck, ih]
      rfl

section Reading

variable (es fs extras : List Text) (doc tree : Bool) (n : Nat) (cap : Option Int)

/-- Before the expressions, an option that is given more often is counted more often. -/
theorem takeAll_checks (k : Nat) (rest : List Argument) :
    Reading.takeAll ⟨⟨es, doc, n, tree, cap⟩, .awaited, extras⟩
        (List.replicate k (.long .check none) ++ rest) =
      Reading.takeAll ⟨⟨es, doc, n + k, tree, cap⟩, .awaited, extras⟩ rest := by
  induction k generalizing n with
  | zero => rfl
  | succ k ih =>
      have hstep : ∀ arguments, Reading.takeAll ⟨⟨es, doc, n, tree, cap⟩, .awaited, extras⟩
          (.long .check none :: arguments) =
          Reading.takeAll ⟨⟨es, doc, n + 1, tree, cap⟩, .awaited, extras⟩ arguments := by
        intro arguments
        cases arguments <;> rfl
      rw [List.replicate_succ, List.cons_append, hstep, ih, Nat.add_assoc, Nat.add_comm 1 k]

/-- In the run of expressions every operand is one. -/
theorem takeAll_operands :
    Reading.takeAll ⟨⟨es, doc, n, tree, cap⟩, .taking, extras⟩ (fs.map .operand) =
      .ok ⟨⟨es ++ fs, doc, n, tree, cap⟩, .taking, extras⟩ := by
  induction fs generalizing es with
  | nil => rw [List.append_nil]; rfl
  | cons f fs ih =>
      have hfirst : Reading.operand ⟨⟨es, doc, n, tree, cap⟩, .taking, extras⟩ f =
          ⟨⟨es ++ [f], doc, n, tree, cap⟩, .taking, extras⟩ := rfl
      rw [List.map_cons, Reading.takeAll, hfirst, ih, List.append_assoc, List.singleton_append]

end Reading

/-- **Counting.** The option is counted as often as it is given, whatever expressions come behind
the separator. -/
theorem ofArguments_checks (k : Nat) (e : Text) (es : List Text) :
    Options.ofArguments (List.replicate k "--check".toList ++ "--".toList :: e :: es) =
      .ok ⟨e :: es, false, k, false, some 10⟩ := by
  have htake : Reading.start.takeAll
      (List.replicate k (.long .check none) ++ .separator :: (e :: es).map .operand) =
      .ok ⟨⟨e :: es, false, k, false, some 10⟩, .taking, []⟩ := by
    rw [Reading.start, takeAll_checks, Nat.zero_add]
    exact takeAll_operands [e] es [] false false k (some 10)
  rw [Options.ofArguments, sortArguments_checks]
  exact congrArg (· >>= Reading.finish) htake

/-! ### Remarks -/

theorem parse_of_mem_readings {es : List Text} {r : Text × Hint} (h : r ∈ readings es) :
    Hint.parse r.1 = .ok r.2 := by
  obtain ⟨e, -, he⟩ := List.mem_filterMap.mp h
  cases hparse : Hint.parse e with
  | error x => simp [hparse] at he
  | ok hint =>
      rw [hparse] at he
      obtain rfl := Option.some.inj he
      exact hparse

/-- A remark on an expression that was read is one line. -/
theorem newline_not_mem_chatter {e : Text} {h : Hint} (he : Hint.parse e = .ok h) :
    '\n' ∉ Progress.chatter e h := by
  intro hmem
  rcases List.mem_append.mp hmem with hmem | hmem
  · rcases List.mem_append.mp hmem with hmem | hmem
    · exact absurd (Text.isPrintable_of_mem_quoted hmem) (by decide)
    · exact absurd hmem (by decide)
  · have hform : '\n' ∈ form false h := hmem
    exact absurd (isBlank_of_mem_form he hform) (by decide)

/-- **A check chatters from the first time on.** However often the option to check is given, once or
more, a call prints nothing on the standard output. On the other it prints a line for each
expression it goes through that is read, in order, and only then its approval, or its complaint
about all issues. So a call that checks twice does what a call that checks once does. -/
theorem check_chatters_from_first (choices : Choices) (es : List Text) (doc tree : Bool)
    (cap : Option Int) :
    let seen := processed cap es
    let remarks := (readings seen).map fun r => Text.quoted r.1 ++ " is ".toList ++ r.2.declaration
    (∀ k, execute choices ⟨es, doc, k + 1, tree, cap⟩ =
      ⟨if failures es = [] then 0 else 1, [],
        remarks.flatMap Report.line ++
          if failures es = [] then approval
          else
            complaint choices (issues (failures seen)) ++
              if capReached cap es then givingUp else []⟩) ∧
    (∀ k, (Progress.complete ⟨es, doc, k + 1, tree, cap⟩).report.issues = issues (failures seen)) ∧
    (∀ l ∈ remarks, '\n' ∉ l) ∧
    ∀ k e rest, run choices (List.replicate k "--check".toList ++ "--".toList :: e :: rest) =
      execute choices ⟨e :: rest, false, k, false, some 10⟩ := by
  intro seen lines
  have hprint : ∀ k, printout ⟨es, doc, k + 1, tree, cap⟩ (readings seen) = [] := fun k =>
    if_pos (Nat.succ_pos k)
  have hremarks : ∀ k,
      remarks ⟨es, doc, k + 1, tree, cap⟩ (readings seen) = lines.flatMap Report.line := by
    intro k
    rw [List.flatMap_map]
    rfl
  refine ⟨fun k => ?_, fun k => ?_, fun l hl => ?_, fun k e rest => ?_⟩
  · rw [execute_eq]
    change (if failures es = [] then
        Result.mk 0 (printout ⟨es, doc, k + 1, tree, cap⟩ (readings seen))
          (remarks ⟨es, doc, k + 1, tree, cap⟩ (readings seen) ++ approval)
      else Result.mk 1 (printout ⟨es, doc, k + 1, tree, cap⟩ (readings seen))
          (remarks ⟨es, doc, k + 1, tree, cap⟩ (readings seen) ++
            complaint choices (issues (failures seen)) ++
              if capReached cap es then givingUp else [])) = _
    rw [hprint, hremarks]
    by_cases hnone : failures es = []
    · simp only [hnone, if_true]
    · simp only [hnone, if_false, List.append_assoc]
  · rw [complete_eq_ledger]
    rfl
  · obtain ⟨r, hr, rfl⟩ := List.mem_map.mp hl
    exact newline_not_mem_chatter (parse_of_mem_readings hr)
  · rw [run, if_neg (by simp), ofArguments_checks]

/-- A call that checks once makes a remark on what it reads. -/
theorem remark_of_single_check :
    Options.ofArguments ["--check".toList, "int".toList] =
      .ok ⟨["int".toList], false, 1, false, some 10⟩ ∧
    Progress.chatter "int".toList ⟨.atom (.ofKeyword .int), false⟩ = "'int' is int".toList ∧
    run (fun _ => 0) ["--check".toList, "int".toList] =
      ⟨0, [], "'int' is int\nLooks plausible to me.\n".toList⟩ := by
  decide +kernel

end TypeExpr.CommandLine
