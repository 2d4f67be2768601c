import TypeExpr.Proofs.CommandLine.Accounting
import TypeExpr.Proofs.Hint.RoundTrip

/-!
# `TypeExpr.Proofs.CommandLine.Idempotence`: giving a call its own output

A call that only prints, and refuses nothing, prints one line for each expression. Neither written
form of a hint holds a blank, so no line is broken and the output splits into the forms it was made
of (`split_flatMap_line`). Each form is read as the hint it was written for (`parse_form`), so a
call on those lines reads the hints of the call before, and prints them in whichever form it is
asked for.
-/

namespace TypeExpr.CommandLine

/-! ### Forms -/

/-- A hint that was read is read again from either of its forms. -/
theorem parse_form {t : Text} {h : Hint} (hh : Hint.parse t = .ok h) (doc : Bool) :
    Hint.parse (form doc h) = .ok h := by
  cases doc with
  | false => exact Hint.parse_written_of_parse Atom.spells_fullName hh
  | true => exact Hint.parse_written_of_parse Atom.spells_name hh

/-- Neither form of a hint that was read holds a blank. -/
theorem isBlank_of_mem_form {t : Text} {h : Hint} (hh : Hint.parse t = .ok h) {doc : Bool}
    {c : Char} (hc : c ∈ form doc h) : isBlank c = false := by
  cases doc with
  | false => exact Hint.isBlank_of_mem_written Atom.spells_fullName hh hc
  | true => exact Hint.isBlank_of_mem_written Atom.spells_name hh hc

/-- Lines that hold no line feed are got back from the text they make. -/
theorem split_flatMap_line {ls : List Text} (h : ∀ l ∈ ls, '\n' ∉ l) :
    List.splitOn '\n' (ls.flatMap Report.line) = ls ++ [[]] := by
  induction ls with
  | nil => rfl
  | cons l ls ih =>
      obtain ⟨hl, hls⟩ := List.forall_mem_cons.mp h
      rw [List.flatMap_cons, Report.line, List.append_assoc, List.singleton_append,
        List.splitOn_append_cons_self_of_not_mem hl, ih hls, List.cons_append]

/-! ### Calls that print and refuse nothing -/

/-- The hints that expressions are read as, in order. -/
abbrev ReadAs (es : List Text) (hs : List Hint) : Prop :=
  List.Forall₂ (fun e h => Hint.parse e = .ok h) es hs

variable {es : List Text} {hs : List Hint}

theorem ReadAs.readings (h : ReadAs es hs) : (readings es).map Prod.snd = hs := by
  induction h with
  | nil => rfl
  | cons he _ ih => simpa [CommandLine.readings, he] using ih

theorem ReadAs.failures (h : ReadAs es hs) : failures es = [] := by
  refine failures_eq_nil_iff.mpr fun e he => ?_
  obtain ⟨h', -, hh⟩ := forall₂_exists_of_mem_right h.flip he
  exact ⟨h', hh⟩

/-- The forms of hints that were read are read as these hints. -/
theorem ReadAs.forms (h : ReadAs es hs) (doc : Bool) : ReadAs (hs.map (form doc)) hs := by
  rw [ReadAs, List.forall₂_map_left_iff, List.forall₂_same]
  intro hint hmem
  obtain ⟨e, -, he⟩ := forall₂_exists_of_mem_right h hmem
  exact parse_form he doc

/-- A call that only prints says nothing but the forms of the hints that are read. -/
theorem execute_of_readAs (h : ReadAs es hs) (choices : Choices) (doc : Bool) (cap : Option Int) :
    execute choices ⟨es, doc, 0, false, cap⟩ =
      ⟨0, (hs.map (form doc)).flatMap Report.line, []⟩ := by
  have hall : processed cap es = es :=
    processed_eq_self (capReached_of_failures_eq_nil cap h.failures)
  have htold : ((readings es).flatMap fun r => told ⟨es, doc, 0, false, cap⟩ r.2) =
      hs.map (form doc) := by
    rw [← h.readings, List.map_map]
    exact List.map_eq_flatMap.symm
  rw [execute_eq]
  simp only [h.failures, hall, printout, htold]
  rfl

/-- **A call on its own output.** A call that only prints and refuses nothing prints a line without
blanks for each expression, in order: a form of the hint the expression is read as. A call that only
prints, made on these lines, refuses nothing either, and prints the same hints in the form it is
asked for, whichever form the lines are in. -/
theorem execute_idempotent (choices : Choices) (o : Options) (hcheck : o.check = 0)
    (htree : o.tree = false) (hstatus : (execute choices o).status = 0) :
    ∃ lines hs, List.splitOn '\n' (execute choices o).stdout = lines ++ [[]] ∧
      lines.length = o.expressions.length ∧
      (∀ l ∈ lines, ∀ c ∈ l, isBlank c = false) ∧
      List.Forall₂ (fun e h => Hint.parse e = .ok h) o.expressions hs ∧
      lines = hs.map (fun h => if o.doc then h.documentation else h.declaration) ∧
      ∀ choices' cap,
        execute choices' ⟨lines, false, 0, false, cap⟩ =
          ⟨0, (hs.map Hint.declaration).flatMap Report.line, []⟩ ∧
        execute choices' ⟨lines, true, 0, false, cap⟩ =
          ⟨0, (hs.map Hint.documentation).flatMap Report.line, []⟩ := by
  obtain ⟨es, doc, check, tree, cap⟩ := o
  obtain rfl : check = 0 := hcheck
  obtain rfl : tree = false := htree
  have hnone : failures es = [] := by
    by_contra hsome
    rw [execute_eq, if_neg hsome] at hstatus
    exact Nat.one_ne_zero hstatus
  obtain ⟨hs, h⟩ : ∃ hs, ReadAs es hs := exists_forall₂ (failures_eq_nil_iff.mp hnone)
  have hblank : ∀ l ∈ hs.map (form doc), ∀ c ∈ l, isBlank c = false := by
    intro l hl c hc
    obtain ⟨hint, hmem, rfl⟩ := List.mem_map.mp hl
    obtain ⟨e, -, he⟩ := forall₂_exists_of_mem_right h hmem
    exact isBlank_of_mem_form he hc
  have hfeed : ∀ l ∈ hs.map (form doc), '\n' ∉ l := by
    intro l hl hmem
    exact absurd (hblank l hl '\n' hmem) (by decide)
  refine ⟨hs.map (form doc), hs, ?_, ?_, hblank, h, rfl, fun choices' cap' => ⟨?_, ?_⟩⟩
  · rw [execute_of_readAs h]
    exact split_flatMap_line hfeed
  · rw [List.length_map]
    exact h.length_eq.symm
  · exact execute_of_readAs (h.forms doc) choices' false cap'
  · exact execute_of_readAs (h.forms doc) choices' true cap'

/-- Three expressions with blanks in and around them, documented, and then declared. -/
theorem execute_idempotent_instances :
    let o : Options :=
      ⟨[" ?Foo\n".toList, "int|\tB&A ".toList, "\\STRING".toList], true, 0, false, some 1⟩
    (execute (fun _ => 0) o).status = 0 ∧
    List.splitOn '\n' (execute (fun _ => 0) o).stdout =
      ["?Foo".toList, "int|(A&B)".toList, "string".toList, []] ∧
    ∃ lines hs, List.splitOn '\n' (execute (fun _ => 0) o).stdout = lines ++ [[]] ∧
      List.Forall₂ (fun e h => Hint.parse e = .ok h) o.expressions hs ∧
      execute (fun _ => 0) ⟨lines, false, 0, false, none⟩ =
        ⟨0, (hs.map Hint.declaration).flatMap Report.line, []⟩ := by
  intro o
  have hstatus : (execute (fun _ => 0) o).status = 0 := by decide +kernel
  have hstdout : List.splitOn '\n' (execute (fun _ => 0) o).stdout =
      ["?Foo".toList, "int|(A&B)".toList, "string".toList, []] := by
    decide +kernel
  obtain ⟨lines, hs, hlines, -, -, hread, -, hagain⟩ :=
    execute_idempotent (fun _ => 0) o rfl rfl hstatus
  exact ⟨hstatus, hstdout, lines, hs, hlines, hread, (hagain (fun _ => 0) none).1⟩

end TypeExpr.CommandLine
