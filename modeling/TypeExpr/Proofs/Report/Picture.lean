import TypeExpr.Proofs.Grammar
import TypeExpr.Proofs.Location
import TypeExpr.Proofs.Text.Rows
import TypeExpr.Report.Session

/-!
# `TypeExpr.Proofs.Report.Picture`: what the carets point at

An annotation is a picture of two lines. The first shows the line of the source in which a span
begins, under its number; in the second stand carets, and they **underline** what stands above them
(`Underlined`). If the span covers a text in one line that does not end in a blank, that text is
what the carets underline (`Annotation.shown_above_carets`), however many tabs or other characters
are in front of it and whatever is trimmed off behind it.

The error of an expression with an atom at fault covers such a text, and its caption names class
names only, so the picture in the report underlines the segment at fault
(`picture_underlines_culprit`).
-/

namespace TypeExpr

/-- A picture of two lines: the first begins with a number in its margin, and below the text given,
and nothing else, stand the carets in the second. -/
def Underlined (picture : Text) (number : Nat) (culprit : Text) : Prop :=
  ∃ shown padding caption : Text,
    picture.lines =
      [shown ++ ['\n'], padding ++ List.replicate culprit.length '^' ++ ' ' :: caption] ∧
    Annotation.margin number <+: shown ∧ '^' ∉ padding ∧
    (shown.drop padding.length).take culprit.length = culprit

/-! ### Both lines -/

namespace Annotation

theorem unbroken_margin (number : Nat) : (margin number).Unbroken := by
  have hdigits : Text.Unbroken (Text.ofNat number) := by
    intro c hc
    have hdigit := Text.isDigit_of_mem_ofNat hc
    refine eq_false_of_ne_true fun hbreak => ?_
    rcases Text.isBreak_iff.mp hbreak with rfl | rfl <;> exact absurd hdigit (by decide)
  have hnumber : Text.Unbroken (' ' :: Text.ofNat number) :=
    List.forall_mem_cons.mpr ⟨by decide, hdigits⟩
  exact ((Text.unbroken_replicate (by decide) _).append hnumber).append (by decide)

theorem trimEnd_margin (number : Nat) : (margin number).trimEnd = margin number := by
  refine Text.trimEnd_eq_self_iff.mpr fun c hc => ?_
  rw [margin, List.getLast?_append] at hc
  obtain rfl : '|' = c := Option.some.inj hc
  decide

variable (a : Annotation)

theorem shown_eq : a.shown = margin a.number ++ a.place.line.trimEnd :=
  Text.trimEnd_append_of_trimEnd_eq (trimEnd_margin a.number) _

theorem unbroken_shown : a.shown.Unbroken := by
  obtain ⟨last, hline⟩ := Text.exists_isLine_place a.source a.span.start
  rw [shown_eq]
  exact (unbroken_margin _).append hline.unbroken_trimEnd

theorem number_eq : a.number = 1 + a.source.breaksBefore a.span.start := by
  rw [number, place, Text.row_place, Nat.add_comm]

variable {a}

theorem mem_padding {c : Char} (h : c ∈ a.padding) : c = ' ' ∨ c = '\t' := by
  obtain ⟨d, -, rfl⟩ := List.mem_map.mp h
  unfold blanked
  split
  · exact .inr rfl
  · exact .inl rfl

theorem mem_pointer {c : Char} (h : c ∈ a.pointer) :
    c = ' ' ∨ c = '\t' ∨ c = '^' ∨ c ∈ a.caption := by
  rcases List.mem_append.mp h with h | h
  · rcases List.mem_append.mp h with h | h
    · exact (mem_padding h).imp_right .inl
    · exact .inr (.inr (.inl (List.eq_of_mem_replicate h)))
  · exact (List.mem_cons.mp h).imp_right fun h => .inr (.inr h)

theorem unbroken_pointer (h : a.caption.Unbroken) : a.pointer.Unbroken := by
  intro c hc
  rcases mem_pointer hc with rfl | rfl | rfl | hc
  · decide
  · decide
  · decide
  · exact h c hc

theorem lines_illustrate (h : a.caption.Unbroken) :
    a.illustrate.lines = [a.shown ++ ['\n'], a.pointer] := by
  rw [illustrate, Text.lines_append_newline a.unbroken_shown,
    Text.lines_of_unbroken (unbroken_pointer h)]

/-! ### The carets -/

/-- **The carets stand below the text of the span**, one for each character, if it is in one line
and does not end in a blank. -/
theorem shown_above_carets {culprit : Text} (hof : a.span.of a.source = culprit)
    (hne : culprit ≠ []) (hunbroken : culprit.Unbroken) (hlast : culprit.trimEnd = culprit) :
    a.caretCount = culprit.length ∧
      (a.shown.drop a.padding.length).take a.caretCount = culprit := by
  obtain ⟨before, after, hsource, hstart, hstop⟩ := Span.exists_around (hof ▸ hne)
  rw [hof] at hsource hstop
  obtain ⟨left, right, hline, hcolumn, hright⟩ :
      ∃ left right : Text, a.place.line = left ++ culprit ++ right ∧ a.place.column = left.length ∧
        right <+: after := by
    rw [place, hsource, ← hstart]
    exact Text.exists_place hne hunbroken
  have hpos : 0 < culprit.length := List.length_pos_iff.mpr hne
  have hwidth : culprit.length ≤ a.span.stop - a.span.start := hof ▸ List.length_take_le ..
  have hend : right.length = 0 ∨ culprit.length = a.span.stop - a.span.start := by
    refine hstop.imp_left fun hafter => ?_
    subst hafter
    rw [List.prefix_nil.mp hright, List.length_nil]
  have hcarets : a.caretCount = culprit.length := by
    rw [caretCount, hline, hcolumn, List.length_append, List.length_append]
    omega
  have hpadding : a.padding.length = (margin a.number ++ left).length := by
    rw [padding, List.length_map, hline, hcolumn, List.append_assoc, List.take_left]
  have hshown : a.shown = margin a.number ++ left ++ (culprit ++ right.trimEnd) := by
    have hleft : (left ++ culprit).trimEnd = left ++ culprit := by
      rw [Text.trimEnd_eq_self_iff] at hlast ⊢
      rwa [List.getLast?_append_of_ne_nil left hne]
    rw [shown_eq, hline, Text.trimEnd_append_of_trimEnd_eq hleft]
    simp only [List.append_assoc]
  refine ⟨hcarets, ?_⟩
  rw [hshown, hcarets, List.drop_left' hpadding.symm, List.take_left]

/-- **The carets underline the text of the span**, if it stands in one line and does not end in a
blank. -/
theorem underlined_of_eq {before culprit after caption : Text} (hne : culprit ≠ [])
    (hculprit : culprit.Unbroken) (hlast : culprit.trimEnd = culprit)
    (hcaption : caption.Unbroken) :
    let t := before ++ culprit ++ after
    let a : Annotation := ⟨t, ⟨before.length, before.length + culprit.length⟩, caption⟩
    Underlined a.illustrate (1 + t.breaksBefore before.length) culprit := by
  intro t a
  have hof : a.span.of a.source = culprit := by simp [a, t, Span.of]
  obtain ⟨hcarets, habove⟩ := shown_above_carets hof hne hculprit hlast
  refine ⟨a.shown, a.padding, caption, ?_, ?_, fun hm => ?_, ?_⟩
  · rw [show a.illustrate.lines = _ from lines_illustrate hcaption, pointer, hcarets]
  · rw [← a.number_eq, shown_eq]
    exact List.prefix_append ..
  · rcases mem_padding hm with h | h <;> exact absurd h (by decide)
  · rwa [hcarets] at habove

end Annotation

/-! ### Captions -/

variable {t : Text} {e : Error}

/-- The atoms named in conflict with another were read in the expression, so their names are class
names. -/
theorem isClassName_of_mem_conflicts (h : Ty.parse t = .error e) {name : Text}
    (hname : name ∈ e.conflicts) : name.isClassName = true := by
  rcases Ty.failsWith_of_parse h with rfl | ⟨-, s, hs, hfails⟩
  · exact absurd hname List.not_mem_nil
  -- only a question about an atom names others, and those are the ones it is asked about beside
  cases hfails with
  | read he =>
      subst he
      exact absurd hname List.not_mem_nil
  | unclosed he =>
      subst he
      exact absurd hname List.not_mem_nil
  | ask he hconflict =>
      subst he
      obtain ⟨o, ho, rfl⟩ := List.mem_map.mp hname
      obtain ⟨mode, ps, hask⟩ := Ty.exists_of_ask_mem_steps hs
      obtain ⟨p, -, hread⟩ := Ty.exists_of_mem_others hask (Atom.culprits_subset hconflict ho)
      exact (Atom.wellFormed_iff.mp ⟨p.text, hread⟩).1

theorem unbroken_caption (h : Ty.parse t = .error e) : (Issue.caption e).Unbroken := by
  have hnames : (Error.listed e.conflicts).Unbroken :=
    Text.Unbroken.intercalate (by decide) fun name hname =>
      Text.unbroken_of_isBlank_eq_false fun _ hc => isBlank_of_isNameChar
        (Text.isNameChar_of_mem (isClassName_of_mem_conflicts h hname) hc)
  unfold Issue.caption
  split
  · decide
  · next hfault =>
      rw [Error.conflicts, hfault] at hnames
      exact Text.Unbroken.append (by decide) hnames
  · decide
  · decide

/-! ### Errors underlined -/

/-- The segment is what the error is about: its text, or the text that was read as the atom it
names. -/
def Error.Blames (e : Error) (p : Piece) : Prop :=
  match e.fault with
  | .illegal _ _ => ∃ a, Atom.ofText p.text = .ok a ∧ a.name = e.text
  | _ => p.text = e.text

/-- The segment that an error is about, if it is about an atom that may not be combined as it is or
about a text in one line that is no name. -/
theorem exists_segment_of_parse (h : Ty.parse t = .error e)
    (habout : e.isIllegal = true ∨ e.fault = .invalidName ∧ e.text ≠ [] ∧ e.text.Unbroken) :
    ∃ p, Ty.AtomicSegment t p ∧ e.Blames p ∧ e.span = some p.span ∧ p.text ≠ [] ∧
      p.text.Unbroken := by
  unfold Error.Blames
  obtain ⟨s, hspan, -, -, hlocated⟩ := Ty.locatedIn_of_parse h
  rcases habout with hillegal | ⟨hfault, hne, hunbroken⟩
  · cases hfault : e.fault with
    | illegal objection conflicts =>
        rw [hfault] at hlocated
        obtain ⟨p, hp, rfl, htext, htrim, a, ha, hname⟩ := hlocated
        rw [← htext] at ha
        have hform := Grammar.ofText_eq_ok_iff_atomForm.mp ha
        rw [htrim] at hform
        have hne : p.text ≠ [] := htrim ▸ Atom.trim_ne_nil_of_ofText ha
        exact ⟨p, hp, ⟨a, ha, hname⟩, hspan, hne, Text.unbroken_of_isBlank_eq_false fun c hc =>
          isBlank_of_isNameChar (Grammar.isNameChar_of_mem_atomForm hform hc)⟩
    | _ => simp [Error.isIllegal, hfault] at hillegal
  · rw [hfault] at hlocated ⊢
    obtain ⟨-, -, ⟨p, hp, rfl, htext⟩, -⟩ := hlocated
    exact ⟨p, hp, htext, hspan, htext ▸ hne, htext ▸ hunbroken⟩

/-- **The picture underlines the culprit.** If an expression cannot be parsed because of an atom
that may not be combined as it is, or of a text in one line that is no name, a report records one
issue, whose one picture has two lines. The number shown is that of the line in which the segment at
fault begins, and the carets below underline this segment. -/
theorem picture_underlines_culprit {t : Text} {e : Error} (h : Ty.parse t = .error e)
    (habout : e.isIllegal = true ∨ e.fault = .invalidName ∧ e.text ≠ [] ∧ e.text.Unbroken)
    (session : Session) :
    ∃ (i : Issue) (a : Annotation) (s : Span),
      (session.step (.parse t)).session.report.issues = session.report.issues ++ [i] ∧
      i.annotations = [a] ∧ e.span = some s ∧ (s.of t).length = s.stop - s.start ∧
      Underlined a.illustrate (1 + t.breaksBefore s.start) (s.of t) ∧
      ∃ p, Ty.AtomicSegment t p ∧ p.span = s ∧ p.text = s.of t ∧ e.Blames p := by
  obtain ⟨p, hp, hblames, hspan, hne, hunbroken⟩ := exists_segment_of_parse h habout
  have hof := hp.liesIn.of_span
  refine ⟨.ofError t e, ⟨t, p.span, Issue.caption e⟩, p.span, ?_, ?_, hspan, ?_, ?_,
    p, hp, rfl, hof.symm, hblames⟩
  · rw [Session.step, h]
    rfl
  · rw [Issue.ofError, hspan]
    rfl
  · rw [hof]
    exact (Nat.add_sub_cancel_left ..).symm
  · have hlast : p.text.trimEnd = p.text :=
      Text.trimEnd_eq_self_iff.mpr (Text.trim_eq_self_iff.mp hp.trim_text).2
    have hcaption := unbroken_caption h
    rw [hof]
    obtain ⟨before, after, rfl, hstart⟩ := hp.liesIn
    rw [Piece.span, Piece.stop, hstart]
    exact Annotation.underlined_of_eq hne hunbroken hlast hcaption

/-- An atom that is no class in a group on the second line, and a segment on the third that is no
name. -/
theorem picture_underlines_culprit_instances :
    (∃ i a, ((Session.start (fun _ => 0) (.fresh 0 none)).step
        (.parse "\tA|\r\n (B &\tint)".toList)).session.report.issues = [i] ∧
      i.annotations = [a] ∧ Underlined a.illustrate 2 "int".toList ∧
      a.illustrate =
        "     2 | (B &\tint)\n".toList ++
        "             \t^^^ conflicts with B".toList) ∧
    ∃ i a, ((Session.start (fun _ => 0) (.fresh 0 none)).step
        (.parse "A\n|\r\t9x ".toList)).session.report.issues = [i] ∧
      i.annotations = [a] ∧ Underlined a.illustrate 3 "9x".toList ∧
      a.illustrate =
        "     3 |\t9x\n".toList ++
        "        \t^^ confused here".toList := by
  have hillegal : Ty.parse "\tA|\r\n (B &\tint)".toList =
      .error ⟨.illegal .notIntersectable ["B".toList], "int".toList, some ⟨11, 14⟩⟩ := by
    decide +kernel
  have hname : Ty.parse "A\n|\r\t9x ".toList = .error ⟨.invalidName, "9x".toList, some ⟨5, 7⟩⟩ := by
    decide +kernel
  have hshown : ∀ {is : List Issue} {i : Issue} {a : Annotation} {picture : Text},
      is = [i] → i.annotations = [a] →
      is.flatMap (fun i => i.annotations.map Annotation.illustrate) = [picture] →
      a.illustrate = picture := by
    rintro _ i a picture rfl ha hpicture
    simpa [ha] using hpicture
  refine ⟨?_, ?_⟩
  · obtain ⟨i, a, s, hissues, ha, hs, -, hpicture, -⟩ :=
      picture_underlines_culprit hillegal (.inl rfl) (.start (fun _ => 0) (.fresh 0 none))
    obtain rfl := Option.some.inj hs
    exact ⟨i, a, hissues, ha, hpicture, hshown hissues ha (by decide +kernel)⟩
  · obtain ⟨i, a, s, hissues, ha, hs, -, hpicture, -⟩ :=
      picture_underlines_culprit hname (.inr ⟨rfl, by decide, by decide⟩)
        (.start (fun _ => 0) (.fresh 0 none))
    obtain rfl := Option.some.inj hs
    exact ⟨i, a, hissues, ha, hpicture, hshown hissues ha (by decide +kernel)⟩

end TypeExpr
