import TypeExpr.Proofs.Report.Picture

/-!
# `TypeExpr.Proofs.Report.Alignment`: pictures of any stretch of text

A stretch of text may begin past the end of the source, and it may end before it begins. Its picture
is well drawn all the same (`Annotation.exists_drawing`): it shows a line that is there, pads the
carets by as much as is in front of them, and does not let them run past the end of the line. A
picture can be read in one way only (`Annotation.Drawing.underlined_eq`).

The carets underline the characters from the beginning of the stretch up to its end
(`Annotation.illustrate_between_aligned`). An end that is counted from behind is not understood,
though: it comes before the beginning, and makes the stretch an empty one
(`Annotation.not_underlined_of_negative_stop`).
-/

namespace TypeExpr

/-- The characters from one position up to, not including, another. The other is counted from the
end of the text if it is negative. -/
def Text.slice (t : Text) (start : Nat) (stop : Int) : Text :=
  Span.of ⟨start, (if stop < 0 then t.length + stop else stop).toNat⟩ t

namespace Annotation

/-- How a picture of what begins at a position is drawn. The position falls into a line of the
source, which is shown under its number. Below, carets stand behind a padding as wide as what is in
front of the position, so far as the line reaches. -/
structure Drawing (source : Text) (start : Nat) (caption picture : Text) where
  above : List Text
  line : Text
  below : List Text
  column : Nat
  padding : Text
  carets : Nat
  lines_eq : source.lines = above ++ line :: below
  start_eq : start = above.flatten.length + column
  column_lt : below = [] ∨ column < line.length
  picture_eq : picture = margin (above.length + 1) ++ line.trimEnd ++
    '\n' :: (padding ++ List.replicate carets '^' ++ ' ' :: caption)
  length_padding : padding.length = (margin (above.length + 1)).length + min column line.length
  padding_eq : ∀ k < padding.length, padding[k]? =
    some (if (margin (above.length + 1) ++ line)[k]? = some '\t' then '\t' else ' ')
  carets_pos : 1 ≤ carets
  carets_le : column + carets ≤ max line.length (column + 1)

namespace Drawing

variable {source caption picture : Text} {start : Nat}

/-- The number of the line shown, counted from one. -/
def number (d : Drawing source start caption picture) : Nat := d.above.length + 1

/-- The line shown, behind its number. -/
def shown (d : Drawing source start caption picture) : Text := margin d.number ++ d.line.trimEnd

/-- What stands above the carets. -/
def underlined (d : Drawing source start caption picture) : Text :=
  (d.shown.drop d.padding.length).take d.carets

theorem number_le (d : Drawing source start caption picture) : d.number ≤ source.lines.length := by
  rw [d.lines_eq, List.length_append, List.length_cons, number]
  omega

/-- The line drawn is the one the position falls into. -/
theorem eq_place (d : Drawing source start caption picture) :
    source.place start = ⟨d.above.length, d.line, d.column⟩ := by
  rw [Text.place, d.lines_eq, congrArg (Text.placeIn _) d.start_eq]
  exact Text.placeIn_append d.column_lt

theorem number_eq (d : Drawing source start caption picture) :
    d.number = 1 + source.breaksBefore start := by
  rw [← Text.row_place, d.eq_place, number, Nat.add_comm]

end Drawing

variable {a : Annotation}

theorem length_padding (a : Annotation) :
    a.padding.length = (margin a.number).length + min a.place.column a.place.line.length := by
  rw [padding, List.length_map, List.length_append, List.length_take]

/-- In the padding stands what is above it, blanked. -/
theorem getElem?_padding {k : Nat} (h : k < a.padding.length) :
    a.padding[k]? =
      some (if (margin a.number ++ a.place.line)[k]? = some '\t' then '\t' else ' ') := by
  set front := margin a.number ++ a.place.line.take a.place.column with hfront
  have hk : k < front.length := by rwa [padding, List.length_map] at h
  have habove : (margin a.number ++ a.place.line)[k]? = some front[k] := by
    rw [← List.take_append_drop a.place.column a.place.line, ← List.append_assoc, ← hfront,
      List.getElem?_append_left hk, List.getElem?_eq_getElem hk]
  rw [habove, padding, ← hfront, List.getElem?_map, List.getElem?_eq_getElem hk]
  simp [blanked]

/-- **An annotation draws a picture.** -/
theorem exists_drawing (a : Annotation) :
    Nonempty (Drawing a.source a.span.start a.caption a.illustrate) := by
  obtain ⟨above, line, below, hlines, hplace, hstart, hstop⟩ :=
    Text.exists_placeIn (Text.lines_ne_nil a.source) a.span.start
  have hline : a.place.line = line := congrArg Text.Place.line hplace
  have hcolumn : a.place.column = a.span.start - above.flatten.length :=
    congrArg Text.Place.column hplace
  have hnumber : a.number = above.length + 1 := congrArg (Text.Place.row · + 1) hplace
  refine ⟨⟨above, line, below, a.place.column, a.padding, a.caretCount, hlines, ?_, ?_, ?_, ?_, ?_,
    a.caretCount_pos, ?_⟩⟩
  · omega
  · exact hstop.imp_right fun h => by omega
  · rw [← hnumber, ← hline, ← shown_eq]
    rfl
  · rw [← hnumber, ← hline]
    exact length_padding a
  · rw [← hnumber, ← hline]
    exact fun k hk => getElem?_padding hk
  · rw [← hline, caretCount]
    omega

/-- **A picture is drawn in one way.** -/
theorem Drawing.underlined_eq (d : Drawing a.source a.span.start a.caption a.illustrate) :
    d.underlined = (a.shown.drop a.padding.length).take a.caretCount := by
  have hplace : a.place = ⟨d.above.length, d.line, d.column⟩ := d.eq_place
  have hnumber : a.number = d.number := congrArg (Text.Place.row · + 1) hplace
  have hshown : a.shown = d.shown := by rw [shown_eq, hnumber, hplace, Drawing.shown]
  have hpadding : a.padding.length = d.padding.length := by
    rw [a.length_padding, hnumber, hplace]
    exact d.length_padding.symm
  have hcarets : a.caretCount = d.carets := by
    have hpicture :
        a.shown ++ '\n' :: (a.padding ++ List.replicate a.caretCount '^' ++ ' ' :: a.caption) =
          d.shown ++ '\n' :: (d.padding ++ List.replicate d.carets '^' ++ ' ' :: a.caption) :=
      d.picture_eq
    have hlength := congrArg List.length hpicture
    simp only [hshown, List.length_append, List.length_cons, List.length_replicate] at hlength
    omega
  rw [Drawing.underlined, hshown, hpadding, hcarets]

theorem count_newline_illustrate (h : '\n' ∉ a.caption) : a.illustrate.count '\n' = 1 := by
  have hshown : '\n' ∉ a.shown := fun hmem => absurd (a.unbroken_shown _ hmem) (by decide)
  have hpointer : '\n' ∉ a.pointer := fun hmem => by
    rcases mem_pointer hmem with hmem | hmem | hmem | hmem
    · exact absurd hmem (by decide)
    · exact absurd hmem (by decide)
    · exact absurd hmem (by decide)
    · exact h hmem
  rw [illustrate, List.count_append, List.count_cons_self, List.count_eq_zero.mpr hshown,
    List.count_eq_zero.mpr hpointer]

/-- **Annotations stay aligned, and within the text.** Wherever a stretch begins and ends, its
picture has two lines. The first shows one of the lines there are, the one in which the stretch
begins. Below it stand carets, at least one, behind a padding that is aligned with it, and none
beyond its end. If the stretch is not empty, is in one line and does not end in a blank, and its end
is not counted from behind, it is what the carets underline. -/
theorem illustrate_between_aligned (source : Text) (start : Nat) (stop : Int) (caption : Text)
    (hcaption : '\n' ∉ caption) :
    let picture := (between source start stop caption).illustrate
    let stretch := source.slice start stop
    picture.count '\n' = 1 ∧
    source.lines.length = 1 + source.breaksBefore source.length ∧
    Nonempty (Drawing source start caption picture) ∧
    ∀ d : Drawing source start caption picture,
      1 ≤ d.number ∧ d.number ≤ source.lines.length ∧
      (0 ≤ stop → stretch ≠ [] → stretch.Unbroken → (∀ c ∈ stretch.getLast?, isBlank c = false) →
        d.underlined = stretch) := by
  intro picture stretch
  let a := between source start stop caption
  refine ⟨count_newline_illustrate hcaption, Text.length_lines source, exists_drawing a, fun d =>
    ⟨Nat.succ_pos _, d.number_le, fun hstop hne hunbroken hlast => ?_⟩⟩
  have hof : a.span.of source = stretch := by
    simp only [stretch, Text.slice, if_neg (Int.not_lt.mpr hstop)]
    rfl
  calc d.underlined
      _ = (a.shown.drop a.padding.length).take a.caretCount := Drawing.underlined_eq (a := a) d
      _ = stretch := (shown_above_carets hof hne hunbroken (Text.trimEnd_eq_self_iff.mpr hlast)).2

/-- A stretch with a tab in front of it, one that reaches past the end of the text, and one that
begins there and ends where the text begins. -/
theorem illustrate_between_aligned_instances :
    (∃ d : Drawing "A|\r\n\t(B & int)".toList 10 "here".toList
        (between "A|\r\n\t(B & int)".toList 10 13 "here".toList).illustrate,
      d.number = 2 ∧ d.underlined = "int".toList) ∧
    (∃ d : Drawing "A\n|\r\t9x".toList 5 [] (between "A\n|\r\t9x".toList 5 90 []).illustrate,
      d.number = 3 ∧ d.underlined = "9x".toList) ∧
    ∃ d : Drawing "A\n".toList 7 [] (between "A\n".toList 7 0 []).illustrate,
      1 ≤ d.number ∧ d.number ≤ 2 := by
  refine ⟨?_, ?_, ?_⟩
  · obtain ⟨-, -, ⟨d⟩, hdrawing⟩ :=
      illustrate_between_aligned "A|\r\n\t(B & int)".toList 10 13 "here".toList (by decide)
    exact ⟨d, d.number_eq, (hdrawing d).2.2 (by decide) (by decide) (by decide)
      (Text.trimEnd_eq_self_iff.mp (by decide))⟩
  · obtain ⟨-, -, ⟨d⟩, hdrawing⟩ :=
      illustrate_between_aligned "A\n|\r\t9x".toList 5 90 [] (by decide)
    exact ⟨d, d.number_eq, (hdrawing d).2.2 (by decide) (by decide) (by decide)
      (Text.trimEnd_eq_self_iff.mp (by decide))⟩
  · obtain ⟨-, -, ⟨d⟩, hdrawing⟩ := illustrate_between_aligned "A\n".toList 7 0 [] (by decide)
    exact ⟨d, (hdrawing d).1, (hdrawing d).2.1⟩

/-- An end counted from behind: two characters are picked out, but one caret stands below them. -/
theorem not_underlined_of_negative_stop :
    let stretch := Text.slice "abc".toList 0 (-1)
    let picture := (between "abc".toList 0 (-1) []).illustrate
    picture = "     1 |abc\n        ^ ".toList ∧ stretch = "ab".toList ∧ stretch.Unbroken ∧
      (∀ c ∈ stretch.getLast?, isBlank c = false) ∧
      ¬ ∃ d : Drawing "abc".toList 0 [] picture, d.underlined = stretch := by
  refine ⟨by decide, by decide, by decide, Text.trimEnd_eq_self_iff.mp (by decide),
    fun ⟨d, hd⟩ => ?_⟩
  have h := Drawing.underlined_eq (a := between "abc".toList 0 (-1) []) d
  exact absurd (hd.symm.trans h) (by decide)

end Annotation
end TypeExpr
