import Mathlib.Data.List.Chain
import TypeExpr.Proofs.Text.Places

/-!
# `TypeExpr.Proofs.Text.Slices`: cutting a slice of a text

Cutting a slice at a separator and trimming the parts gives spans of the whole text. Their texts are
what plain splitting of the slice gives, trimmed, and nothing but blanks and separators is left out
(`trimmed_parts_of_slice`).

Two neighbouring parts stand side by side with one separator between them (`Adjoin`), the first part
begins where the slice begins, and the last one ends where it ends. What trimming takes off a part
is blank, so it belongs to the gap between two spans or to an end of the slice.
-/

namespace TypeExpr

/-- The stretch of a text that a span picks out, as a piece. -/
def Span.piece (s : Span) (t : Text) : Piece := ⟨s.start, s.of t⟩

/-- There is one separator in the text, and all else in it is blank. -/
def Text.Separates (sep : Char) (gap : Text) : Prop :=
  gap.count sep = 1 ∧ ∀ c ∈ gap, c = sep ∨ isBlank c = true

namespace Piece

variable {p q : Piece} {t u : Text} {s : Span} {sep : Char}

/-! ### Slices -/

theorem liesIn_slice (hstart : s.start ≤ s.stop) (hstop : s.stop ≤ t.length) :
    (s.piece t).LiesIn t := by
  refine ⟨t.take s.start, t.drop s.stop, ?_, (List.length_take_of_le (hstart.trans hstop)).symm⟩
  have hdrop : t.drop s.stop = (t.drop s.start).drop (s.stop - s.start) := by
    rw [List.drop_drop, Nat.add_sub_cancel' hstart]
  rw [hdrop, Span.piece, Span.of, List.append_assoc, List.take_append_drop, List.take_append_drop]

theorem stop_slice (hstart : s.start ≤ s.stop) (hstop : s.stop ≤ t.length) :
    (s.piece t).stop = s.stop := by
  have hlength : (s.of t).length = s.stop - s.start := by
    rw [Span.of, List.length_take, List.length_drop]
    omega
  rw [stop, Span.piece, hlength, Nat.add_sub_cancel' hstart]

/-! ### What trimming takes off -/

/-- Between the beginning of a piece and that of the trimmed piece all is blank. -/
theorem LiesIn.isBlank_of_mem_lead (h : p.LiesIn t) :
    ∀ c ∈ Span.of ⟨p.start, p.trim.start⟩ t, isBlank c = true := by
  obtain ⟨left, right, rfl, hstart⟩ := h
  obtain ⟨before, after, htext, htrim, -, hbefore, -⟩ := p.exists_padding
  have hlead : LiesIn ⟨p.start, before⟩ (left ++ p.text ++ right) :=
    ⟨left, p.trim.text ++ after ++ right, by rw [htext]; simp, hstart⟩
  rw [htrim]
  exact hlead.of_span ▸ hbefore

/-- Between the end of the trimmed piece and that of the piece all is blank. -/
theorem LiesIn.isBlank_of_mem_trail (h : p.LiesIn t) :
    ∀ c ∈ Span.of ⟨p.trim.stop, p.stop⟩ t, isBlank c = true := by
  obtain ⟨left, right, rfl, hstart⟩ := h
  obtain ⟨before, after, htext, htrim, hstop, -, hafter⟩ := p.exists_padding
  have htrail : LiesIn ⟨p.trim.stop, after⟩ (left ++ p.text ++ right) := by
    refine ⟨left ++ before ++ p.trim.text, right, by rw [htext]; simp, ?_⟩
    rw [stop, htrim, hstart, List.length_append, List.length_append]
  rw [hstop]
  exact htrail.of_span ▸ hafter

/-! ### Neighbours -/

/-- Two parts stand side by side in a text, with one separator between them. -/
structure Adjoin (sep : Char) (t : Text) (p q : Piece) : Prop where
  start_eq : q.start = p.stop + 1
  liesIn : LiesIn ⟨p.start, p.text ++ sep :: q.text⟩ t
  left_not_mem : sep ∉ p.text
  right_not_mem : sep ∉ q.text

/-- Between trimmed neighbours stands the separator, and otherwise blanks. -/
theorem Adjoin.separates (h : Adjoin sep t p q) :
    Text.Separates sep (Span.of ⟨p.trim.stop, q.trim.start⟩ t) := by
  obtain ⟨hstart, ⟨left, right, rfl, hleft⟩, hp, hq⟩ := h
  obtain ⟨before, after, hptext, hptrim, hpstop, -, hafter⟩ := p.exists_padding
  obtain ⟨before', after', hqtext, hqtrim, -, hbefore', -⟩ := q.exists_padding
  have hgap : LiesIn ⟨p.trim.stop, after ++ sep :: before'⟩
      (left ++ (p.text ++ sep :: q.text) ++ right) := by
    refine ⟨left ++ before ++ p.trim.text, q.trim.text ++ after' ++ right, ?_, ?_⟩
    · rw [hptext, hqtext]
      simp
    · rw [stop, hptrim, List.length_append, List.length_append, ← hleft]
  have hspan :
      (⟨p.trim.stop, q.trim.start⟩ : Span) = span ⟨p.trim.stop, after ++ sep :: before'⟩ := by
    have hlength : q.trim.start = p.trim.stop + (after ++ sep :: before').length := by
      rw [List.length_append, List.length_cons]
      omega
    rw [hlength]
    rfl
  rw [hspan, hgap.of_span]
  have hafter_count : after.count sep = 0 :=
    List.count_eq_zero.mpr fun hm => hp (by rw [hptext]; simp [hm])
  have hbefore_count : before'.count sep = 0 :=
    List.count_eq_zero.mpr fun hm => hq (by rw [hqtext]; simp [hm])
  constructor
  · rw [List.count_append, List.count_cons_self, hafter_count, hbefore_count]
  · intro c hc
    rcases List.mem_append.mp hc with hc | hc
    · exact .inr (hafter c hc)
    · exact (List.mem_cons.mp hc).imp_right (hbefore' c)

/-! ### The parts in a row -/

/-- The first part begins where the cut text does. -/
theorem exists_head?_cutFrom (sep : Char) (n : Nat) (t : Text) :
    ∃ first rest : Text, t = first ++ rest ∧ sep ∉ first ∧
      (cutFrom sep n t).head? = some ⟨n, first⟩ := by
  induction t using Text.inductionOnMark sep with
  | last t ht => exact ⟨t, [], by simp, ht, by rw [cutFrom_of_not_mem ht]; rfl⟩
  | more first rest hfirst _ =>
      exact ⟨first, sep :: rest, rfl, hfirst, by rw [cutFrom_append_cons hfirst]; rfl⟩

theorem cutFrom_ne_nil (sep : Char) (n : Nat) (t : Text) : cutFrom sep n t ≠ [] := by
  obtain ⟨first, rest, -, -, hhead⟩ := exists_head?_cutFrom sep n t
  intro hnil
  rw [hnil] at hhead
  cases hhead

/-- The last part ends where the cut text does. -/
theorem stop_of_mem_getLast?_cutFrom {n : Nat} (h : p ∈ (cutFrom sep n t).getLast?) :
    p.stop = n + t.length := by
  induction t using Text.inductionOnMark sep generalizing n with
  | last t ht =>
      rw [cutFrom_of_not_mem ht] at h
      obtain rfl := Option.some.inj h
      rfl
  | more first rest hfirst ih =>
      rw [cutFrom_append_cons hfirst, List.getLast?_cons_of_ne_nil (cutFrom_ne_nil _ _ _)] at h
      rw [ih h, List.length_append, List.length_cons]
      omega

/-- Neighbouring parts stand side by side. -/
theorem isChain_adjoin_cutFrom {n : Nat} (h : LiesIn ⟨n, t⟩ u) :
    (cutFrom sep n t).IsChain (Adjoin sep u) := by
  induction t using Text.inductionOnMark sep generalizing n with
  | last t ht =>
      rw [cutFrom_of_not_mem ht]
      exact .singleton _
  | more first rest hfirst ih =>
      obtain ⟨left, right, hu, hn⟩ := h
      have hn : n = left.length := hn
      have hrest : LiesIn ⟨n + first.length + 1, rest⟩ u :=
        ⟨left ++ first ++ [sep], right, by simp [hu], by simp [hn, Nat.add_assoc]⟩
      rw [cutFrom_append_cons hfirst]
      refine (ih hrest).cons fun q hq => ?_
      obtain ⟨next, after, rfl, hnext, hhead⟩ :=
        exists_head?_cutFrom sep (n + first.length + 1) rest
      rw [hhead] at hq
      obtain rfl := Option.some.inj hq
      exact ⟨rfl, ⟨left, after ++ right, by simp [hu], hn⟩, hfirst, hnext⟩

/-- Of two parts the one cut off first stands in front, with room for a separator between them. -/
theorem pairwise_cut (h : q.LiesIn t) : (q.cut sep).Pairwise fun p p' => p.stop < p'.start := by
  have htrans : IsTrans Piece fun p p' => p.stop < p'.start := ⟨fun p p' p'' h h' => by
    have hle : p'.start ≤ p'.stop := p'.start_le_stop
    omega⟩
  refine List.isChain_iff_pairwise.mp ((isChain_adjoin_cutFrom h).imp fun p p' hadjoin => ?_)
  rw [hadjoin.start_eq]
  exact Nat.lt_succ_self _

theorem PartOf.within (h : p.PartOf sep q) : q.start ≤ p.start ∧ p.stop ≤ q.stop := by
  obtain ⟨before, after, htext, hstart, -⟩ := h
  simp only [stop, htext, hstart, List.length_append]
  omega

/-! ### Spans of trimmed parts -/

/-- Where the parts of a piece lie once they are trimmed. -/
def slices (sep : Char) (p : Piece) : List Span := (p.cut sep).map fun q => q.trim.span

theorem length_slices (sep : Char) (q : Piece) : (q.slices sep).length = q.text.count sep + 1 := by
  rw [slices, List.length_map, ← List.length_map (f := text), map_text_cut, Text.length_splitOn]

theorem map_of_slices (h : q.LiesIn t) :
    (q.slices sep).map (fun v => v.of t) = (q.text.splitOn sep).map Text.trim := by
  rw [slices, List.map_map, ← map_text_cut, List.map_map]
  refine List.map_congr_left fun p hp => ?_
  exact (h.part (partOf_of_mem_cut hp)).trim.of_span

theorem within_of_mem_slices {v : Span} (h : v ∈ q.slices sep) :
    q.start ≤ v.start ∧ v.start ≤ v.stop ∧ v.stop ≤ q.stop := by
  obtain ⟨p, hp, rfl⟩ := List.mem_map.mp h
  obtain ⟨hstart, hstop⟩ := (partOf_of_mem_cut hp).within
  exact ⟨hstart.trans p.start_le_start_trim, p.trim.start_le_stop, p.stop_trim_le.trans hstop⟩

theorem isChain_slices (h : q.LiesIn t) :
    (q.slices sep).IsChain fun v w => Text.Separates sep (Span.of ⟨v.stop, w.start⟩ t) := by
  rw [slices, List.isChain_map]
  exact (isChain_adjoin_cutFrom h).imp fun p p' hadjoin => hadjoin.separates

theorem pairwise_slices (h : q.LiesIn t) : (q.slices sep).Pairwise fun v w => v.stop < w.start := by
  refine List.pairwise_map.mpr ((pairwise_cut h).imp fun {p p'} hlt => ?_)
  exact p.stop_trim_le.trans_lt (hlt.trans_le p'.start_le_start_trim)

theorem isBlank_of_mem_before_slices (h : q.LiesIn t) {v : Span} (hv : v ∈ (q.slices sep).head?) :
    ∀ c ∈ Span.of ⟨q.start, v.start⟩ t, isBlank c = true := by
  rw [slices, List.head?_map] at hv
  obtain ⟨p, hp, rfl⟩ := Option.map_eq_some_iff.mp hv
  have hstart : p.start = q.start := by
    obtain ⟨first, -, -, -, hhead⟩ := exists_head?_cutFrom sep q.start q.text
    rw [cut, hhead] at hp
    obtain rfl := Option.some.inj hp
    rfl
  rw [← hstart]
  exact (h.part (partOf_of_mem_cut (List.mem_of_head? hp))).isBlank_of_mem_lead

theorem isBlank_of_mem_after_slices (h : q.LiesIn t) {v : Span} (hv : v ∈ (q.slices sep).getLast?) :
    ∀ c ∈ Span.of ⟨v.stop, q.stop⟩ t, isBlank c = true := by
  rw [slices, List.getLast?_map] at hv
  obtain ⟨p, hp, rfl⟩ := Option.map_eq_some_iff.mp hv
  have hstop : p.stop = q.stop := stop_of_mem_getLast?_cutFrom hp
  rw [← hstop]
  exact (h.part (partOf_of_mem_cut (List.mem_of_getLast? hp))).isBlank_of_mem_trail

/-! ### A slice of a text -/

/-- **Cutting a slice is splitting its text.** Cut at a separator, a slice of a text gives one span
more than there are separators in it. The text of each span is the part that splitting gives in its
place, trimmed. The spans lie within the slice, in order and apart; between two neighbours there is
one separator and otherwise only blanks, and so there are only blanks before the first span and
after the last. -/
theorem trimmed_parts_of_slice (t : Text) (s : Span) (sep : Char) (hstart : s.start ≤ s.stop)
    (hstop : s.stop ≤ t.length) :
    let spans := (s.piece t).slices sep
    spans.length = (s.of t).count sep + 1 ∧
    spans.map (fun v => v.of t) = ((s.of t).splitOn sep).map Text.trim ∧
    (∀ v ∈ spans, s.start ≤ v.start ∧ v.start ≤ v.stop ∧ v.stop ≤ s.stop) ∧
    spans.Pairwise (fun v w => v.stop < w.start) ∧
    spans.IsChain (fun v w => Text.Separates sep (Span.of ⟨v.stop, w.start⟩ t)) ∧
    (∀ v ∈ spans.head?, ∀ c ∈ Span.of ⟨s.start, v.start⟩ t, isBlank c = true) ∧
    ∀ v ∈ spans.getLast?, ∀ c ∈ Span.of ⟨v.stop, s.stop⟩ t, isBlank c = true := by
  have hlies := liesIn_slice hstart hstop
  have hend := stop_slice hstart hstop
  refine ⟨length_slices sep _, ?_, fun v hv => ?_, pairwise_slices hlies, isChain_slices hlies,
    fun v hv => isBlank_of_mem_before_slices hlies hv, fun v hv => ?_⟩
  · exact map_of_slices hlies
  · rw [← hend]
    exact within_of_mem_slices hv
  · rw [← hend]
    exact isBlank_of_mem_after_slices hlies hv

/-- The inside of a group in parentheses, with an empty part, one that is all blank and one in
blanks. -/
theorem trimmed_parts_of_slice_instance :
    let t := "int|(A&& \t&\nB )".toList
    let s : Span := ⟨5, 14⟩
    s.start ≤ s.stop ∧ s.stop ≤ t.length ∧
    (s.piece t).slices '&' = [⟨5, 6⟩, ⟨7, 7⟩, ⟨10, 10⟩, ⟨12, 13⟩] ∧
    ((s.piece t).slices '&').map (fun v => v.of t) = ["A".toList, [], [], "B".toList] ∧
    ((s.piece t).slices '&').IsChain
      (fun v w => Text.Separates '&' (Span.of ⟨v.stop, w.start⟩ t)) := by
  intro t s
  have hstart : s.start ≤ s.stop := by decide
  have hstop : s.stop ≤ t.length := by decide
  obtain ⟨-, htexts, -, -, hchain, -⟩ := trimmed_parts_of_slice t s '&' hstart hstop
  exact ⟨hstart, hstop, by decide, htexts.trans (by decide), hchain⟩

end Piece
end TypeExpr
