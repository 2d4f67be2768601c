import Mathlib.Data.List.Forall2
import TypeExpr.Piece
import TypeExpr.Proofs.Text.Parts

/-!
# `TypeExpr.Proofs.Text.Places`: pieces in their places

A piece **lies in** a text if its characters stand there at the position it gives. Then its span is
within the text and picks out just its characters (`LiesIn.of_span`). A whole text lies in itself,
and trimming and cutting pieces that lie in a text gives pieces that do (`LiesIn.trim`,
`LiesIn.part`).

What cutting gives are **parts**: there is no separator in a part, and on either side of it there is
a separator or the end of what was cut (`partOf_of_mem_cut`).
-/

namespace TypeExpr.Piece

variable {p q : Piece} {t : Text} {sep : Char}

/-! ### Pieces of a text -/

/-- The characters of the piece stand in the text at its position. -/
def LiesIn (p : Piece) (t : Text) : Prop :=
  ∃ before after : Text, t = before ++ p.text ++ after ∧ p.start = before.length

theorem liesIn_ofText (t : Text) : (ofText t).LiesIn t := ⟨[], [], by simp [ofText], rfl⟩

/-- The span of a piece picks its characters out of the text. -/
theorem LiesIn.of_span (h : p.LiesIn t) : p.span.of t = p.text := by
  obtain ⟨before, after, rfl, hstart⟩ := h
  rw [Span.of, span, stop, hstart, List.append_assoc, List.drop_left, Nat.add_sub_cancel_left,
    List.take_left]

theorem LiesIn.stop_le (h : p.LiesIn t) : p.span.stop ≤ t.length := by
  obtain ⟨before, after, rfl, hstart⟩ := h
  simp only [span, stop, hstart, List.length_append]
  omega

theorem start_le_stop (p : Piece) : p.span.start ≤ p.span.stop := Nat.le_add_right ..

/-- The same piece of text further on. -/
def shift (p : Piece) (n : Nat) : Piece := ⟨p.start + n, p.text⟩

@[simp] theorem text_shift (p : Piece) (n : Nat) : (p.shift n).text = p.text := rfl

theorem shift_ofText (p : Piece) : (ofText p.text).shift p.start = p := by
  simp only [shift, ofText, Nat.zero_add]

theorem span_shift (p : Piece) (n : Nat) : (p.shift n).span = p.span.shift n := by
  simp only [span, stop, shift, Span.shift, Nat.add_right_comm]

theorem trim_shift (p : Piece) (n : Nat) : (p.shift n).trim = p.trim.shift n := by
  simp only [trim, shift, Nat.add_right_comm]

/-- A piece is its trimmed self with blanks on both sides, and the trimmed piece stands where the
blanks leave it. -/
theorem exists_padding (p : Piece) :
    ∃ before after : Text, p.text = before ++ p.trim.text ++ after ∧
      p.trim.start = p.start + before.length ∧ p.stop = p.trim.stop + after.length ∧
      (∀ c ∈ before, isBlank c = true) ∧ ∀ c ∈ after, isBlank c = true := by
  obtain ⟨before, after, htext, hindent, hbefore, hafter⟩ := Text.exists_eq_trim p.text
  refine ⟨before, after, htext, by rw [trim, hindent], ?_, hbefore, hafter⟩
  have hlength := congrArg List.length htext
  simp only [List.length_append] at hlength
  simp only [stop, trim]
  omega

theorem LiesIn.trim (h : p.LiesIn t) : p.trim.LiesIn t := by
  obtain ⟨left, right, rfl, hstart⟩ := h
  obtain ⟨before, after, htext, htrim, -⟩ := p.exists_padding
  refine ⟨left ++ before, after ++ right, by rw [htext]; simp, ?_⟩
  rw [htrim, hstart, List.length_append]

/-! ### Parts of a piece -/

/-- One of the parts of a piece between separators: no separator is in it, and on either side stands
a separator, or nothing. -/
def PartOf (sep : Char) (p q : Piece) : Prop :=
  ∃ before after : Text, q.text = before ++ p.text ++ after ∧ p.start = q.start + before.length ∧
    sep ∉ p.text ∧ (before = [] ∨ before.getLast? = some sep) ∧
    (after = [] ∨ after.head? = some sep)

theorem LiesIn.part (hq : q.LiesIn t) (h : p.PartOf sep q) : p.LiesIn t := by
  obtain ⟨before, after, rfl, hstart⟩ := hq
  obtain ⟨left, right, hq, hp, -⟩ := h
  refine ⟨before ++ left, right ++ after, by simp [hq], ?_⟩
  rw [hp, hstart, List.length_append]

/-- A text without separators is all one part. -/
theorem cutFrom_of_not_mem (h : sep ∉ t) (n : Nat) : cutFrom sep n t = [⟨n, t⟩] := by
  induction t generalizing n with
  | nil => rfl
  | cons c rest ih =>
      obtain ⟨hc, hrest⟩ : sep ≠ c ∧ sep ∉ rest := by simpa using h
      rw [cutFrom, if_neg (Ne.symm hc), ih hrest, List.modifyHead_cons]

/-- What stands before the first separator is the first part. -/
theorem cutFrom_append_cons (h : sep ∉ t) (n : Nat) (rest : Text) :
    cutFrom sep n (t ++ sep :: rest) = ⟨n, t⟩ :: cutFrom sep (n + t.length + 1) rest := by
  induction t generalizing n with
  | nil => simp [cutFrom]
  | cons c t ih =>
      obtain ⟨hc, ht⟩ : sep ≠ c ∧ sep ∉ t := by simpa using h
      rw [List.cons_append, cutFrom, if_neg (Ne.symm hc), ih ht, List.modifyHead_cons,
        List.length_cons]
      congr 2
      omega

/-- Cutting does not depend on where a piece stands. -/
theorem cut_shift (sep : Char) (p : Piece) (n : Nat) :
    (p.shift n).cut sep = (p.cut sep).map (·.shift n) := by
  obtain ⟨start, text⟩ := p
  unfold cut
  simp only [shift]
  induction text generalizing start with
  | nil => rfl
  | cons c rest ih =>
      rw [cutFrom, cutFrom, Nat.add_right_comm, ih (start + 1)]
      split
      · rfl
      · cases cutFrom sep (start + 1) rest <;> rfl

theorem exists_of_mem_cutFrom {n : Nat} {t : Text} (h : p ∈ cutFrom sep n t) :
    ∃ before after : Text, t = before ++ p.text ++ after ∧ p.start = n + before.length ∧
      sep ∉ p.text ∧ (before = [] ∨ before.getLast? = some sep) ∧
      (after = [] ∨ after.head? = some sep) := by
  induction t using Text.inductionOnMark sep generalizing n with
  | last t hsep =>
      rw [cutFrom_of_not_mem hsep] at h
      obtain rfl := List.mem_singleton.mp h
      exact ⟨[], [], by simp, rfl, hsep, .inl rfl, .inl rfl⟩
  | more first rest hfirst ih =>
      rw [cutFrom_append_cons hfirst] at h
      rcases List.mem_cons.mp h with rfl | h
      · exact ⟨[], sep :: rest, rfl, rfl, hfirst, .inl rfl, .inr rfl⟩
      -- a later part has the first one and the separator after it in front of it
      · obtain ⟨before, after, hrest, hstart, hp, hbefore, hafter⟩ := ih h
        refine ⟨first ++ sep :: before, after, by simp [hrest], ?_, hp, .inr ?_, hafter⟩
        · rw [hstart, List.length_append, List.length_cons]
          omega
        · rcases hbefore with rfl | hlast
          · simp
          · simp [List.getLast?_append, List.getLast?_cons, hlast]

/-- **Cutting gives parts.** -/
theorem partOf_of_mem_cut (h : p ∈ q.cut sep) : p.PartOf sep q := exists_of_mem_cutFrom h

/-! ### Parts of a trimmed piece -/

theorem start_le_start_trim (p : Piece) : p.start ≤ p.trim.start := Nat.le_add_right ..

theorem stop_trim_le (p : Piece) : p.trim.stop ≤ p.stop := by
  obtain ⟨-, after, -, -, hstop, -⟩ := p.exists_padding
  exact hstop ▸ Nat.le_add_right ..

/-- What remains of a piece when blanks are taken off at its ends: it is trimmed to the same text,
within the piece, and in the same place unless the piece is all blank. -/
structure Remains (p q : Piece) : Prop where
  trim_text : q.text.trim = p.text.trim
  start_le : p.start ≤ q.trim.start
  stop_le : q.trim.stop ≤ p.stop
  trim_eq : p.text.trim ≠ [] → q.trim = p.trim

theorem remains_of_padded {before after : Text} (hb : ∀ c ∈ before, isBlank c = true)
    (ha : ∀ c ∈ after, isBlank c = true) (n : Nat) (t : Text) :
    Remains ⟨n, before ++ t ++ after⟩ ⟨n + before.length, t⟩ := by
  have htrim : (before ++ t ++ after).trim = t.trim := Text.trim_append_append hb ha t
  refine ⟨htrim.symm, ?_, ?_, fun hne => ?_⟩
  · exact Nat.le_trans (Nat.le_add_right n before.length) (start_le_start_trim ⟨_, t⟩)
  · refine Nat.le_trans (stop_trim_le _) ?_
    simp only [stop, List.length_append]
    omega
  · rw [htrim] at hne
    simp only [trim, htrim, Text.indent_append_append hb hne after, Nat.add_assoc]

theorem forall₂_remains_cutFrom (before after : Text) (hsep : isBlank sep = false)
    (hb : ∀ c ∈ before, isBlank c = true) (ha : ∀ c ∈ after, isBlank c = true) (n : Nat)
    (t : Text) :
    List.Forall₂ Remains (cutFrom sep n (before ++ t ++ after))
      (cutFrom sep (n + before.length) t) := by
  have hsa : sep ∉ after := fun hm => absurd (ha sep hm) (by simp [hsep])
  induction t using Text.inductionOnMark sep generalizing before n with
  | last t hmem =>
      have hsb : sep ∉ before := fun hm => absurd (hb sep hm) (by simp [hsep])
      rw [cutFrom_of_not_mem (by simp [hsb, hsa, hmem]), cutFrom_of_not_mem hmem]
      exact .cons (remains_of_padded hb ha n t) .nil
  | more first rest hfirst ih =>
      have hsb : sep ∉ before := fun hm => absurd (hb sep hm) (by simp [hsep])
      have hpadded : before ++ (first ++ sep :: rest) ++ after =
          (before ++ first) ++ sep :: (rest ++ after) := by simp
      rw [hpadded, cutFrom_append_cons (by simp [hsb, hfirst]), cutFrom_append_cons hfirst,
        List.length_append, ← Nat.add_assoc]
      refine .cons ?_ ?_
      · have hhead := remains_of_padded hb (List.forall_mem_nil _) n first
        rwa [List.append_nil] at hhead
      -- of what comes after the first separator, blanks are taken off at the end only
      · exact ih [] (by simp) (n + before.length + first.length + 1)

/-- **Trimming before cutting** changes the parts of a piece in blanks at their ends only. -/
theorem forall₂_remains_cut (hsep : isBlank sep = false) (p : Piece) :
    List.Forall₂ Remains (p.cut sep) (p.trim.cut sep) := by
  obtain ⟨before, after, ht, hindent, hb, ha⟩ := Text.exists_eq_trim p.text
  have hcut := forall₂_remains_cutFrom before after hsep hb ha p.start p.text.trim
  rwa [← ht, hindent] at hcut

end TypeExpr.Piece
