import TypeExpr.Text.Blank

/-!
# `TypeExpr.Proofs.Text.Parts`: joining, splitting and trimming

Joined texts have a separator between them; with one more in front of them or behind them there is
one for each (`cons_intercalate`, `intercalate_append_sep`).

Readers split a text at a separator and trim what they get. The trimmed **parts** of a text do not
change when the text is trimmed first (`parts_trim`), and joining trimmed texts and taking the parts
gives them back (`parts_intercalate`). Both rest on one fact: a text that ends or begins in
characters other than the separator is split as before, and only the part at that end grows.
-/

namespace TypeExpr.Text

/-! ### Joining -/

/-- Joined texts with a separator in front of them all have one in front of each. -/
theorem cons_intercalate (sep : Char) {ps : List Text} (hne : ps ≠ []) :
    sep :: [sep].intercalate ps = ps.flatMap (sep :: ·) := by
  induction ps with
  | nil => exact absurd rfl hne
  | cons p ps ih =>
      cases ps with
      | nil => simp [List.intercalate_singleton]
      | cons q qs =>
          rw [List.flatMap_cons, ← ih (by simp), List.intercalate_cons_cons, List.append_assoc,
            List.singleton_append, List.cons_append]

/-- Joined texts with a separator behind them all have one behind each. -/
theorem intercalate_append_sep (sep : Char) {ls : List Text} (hne : ls ≠ []) :
    [sep].intercalate ls ++ [sep] = ls.flatMap (· ++ [sep]) := by
  induction ls with
  | nil => exact absurd rfl hne
  | cons l ls ih =>
      cases ls with
      | nil => simp [List.intercalate_singleton]
      | cons m ls =>
          rw [List.flatMap_cons, ← ih (by simp), List.intercalate_cons_cons, List.append_assoc]

/-! ### Splitting -/

/-- Induction along the separators in a text: it holds none, or it is cut at the first one. -/
@[elab_as_elim]
theorem inductionOnMark (sep : Char) {motive : Text → Prop} (t : Text)
    (last : ∀ t : Text, sep ∉ t → motive t)
    (more : ∀ first rest : Text, sep ∉ first → motive rest → motive (first ++ sep :: rest)) :
    motive t := by
  by_cases h : sep ∈ t
  · obtain ⟨first, rest, ht, hfirst⟩ := List.eq_append_cons_of_mem h
    rw [ht]
    exact more first rest hfirst (inductionOnMark sep rest last more)
  · exact last t h
termination_by t.length
decreasing_by
  rw [ht, List.length_append, List.length_cons]
  omega

/-- Text put in front of a text joins its first part. -/
theorem splitOn_append_of_not_mem_left {sep : Char} {b : Text} (h : sep ∉ b) (t : Text) :
    List.splitOn sep (b ++ t) = (t.splitOn sep).modifyHead (b ++ ·) := by
  induction b with
  | nil =>
      obtain ⟨p, ps, hs⟩ := List.exists_cons_of_ne_nil (List.splitOn_ne_nil sep t)
      rw [List.nil_append, hs, List.modifyHead_cons, List.nil_append]
  | cons c b ih =>
      obtain ⟨hc, hb⟩ : sep ≠ c ∧ sep ∉ b := by simpa using h
      rw [List.cons_append, List.splitOn_cons_eq_if_modifyHead, if_neg (by simpa using hc.symm),
        ih hb]
      cases List.splitOn sep t <;> rfl

/-- Text put after a text joins its last part. -/
theorem splitOn_append_of_not_mem_right {sep : Char} {a : Text} (h : sep ∉ a) (t : Text) :
    ∃ init last, t.splitOn sep = init ++ [last] ∧
      List.splitOn sep (t ++ a) = init ++ [last ++ a] := by
  induction t using inductionOnMark sep with
  | last t ht =>
      have hta : sep ∉ t ++ a := by simp [ht, h]
      exact ⟨[], t, List.splitOn_eq_singleton ht, List.splitOn_eq_singleton hta⟩
  | more first rest hfirst ih =>
      obtain ⟨init, last, hr, ha⟩ := ih
      refine ⟨first :: init, last, ?_, ?_⟩
      · rw [List.splitOn_append_cons_self_of_not_mem hfirst, hr, List.cons_append]
      · rw [List.append_assoc, List.cons_append, List.splitOn_append_cons_self_of_not_mem hfirst,
          ha, List.cons_append]

/-- Joined texts hold the separator and what the texts hold. -/
theorem mem_intercalate {sep c : Char} {ps : List Text} (h : c ∈ [sep].intercalate ps) :
    c = sep ∨ ∃ p ∈ ps, c ∈ p := by
  induction ps with
  | nil => exact absurd h (by simp [List.intercalate_nil])
  | cons p ps ih =>
      cases ps with
      | nil => exact .inr ⟨p, by simp, by simpa [List.intercalate_singleton] using h⟩
      | cons q qs =>
          rw [List.intercalate_cons_cons, List.mem_append, List.mem_append,
            List.mem_singleton] at h
          rcases h with (h | h) | h
          · exact .inr ⟨p, by simp, h⟩
          · exact .inl h
          · exact (ih h).imp_right fun ⟨r, hr, hc⟩ => ⟨r, List.mem_cons_of_mem p hr, hc⟩

theorem intercalate_append (sep : Text) {ps qs : List Text} (hp : ps ≠ []) (hq : qs ≠ []) :
    sep.intercalate (ps ++ qs) = sep.intercalate ps ++ sep ++ sep.intercalate qs := by
  induction ps with
  | nil => exact absurd rfl hp
  | cons p ps ih =>
      cases ps with
      | nil =>
          rw [List.singleton_append, List.intercalate_cons_of_ne_nil hq, List.intercalate_singleton]
      | cons r rs =>
          rw [List.cons_append, List.cons_append, List.intercalate_cons_cons, ← List.cons_append,
            ih (by simp), List.intercalate_cons_cons]
          simp only [List.append_assoc]

/-- Joining lists of texts that were joined before is joining all the texts at once. -/
theorem intercalate_flatMap {α : Type} (sep : Text) {f : α → List Text} {xs : List α}
    (h : ∀ x ∈ xs, f x ≠ []) :
    sep.intercalate (xs.flatMap f) = sep.intercalate (xs.map fun x => sep.intercalate (f x)) := by
  induction xs with
  | nil => rfl
  | cons x xs ih =>
      have hx := h x (by simp)
      have hxs := ih fun y hy => h y (List.mem_cons_of_mem x hy)
      rw [List.flatMap_cons, List.map_cons]
      cases xs with
      | nil => rw [List.flatMap_nil, List.append_nil, List.map_nil, List.intercalate_singleton]
      | cons y ys =>
          have hne : (y :: ys).flatMap f ≠ [] := by
            rw [List.flatMap_cons]
            exact List.append_ne_nil_of_left_ne_nil (h y (by simp)) _
          rw [intercalate_append sep hx hne, hxs, List.map_cons, List.intercalate_cons_cons]

/-- Splitting loses none of the other characters. -/
theorem count_flatten_splitOn {sep c : Char} (h : c ≠ sep) (t : Text) :
    (t.splitOn sep).flatten.count c = t.count c := by
  induction t using inductionOnMark sep with
  | last t ht => rw [List.splitOn_eq_singleton ht, List.flatten_singleton]
  | more first rest hfirst ih =>
      rw [List.splitOn_append_cons_self_of_not_mem hfirst, List.flatten_cons, List.count_append, ih,
        List.count_append, List.count_cons_of_ne h.symm]

/-! ### Trimming -/

/-- A text without blanks is trimmed. -/
theorem trim_eq_self_of_forall {t : Text} (h : ∀ c ∈ t, isBlank c = false) : t.trim = t :=
  trim_eq_self_iff.mpr
    ⟨fun c hc => h c (List.mem_of_head? hc), fun c hc => h c (List.mem_of_getLast? hc)⟩

theorem trimEnd_append_blanks {a : Text} (ha : ∀ c ∈ a, isBlank c = true) (t : Text) :
    trimEnd (t ++ a) = t.trimEnd := by
  have har : ∀ c ∈ a.reverse, isBlank c = true := fun c hc => ha c (List.mem_reverse.mp hc)
  rw [trimEnd, List.reverse_append, List.dropWhile_append_of_pos har, trimEnd]

/-- A text that does not end in a blank is not trimmed at its end, whatever follows it. -/
theorem trimEnd_append_of_trimEnd_eq {t : Text} (h : t.trimEnd = t) (u : Text) :
    trimEnd (t ++ u) = t ++ u.trimEnd := by
  rw [trimEnd, List.reverse_append, List.dropWhile_append]
  split
  · next hnil =>
      rw [← trimEnd, h, trimEnd, List.isEmpty_iff.mp hnil, List.reverse_nil, List.append_nil]
  · rw [List.reverse_append, List.reverse_reverse, trimEnd]

theorem mem_of_mem_trimEnd {c : Char} {t : Text} (h : c ∈ t.trimEnd) : c ∈ t :=
  List.mem_reverse.mp ((List.dropWhile_sublist _).subset (List.mem_reverse.mp h))

/-- Blanks around a text are trimmed off. -/
theorem trim_append_append {b a : Text} (hb : ∀ c ∈ b, isBlank c = true)
    (ha : ∀ c ∈ a, isBlank c = true) (t : Text) : trim (b ++ t ++ a) = t.trim := by
  rw [trim, trimStart, List.append_assoc, List.dropWhile_append_of_pos hb, List.dropWhile_append]
  split
  · next hnil =>
      have hall : (a ++ []).dropWhile isBlank = [] := List.dropWhile_append_of_pos ha
      rw [List.append_nil] at hall
      rw [hall, trim, trimStart, List.isEmpty_iff.mp hnil]
  · rw [trimEnd_append_blanks ha, trim, trimStart]

theorem trim_trimEnd (t : Text) : t.trimEnd.trim = t.trim := by
  have hblank : ∀ c ∈ (t.reverse.takeWhile isBlank).reverse, isBlank c = true := fun c hc =>
    List.all_eq_true.mp List.all_takeWhile c (List.mem_reverse.mp hc)
  conv => rhs; rw [← trimEnd_append_takeWhile t]
  exact (trim_append_append (b := []) (by simp) hblank t.trimEnd).symm

/-- The indent of a text that is not all blank is not changed by what follows, and blanks in front
add to it. -/
theorem indent_append_append {b t : Text} (hb : ∀ c ∈ b, isBlank c = true) (hne : t.trim ≠ [])
    (a : Text) : indent (b ++ t ++ a) = b.length + t.indent := by
  have hshort : (t.takeWhile isBlank).length ≠ t.length := by
    intro hall
    have hlength := congrArg List.length (takeWhile_append_trimStart t)
    rw [List.length_append, hall] at hlength
    have hnil : t.trimStart = [] := List.eq_nil_of_length_eq_zero (by omega)
    exact hne (by rw [trim, hnil, trimEnd, List.reverse_nil, List.dropWhile_nil, List.reverse_nil])
  rw [indent, List.append_assoc, List.takeWhile_append_of_pos hb, List.takeWhile_append,
    if_neg hshort, List.length_append, indent]

/-- A character that is no blank is not trimmed off. -/
theorem count_trim {c : Char} (h : isBlank c = false) (t : Text) : t.trim.count c = t.count c := by
  obtain ⟨before, after, ht, -, hb, ha⟩ := exists_eq_trim t
  have hbc : before.count c = 0 :=
    List.count_eq_zero.mpr fun hc => absurd (hb c hc) (by simp [h])
  have hac : after.count c = 0 :=
    List.count_eq_zero.mpr fun hc => absurd (ha c hc) (by simp [h])
  conv => rhs; rw [ht]
  rw [List.count_append, List.count_append, hbc, hac]
  omega

theorem mem_trim {c : Char} (h : isBlank c = false) {t : Text} : c ∈ t.trim ↔ c ∈ t := by
  rw [← List.count_pos_iff, count_trim h, List.count_pos_iff]

theorem bar_mem_trim {t : Text} : '|' ∈ t.trim ↔ '|' ∈ t := mem_trim (by decide)

theorem amp_mem_trim {t : Text} : '&' ∈ t.trim ↔ '&' ∈ t := mem_trim (by decide)

/-- Blanks around a text add no other character. -/
theorem mem_append_append {c : Char} (h : isBlank c = false) {b a : Text}
    (hb : ∀ c ∈ b, isBlank c = true) (ha : ∀ c ∈ a, isBlank c = true) {t : Text} :
    c ∈ b ++ t ++ a ↔ c ∈ t := by
  rw [← mem_trim h, trim_append_append hb ha, mem_trim h]

/-! ### Trimmed parts -/

/-- The parts of a text between separators, each without the blanks around it. -/
def parts (sep : Char) (t : Text) : List Text := (t.splitOn sep).map trim

theorem length_parts (sep : Char) (t : Text) : (t.parts sep).length = t.count sep + 1 := by
  rw [parts, List.length_map, length_splitOn]

theorem two_le_length_parts {sep : Char} {t : Text} : 2 ≤ (t.parts sep).length ↔ sep ∈ t := by
  rw [length_parts, ← List.count_pos_iff]
  omega

theorem parts_intercalate {sep : Char} {ps : List Text} (hne : ps ≠ []) (h : ∀ p ∈ ps, sep ∉ p) :
    parts sep ([sep].intercalate ps) = ps.map trim := by
  rw [parts, List.splitOn_intercalate sep h hne]

theorem count_flatten_map_trim {c : Char} (hc : isBlank c = false) (ps : List Text) :
    (ps.map trim).flatten.count c = ps.flatten.count c := by
  induction ps with
  | nil => rfl
  | cons p ps ih =>
      rw [List.map_cons, List.flatten_cons, List.flatten_cons, List.count_append, List.count_append,
        count_trim hc, ih]

/-- The parts hold all the characters of the text but blanks and separators. -/
theorem count_flatten_parts {sep c : Char} (h : c ≠ sep) (hc : isBlank c = false) (t : Text) :
    (t.parts sep).flatten.count c = t.count c := by
  rw [parts, count_flatten_map_trim hc, count_flatten_splitOn h]

/-- Blanks around a text are trimmed off its parts. -/
theorem parts_append_append {sep : Char} (hsep : isBlank sep = false) {b a : Text}
    (hb : ∀ c ∈ b, isBlank c = true) (ha : ∀ c ∈ a, isBlank c = true) (t : Text) :
    parts sep (b ++ t ++ a) = t.parts sep := by
  have hsb : sep ∉ b := fun hm => absurd (hb sep hm) (by simp [hsep])
  have hsa : sep ∉ a := fun hm => absurd (ha sep hm) (by simp [hsep])
  obtain ⟨init, last, ht, hta⟩ := splitOn_append_of_not_mem_right hsa t
  have hlast : trim (last ++ a) = last.trim := trim_append_append (b := []) (by simp) ha last
  have hfirst : ∀ p : Text, trim (b ++ p) = p.trim := fun p => by
    simpa using trim_append_append hb (a := []) (by simp) p
  -- the blanks in front join the first part and those behind the last, which may be the same part
  rw [parts, List.append_assoc, splitOn_append_of_not_mem_left hsb, hta, parts, ht]
  cases init with
  | nil => simp [hfirst, hlast]
  | cons p init => simp [hfirst, hlast]

/-- Trimming a text does not change its trimmed parts. -/
theorem parts_trim {sep : Char} (hsep : isBlank sep = false) (t : Text) :
    t.trim.parts sep = t.parts sep := by
  obtain ⟨before, after, ht, -, hb, ha⟩ := exists_eq_trim t
  conv => rhs; rw [ht]
  rw [parts_append_append hsep hb ha]

end TypeExpr.Text
