import Mathlib.Data.List.Forall2
import TypeExpr.Proofs.Text.Parts

/-!
# `TypeExpr.Proofs.Text.Chunks`: text between punctuation

The separators and the parentheses are the punctuation of an expression. They cut it into
**chunks**, and two texts are compared **chunkwise** if they have the same punctuation and what
stands between is related chunk by chunk. Chunkwise comparison composes at punctuation
(`Chunkwise.append`) and can be taken apart there (`Chunkwise.exists_of_append`), so it is inherited
by the parts that splitting gives (`Chunkwise.split`).

A text **ends in** punctuation, or begins in it, if it does so but for blanks, or is all blank.
Between a text that ends in punctuation and one that begins in it there is room for just one chunk
(`Chunkwise.between`).
-/

namespace TypeExpr

/-- The characters of the syntax around atoms. -/
def punctuation : List Char := ['|', '&', '(', ')']

theorem isBlank_of_mem_punctuation : ∀ c ∈ punctuation, isBlank c = false := by
  simp only [punctuation, List.forall_mem_cons]
  exact ⟨by decide, by decide, by decide, by decide, List.forall_mem_nil _⟩

namespace Text

/-- A text without punctuation. -/
def Plain (t : Text) : Prop := ∀ c ∈ t, c ∉ punctuation

variable {marks : List Char} {m : Char} {t t' u u' x y : Text}

theorem trim_eq_nil_iff : t.trim = [] ↔ ∀ c ∈ t, isBlank c = true := by
  constructor
  · intro h c hc
    obtain ⟨before, after, ht, -, hbefore, hafter⟩ := exists_eq_trim t
    rw [ht, h, List.append_nil] at hc
    exact (List.mem_append.mp hc).elim (hbefore c) (hafter c)
  · intro h
    have hblank := trim_append_append h (a := []) (by simp) []
    rw [List.append_nil, List.append_nil] at hblank
    rw [hblank]
    rfl

theorem plain_of_isBlank (h : ∀ c ∈ t, isBlank c = true) : t.Plain := fun c hc hp =>
  Bool.false_ne_true ((isBlank_of_mem_punctuation c hp).symm.trans (h c hc))

theorem Plain.append (ht : t.Plain) (hu : u.Plain) : Plain (t ++ u) := fun c hc =>
  (List.mem_append.mp hc).elim (ht c) (hu c)

theorem Plain.not_mem (h : t.Plain) (hm : m ∈ punctuation) : m ∉ t := fun hmem => h m hmem hm

/-- A text begins with a chunk, up to the first punctuation. -/
theorem exists_first_chunk (t : Text) :
    ∃ c rest, t = c ++ rest ∧ Plain c ∧ (rest = [] ∨ ∃ m r, rest = m :: r ∧ m ∈ punctuation) := by
  refine ⟨t.takeWhile (· ∉ punctuation), t.dropWhile (· ∉ punctuation),
    List.takeWhile_append_dropWhile.symm, fun c hc => by
      simpa using List.all_eq_true.mp List.all_takeWhile c hc, ?_⟩
  have hfirst := List.head?_dropWhile_not (· ∉ punctuation) t
  cases hrest : t.dropWhile (· ∉ punctuation) with
  | nil => exact .inl rfl
  | cons m r =>
      have hmark : m ∈ punctuation := by
        rw [hrest] at hfirst
        simpa using hfirst
      exact .inr ⟨m, r, rfl, hmark⟩

/-- A text ends with a chunk, behind the last punctuation. -/
theorem exists_last_chunk (t : Text) :
    ∃ front c, t = front ++ c ∧ Plain c ∧
      (front = [] ∨ ∃ f m, front = f ++ [m] ∧ m ∈ punctuation) := by
  obtain ⟨c, rest, ht, hc, hrest⟩ := exists_first_chunk t.reverse
  refine ⟨rest.reverse, c.reverse, by rw [← List.reverse_append, ← ht, List.reverse_reverse],
    fun d hd => hc d (List.mem_reverse.mp hd), ?_⟩
  rcases hrest with rfl | ⟨m, r, rfl, hm⟩
  · exact .inl rfl
  · exact .inr ⟨r.reverse, m, List.reverse_cons, hm⟩

/-! ### Chunk by chunk -/

/-- The texts have the same punctuation, and the chunks between are related one by one. -/
inductive Chunkwise (R : Text → Text → Prop) : Text → Text → Prop
  | last {c c' : Text} (hc : c.Plain) (hc' : c'.Plain) (h : R c c') : Chunkwise R c c'
  | mark {c c' t t' : Text} {m : Char} (hc : c.Plain) (hc' : c'.Plain) (h : R c c')
      (hm : m ∈ punctuation) (ht : Chunkwise R t t') : Chunkwise R (c ++ m :: t) (c' ++ m :: t')

namespace Chunkwise

variable {R : Text → Text → Prop}

theorem refl (hR : ∀ c, R c c) (t : Text) : Chunkwise R t t := by
  obtain ⟨c, rest, ht, hc, hrest⟩ := exists_first_chunk t
  rcases hrest with rfl | ⟨m, r, rfl, hm⟩
  · rw [ht, List.append_nil]
    exact .last hc hc (hR c)
  · rw [ht]
    exact .mark hc hc (hR c) hm (refl hR r)
termination_by t.length
decreasing_by
  rw [ht, List.length_append, List.length_cons]
  omega

theorem symm (hR : ∀ {c c'}, R c c' → R c' c) (h : Chunkwise R t t') : Chunkwise R t' t := by
  induction h with
  | last hc hc' h => exact .last hc' hc (hR h)
  | mark hc hc' h hm _ ih => exact .mark hc' hc (hR h) hm ih

/-- Texts compared chunkwise may be joined at punctuation. -/
theorem append (ht : Chunkwise R t t') (hm : m ∈ punctuation) (hu : Chunkwise R u u') :
    Chunkwise R (t ++ m :: u) (t' ++ m :: u') := by
  induction ht with
  | last hc hc' h => exact .mark hc hc' h hm hu
  | mark hc hc' h hn _ ih =>
      rw [List.append_assoc, List.cons_append, List.append_assoc, List.cons_append]
      exact .mark hc hc' h hn ih

/-- Texts compared chunkwise may be taken apart at punctuation. -/
theorem exists_of_append {s s' : Text} (h : Chunkwise R s s') (hs : s = t ++ m :: u)
    (hm : m ∈ punctuation) :
    ∃ t' u', s' = t' ++ m :: u' ∧ Chunkwise R t t' ∧ Chunkwise R u u' := by
  induction h generalizing t with
  | last hc _ _ => exact absurd (by simp [hs]) (hc.not_mem hm)
  | @mark c c' v v' n hc hc' h hn hv ih =>
      -- the punctuation behind the first chunk is the one asked for, or stands in front of it
      rcases List.append_eq_append_iff.mp hs with ⟨front, ht, hrest⟩ | ⟨back, hback, hrest⟩
      · cases front with
        | nil =>
            obtain ⟨rfl, rfl⟩ := List.cons.inj hrest
            rw [ht, List.append_nil]
            exact ⟨c', v', rfl, .last hc hc' h, hv⟩
        | cons d front =>
            obtain ⟨rfl, hv'⟩ := List.cons.inj hrest
            obtain ⟨t', u', rfl, htt', huu'⟩ := ih hv'
            exact ⟨c' ++ n :: t', u', by simp, ht ▸ .mark hc hc' h hn htt', huu'⟩
      · cases back with
        | nil =>
            obtain ⟨rfl, rfl⟩ := List.cons.inj hrest
            rw [List.append_nil] at hback
            exact ⟨c', v', rfl, hback ▸ .last hc hc' h, hv⟩
        | cons d back =>
            obtain ⟨rfl, -⟩ := List.cons.inj hrest
            exact absurd (by simp [hback]) (hc.not_mem hm)

/-- Texts compared chunkwise hold the same punctuation. -/
theorem mem (h : Chunkwise R t t') (hm : m ∈ punctuation) (ht : m ∈ t) : m ∈ t' := by
  obtain ⟨x, y, hxy⟩ := List.append_of_mem ht
  obtain ⟨x', y', rfl, -, -⟩ := h.exists_of_append hxy hm
  simp

/-- A text without punctuation is one chunk. -/
theorem plain (h : Chunkwise R t t') (ht : t.Plain) : t'.Plain ∧ R t t' := by
  cases h with
  | last _ hc' h => exact ⟨hc', h⟩
  | mark _ _ _ hm _ => exact absurd (by simp) (ht.not_mem hm)

/-- The parts between separators are compared chunkwise, too. -/
theorem split (h : Chunkwise R t t') {sep : Char} (hsep : sep ∈ punctuation) :
    List.Forall₂ (Chunkwise R) (t.splitOn sep) (t'.splitOn sep) := by
  induction h with
  | last hc hc' h =>
      rw [List.splitOn_eq_singleton (hc.not_mem hsep), List.splitOn_eq_singleton (hc'.not_mem hsep)]
      exact .cons (.last hc hc' h) .nil
  | @mark c c' t t' m hc hc' h hm _ ih =>
      by_cases hms : m = sep
      · subst hms
        rw [List.splitOn_append_cons_self_of_not_mem (hc.not_mem hsep),
          List.splitOn_append_cons_self_of_not_mem (hc'.not_mem hsep)]
        exact .cons (.last hc hc' h) ih
      -- other punctuation, and the chunk in front of it, join the first part of the rest
      · have hjoin : ∀ {b : Text}, b.Plain → ∀ v : Text,
            List.splitOn sep (b ++ m :: v) = (v.splitOn sep).modifyHead ((b ++ [m]) ++ ·) := by
          intro b hb v
          have hnot : sep ∉ b ++ [m] := by simp [hb.not_mem hsep, Ne.symm hms]
          rw [List.append_cons, splitOn_append_of_not_mem_left hnot]
        obtain ⟨p, ps, hp⟩ := List.exists_cons_of_ne_nil (List.splitOn_ne_nil sep t)
        rw [hp] at ih
        obtain ⟨p', ps', hpp', hps, hp'⟩ := List.forall₂_cons_left_iff.mp ih
        rw [hjoin hc, hjoin hc', hp, hp', List.modifyHead_cons, List.modifyHead_cons,
          ← List.append_cons, ← List.append_cons]
        exact .cons (.mark hc hc' h hm hpp') hps

end Chunkwise

/-! ### Beside punctuation -/

/-- But for blanks, the text is empty or ends in one of the characters. -/
def EndsIn (marks : List Char) (t : Text) : Prop := ∀ c ∈ t.trimEnd.getLast?, c ∈ marks

/-- But for blanks, the text is empty or begins in one of the characters. -/
def BeginsIn (marks : List Char) (t : Text) : Prop := ∀ c ∈ t.trimStart.head?, c ∈ marks

instance (marks : List Char) (t : Text) : Decidable (EndsIn marks t) :=
  Option.decidableForallMem t.trimEnd.getLast?

instance (marks : List Char) (t : Text) : Decidable (BeginsIn marks t) :=
  Option.decidableForallMem t.trimStart.head?

theorem endsIn_iff : EndsIn marks t ↔ BeginsIn marks t.reverse := by
  unfold EndsIn BeginsIn
  rw [trimEnd, List.getLast?_reverse, trimStart]

/-- Nothing in front of punctuation is trimmed off, since it is no blank. -/
theorem beginsIn_of_first (h : t = [] ∨ ∃ m r, t = m :: r ∧ m ∈ punctuation) :
    t.BeginsIn punctuation := by
  rcases h with rfl | ⟨m, r, rfl, hm⟩
  · simp [BeginsIn, trimStart]
  · simpa [BeginsIn, trimStart, isBlank_of_mem_punctuation m hm] using hm

theorem endsIn_of_last (h : t = [] ∨ ∃ f m, t = f ++ [m] ∧ m ∈ punctuation) :
    t.EndsIn punctuation := by
  rw [endsIn_iff]
  refine beginsIn_of_first (h.imp List.reverse_eq_nil_iff.mpr ?_)
  rintro ⟨f, m, rfl, hm⟩
  exact ⟨m, f.reverse, List.reverse_concat, hm⟩

theorem BeginsIn.exists_eq (h : y.BeginsIn marks) :
    ∃ blanks back, y = blanks ++ back ∧ (∀ c ∈ blanks, isBlank c = true) ∧
      (back = [] ∨ ∃ m b, back = m :: b ∧ m ∈ marks) := by
  refine ⟨y.takeWhile isBlank, y.trimStart, (takeWhile_append_trimStart y).symm,
    fun c hc => List.all_eq_true.mp List.all_takeWhile c hc, ?_⟩
  cases hhead : y.trimStart.head? with
  | none => exact .inl (List.head?_eq_none_iff.mp hhead)
  | some m =>
      obtain ⟨b, hb⟩ := List.head?_eq_some_iff.mp hhead
      exact .inr ⟨m, b, hb, h m hhead⟩

theorem EndsIn.exists_eq (h : x.EndsIn marks) :
    ∃ front blanks, x = front ++ blanks ∧ (∀ c ∈ blanks, isBlank c = true) ∧
      (front = [] ∨ ∃ f m, front = f ++ [m] ∧ m ∈ marks) := by
  obtain ⟨blanks, back, hx, hblanks, hback⟩ := (endsIn_iff.mp h).exists_eq
  refine ⟨back.reverse, blanks.reverse, by rw [← List.reverse_append, ← hx, List.reverse_reverse],
    fun c hc => hblanks c (List.mem_reverse.mp hc), ?_⟩
  rcases hback with rfl | ⟨m, b, rfl, hm⟩
  · exact .inl rfl
  · exact .inr ⟨b.reverse, m, List.reverse_cons, hm⟩

/-- Between separators there is room for one part, with the blanks at both of its ends. -/
theorem exists_split_between {sep : Char} (hsep : isBlank sep = false) (hx : x.EndsIn [sep])
    (hy : y.BeginsIn [sep]) :
    ∃ (init : List Text) (before after : Text) (tail : List Text),
      (∀ c ∈ before, isBlank c = true) ∧ (∀ c ∈ after, isBlank c = true) ∧
      ∀ t : Text, sep ∉ t →
        List.splitOn sep (x ++ t ++ y) = init ++ (before ++ t ++ after) :: tail := by
  obtain ⟨front, before, rfl, hbefore, hfront⟩ := hx.exists_eq
  obtain ⟨after, back, rfl, hafter, hback⟩ := hy.exists_eq
  obtain ⟨init, hinit⟩ :
      ∃ init, ∀ r : Text, List.splitOn sep (front ++ r) = init ++ r.splitOn sep := by
    rcases hfront with rfl | ⟨f, m, rfl, hm⟩
    · exact ⟨[], fun r => rfl⟩
    · obtain rfl := List.mem_singleton.mp hm
      refine ⟨List.splitOn m f, fun r => ?_⟩
      rw [List.append_assoc, List.singleton_append, List.splitOn_append_cons_self]
  obtain ⟨tail, htail⟩ :
      ∃ tail, ∀ p : Text, sep ∉ p → List.splitOn sep (p ++ back) = p :: tail := by
    rcases hback with rfl | ⟨m, b, rfl, hm⟩
    · exact ⟨[], fun p hp => by rw [List.append_nil, List.splitOn_eq_singleton hp]⟩
    · obtain rfl := List.mem_singleton.mp hm
      exact ⟨List.splitOn m b, fun p hp => List.splitOn_append_cons_self_of_not_mem hp b⟩
  refine ⟨init, before, after, tail, hbefore, hafter, fun t ht => ?_⟩
  have hpart : sep ∉ before ++ t ++ after := by
    rwa [mem_append_append hsep hbefore hafter]
  have hassoc : front ++ before ++ t ++ (after ++ back) =
      front ++ ((before ++ t ++ after) ++ back) := by
    simp only [List.append_assoc]
  rw [hassoc, hinit, htail _ hpart]

/-- **Between punctuation** there is room for one chunk, and a related chunk may take its place. -/
theorem Chunkwise.between {R : Text → Text → Prop} (hR : ∀ c, R c c) (hx : x.EndsIn punctuation)
    (hy : y.BeginsIn punctuation) {c c' : Text} (hc : c.Plain) (hc' : c'.Plain)
    (h : ∀ before after : Text, (∀ d ∈ before, isBlank d = true) → (∀ d ∈ after, isBlank d = true) →
      R (before ++ c ++ after) (before ++ c' ++ after)) :
    Chunkwise R (x ++ c ++ y) (x ++ c' ++ y) := by
  obtain ⟨front, before, rfl, hbefore, hfront⟩ := hx.exists_eq
  obtain ⟨after, back, rfl, hafter, hback⟩ := hy.exists_eq
  have hplain : ∀ {d : Text}, d.Plain → Plain (before ++ d ++ after) := fun hd =>
    ((plain_of_isBlank hbefore).append hd).append (plain_of_isBlank hafter)
  have hchunk : Chunkwise R (before ++ c ++ after) (before ++ c' ++ after) :=
    .last (hplain hc) (hplain hc') (h before after hbefore hafter)
  have hahead : Chunkwise R (before ++ c ++ after ++ back) (before ++ c' ++ after ++ back) := by
    rcases hback with rfl | ⟨m, b, rfl, hm⟩
    · rwa [List.append_nil, List.append_nil]
    · exact hchunk.append hm (refl hR b)
  have hbehind : Chunkwise R (front ++ (before ++ c ++ after ++ back))
      (front ++ (before ++ c' ++ after ++ back)) := by
    rcases hfront with rfl | ⟨f, m, rfl, hm⟩
    · exact hahead
    · rw [List.append_assoc f [m], List.append_assoc f [m]]
      exact (refl hR f).append hm hahead
  simpa only [List.append_assoc] using hbehind

end Text
end TypeExpr
