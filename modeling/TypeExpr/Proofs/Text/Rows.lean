import TypeExpr.Proofs.Text.Parts
import TypeExpr.Text.Lines

/-!
# `TypeExpr.Proofs.Text.Rows`: lines, rows and columns

Cutting a text into lines agrees with counting its line breaks: the row of a position is the number
of breaks that end at it or before it (`row_place`), where a carriage return and the line feed after
it are one break. The line of that row holds, at the position's column, whatever unbroken text
stands at the position (`exists_place`).

A line is a **body** without breaks and the break that ends it (`isLine_of_lines`). Only the last
line has no break.
-/

namespace TypeExpr.Text

/-! ### Counting breaks -/

/-- A line break ends with the character at the position: a line feed, or a carriage return without
a line feed after it. -/
def closesBreak (t : Text) (k : Nat) : Bool :=
  t[k]? == some '\n' || (t[k]? == some '\r' && t[k + 1]? != some '\n')

/-- How many line breaks of the text end at the position or before it. -/
def breaksBefore (t : Text) (n : Nat) : Nat := (List.range n).countP t.closesBreak

variable {t : Text}

theorem isBreak_iff {c : Char} : isBreak c = true ↔ c = '\r' ∨ c = '\n' := by simp [isBreak]

theorem isBlank_of_isBreak {c : Char} (h : isBreak c = true) : isBlank c = true := by
  rcases isBreak_iff.mp h with rfl | rfl <;> decide

@[simp] theorem breaksBefore_nil (n : Nat) : breaksBefore [] n = 0 := by
  simp [breaksBefore, closesBreak]

theorem breaksBefore_cons_succ (c : Char) (t : Text) (n : Nat) :
    breaksBefore (c :: t) (n + 1) =
      (if closesBreak (c :: t) 0 then 1 else 0) + t.breaksBefore n := by
  have hrest : closesBreak (c :: t) ∘ Nat.succ = t.closesBreak := rfl
  rw [breaksBefore, List.range_succ_eq_map, List.countP_cons, List.countP_map, hrest, breaksBefore,
    Nat.add_comm]

/-! ### Rows -/

/-- The row of a position does not change when a character is put in front of the first line, and
the position moves along. -/
theorem row_placeIn_modifyHead (c : Char) (ls : List Text) (n : Nat) :
    (placeIn (ls.modifyHead (c :: ·)) (n + 1)).row = (placeIn ls n).row := by
  cases ls with
  | nil => rfl
  | cons l ls =>
      cases ls with
      | nil => rfl
      | cons m ls =>
          simp only [List.modifyHead_cons, placeIn, List.length_cons, Nat.add_lt_add_iff_right,
            Nat.add_sub_add_right]
          split <;> rfl

theorem row_placeIn_modifyHead_zero (c : Char) (ls : List Text) :
    (placeIn (ls.modifyHead (c :: ·)) 0).row = 0 := by
  cases ls with
  | nil => rfl
  | cons l ls => cases ls <;> simp [placeIn]

theorem placeIn_cons_of_lt {l : Text} (ls : List Text) {n : Nat} (h : n < l.length) :
    placeIn (l :: ls) n = ⟨0, l, n⟩ := by
  cases ls with
  | nil => rfl
  | cons m ls => rw [placeIn, if_pos h]

theorem placeIn_cons_of_le {l : Text} {ls : List Text} (hne : ls ≠ []) {n : Nat}
    (h : l.length ≤ n) :
    placeIn (l :: ls) n =
      { placeIn ls (n - l.length) with row := (placeIn ls (n - l.length)).row + 1 } := by
  obtain ⟨m, ls, rfl⟩ := List.exists_cons_of_ne_nil hne
  rw [placeIn, if_neg (by omega)]

/-- **Rows are counted by breaks.** -/
theorem row_place (t : Text) (n : Nat) : (t.place n).row = t.breaksBefore n := by
  unfold place
  fun_induction lines t generalizing n with
  | case1 => simp [placeIn]
  | case2 rest ih =>
      -- a carriage return and a line feed are one break, which ends behind both
      obtain _ | _ | n := n
      · simp [placeIn_cons_of_lt, breaksBefore]
      · simp [placeIn_cons_of_lt, breaksBefore, closesBreak]
      · have hbreaks : breaksBefore ('\r' :: '\n' :: rest) (n + 2) = 1 + breaksBefore rest n := by
          simp [breaksBefore_cons_succ, closesBreak]
        rw [placeIn_cons_of_le (lines_ne_nil rest) (by simp), hbreaks, ← ih n, Nat.add_comm 1]
        rfl
  | case3 c rest hcrlf hbreak ih =>
      have hcloses : closesBreak (c :: rest) 0 = true := by
        rcases isBreak_iff.mp hbreak with rfl | rfl
        · cases rest with
          | nil => rfl
          | cons d rest =>
              have hd : d ≠ '\n' := fun hd => hcrlf rest rfl (hd ▸ rfl)
              simp [closesBreak, hd]
        · rfl
      cases n with
      | zero => simp [placeIn_cons_of_lt, breaksBefore]
      | succ n =>
          rw [placeIn_cons_of_le (lines_ne_nil rest) (by simp), breaksBefore_cons_succ,
            if_pos hcloses, ← ih n, Nat.add_comm 1]
          rfl
  | case4 c rest hcrlf hbreak ih =>
      have hopen : closesBreak (c :: rest) 0 = false := by
        have hc : c ≠ '\r' ∧ c ≠ '\n' := by simpa [isBreak] using hbreak
        simp [closesBreak, hc]
      cases n with
      | zero => exact row_placeIn_modifyHead_zero c _
      | succ n =>
          rw [row_placeIn_modifyHead, breaksBefore_cons_succ, if_neg (by simp [hopen]), ih n,
            Nat.zero_add]

/-! ### Lines -/

/-- There is no break in the text. -/
def Unbroken (t : Text) : Prop := ∀ c ∈ t, isBreak c = false

instance (t : Text) : Decidable t.Unbroken := List.decidableBAll _ t

theorem unbroken_nil : Unbroken [] := List.forall_mem_nil _

theorem unbroken_replicate {c : Char} (h : isBreak c = false) (n : Nat) :
    Unbroken (List.replicate n c) := by
  intro d hd
  rwa [List.eq_of_mem_replicate hd]

/-- A text without blanks is unbroken. -/
theorem unbroken_of_isBlank_eq_false (h : ∀ c ∈ t, isBlank c = false) : t.Unbroken := by
  intro c hc
  refine eq_false_of_ne_true fun hbreak => ?_
  have hblank := isBlank_of_isBreak hbreak
  rw [h c hc] at hblank
  cases hblank

theorem Unbroken.append {u : Text} (ht : t.Unbroken) (hu : u.Unbroken) : Unbroken (t ++ u) :=
  fun c hc => (List.mem_append.mp hc).elim (ht c) (hu c)

theorem Unbroken.intercalate {sep : Text} (hsep : sep.Unbroken) {ps : List Text}
    (h : ∀ p ∈ ps, Unbroken p) : Unbroken (sep.intercalate ps) := by
  induction ps with
  | nil => exact unbroken_nil
  | cons p ps ih =>
      obtain ⟨hp, hps⟩ := List.forall_mem_cons.mp h
      cases ps with
      | nil => rwa [List.intercalate_singleton]
      | cons q qs =>
          rw [List.intercalate_cons_cons]
          exact (hp.append hsep).append (ih hps)

/-- An unbroken text is a line by itself. -/
theorem lines_of_unbroken (h : t.Unbroken) : t.lines = [t] := by
  fun_induction lines t with
  | case1 => rfl
  | case2 rest => exact absurd (h '\r' (by simp)) (by decide)
  | case3 c rest _ hbreak => exact absurd (h c (by simp)) (by simp [hbreak])
  | case4 c rest _ _ ih => rw [ih fun d hd => h d (List.mem_cons_of_mem c hd), List.modifyHead_cons]

/-- A line feed ends the line it stands in. -/
theorem lines_append_newline (h : t.Unbroken) (u : Text) :
    lines (t ++ '\n' :: u) = (t ++ ['\n']) :: u.lines := by
  induction t with
  | nil => rfl
  | cons c t ih =>
      obtain ⟨hc, ht⟩ := List.forall_mem_cons.mp h
      have hne : c ≠ '\r' := by
        rintro rfl
        exact absurd hc (by decide)
      rw [List.cons_append, lines, if_neg (by simp [hc]), ih ht, List.modifyHead_cons,
        List.cons_append]
      exact fun _ h _ => hne h

/-- A line is a body without breaks and, unless it is the last, a break. -/
def IsLine (last : Prop) (l : Text) : Prop :=
  ∃ body brk : Text, l = body ++ brk ∧ body.Unbroken ∧ (∀ c ∈ brk, isBreak c = true) ∧
    (brk = [] ↔ last)

/-- A break in front of a text is a line with an empty body, and the lines of the text come after
it. -/
theorem isLine_of_break_cons {brk rest : Text} (hne : brk ≠ []) (hbrk : ∀ c ∈ brk, isBreak c = true)
    {before after : List Text} {l : Text} (h : brk :: rest.lines = before ++ l :: after)
    (hrest : ∀ {front}, rest.lines = front ++ l :: after → IsLine (after = []) l) :
    IsLine (after = []) l := by
  cases before with
  | nil =>
      obtain ⟨rfl, rfl⟩ := List.cons.inj h
      exact ⟨[], brk, rfl, unbroken_nil, hbrk, iff_of_false hne (lines_ne_nil rest)⟩
  | cons b before => exact hrest (List.cons.inj h).2

theorem isLine_of_lines {before after : List Text} {l : Text} (h : t.lines = before ++ l :: after) :
    IsLine (after = []) l := by
  fun_induction lines t generalizing before l after with
  | case1 =>
      obtain ⟨rfl, rfl, rfl⟩ : before = [] ∧ l = [] ∧ after = [] := by
        cases before <;> simp_all
      exact ⟨[], [], rfl, unbroken_nil, by simp, by simp⟩
  | case2 rest ih => exact isLine_of_break_cons (by simp) (by simp [isBreak]) h ih
  | case3 c rest _ hbreak ih => exact isLine_of_break_cons (by simp) (by simpa using hbreak) h ih
  | case4 c rest _ hbreak ih =>
      -- the character goes to the body of the first line
      obtain ⟨m, ls, hls⟩ := List.exists_cons_of_ne_nil (lines_ne_nil rest)
      rw [hls] at ih h
      cases before with
      | nil =>
          obtain ⟨rfl, rfl⟩ := List.cons.inj h
          obtain ⟨body, brk, rfl, hbody, hbrk, hlast⟩ := ih (List.nil_append _).symm
          exact ⟨c :: body, brk, rfl, by simpa [Unbroken, hbreak] using hbody, hbrk, hlast⟩
      | cons b before =>
          obtain ⟨-, rfl⟩ := List.cons.inj h
          exact ih (List.cons_append ..).symm

/-- Trimming takes the break off a line. -/
theorem IsLine.unbroken_trimEnd {last : Prop} {l : Text} (hl : IsLine last l) :
    l.trimEnd.Unbroken := by
  obtain ⟨body, brk, rfl, hbody, hbrk, -⟩ := hl
  rw [trimEnd_append_blanks fun c hc => isBlank_of_isBreak (hbrk c hc)]
  exact fun c hc => hbody c (mem_of_mem_trimEnd hc)

/-! ### Places -/

/-- A place is in some line, that begins at the position or before it; if it is not the last, it
ends behind the position. -/
theorem exists_placeIn {ls : List Text} (hne : ls ≠ []) (n : Nat) :
    ∃ before l after, ls = before ++ l :: after ∧
      placeIn ls n = ⟨before.length, l, n - before.flatten.length⟩ ∧
      before.flatten.length ≤ n ∧ (after = [] ∨ n < before.flatten.length + l.length) := by
  induction ls generalizing n with
  | nil => exact absurd rfl hne
  | cons l ls ih =>
      by_cases hlast : ls = []
      · subst hlast
        exact ⟨[], l, [], rfl, rfl, Nat.zero_le n, .inl rfl⟩
      by_cases hn : n < l.length
      · refine ⟨[], l, ls, rfl, placeIn_cons_of_lt ls hn, Nat.zero_le n, .inr ?_⟩
        simpa using hn
      · obtain ⟨before, m, after, rfl, hplace, hstart, hstop⟩ := ih hlast (n - l.length)
        refine ⟨l :: before, m, after, rfl, ?_, ?_, ?_⟩
        · rw [placeIn_cons_of_le hlast (by omega), hplace, List.flatten_cons, List.length_append,
            List.length_cons, Nat.sub_sub]
        · rw [List.flatten_cons, List.length_append]
          omega
        · rw [List.flatten_cons, List.length_append]
          exact hstop.imp_right fun h => by omega

/-- A position is in the line it falls into: the last one, or one that ends behind it. -/
theorem placeIn_append {before : List Text} {l : Text} {after : List Text} {k : Nat}
    (h : after = [] ∨ k < l.length) :
    placeIn (before ++ l :: after) (before.flatten.length + k) = ⟨before.length, l, k⟩ := by
  induction before with
  | nil =>
      rw [List.nil_append, List.flatten_nil, List.length_nil, Nat.zero_add]
      rcases h with rfl | h
      · rfl
      · exact placeIn_cons_of_lt after h
  | cons b before ih =>
      have hle : b.length ≤ (b :: before).flatten.length + k := by
        rw [List.flatten_cons, List.length_append]
        omega
      have hrest : (b :: before).flatten.length + k - b.length = before.flatten.length + k := by
        rw [List.flatten_cons, List.length_append]
        omega
      rw [List.cons_append, placeIn_cons_of_le (by simp) hle, hrest, ih, List.length_cons]

/-- A text has one line more than breaks. -/
theorem length_lines (t : Text) : t.lines.length = 1 + t.breaksBefore t.length := by
  obtain ⟨above, l, below, hlines, hplace, -, hstop⟩ := exists_placeIn (lines_ne_nil t) t.length
  have hlength : t.length = above.flatten.length + l.length + below.flatten.length := by
    rw [← congrArg List.length (flatten_lines t), hlines]
    simp [Nat.add_assoc]
  -- no line ends behind the end of the text
  have hbelow : below = [] := hstop.resolve_right (by omega)
  rw [← row_place, place, hplace, hlines, hbelow, List.length_append, List.length_singleton,
    Nat.add_comm]

theorem exists_isLine_place (t : Text) (n : Nat) : ∃ last, IsLine last (t.place n).line := by
  obtain ⟨above, l, below, hlines, hplace, -⟩ := exists_placeIn (lines_ne_nil t) n
  exact ⟨_, by rw [place, hplace]; exact isLine_of_lines hlines⟩

/-- At a position within the middle one of three texts stands one of its characters. -/
theorem exists_getElem?_middle {u v w : Text} {k : Nat} (hstart : u.length ≤ k)
    (hstop : k < u.length + v.length) : ∃ c ∈ v, (u ++ v ++ w)[k]? = some c := by
  have hk : k - u.length < v.length := by omega
  refine ⟨v[k - u.length], List.getElem_mem hk, ?_⟩
  rw [List.append_assoc, List.getElem?_append_right hstart, List.getElem?_append_left hk,
    List.getElem?_eq_getElem hk]

/-- An unbroken text that begins in a line ends in it. -/
theorem IsLine.exists_eq {last : Prop} {l left s after below : Text} (hl : IsLine last l)
    (htext : left ++ s ++ after = l ++ below) (hne : s ≠ []) (hs : s.Unbroken)
    (hlast : last → below = []) (hstop : ¬ last → left.length < l.length) :
    ∃ right, l = left ++ s ++ right := by
  obtain ⟨body, brk, rfl, -, hbrk, hbrk'⟩ := hl
  by_cases h : last
  · exact ⟨after, by rw [htext, hlast h, List.append_nil]⟩
  have hstop := hstop h
  have hpos' : 0 < brk.length := List.length_pos_iff.mpr (mt hbrk'.mp h)
  have hprefix : left ++ s <+: body ++ brk ++ below := ⟨after, htext⟩
  by_cases hshort : (left ++ s).length ≤ body.length
  · obtain ⟨rest, hbody⟩ := List.prefix_of_prefix_length_le hprefix
      (List.append_assoc body brk below ▸ List.prefix_append ..) hshort
    exact ⟨rest ++ brk, by rw [← hbody, List.append_assoc]⟩
  -- otherwise some character belongs to the text and to the break
  · rw [List.length_append] at hshort hstop
    have hpos : 0 < s.length := List.length_pos_iff.mpr hne
    obtain ⟨c, hc, hck⟩ : ∃ c ∈ s, (left ++ s ++ after)[max body.length left.length]? = some c :=
      exists_getElem?_middle (by omega) (by omega)
    obtain ⟨d, hd, hdk⟩ :
        ∃ d ∈ brk, (body ++ brk ++ below)[max body.length left.length]? = some d :=
      exists_getElem?_middle (by omega) (by omega)
    rw [htext, hdk] at hck
    obtain rfl := Option.some.inj hck
    exact absurd (hs d hc) (by simp [hbrk d hd])

/-- **A line holds the unbroken texts that begin in it**, at their columns. What it has behind them
comes next in the text. -/
theorem exists_place {before s after : Text} (hne : s ≠ []) (hs : s.Unbroken) :
    ∃ left right : Text, (place (before ++ s ++ after) before.length).line = left ++ s ++ right ∧
      (place (before ++ s ++ after) before.length).column = left.length ∧ right <+: after := by
  obtain ⟨above, l, below, hlines, hplace, hstart, hstop⟩ :=
    exists_placeIn (lines_ne_nil (before ++ s ++ after)) before.length
  have htext : before ++ (s ++ after) = above.flatten ++ (l ++ below.flatten) := by
    rw [← List.append_assoc, ← flatten_lines (before ++ s ++ after), hlines, List.flatten_append,
      List.flatten_cons]
  obtain ⟨left, rfl⟩ : above.flatten <+: before :=
    List.prefix_of_prefix_length_le ⟨_, rfl⟩ ⟨_, htext⟩ hstart
  rw [List.append_assoc, List.append_cancel_left_eq, ← List.append_assoc] at htext
  rw [List.length_append, Nat.add_lt_add_iff_left] at hstop
  obtain ⟨right, hl⟩ := (isLine_of_lines hlines).exists_eq htext hne hs
    (fun h => by rw [h, List.flatten_nil]) hstop.resolve_left
  refine ⟨left, right, by rw [place, hplace, hl], ?_, below.flatten, ?_⟩
  · rw [place, hplace, List.length_append, Nat.add_sub_cancel_left]
  · rw [hl, List.append_assoc _ right, List.append_cancel_left_eq] at htext
    exact htext.symm

end TypeExpr.Text
