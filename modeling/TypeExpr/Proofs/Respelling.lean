import Mathlib.Logic.Relation
import TypeExpr.Proofs.Grammar
import TypeExpr.Proofs.Text.Chunks

/-!
# `TypeExpr.Proofs.Respelling`: spelling does not matter

A type expression may be **respelled**: with more blanks or fewer beside its punctuation, with or
without the parentheses around a group, with or without the backslash in front of an atom, and with
its keywords in any case. Such an edit changes what the reader cuts out of a text and which way it
takes, but not what the text is read as (`reads_iff_of_edit`), and so no series of edits changes the
type that is parsed (`parse_eq_ok_of_respelled`).

Edits of blanks and of atoms happen within a chunk between punctuation, and put in its place one
that is **read alike**. Texts that are read alike chunk by chunk are read as the same
(`reads_iff_of_chunkwise`). Parentheses are punctuation themselves: putting them around a group
changes one segment of the text, and both segments are read as the same member
(`sameMember_enclosed`).
-/

namespace TypeExpr

variable {t t' s s' c c' x y : Text}

theorem isNameChar_of_mem_punctuation : ∀ c ∈ punctuation, isNameChar c = false := by
  simp only [punctuation, List.forall_mem_cons]
  exact ⟨by decide, by decide, by decide, by decide, List.forall_mem_nil _⟩

/-! ### Texts read alike -/

/-- Both texts are blank or neither is, and both are read as the same atom or as none. -/
structure ReadAlike (c c' : Text) : Prop where
  trim_eq_nil_iff : c.trim = [] ↔ c'.trim = []
  ofText_eq_ok_iff : ∀ a, Atom.ofText c = .ok a ↔ Atom.ofText c' = .ok a

namespace ReadAlike

theorem refl (c : Text) : ReadAlike c c := ⟨Iff.rfl, fun _ => Iff.rfl⟩

theorem symm (h : ReadAlike c c') : ReadAlike c' c :=
  ⟨h.trim_eq_nil_iff.symm, fun a => (h.ofText_eq_ok_iff a).symm⟩

theorem trans {c'' : Text} (h : ReadAlike c c') (h' : ReadAlike c' c'') : ReadAlike c c'' :=
  ⟨h.trim_eq_nil_iff.trans h'.trim_eq_nil_iff,
    fun a => (h.ofText_eq_ok_iff a).trans (h'.ofText_eq_ok_iff a)⟩

/-- Blanks around a text do not matter. -/
theorem of_trim_eq (h : c.trim = c'.trim) : ReadAlike c c' where
  trim_eq_nil_iff := by rw [h]
  ofText_eq_ok_iff a := by rw [← Atom.ofText_trim_eq_ok_iff, h, Atom.ofText_trim_eq_ok_iff]

theorem padded {b a : Text} (hb : ∀ d ∈ b, isBlank d = true) (ha : ∀ d ∈ a, isBlank d = true)
    (c : Text) : ReadAlike (b ++ c ++ a) c :=
  of_trim_eq (Text.trim_append_append hb ha c)

/-- Two spellings of an atom are read alike. -/
theorem of_ofText {a : Atom} (h : Atom.ofText c = .ok a) (h' : Atom.ofText c' = .ok a) :
    ReadAlike c c' where
  trim_eq_nil_iff := iff_of_false (Atom.trim_ne_nil_of_ofText h) (Atom.trim_ne_nil_of_ofText h')
  ofText_eq_ok_iff b := by rw [h, h']

end ReadAlike

/-! ### Chunks read alike -/

open Text (Chunkwise)

/-- A relation that carries an entry over carries over a list of them. -/
theorem forall₂_of_carries {α β : Type} {R : α → α → Prop} {S : α → β → Prop}
    (hcarries : ∀ {p p' b}, R p p' → S p b → S p' b) {ps ps' : List α} {bs : List β}
    (h : List.Forall₂ R ps ps') (hs : List.Forall₂ S ps bs) : List.Forall₂ S ps' bs := by
  induction h generalizing bs with
  | nil => exact hs
  | cons hp _ ih =>
      cases hs with
      | cons hb hbs => exact .cons (hcarries hp hb) (ih hbs)

/-- An atom is written in a single chunk. -/
theorem plain_of_ofText {a : Atom} (h : Atom.ofText c = .ok a) : c.Plain := fun d hd hm =>
  Atom.not_mem_of_ofText h (isNameChar_of_mem_punctuation d hm) (isBlank_of_mem_punctuation d hm) hd

theorem ofText_of_chunkwise (h : Chunkwise ReadAlike c c') {a : Atom} (ha : Atom.ofText c = .ok a) :
    Atom.ofText c' = .ok a :=
  ((h.plain (plain_of_ofText ha)).2.ofText_eq_ok_iff a).mp ha

/-- The atoms between ampersands are read alike. -/
theorem readAtoms_of_chunkwise (h : Chunkwise ReadAlike t t') {as : List Atom}
    (has : List.Forall₂ (fun p a => Rules.standard.readAtom p = .ok a) (t.parts '&') as) :
    List.Forall₂ (fun p a => Rules.standard.readAtom p = .ok a) (t'.parts '&') as := by
  rw [Text.parts, List.forall₂_map_left_iff] at has ⊢
  refine forall₂_of_carries (fun hp ha => ?_) (h.split (by decide)) has
  exact Atom.ofText_trim_eq_ok_iff.mpr (ofText_of_chunkwise hp (Atom.ofText_trim_eq_ok_iff.mp ha))

/-- What is blank stays blank. -/
theorem isBlank_of_chunkwise (h : Chunkwise ReadAlike c c') (hc : ∀ d ∈ c, isBlank d = true) :
    ∀ d ∈ c', isBlank d = true := by
  have hnil := (h.plain (Text.plain_of_isBlank hc)).2.trim_eq_nil_iff
  exact Text.trim_eq_nil_iff.mp (hnil.mp (Text.trim_eq_nil_iff.mpr hc))

/-- A text in parentheses, but for blanks, stays in parentheses, and what is between is compared
chunkwise. -/
theorem exists_enclosed_of_chunkwise (h : Chunkwise ReadAlike s s')
    (hs : s.trim = '(' :: (t ++ [')'])) :
    ∃ t', s'.trim = '(' :: (t' ++ [')']) ∧ Chunkwise ReadAlike t t' := by
  obtain ⟨before, after, hpads, -, hbefore, hafter⟩ := Text.exists_eq_trim s
  have hopen : s = before ++ '(' :: (t ++ ')' :: after) := by
    rw [hpads, hs]
    simp
  obtain ⟨before', rest, rfl, hb, hrest⟩ := h.exists_of_append hopen (by decide)
  obtain ⟨t', after', rfl, ht, ha⟩ := hrest.exists_of_append rfl (by decide)
  refine ⟨t', ?_, ht⟩
  have hpads' : before' ++ '(' :: (t' ++ ')' :: after') =
      before' ++ '(' :: (t' ++ [')']) ++ after' := by simp
  rw [hpads', Text.trim_append_append (isBlank_of_chunkwise hb hbefore)
    (isBlank_of_chunkwise ha hafter), Text.trim_enclosed]

/-- What is read as atoms between ampersands is a group without parentheses. -/
theorem readsGroup_trim_of_readAtoms {as : List Atom}
    (h : List.Forall₂ (fun p a => Rules.standard.readAtom p = .ok a) (t.parts '&') as) :
    Ty.ReadsGroup .standard t.trim as := by
  have hopen : '(' ∉ t := Grammar.not_mem_of_listed (by decide) (by decide)
    (Grammar.not_mem_atomForm (by decide)) (Grammar.listed_atomForm_iff.mpr h)
  rw [Ty.readsGroup_iff_of_not_mem (mt (Text.mem_trim (by decide)).mp hopen),
    Text.parts_trim (by decide)]
  exact h

theorem readsGroup_of_chunkwise (h : Chunkwise ReadAlike s s') {as : List Atom}
    (has : Ty.ReadsGroup .standard s.trim as) : Ty.ReadsGroup .standard s'.trim as := by
  obtain ⟨hclosed, has⟩ := has
  rcases Text.unwrap_eq_or hclosed with hs | hs
  · rw [hs, Text.parts_trim (by decide)] at has
    exact readsGroup_trim_of_readAtoms (readAtoms_of_chunkwise h has)
  · obtain ⟨t', hs', ht⟩ := exists_enclosed_of_chunkwise h hs
    rw [hs', Ty.readsGroup_enclosed_iff]
    exact readAtoms_of_chunkwise ht has

theorem readsMember_of_chunkwise (h : Chunkwise ReadAlike s s') {d : Ty}
    (hd : Ty.ReadsMember .standard s.trim d) : Ty.ReadsMember .standard s'.trim d := by
  cases hd with
  | atom _ ha =>
      have ha' := Atom.ofText_trim_eq_ok_iff.mpr
        (ofText_of_chunkwise h (Atom.ofText_trim_eq_ok_iff.mp ha))
      exact .atom ((plain_of_ofText ha').not_mem (by decide)) ha'
  | group hamp has =>
      have hamp' := h.mem (by decide) (Text.amp_mem_trim.mp hamp)
      exact .group (Text.amp_mem_trim.mpr hamp') (readsGroup_of_chunkwise h has)

/-! ### Segments read alike -/

/-- Both segments are read as the same member of a union, or as none. -/
def SameMember (s s' : Text) : Prop :=
  ∀ d, Ty.ReadsMember .standard s.trim d ↔ Ty.ReadsMember .standard s'.trim d

theorem sameMember_of_chunkwise (h : Chunkwise ReadAlike s s') : SameMember s s' := fun _ =>
  ⟨readsMember_of_chunkwise h, readsMember_of_chunkwise (h.symm ReadAlike.symm)⟩

/-- Texts with the same members between bars are read as the same. -/
theorem reads_of_sameMembers (h : List.Forall₂ SameMember (t.splitOn '|') (t'.splitOn '|')) {d : Ty}
    (hd : Ty.Reads .standard t d) : Ty.Reads .standard t' d := by
  have hbars : '|' ∈ t ↔ '|' ∈ t' := by
    rw [← Text.two_le_length_parts, ← Text.two_le_length_parts, Text.parts, Text.parts,
      List.length_map, List.length_map, h.length_eq]
  cases hd with
  | @group as hbar hamp has =>
      have hbar' := mt hbars.mpr hbar
      rw [List.splitOn_eq_singleton hbar, List.splitOn_eq_singleton hbar'] at h
      -- without a bar the text is the one segment
      have hsame := (List.forall₂_cons.mp h).1
      have hgroup := (hsame _).mp (.group (Text.amp_mem_trim.mpr hamp) has)
      generalize hd : Ty.group as = d at hgroup ⊢
      cases hgroup with
      | atom => cases hd
      | group hamp' has' => exact .group hbar' (Text.amp_mem_trim.mp hamp') has'
  | union hbar hds =>
      refine .union (hbars.mp hbar) ?_
      rw [Text.parts, List.forall₂_map_left_iff] at hds ⊢
      exact forall₂_of_carries (fun hs hd => (hs _).mp hd) h hds

theorem reads_iff_of_sameMembers (h : List.Forall₂ SameMember (t.splitOn '|') (t'.splitOn '|'))
    (d : Ty) : Ty.Reads .standard t d ↔ Ty.Reads .standard t' d :=
  ⟨reads_of_sameMembers h,
    reads_of_sameMembers (List.Forall₂.flip (h.imp fun _ _ hs e => (hs e).symm))⟩

/-- **Texts that are read alike chunk by chunk are read as the same.** -/
theorem reads_iff_of_chunkwise (h : Chunkwise ReadAlike t t') (d : Ty) :
    Ty.Reads .standard t d ↔ Ty.Reads .standard t' d :=
  reads_iff_of_sameMembers ((h.split (by decide)).imp fun _ _ => sameMember_of_chunkwise) d

/-- **Parentheses around a group do not matter.** -/
theorem sameMember_enclosed {before after g : Text} (hbefore : ∀ c ∈ before, isBlank c = true)
    (hafter : ∀ c ∈ after, isBlank c = true) (hamp : '&' ∈ g) (hopen : '(' ∉ g) :
    SameMember (before ++ g ++ after) (before ++ '(' :: (g ++ [')']) ++ after) := by
  have hgroup : ∀ as, Ty.ReadsGroup .standard g.trim as ↔
      Ty.ReadsGroup .standard ('(' :: (g ++ [')'])) as := fun as => by
    rw [Ty.readsGroup_iff_of_not_mem (mt (Text.mem_trim (by decide)).mp hopen),
      Text.parts_trim (by decide), Ty.readsGroup_enclosed_iff]
  intro d
  rw [Text.trim_append_append hbefore hafter, Text.trim_append_append hbefore hafter,
    Text.trim_enclosed]
  constructor
  · intro h
    cases h with
    | atom hno => exact absurd (Text.amp_mem_trim.mpr hamp) hno
    | group _ has => exact .group (by simp [hamp]) ((hgroup _).mp has)
  · intro h
    cases h with
    | atom hno => exact absurd (by simp [hamp]) hno
    | group _ has => exact .group (Text.amp_mem_trim.mpr hamp) ((hgroup _).mpr has)

/-! ### Edits -/

/-- A keyword in any case, with a backslash in front or without. -/
def Text.SpellsKeyword (a : Text) : Prop := ∃ k : Keyword, a.unqualified.lower = k.spelling

/-- The ways to respell a text: it may be added to in three ways, and the case of a keyword may be
changed. -/
inductive Edit : Text → Text → Prop
  /-- Blanks beside a separator or a parenthesis, or at either end of the text. -/
  | blanks {x y b : Text} (hb : ∀ c ∈ b, isBlank c = true)
      (hbeside : x.EndsIn punctuation ∨ y.BeginsIn punctuation) : Edit (x ++ y) (x ++ b ++ y)
  /-- Parentheses around a group that is the whole text or a segment of a union. -/
  | enclose {x g y : Text} (hx : x.EndsIn ['|']) (hy : y.BeginsIn ['|']) (hamp : '&' ∈ g)
      (hplain : ∀ c ∈ ['|', '(', ')'], c ∉ g) : Edit (x ++ g ++ y) (x ++ '(' :: (g ++ [')']) ++ y)
  /-- A backslash in front of an atom. -/
  | root {x a y : Text} (hx : x.EndsIn punctuation) (hy : y.BeginsIn punctuation)
      (ha : a.isClassName = true) : Edit (x ++ a ++ y) (x ++ '\\' :: a ++ y)
  /-- A keyword in another case. -/
  | recase {x a b y : Text} (hx : x.EndsIn punctuation) (hy : y.BeginsIn punctuation)
      (ha : a.SpellsKeyword) (hcase : b.map Char.toLower = a.map Char.toLower) :
      Edit (x ++ a ++ y) (x ++ b ++ y)

/-! ### Edits within a chunk -/

/-- Between punctuation a text may be read alike. -/
theorem chunkwise_between (hx : x.EndsIn punctuation) (hy : y.BeginsIn punctuation) (hc : c.Plain)
    (hc' : c'.Plain) (h : ReadAlike c c') : Chunkwise ReadAlike (x ++ c ++ y) (x ++ c' ++ y) := by
  refine .between ReadAlike.refl hx hy hc hc' fun before after hbefore hafter => ?_
  have hpads := ReadAlike.padded hbefore hafter
  exact (hpads c).trans (h.trans (hpads c').symm)

/-- Blanks beside punctuation join the chunk there. -/
theorem chunkwise_blanks {b : Text} (hb : ∀ d ∈ b, isBlank d = true)
    (hbeside : x.EndsIn punctuation ∨ y.BeginsIn punctuation) :
    Chunkwise ReadAlike (x ++ y) (x ++ b ++ y) := by
  have hplain := Text.plain_of_isBlank hb
  rcases hbeside with hx | hy
  · obtain ⟨c, rest, rfl, hc, hrest⟩ := Text.exists_first_chunk y
    have hfront : ReadAlike c (b ++ c) := by
      simpa using (ReadAlike.padded hb (a := []) (by simp) c).symm
    simpa using chunkwise_between hx (Text.beginsIn_of_first hrest) hc (hplain.append hc) hfront
  · obtain ⟨front, c, rfl, hc, hfront⟩ := Text.exists_last_chunk x
    have hback : ReadAlike c (c ++ b) := by
      simpa using (ReadAlike.padded (b := []) (by simp) hb c).symm
    simpa using chunkwise_between (Text.endsIn_of_last hfront) hy hc (hc.append hplain) hback

/-- Two spellings of an atom may stand for each other. -/
theorem chunkwise_atoms (hx : x.EndsIn punctuation) (hy : y.BeginsIn punctuation) {a : Atom}
    (h : Atom.ofText c = .ok a) (h' : Atom.ofText c' = .ok a) :
    Chunkwise ReadAlike (x ++ c ++ y) (x ++ c' ++ y) :=
  chunkwise_between hx hy (plain_of_ofText h) (plain_of_ofText h') (.of_ofText h h')

/-! ### Respelling -/

/-- **An edit does not change what a text is read as.** -/
theorem reads_iff_of_edit (h : Edit t t') (d : Ty) :
    Ty.Reads .standard t d ↔ Ty.Reads .standard t' d := by
  cases h with
  | blanks hb hbeside => exact reads_iff_of_chunkwise (chunkwise_blanks hb hbeside) d
  | enclose hx hy hamp hplain =>
      obtain ⟨init, before, after, tail, hbefore, hafter, hsplit⟩ :=
        Text.exists_split_between (by decide) hx hy
      have hbar := hplain '|' (by simp)
      have hmember := sameMember_enclosed hbefore hafter hamp (hplain '(' (by simp))
      have hrefl : ∀ ss : List Text, List.Forall₂ SameMember ss ss := fun ss =>
        List.forall₂_same.mpr fun _ _ _ => Iff.rfl
      refine reads_iff_of_sameMembers ?_ d
      rw [hsplit _ hbar, hsplit _ (by simpa using hbar)]
      exact List.rel_append (hrefl init) (.cons hmember (hrefl tail))
  | root hx hy ha =>
      have hbare := Atom.ofText_of_isClassName ha
      exact reads_iff_of_chunkwise (chunkwise_atoms hx hy hbare (Atom.ofText_root ha)) d
  | recase hx hy ha hcase =>
      obtain ⟨k, hk⟩ := ha
      have ha := Atom.ofText_of_lower_eq_spelling hk
      have hb :=
        Atom.ofText_of_lower_eq_spelling (Text.lower_unqualified_of_map_toLower_eq hk hcase)
      exact reads_iff_of_chunkwise (chunkwise_atoms hx hy ha hb) d

/-- An edit, made or taken back. -/
def Respelling (t t' : Text) : Prop := Edit t t' ∨ Edit t' t

theorem parse_eq_ok_iff_of_respelling (h : Respelling t t') (u : Ty) :
    Ty.parse t = .ok u ↔ Ty.parse t' = .ok u := by
  have hreads : ∀ d, Ty.Reads .standard t d ↔ Ty.Reads .standard t' d := by
    intro d
    rcases h with h | h
    · exact reads_iff_of_edit h d
    · exact (reads_iff_of_edit h d).symm
  simp only [Ty.parse_eq_ok_iff, hreads]

/-- **Spelling does not matter.** Whatever is parsed is parsed as the same type in any other
spelling: after any series of edits that add or remove blanks beside punctuation, parentheses around
a group or a backslash in front of an atom, or that change the case of a keyword. -/
theorem parse_eq_ok_of_respelled {t t' : Text} {u : Ty} (hparse : Ty.parse t = .ok u)
    (h : Relation.ReflTransGen Respelling t t') : Ty.parse t' = .ok u := by
  induction h with
  | refl => exact hparse
  | tail _ hedit ih => exact (parse_eq_ok_iff_of_respelling hedit u).mp ih

/-- A group put into parentheses, one of its atoms rooted, a keyword beside it in capitals, a blank
in between, and the parentheses taken off again. -/
theorem parse_eq_ok_of_respelled_instance :
    Relation.ReflTransGen Respelling "A&B|int".toList "\\A&B |INT".toList ∧
      Ty.parse "\\A&B |INT".toList = Ty.parse "A&B|int".toList := by
  have henclose : Respelling "A&B|int".toList "(A&B)|int".toList :=
    .inl (.enclose (x := []) (g := "A&B".toList) (y := "|int".toList) (by decide) (by decide)
      (by decide) (by simp))
  have hroot : Respelling "(A&B)|int".toList "(\\A&B)|int".toList :=
    .inl (.root (x := "(".toList) (a := "A".toList) (y := "&B)|int".toList) (by decide) (by decide)
      (by decide))
  have hrecase : Respelling "(\\A&B)|int".toList "(\\A&B)|INT".toList :=
    .inl (.recase (x := "(\\A&B)|".toList) (a := "int".toList) (b := "INT".toList) (y := [])
      (by decide) (by decide) ⟨.int, by decide⟩ (by decide))
  have hblank : Respelling "(\\A&B)|INT".toList "(\\A&B) |INT".toList :=
    .inl (.blanks (x := "(\\A&B)".toList) (b := [' ']) (y := "|INT".toList)
      (List.forall_mem_singleton.mpr (by decide)) (.inr (by decide)))
  have hbare : Respelling "(\\A&B) |INT".toList "\\A&B |INT".toList :=
    .inr (.enclose (x := []) (g := "\\A&B".toList) (y := " |INT".toList) (by decide) (by decide)
      (by decide) (by simp))
  have hseries : Relation.ReflTransGen Respelling "A&B|int".toList "\\A&B |INT".toList :=
    .tail (.tail (.tail (.tail (.single henclose) hroot) hrecase) hblank) hbare
  have hparse : Ty.parse "A&B|int".toList = .ok (.combine .union
      [.atom (.ofKeyword .int), Ty.group [.ofClass "A".toList, .ofClass "B".toList]]) := by
    decide +kernel
  exact ⟨hseries, by rw [hparse, parse_eq_ok_of_respelled hparse hseries]⟩

end TypeExpr
