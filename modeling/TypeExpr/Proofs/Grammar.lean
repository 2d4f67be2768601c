import TypeExpr.Proofs.Atom.Names
import TypeExpr.Proofs.Ty.Legal

/-!
# `TypeExpr.Proofs.Grammar`: the grammar of type expressions

The grammar says which texts are type expressions, and which tree each of them spells:

* an expression is a group, or segments with a `|` between them, two or more;
* a segment is an atom or a group, with blanks around it;
* a group is an intersection, or an intersection in parentheses;
* an intersection is atoms, each with blanks around it, with a `&` between them, two or more;
* an atom is identifiers joined by backslashes, with at most one backslash in front.

The reader is not built along these lines: it cuts a text at every separator and looks at the first
and the last character of a group. That both agree (`derives_iff_reads`) rests on names holding no
character of the syntax around them.
-/

namespace TypeExpr.Grammar

variable {α : Type} {form : Text → α → Prop}

/-! ### Forms -/

/-- A form with blanks around it. -/
inductive Padded (form : Text → α → Prop) : Text → α → Prop
  | mk {before t after : Text} {a : α} (hbefore : ∀ c ∈ before, isBlank c = true)
      (hafter : ∀ c ∈ after, isBlank c = true) (h : form t a) : Padded form (before ++ t ++ after) a

/-- Forms with blanks around them and a separator between them. -/
inductive Listed (sep : Char) (form : Text → α → Prop) : Text → List α → Prop
  | last {t : Text} {a : α} (h : Padded form t a) : Listed sep form t [a]
  | cons {t rest : Text} {a : α} {as : List α} (h : Padded form t a)
      (hrest : Listed sep form rest as) : Listed sep form (t ++ sep :: rest) (a :: as)

/-- An atom: identifiers joined by backslashes, with at most one backslash in front. -/
inductive AtomForm : Text → Atom → Prop
  | bare {ids : List Text} (hne : ids ≠ []) (hids : ∀ i ∈ ids, i.isIdentifier = true) :
      AtomForm (['\\'].intercalate ids) (Atom.ofName (['\\'].intercalate ids))
  | rooted {ids : List Text} (hne : ids ≠ []) (hids : ∀ i ∈ ids, i.isIdentifier = true) :
      AtomForm ('\\' :: ['\\'].intercalate ids) (Atom.ofName (['\\'].intercalate ids))

/-- A group: an intersection of two atoms or more, in parentheses or not. -/
inductive GroupForm : Text → List Atom → Prop
  | bare {t : Text} {as : List Atom} (two : 2 ≤ as.length) (h : Listed '&' AtomForm t as) :
      GroupForm t as
  | enclosed {t : Text} {as : List Atom} (two : 2 ≤ as.length) (h : Listed '&' AtomForm t as) :
      GroupForm ('(' :: (t ++ [')'])) as

/-- A segment: an atom or a group. -/
inductive SegmentForm : Text → Ty → Prop
  | atom {t : Text} {a : Atom} (h : AtomForm t a) : SegmentForm t (.atom a)
  | group {t : Text} {as : List Atom} (h : GroupForm t as) : SegmentForm t (Ty.group as)

/-- An expression: a group, or a union of two segments or more. -/
inductive ExpressionForm : Text → Ty → Prop
  | group {t : Text} {as : List Atom} (h : GroupForm t as) : ExpressionForm t (Ty.group as)
  | union {t : Text} {ts : List Ty} (two : 2 ≤ ts.length) (h : Listed '|' SegmentForm t ts) :
      ExpressionForm t (.combine .union ts)

/-- The text is, between blanks, an expression that spells the tree. -/
def Derives : Text → Ty → Prop := Padded ExpressionForm

/-! ### Characters of forms -/

theorem not_mem_of_padded {c : Char} (hblank : isBlank c = false)
    (hform : ∀ {s : Text} {a : α}, form s a → c ∉ s) {t : Text} {a : α} (h : Padded form t a) :
    c ∉ t := by
  obtain ⟨hbefore, hafter, h⟩ := h
  rw [List.mem_append, List.mem_append]
  intro hm
  rcases hm with (hc | hc) | hc
  · exact absurd (hbefore c hc) (by simp [hblank])
  · exact hform h hc
  · exact absurd (hafter c hc) (by simp [hblank])

theorem not_mem_of_listed {sep c : Char} (hblank : isBlank c = false) (hsep : c ≠ sep)
    (hform : ∀ {s : Text} {a : α}, form s a → c ∉ s) {t : Text} {as : List α}
    (h : Listed sep form t as) : c ∉ t := by
  induction h with
  | last h => exact not_mem_of_padded hblank hform h
  | cons h _ ih =>
      rw [List.mem_append, List.mem_cons]
      intro hm
      rcases hm with hc | hc | hc
      · exact not_mem_of_padded hblank hform h hc
      · exact hsep hc
      · exact ih hc

theorem isNameChar_of_mem_atomForm {s : Text} {a : Atom} (h : AtomForm s a) {c : Char}
    (hc : c ∈ s) : isNameChar c = true := by
  cases h with
  | bare hne hids => exact Text.isNameChar_of_mem (Text.isClassName_iff.mpr ⟨_, hne, hids, rfl⟩) hc
  | rooted hne hids =>
      rcases List.mem_cons.mp hc with rfl | hc
      · decide
      · exact Text.isNameChar_of_mem (Text.isClassName_iff.mpr ⟨_, hne, hids, rfl⟩) hc

theorem not_mem_atomForm {c : Char} (hc : isNameChar c = false) {s : Text} {a : Atom}
    (h : AtomForm s a) : c ∉ s := fun hm =>
  absurd (isNameChar_of_mem_atomForm h hm) (by simp [hc])

theorem bar_not_mem_groupForm {s : Text} {as : List Atom} (h : GroupForm s as) : '|' ∉ s := by
  have hlisted : ∀ {t : Text}, Listed '&' AtomForm t as → '|' ∉ t := fun h =>
    not_mem_of_listed (by decide) (by decide) (not_mem_atomForm (by decide)) h
  cases h with
  | bare _ h => exact hlisted h
  | enclosed _ h => simpa using hlisted h

theorem bar_not_mem_segmentForm {s : Text} {t : Ty} (h : SegmentForm s t) : '|' ∉ s := by
  cases h with
  | atom h => exact not_mem_atomForm (by decide) h
  | group h => exact bar_not_mem_groupForm h

theorem not_mem_groupForm {c : Char} (hname : isNameChar c = false) (hblank : isBlank c = false)
    (hother : c ∉ ['|', '&', '(', ')']) {s : Text} {as : List Atom} (h : GroupForm s as) :
    c ∉ s := by
  have hamp : c ≠ '&' := fun hc => hother (by simp [hc])
  have hparens : c ≠ '(' ∧ c ≠ ')' :=
    ⟨fun hc => hother (by simp [hc]), fun hc => hother (by simp [hc])⟩
  cases h with
  | bare _ h => exact not_mem_of_listed hblank hamp (not_mem_atomForm hname) h
  | enclosed _ h =>
      have hlisted := not_mem_of_listed hblank hamp (not_mem_atomForm hname) h
      simp [hlisted, hparens]

theorem not_mem_segmentForm {c : Char} (hname : isNameChar c = false) (hblank : isBlank c = false)
    (hother : c ∉ ['|', '&', '(', ')']) {s : Text} {t : Ty} (h : SegmentForm s t) : c ∉ s := by
  cases h with
  | atom h => exact not_mem_atomForm hname h
  | group h => exact not_mem_groupForm hname hblank hother h

/-- An expression holds characters of names, blanks, separators and parentheses. -/
theorem not_mem_of_derives {c : Char} (hname : isNameChar c = false) (hblank : isBlank c = false)
    (hother : c ∉ ['|', '&', '(', ')']) {t : Text} {d : Ty} (h : Derives t d) : c ∉ t := by
  refine not_mem_of_padded hblank (fun hform => ?_) h
  cases hform with
  | group h => exact not_mem_groupForm hname hblank hother h
  | union _ h =>
      have hbar : c ≠ '|' := fun hc => hother (by simp [hc])
      exact not_mem_of_listed hblank hbar (not_mem_segmentForm hname hblank hother) h

/-! ### Lists of forms -/

/-- Forms listed in a text are the forms of its parts between separators. -/
theorem listed_iff {sep : Char} (hblank : isBlank sep = false)
    (hform : ∀ {s : Text} {a : α}, form s a → sep ∉ s) {t : Text} {as : List α} :
    Listed sep form t as ↔ List.Forall₂ (Padded form) (t.splitOn sep) as := by
  constructor
  · intro h
    induction h with
    | last h =>
        rw [List.splitOn_eq_singleton (not_mem_of_padded hblank hform h)]
        exact .cons h .nil
    | cons h _ ih =>
        rw [List.splitOn_append_cons_self_of_not_mem (not_mem_of_padded hblank hform h)]
        exact .cons h ih
  · intro h
    have hjoin : ∀ {ps : List Text}, ps ≠ [] → ∀ {as : List α}, List.Forall₂ (Padded form) ps as →
        Listed sep form ([sep].intercalate ps) as := by
      intro ps hne as h
      induction h with
      | nil => exact absurd rfl hne
      | @cons p a ps as hp hps ih =>
          cases hps with
          | nil =>
              rw [List.intercalate_singleton]
              exact .last hp
          | cons hq hqs =>
              rw [List.intercalate_cons_cons, List.append_assoc]
              exact .cons hp (ih (by simp))
    have hwhole : [sep].intercalate (t.splitOn sep) = t := List.intercalate_splitOn sep
    exact hwhole ▸ hjoin (List.splitOn_ne_nil sep t) h

/-- A form that needs no blanks around it is what trimming leaves. -/
theorem padded_iff (htrim : ∀ {s : Text} {a : α}, form s a → s.trim = s) {t : Text} {a : α} :
    Padded form t a ↔ form t.trim a := by
  constructor
  · intro h
    obtain ⟨hbefore, hafter, h⟩ := h
    rwa [Text.trim_append_append hbefore hafter, htrim h]
  · intro h
    obtain ⟨before, after, ht, -, hbefore, hafter⟩ := Text.exists_eq_trim t
    rw [ht]
    exact .mk hbefore hafter h

/-! ### Atoms -/

theorem atomForm_iff {s : Text} {a : Atom} :
    AtomForm s a ↔ s.unqualified.isClassName = true ∧ a = Atom.ofName s.unqualified := by
  constructor
  · intro h
    cases h with
    | @bare ids hne hids =>
        have hname := Text.isClassName_iff.mpr ⟨ids, hne, hids, rfl⟩
        rw [Text.unqualified_of_isClassName hname]
        exact ⟨hname, rfl⟩
    | @rooted ids hne hids => exact ⟨Text.isClassName_iff.mpr ⟨ids, hne, hids, rfl⟩, rfl⟩
  · intro h
    obtain ⟨hname, rfl⟩ := h
    obtain ⟨ids, hne, hids, hs⟩ := Text.isClassName_iff.mp hname
    unfold Text.unqualified at hs ⊢
    split at hs
    · rw [hs]
      exact .rooted hne hids
    · rw [hs]
      exact .bare hne hids

theorem trim_of_atomForm {s : Text} {a : Atom} (h : AtomForm s a) : s.trim = s :=
  Text.trim_of_isNameChar fun _ hc => isNameChar_of_mem_atomForm h hc

/-- The reader of atoms accepts just the forms of atoms, once blanks are taken off. -/
theorem ofText_eq_ok_iff_atomForm {t : Text} {a : Atom} :
    Atom.ofText t = .ok a ↔ AtomForm t.trim a := by
  rw [Atom.ofText_eq_ok_iff, atomForm_iff]

theorem padded_atomForm_iff {t : Text} {a : Atom} :
    Padded AtomForm t a ↔ Rules.standard.readAtom t.trim = .ok a := by
  rw [padded_iff trim_of_atomForm]
  exact (Text.trim_trim t ▸ ofText_eq_ok_iff_atomForm (t := t.trim)).symm

/-- Atoms listed in a text are what its parts are read as. -/
theorem listed_atomForm_iff {t : Text} {as : List Atom} :
    Listed '&' AtomForm t as ↔
      List.Forall₂ (fun s a => Rules.standard.readAtom s = .ok a) (t.parts '&') as := by
  rw [listed_iff (by decide) (not_mem_atomForm (by decide)), Text.parts, List.forall₂_map_left_iff]
  exact iff_of_eq (congrArg (fun R => List.Forall₂ R (t.splitOn '&') as)
    (funext₂ fun s a => propext padded_atomForm_iff))

/-! ### Groups -/

theorem readsGroup_of_groupForm {s : Text} {as : List Atom} (h : GroupForm s as) :
    '&' ∈ s ∧ Ty.ReadsGroup .standard s.trim as := by
  cases h with
  | bare two h =>
      have hopen : '(' ∉ s.trim := fun hm =>
        not_mem_of_listed (by decide) (by decide) (not_mem_atomForm (by decide)) h
          ((Text.mem_trim (by decide)).mp hm)
      have hparts := listed_atomForm_iff.mp h
      refine ⟨Text.two_le_length_parts.mp (hparts.length_eq ▸ two), ?_⟩
      rw [Ty.readsGroup_iff_of_not_mem hopen, Text.parts_trim (by decide)]
      exact hparts
  | @enclosed inner _ two h =>
      have hparts := listed_atomForm_iff.mp h
      have hamp : '&' ∈ inner := Text.two_le_length_parts.mp (hparts.length_eq ▸ two)
      refine ⟨by simp [hamp], ?_⟩
      rw [Text.trim_enclosed, Ty.readsGroup_enclosed_iff]
      exact hparts

theorem groupForm_of_readsGroup {s : Text} {as : List Atom} (hamp : '&' ∈ s)
    (h : Ty.ReadsGroup .standard s as) : GroupForm s as := by
  obtain ⟨hclosed, hparts⟩ := h
  have hlisted := listed_atomForm_iff.mpr hparts
  have two : 2 ≤ as.length := by
    rw [← hparts.length_eq, Text.two_le_length_parts, ← List.count_pos_iff,
      Text.count_unwrap (by decide) (by decide) hclosed, List.count_pos_iff]
    exact hamp
  rcases Text.unwrap_eq_or hclosed with hs | hs
  · rw [hs] at hlisted
    exact .bare two hlisted
  · rw [hs]
    exact .enclosed two hlisted

/-! ### Segments and expressions -/

theorem readsMember_of_segmentForm {s : Text} {d : Ty} (h : SegmentForm s d) :
    Ty.ReadsMember .standard s.trim d := by
  cases h with
  | @atom a h =>
      rw [trim_of_atomForm h]
      refine .atom (not_mem_atomForm (by decide) h) (ofText_eq_ok_iff_atomForm.mpr ?_)
      rwa [trim_of_atomForm h]
  | group h =>
      obtain ⟨hamp, hreads⟩ := readsGroup_of_groupForm h
      exact .group (Text.amp_mem_trim.mpr hamp) hreads

theorem segmentForm_of_readsMember {s : Text} (hs : s.trim = s) {d : Ty}
    (h : Ty.ReadsMember .standard s d) : SegmentForm s d := by
  cases h with
  | atom hamp h => exact .atom (hs ▸ ofText_eq_ok_iff_atomForm.mp h)
  | group hamp h => exact .group (groupForm_of_readsGroup hamp h)

theorem padded_segmentForm_iff {t : Text} {d : Ty} :
    Padded SegmentForm t d ↔ Ty.ReadsMember .standard t.trim d := by
  constructor
  · intro h
    obtain ⟨hbefore, hafter, h⟩ := h
    rw [Text.trim_append_append hbefore hafter]
    exact readsMember_of_segmentForm h
  · intro h
    obtain ⟨before, after, ht, -, hbefore, hafter⟩ := Text.exists_eq_trim t
    rw [ht]
    exact .mk hbefore hafter (segmentForm_of_readsMember (Text.trim_trim t) h)

/-- Segments listed in a text are what its parts are read as. -/
theorem listed_segmentForm_iff {t : Text} {ds : List Ty} :
    Listed '|' SegmentForm t ds ↔ List.Forall₂ (Ty.ReadsMember .standard) (t.parts '|') ds := by
  rw [listed_iff (by decide) bar_not_mem_segmentForm, Text.parts, List.forall₂_map_left_iff]
  exact iff_of_eq (congrArg (fun R => List.Forall₂ R (t.splitOn '|') ds)
    (funext₂ fun s d => propext padded_segmentForm_iff))

/-- **The grammar is what is read.** A text derives a tree just if it is read as that tree. -/
theorem derives_iff_reads {t : Text} {d : Ty} : Derives t d ↔ Ty.Reads .standard t d := by
  constructor
  · intro h
    obtain ⟨hbefore, hafter, h⟩ := h
    cases h with
    | group h =>
        obtain ⟨hamp, hreads⟩ := readsGroup_of_groupForm h
        refine .group ?_ ((Text.mem_append_append (by decide) hbefore hafter).mpr hamp) ?_
        · rw [Text.mem_append_append (by decide) hbefore hafter]
          exact bar_not_mem_groupForm h
        · rwa [Text.trim_append_append hbefore hafter]
    | union two h =>
        have hparts := listed_segmentForm_iff.mp h
        refine .union ?_ ?_
        · rw [Text.mem_append_append (by decide) hbefore hafter, ← Text.two_le_length_parts,
            hparts.length_eq]
          exact two
        · rwa [Text.parts_append_append (by decide) hbefore hafter]
  · intro h
    obtain ⟨before, after, ht, -, hbefore, hafter⟩ := Text.exists_eq_trim t
    rw [ht]
    refine .mk hbefore hafter ?_
    cases h with
    | group _ hamp h =>
        exact .group (groupForm_of_readsGroup (Text.amp_mem_trim.mpr hamp) h)
    | union hbar h =>
        rw [← Text.parts_trim (by decide)] at h
        refine .union ?_ (listed_segmentForm_iff.mpr h)
        rw [← h.length_eq, Text.two_le_length_parts, Text.bar_mem_trim]
        exact hbar

/-- A text that is parsed holds no other character than expressions do. -/
theorem not_mem_of_parse {c : Char} (hname : isNameChar c = false) (hblank : isBlank c = false)
    (hother : c ∉ ['|', '&', '(', ')']) {t : Text} {u : Ty} (h : Ty.parse t = .ok u) : c ∉ t := by
  obtain ⟨d, hd, -, -⟩ := Ty.parse_eq_ok_iff.mp h
  exact not_mem_of_derives hname hblank hother (derives_iff_reads.mpr hd)

/-! ### What parsers accept -/

/-- **Parsing accepts the grammar and the rules on company.** A text is parsed just if it derives a
tree in which the atoms of each combination are companions two by two, and the result is the
canonical form of that tree. Parsing any other text fails. -/
theorem parse_accepts_grammar (t : Text) :
    (∀ u, Ty.parse t = .ok u ↔ ∃ d, Derives t d ∧ d.Compatible ∧ u = d.canonical) ∧
      ((∃ e, Ty.parse t = .error e) ↔ ¬ ∃ d, Derives t d ∧ d.Compatible) := by
  have hok : ∀ u, Ty.parse t = .ok u ↔ ∃ d, Derives t d ∧ d.Compatible ∧ u = d.canonical := by
    intro u
    rw [Ty.parse_eq_ok_iff]
    exact exists_congr fun d => and_congr_left fun _ => derives_iff_reads.symm
  refine ⟨hok, ?_⟩
  constructor
  · rintro ⟨e, he⟩ ⟨d, hd, hcompatible⟩
    have hparse := (hok d.canonical).mpr ⟨d, hd, hcompatible, rfl⟩
    rw [he] at hparse
    cases hparse
  · intro hnone
    cases h : Ty.parse t with
    | error e => exact ⟨e, rfl⟩
    | ok u =>
        obtain ⟨d, hd, hcompatible, -⟩ := (hok u).mp h
        exact absurd ⟨d, hd, hcompatible⟩ hnone

end TypeExpr.Grammar
