import TypeExpr.Proofs.Grammar
import TypeExpr.Proofs.Hint.Reading
import TypeExpr.Proofs.RoundTrip

/-!
# `TypeExpr.Proofs.Hint.RoundTrip`: writing a hint and reading it

A hint that was read is read again from its declaration and from its documentation, mark and all.
For an atom this is so because names hold no character of the syntax around them, so the mark is the
only question mark there is; for a composite type it is the round trip of types, since no text that
is parsed holds a question mark (`Grammar.not_mem_of_parse`). So the written forms give a hint away,
and comparing declarations is comparing hints.
-/

namespace TypeExpr.Hint

/-- The text of a hint, given how atoms are written. -/
def written (leaf : Atom → Text) (h : Hint) : Text := h.mark ++ h.type.render leaf

variable {leaf : Atom → Text}

/-! ### Atoms -/

/-- The mark is taken off again, and only the mark. -/
theorem unmarked_mark_append {h : Hint} {s : Text} (hs : '?' ∉ s) :
    unmarked (h.mark ++ s) = (h.nullable, s) := by
  unfold mark
  cases h.nullable with
  | true => rfl
  | false => exact unmarked_of_not_mem hs

theorem isBlank_of_mem_mark {h : Hint} {c : Char} (hc : c ∈ h.mark) : isBlank c = false := by
  unfold mark at hc
  split at hc
  · rw [List.mem_singleton.mp hc]
    decide
  · exact absurd hc List.not_mem_nil

theorem trim_written_atom (hl : Atom.Spells leaf) {a : Atom} (ha : a.WellFormed) (nullable : Bool) :
    (written leaf ⟨.atom a, nullable⟩).trim = written leaf ⟨.atom a, nullable⟩ := by
  refine Text.trim_eq_self_of_forall fun c hc => ?_
  rcases List.mem_append.mp hc with hc | hc
  · exact isBlank_of_mem_mark hc
  · exact isBlank_of_isNameChar (hl.isNameChar_leaf ha hc)

/-- An atom that may be a hint is read from its text, marked or not. -/
theorem parse_written_atom (hl : Atom.Spells leaf) {a : Atom} (ha : a.WellFormed) {nullable : Bool}
    (hstandalone : a.checkStandalone = .ok ())
    (hnullable : nullable = true → a.checkNullable = .ok ()) :
    parse (written leaf ⟨.atom a, nullable⟩) = .ok ⟨.atom a, nullable⟩ := by
  have hunmarked : unmarked (written leaf ⟨.atom a, nullable⟩).trim = (nullable, leaf a) := by
    rw [trim_written_atom hl ha]
    exact unmarked_mark_append (hl.not_mem_leaf ha (by decide))
  have hbare : bare (written leaf ⟨.atom a, nullable⟩) = leaf a := congrArg Prod.snd hunmarked
  have hmarked : isMarked (written leaf ⟨.atom a, nullable⟩) = nullable :=
    congrArg Prod.fst hunmarked
  have hplain : (written leaf ⟨.atom a, nullable⟩).isComposite = false := by
    have hbar : '|' ∉ leaf a := hl.not_mem_leaf ha (by decide)
    have hamp : '&' ∉ leaf a := hl.not_mem_leaf ha (by decide)
    rw [← isComposite_bare, hbare]
    simp [Text.isComposite, hbar, hamp]
  refine parseWith_eq_ok_iff.mpr (.inl ⟨hplain, ?_⟩)
  rw [hbare, hmarked]
  exact readAtom_eq_ok_iff.mpr ⟨a, hl.ofText_leaf ha, hstandalone, hnullable, rfl⟩

/-! ### All hints -/

/-- A composite type is a hint by itself. -/
theorem parse_of_parse_type {t : Text} {u : Ty} (h : Ty.parse t = .ok u) :
    parse t = .ok ⟨u, false⟩ := by
  have hmark : isMarked t = false := by
    refine Bool.eq_false_iff.mpr fun hm => ?_
    have hmem : '?' ∈ t.trim := List.mem_of_head? (isMarked_iff.mp hm)
    exact Grammar.not_mem_of_parse (by decide) (by decide) (by decide) h
      ((Text.mem_trim (by decide)).mp hmem)
  exact parseWith_eq_ok_iff.mpr (.inr ⟨Ty.isComposite_of_parseWith h, hmark, u, h, rfl⟩)

/-- A hint read from a text with separators is a composite type by itself. -/
theorem parse_eq_ok_iff_of_isComposite {t : Text} (hc : t.isComposite = true) {h : Hint} :
    parse t = .ok h ↔ ∃ u, Ty.parse t = .ok u ∧ h = ⟨u, false⟩ := by
  constructor
  · intro hh
    rcases parseWith_eq_ok_iff.mp hh with ⟨hplain, -⟩ | ⟨-, -, hh⟩
    · rw [hc] at hplain
      cases hplain
    · exact hh
  · intro hh
    obtain ⟨u, hu, rfl⟩ := hh
    exact parse_of_parse_type hu

/-- **Reading what is written.** A hint that was read is read again from its text. -/
theorem parse_written_of_parse (hl : Atom.Spells leaf) {t : Text} {h : Hint}
    (hh : parse t = .ok h) : parse (h.written leaf) = .ok h := by
  rcases parseWith_eq_ok_iff.mp hh with ⟨-, hatom⟩ | ⟨-, -, u, hu, rfl⟩
  · obtain ⟨a, ha, hstandalone, hnullable, rfl⟩ := readAtom_eq_ok_iff.mp hatom
    exact parse_written_atom hl ⟨_, ha⟩ hstandalone hnullable
  · exact parse_of_parse_type (Ty.parse_render_of_parse hl hu)

/-- What is written of a hint that was read holds no blanks. -/
theorem isBlank_of_mem_written (hl : Atom.Spells leaf) {t : Text} {h : Hint} (hh : parse t = .ok h)
    {c : Char} (hc : c ∈ h.written leaf) : isBlank c = false := by
  rcases List.mem_append.mp hc with hc | hc
  · exact isBlank_of_mem_mark hc
  rcases parseWith_eq_ok_iff.mp hh with ⟨-, hatom⟩ | ⟨-, -, u, hu, rfl⟩
  · obtain ⟨a, ha, -, -, rfl⟩ := readAtom_eq_ok_iff.mp hatom
    exact isBlank_of_isNameChar (hl.isNameChar_leaf ⟨_, ha⟩ hc)
  · obtain ⟨d, hd, -, rfl⟩ := Ty.parse_eq_ok_iff.mp hu
    exact hd.twoLevel.canonical.isBlank_of_mem_render hl hc

/-- The text of a hint gives it away. -/
theorem eq_of_written_eq (hl : Atom.Spells leaf) {s t : Text} {a b : Hint} (ha : parse s = .ok a)
    (hb : parse t = .ok b) (h : a.written leaf = b.written leaf) : a = b := by
  have hread := parse_written_of_parse hl ha
  rw [h, parse_written_of_parse hl hb] at hread
  exact (Except.ok.inj hread).symm

/-- **Hints and their texts.** What was read as a hint is read again from the declaration and from
the documentation of that hint. So two hints that were read are declared alike just if they are the
same, and just if they are documented alike. -/
theorem read_again_and_told_apart :
    (∀ t h, parse t = .ok h → parse h.declaration = .ok h ∧ parse h.documentation = .ok h) ∧
    ∀ s t a b, parse s = .ok a → parse t = .ok b →
      (a.equals b = true ↔ a = b) ∧ (a = b ↔ a.documentation = b.documentation) := by
  refine ⟨fun t h hh => ?_, fun s t a b ha hb => ⟨?_, ?_⟩⟩
  · exact ⟨parse_written_of_parse Atom.spells_fullName hh,
      parse_written_of_parse Atom.spells_name hh⟩
  · rw [equals, beq_iff_eq]
    exact ⟨eq_of_written_eq Atom.spells_fullName ha hb, congrArg declaration⟩
  · exact ⟨congrArg documentation, eq_of_written_eq Atom.spells_name ha hb⟩

/-- A class that is marked, and a keyword and a union that are told apart. -/
theorem read_again_and_told_apart_instances :
    parse " ?Foo\\Bar".toList = .ok ⟨.atom (.ofClass "Foo\\Bar".toList), true⟩ ∧
    parse (Hint.declaration ⟨.atom (.ofClass "Foo\\Bar".toList), true⟩) =
      .ok ⟨.atom (.ofClass "Foo\\Bar".toList), true⟩ ∧
    ∃ a b, parse "\\INT".toList = .ok a ∧ parse "B|(A&B)".toList = .ok b ∧
      (a.equals b = true ↔ a = b) := by
  have hclass : parse " ?Foo\\Bar".toList = .ok ⟨.atom (.ofClass "Foo\\Bar".toList), true⟩ := by
    decide +kernel
  have hkeyword : parse "\\INT".toList = .ok ⟨.atom (.ofKeyword .int), false⟩ := by decide +kernel
  have hunion : parse "B|(A&B)".toList =
      .ok ⟨.combine .union [.atom (.ofClass "B".toList), .combine .intersection
        [.atom (.ofClass "A".toList), .atom (.ofClass "B".toList)]], false⟩ := by
    decide +kernel
  exact ⟨hclass, (read_again_and_told_apart.1 _ _ hclass).1, _, _, hkeyword, hunion,
    (read_again_and_told_apart.2 _ _ _ _ hkeyword hunion).1⟩

end TypeExpr.Hint
