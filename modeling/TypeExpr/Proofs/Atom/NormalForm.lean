import TypeExpr.Proofs.Atom.Names
import TypeExpr.Ty.Render

/-!
# `TypeExpr.Proofs.Atom.NormalForm`: one normal form for each atom

However an atom is typed, it has one name and one full name, and either is read as that atom again.
The name is **clear of syntax** (`Text.clearOfSyntax_of_isClassName`): it holds nothing that stands
around atoms, and since each of its backslashes stands between two class names
(`Text.isClassName_append_cons`), the one in front of a full name is not taken for a part of it.

Keywords and classes do not meet. A name that is spelled like a keyword in some case is that
keyword's, and the keywords are the atoms with a precedence, so no class is ever written like a
keyword (`normal_form_of_ofText`).
-/

namespace TypeExpr

namespace Text

/-- The characters around atoms: the separators, the parentheses and the mark of a nullable hint. -/
def reserved : List Char := ['|', '&', '(', ')', '?']

theorem isNameChar_of_mem_reserved : ∀ c ∈ reserved, isNameChar c = false := by
  simp only [reserved, List.forall_mem_cons]
  exact ⟨by decide, by decide, by decide, by decide, by decide, List.forall_mem_nil _⟩

/-- A text in which nothing can be taken for syntax: there is something in it, but no reserved
character and no blank, and a backslash only between other characters. -/
structure ClearOfSyntax (t : Text) : Prop where
  ne_nil : t ≠ []
  not_reserved : ∀ c ∈ t, c ∉ reserved
  not_blank : ∀ c ∈ t, isBlank c = false
  head?_ne : t.head? ≠ some '\\'
  getLast?_ne : t.getLast? ≠ some '\\'

theorem clearOfSyntax_of_isClassName {t : Text} (h : t.isClassName = true) : t.ClearOfSyntax where
  ne_nil := by
    rintro rfl
    exact absurd h (by decide)
  not_reserved c hc hreserved := by
    have hname := isNameChar_of_mem h hc
    rw [isNameChar_of_mem_reserved c hreserved] at hname
    cases hname
  not_blank c hc := isBlank_of_isNameChar (isNameChar_of_mem h hc)
  -- a backslash at an end of the text would have the empty text beside it, which is no class name
  head?_ne hfirst := by
    obtain ⟨rest, rfl⟩ := List.head?_eq_some_iff.mp hfirst
    have hsides := (isClassName_append_cons (s := [])).mp h
    exact absurd hsides.1 (by decide)
  getLast?_ne hlast := by
    obtain ⟨front, rfl⟩ := List.getLast?_eq_some_iff.mp hlast
    have hsides := isClassName_append_cons.mp h
    exact absurd hsides.2 (by decide)

end Text

namespace Atom

theorem WellFormed.precedence_ne_zero_iff {a : Atom} (h : a.WellFormed) :
    a.precedence ≠ 0 ↔ ∃ k, a = ofKeyword k := by
  rw [← isBuiltin_iff h, isBuiltin, bne_iff_ne]

/-- **Normal form.** What a text is read as is read again from its name and from its full name, and
its name is clear of syntax. It has a precedence just if its name is a keyword, and just if its name
is one but for cases, and then it has the precedence of that keyword. Two atoms that were read are
written alike only if they are the same, and a class that was read is never written like a keyword,
in whatever case. -/
theorem normal_form_of_ofText :
    (∀ t a, ofText t = .ok a →
      ofText a.name = .ok a ∧ ofText a.fullName = .ok a ∧ a.name.ClearOfSyntax ∧
      (a.precedence ≠ 0 ↔ ∃ k : Keyword, a.name = k.spelling) ∧
      (a.precedence ≠ 0 ↔ ∃ k : Keyword, a.identity = k.spelling) ∧
      (∀ k : Keyword, a.name = k.spelling ∨ a.identity = k.spelling → a.precedence = k.precedence) ∧
      (a.precedence = 0 → ∀ k : Keyword, (Ty.atom a).declaration.lower ≠ k.spelling ∧
        (Ty.atom a).documentation.lower ≠ k.spelling)) ∧
    ∀ t u a b, ofText t = .ok a → ofText u = .ok b →
      (a.fullName = b.fullName → a = b) ∧ (a.name = b.name → a = b) := by
  refine ⟨fun t a ha => ?_, fun t u a b ha hb => ?_⟩
  · have hwell : a.WellFormed := ⟨t, ha⟩
    have hname : ∀ {k : Keyword}, a.name = k.spelling ↔ a = ofKeyword k :=
      name_eq_spelling_iff hwell
    have hidentity : ∀ {k : Keyword}, a.identity = k.spelling ↔ a = ofKeyword k :=
      identity_eq_spelling_iff hwell
    refine ⟨spells_name.ofText_leaf hwell, spells_fullName.ofText_leaf hwell,
      Text.clearOfSyntax_of_isClassName (wellFormed_iff.mp hwell).1, ?_, ?_, fun k hk => ?_,
      fun hclass k => ?_⟩
    · simp only [hwell.precedence_ne_zero_iff, hname]
    · simp only [hwell.precedence_ne_zero_iff, hidentity]
    · obtain rfl : a = ofKeyword k := hk.elim hname.mp hidentity.mp
      rfl
    · have hne : a ≠ ofKeyword k := fun hk => hwell.precedence_ne_zero_iff.mpr ⟨k, hk⟩ hclass
      exact ⟨mt (spells_fullName.eq_ofKeyword hwell) hne, mt (spells_name.eq_ofKeyword hwell) hne⟩
  · exact ⟨spells_fullName.inj ⟨t, ha⟩ ⟨u, hb⟩, spells_name.inj ⟨t, ha⟩ ⟨u, hb⟩⟩

/-- A keyword between blanks and after a backslash, which is also read from another text, and a
class whose identifiers differ from keywords by a long s and by a dotted capital I, which has two
characters in lower case. -/
theorem normal_form_of_ofText_instances :
    let k := ofKeyword .falseValue
    let c := ofClass "\u017Ftring\\\u0130nt".toList
    ofText "\u00A0\\FaLSE\t".toList = .ok k ∧ ofText k.fullName = .ok k ∧
    (∃ l : Keyword, k.identity = l.spelling) ∧
    (∃ b, ofText "False".toList = .ok b ∧ k.fullName = b.fullName ∧ k = b) ∧
    ofText " \\\u017Ftring\\\u0130nt".toList = .ok c ∧ ofText c.fullName = .ok c ∧
    c.name.ClearOfSyntax ∧ c.identity = "\u017Ftring\\i\u0307nt".toList ∧
    ∀ l : Keyword, (Ty.atom c).documentation.lower ≠ l.spelling := by
  intro k c
  have hkeyword : ofText "\u00A0\\FaLSE\t".toList = .ok k :=
    ofText_eq_ok_iff.mpr (by decide +kernel)
  have hbare : ofText "False".toList = .ok (ofName "False".toList) :=
    ofText_eq_ok_iff.mpr (by decide +kernel)
  have hclass : ofText " \\\u017Ftring\\\u0130nt".toList = .ok c :=
    ofText_eq_ok_iff.mpr (by decide +kernel)
  have hwritten : k.fullName = (ofName "False".toList).fullName := by decide +kernel
  obtain ⟨-, hread, -, -, hbuiltin, -⟩ := normal_form_of_ofText.1 _ _ hkeyword
  obtain ⟨-, hread', hclear, -, -, -, hnever⟩ := normal_form_of_ofText.1 _ _ hclass
  have hsame := (normal_form_of_ofText.2 _ _ _ _ hkeyword hbare).1 hwritten
  exact ⟨hkeyword, hread, hbuiltin.mp (by decide), ⟨_, hbare, hwritten, hsame⟩, hclass, hread',
    hclear, by decide +kernel, fun l => (hnever rfl l).2⟩

end Atom
end TypeExpr
