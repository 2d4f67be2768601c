import TypeExpr.Proofs.Heredity
import TypeExpr.Proofs.Hint.RoundTrip

/-!
# `TypeExpr.Proofs.Hint.Nullable`: two ways to write a nullable atom

An atom that may be null is written with a question mark in front, or as a union with `null`.
Different rules look after the two: what may be marked is a list of keywords, and what may stand
beside `null` is decided by the rules on company. They come to the same (`mark_agrees_with_null`),
because what may be marked is just what may stand alone and is no loner
(`Atom.checkNullable_eq_ok_iff`), and loners are all that `null` does not go with but itself
(`Atom.companions_null_iff`).
-/

namespace TypeExpr

namespace Atom

/-! ### Atoms beside `null` -/

/-- What may be marked is what may stand alone and, in a union, beside others. -/
theorem checkNullable_eq_ok_iff {a : Atom} :
    a.checkNullable = .ok () ↔ a.checkStandalone = .ok () ∧ loners.any a.isNamed = false := by
  have hlists : unmarkable.any a.isNamed = (dependents.any a.isNamed || loners.any a.isNamed) := by
    simp only [unmarkable, dependents, loners, List.any_cons, List.any_nil, Bool.or_false]
    ac_rfl
  unfold checkNullable checkStandalone
  rw [hlists]
  cases dependents.any a.isNamed <;> cases loners.any a.isNamed <;> simp

/-- The rules on pairs say nothing of `null`. -/
theorem overlaps_null (a : Atom) :
    a.overlaps (ofKeyword .null) = false ∧ (ofKeyword .null).overlaps a = false := by
  simp [overlaps]

theorem companions_null_iff {a : Atom} (h : a.WellFormed) :
    a.Companions .union (ofKeyword .null) ↔ loners.any a.isNamed = false ∧ a ≠ ofKeyword .null := by
  have hloner : loners.any (ofKeyword .null).isNamed = false := by decide
  obtain ⟨hleft, hright⟩ := overlaps_null a
  rw [ne_eq, ← identity_eq_spelling_iff h, ← identity_ofKeyword]
  constructor
  · intro hcompanions
    exact ⟨hcompanions.1.1, hcompanions.2.2.1⟩
  · intro hcompany
    obtain ⟨hcompany, hne⟩ := hcompany
    exact ⟨⟨hcompany, Ne.symm hne, hleft⟩, ⟨hloner, hne, hright⟩⟩

theorem ne_null_of_checkStandalone {a : Atom} (h : a.checkStandalone = .ok ()) :
    a ≠ ofKeyword .null := by
  rintro rfl
  cases h

/-- What may stand beside `null` comes before it. -/
theorem le_null {a : Atom} (h : a.WellFormed) (hcompany : loners.any a.isNamed = false) :
    (Ty.atom a).le (.atom (ofKeyword .null)) = true := by
  have hkeywords : ∀ k ∈ Keyword.all, loners.any (ofKeyword k).isNamed = false →
      (Ty.atom (ofKeyword k)).le (.atom (ofKeyword .null)) = true := by decide
  obtain ⟨t, ht⟩ := h
  rcases ofText_eq_ok ht with ⟨k, rfl, -⟩ | ⟨rfl, -, -⟩
  · exact hkeywords k (Keyword.mem_all k) hcompany
  · rfl

end Atom

/-! ### Unions with `null` -/

namespace Ty

variable {t : Text}

theorem append_null_eq_join (t : Text) :
    t ++ "|null".toList = Mode.union.join [t, "null".toList] := by
  simp [Mode.join, Mode.separator, List.intercalate]

theorem reads_or_null {a : Atom} (ha : Atom.ofText t = .ok a) :
    Reads .standard (t ++ "|null".toList)
      (.combine .union ([a, .ofKeyword .null].map .atom)) := by
  have hnull : Atom.ofText "null".toList = .ok (.ofKeyword .null) := by decide +kernel
  rw [append_null_eq_join]
  exact reads_join (by simp) (.cons ha (.cons hnull .nil))

theorem canonical_or_null {a : Atom} (h : a.WellFormed)
    (hcompanions : a.Companions .union (.ofKeyword .null)) :
    (combine .union ([a, .ofKeyword .null].map .atom)).canonical =
      .combine .union [.atom a, .atom (.ofKeyword .null)] := by
  have hle := Atom.le_null h hcompanions.1.1
  rw [canonical_combine]
  exact congrArg _ (sort_eq_self (List.pairwise_pair.mpr hle))

/-- A union of a text without separators and `null` is one of an atom and `null`. -/
theorem exists_ofText_of_parse_or_null (hbar : '|' ∉ t) (hamp : '&' ∉ t) {u : Ty}
    (h : parse (t ++ "|null".toList) = .ok u) : ∃ a, Atom.ofText t = .ok a := by
  rw [append_null_eq_join] at h
  obtain ⟨ds, hds, -⟩ := (accepted_join_union_iff (by simp) (by simpa using hbar)).mp ⟨u, h⟩
  cases hds with
  | cons hd _ =>
      cases hd with
      | atom _ ha => exact ⟨_, Atom.ofText_trim_eq_ok_iff.mp ha⟩
      | group hmem _ => exact absurd (Text.amp_mem_trim.mp hmem) hamp

/-- A text without separators makes a union with `null` just if it is an atom that may stand beside
it. -/
theorem parse_or_null_eq_ok_iff (hbar : '|' ∉ t) (hamp : '&' ∉ t) {u : Ty} :
    parse (t ++ "|null".toList) = .ok u ↔ ∃ a, Atom.ofText t = .ok a ∧
      a.Companions .union (.ofKeyword .null) ∧
      u = .combine .union [.atom a, .atom (.ofKeyword .null)] := by
  constructor
  · intro h
    obtain ⟨a, ha⟩ := exists_ofText_of_parse_or_null hbar hamp h
    obtain ⟨hcompatible, rfl⟩ := (parse_eq_ok_iff_of_reads (reads_or_null ha)).mp h
    have hcompanions := List.pairwise_pair.mp (compatible_map_atom_iff.mp hcompatible)
    exact ⟨a, ha, hcompanions, canonical_or_null ⟨t, ha⟩ hcompanions⟩
  · intro h
    obtain ⟨a, ha, hcompanions, rfl⟩ := h
    rw [← canonical_or_null ⟨t, ha⟩ hcompanions]
    refine (parse_eq_ok_iff_of_reads (reads_or_null ha)).mpr ⟨?_, rfl⟩
    exact compatible_map_atom_iff.mpr (List.pairwise_pair.mpr hcompanions)

end Ty

namespace Hint

variable {t : Text}

/-! ### Atoms with a mark, by themselves, and beside `null` -/

theorem unmarked_trim_cons (t : Text) : unmarked (Text.trim ('?' :: t)) = (true, t.trimEnd) := by
  have htrim : Text.trim ('?' :: t) = '?' :: t.trimEnd :=
    Text.trimEnd_append_of_trimEnd_eq (t := ['?']) (by decide) t
  rw [htrim]
  rfl

/-- With a mark in front, a text without separators is a hint just if it is an atom that may be
marked. -/
theorem parse_cons_eq_ok_iff (hbar : '|' ∉ t) (hamp : '&' ∉ t) {h : Hint} :
    parse ('?' :: t) = .ok h ↔
      ∃ a, Atom.ofText t = .ok a ∧ a.checkNullable = .ok () ∧ h = ⟨.atom a, true⟩ := by
  have hplain : Text.isComposite ('?' :: t) = false := by simp [Text.isComposite, hbar, hamp]
  have hmarked : isMarked ('?' :: t) = true := congrArg Prod.fst (unmarked_trim_cons t)
  have hbare : bare ('?' :: t) = t.trimEnd := congrArg Prod.snd (unmarked_trim_cons t)
  have hread : ∀ a, Atom.ofText t.trimEnd = .ok a ↔ Atom.ofText t = .ok a := fun a => by
    rw [← Atom.ofText_trim_eq_ok_iff, Text.trim_trimEnd, Atom.ofText_trim_eq_ok_iff]
  rw [parse, parseWith_eq_ok_iff_of_not_isComposite hplain, hmarked, hbare, readAtom_eq_ok_iff]
  refine exists_congr fun a => and_congr (hread a) ?_
  -- what may be marked may stand alone, so the first check is part of the second
  rw [Atom.checkNullable_eq_ok_iff]
  tauto

/-- A text that is read as an atom is a hint just if that atom may stand alone. -/
theorem parse_eq_ok_iff_of_ofText {a : Atom} (ha : Atom.ofText t = .ok a) {h : Hint} :
    parse t = .ok h ↔ a.checkStandalone = .ok () ∧ h = ⟨.atom a, false⟩ := by
  have hbar : '|' ∉ t := Atom.not_mem_of_ofText ha (by decide) (by decide)
  have hamp : '&' ∉ t := Atom.not_mem_of_ofText ha (by decide) (by decide)
  have hmark : '?' ∉ t := Atom.not_mem_of_ofText ha (by decide) (by decide)
  have hplain : t.isComposite = false := by simp [Text.isComposite, hbar, hamp]
  have hmark : '?' ∉ t.trim := mt (Text.mem_trim (by decide)).mp hmark
  have hmarked : isMarked t = false := congrArg Prod.fst (unmarked_of_not_mem hmark)
  have hbare : bare t = t.trim := congrArg Prod.snd (unmarked_of_not_mem hmark)
  have hread : Rules.standard.readAtom t.trim = .ok a := Atom.ofText_trim_eq_ok_iff.mpr ha
  rw [parse, parseWith_eq_ok_iff_of_not_isComposite hplain, hmarked, hbare, readAtom_eq_ok_iff]
  simp [hread]

/-- As a union with `null`, a text without separators is a hint just if it is an atom that may stand
beside `null`. -/
theorem parse_or_null_eq_ok_iff (hbar : '|' ∉ t) (hamp : '&' ∉ t) {h : Hint} :
    parse (t ++ "|null".toList) = .ok h ↔ ∃ a, Atom.ofText t = .ok a ∧
      a.Companions .union (.ofKeyword .null) ∧
      h = ⟨.combine .union [.atom a, .atom (.ofKeyword .null)], false⟩ := by
  have hcomposite : Text.isComposite (t ++ "|null".toList) = true :=
    Text.isComposite_iff.mpr (.inl (by simp))
  rw [parse_eq_ok_iff_of_isComposite hcomposite]
  constructor
  · intro hh
    obtain ⟨u, hu, rfl⟩ := hh
    obtain ⟨a, ha, hcompanions, rfl⟩ := (Ty.parse_or_null_eq_ok_iff hbar hamp).mp hu
    exact ⟨a, ha, hcompanions, rfl⟩
  · intro hh
    obtain ⟨a, ha, hcompanions, rfl⟩ := hh
    exact ⟨_, (Ty.parse_or_null_eq_ok_iff hbar hamp).mpr ⟨a, ha, hcompanions, rfl⟩, rfl⟩

/-- The atom of a hint with a mark is a hint without it, and one as a union with `null`. -/
theorem forms_of_parse_cons (hbar : '|' ∉ t) (hamp : '&' ∉ t) {m : Hint}
    (hm : parse ('?' :: t) = .ok m) :
    ∃ a, a ≠ .ofKeyword .null ∧ m = ⟨.atom a, true⟩ ∧ parse t = .ok ⟨.atom a, false⟩ ∧
      parse (t ++ "|null".toList) =
        .ok ⟨.combine .union [.atom a, .atom (.ofKeyword .null)], false⟩ := by
  obtain ⟨a, ha, hnullable, rfl⟩ := (parse_cons_eq_ok_iff hbar hamp).mp hm
  obtain ⟨hstandalone, hcompany⟩ := Atom.checkNullable_eq_ok_iff.mp hnullable
  have hne := Atom.ne_null_of_checkStandalone hstandalone
  have hcompanions := (Atom.companions_null_iff ⟨t, ha⟩).mpr ⟨hcompany, hne⟩
  exact ⟨a, hne, rfl, (parse_eq_ok_iff_of_ofText ha).mpr ⟨hstandalone, rfl⟩,
    (parse_or_null_eq_ok_iff hbar hamp).mpr ⟨a, ha, hcompanions, rfl⟩⟩

/-- **The mark agrees with `null`.** A text without separators is a hint with a mark in front just
if it is one by itself and one as a union with `null`; and then all three are about one atom, which
is not `null`. -/
theorem mark_agrees_with_null {t : Text} (hbar : '|' ∉ t) (hamp : '&' ∉ t) :
    ((∃ m, parse ('?' :: t) = .ok m) ↔
      (∃ p, parse t = .ok p) ∧ ∃ u, parse (t ++ "|null".toList) = .ok u) ∧
    ∀ m, parse ('?' :: t) = .ok m → ∃ a, a ≠ .ofKeyword .null ∧ m = ⟨.atom a, true⟩ ∧
      parse t = .ok ⟨.atom a, false⟩ ∧
      parse (t ++ "|null".toList) =
        .ok ⟨.combine .union [.atom a, .atom (.ofKeyword .null)], false⟩ := by
  refine ⟨⟨fun h => ?_, fun h => ?_⟩, fun m => forms_of_parse_cons hbar hamp⟩
  · obtain ⟨m, hm⟩ := h
    obtain ⟨a, -, -, hp, hu⟩ := forms_of_parse_cons hbar hamp hm
    exact ⟨⟨_, hp⟩, ⟨_, hu⟩⟩
  · obtain ⟨⟨p, hp⟩, ⟨u, hu⟩⟩ := h
    obtain ⟨a, ha, hcompanions, -⟩ := (parse_or_null_eq_ok_iff hbar hamp).mp hu
    obtain ⟨hstandalone, -⟩ := (parse_eq_ok_iff_of_ofText ha).mp hp
    have hcompany := ((Atom.companions_null_iff ⟨t, ha⟩).mp hcompanions).1
    have hnullable := Atom.checkNullable_eq_ok_iff.mpr ⟨hstandalone, hcompany⟩
    exact ⟨_, (parse_cons_eq_ok_iff hbar hamp).mpr ⟨a, ha, hnullable, rfl⟩⟩

/-- A class with blanks around it, a keyword that goes with nothing, and a text that has a mark
already. -/
theorem mark_agrees_with_null_instances :
    (parse " \\Foo ".toList = .ok ⟨.atom (.ofClass "Foo".toList), false⟩ ∧
      parse " \\Foo |null".toList = .ok ⟨.combine .union
        [.atom (.ofClass "Foo".toList), .atom (.ofKeyword .null)], false⟩) ∧
    (¬ ∃ m, parse "?void".toList = .ok m) ∧
    ¬ ((∃ p, parse "?A".toList = .ok p) ∧ ∃ u, parse "?A|null".toList = .ok u) := by
  have hclass : parse "? \\Foo ".toList = .ok ⟨.atom (.ofClass "Foo".toList), true⟩ := by
    decide +kernel
  have hvoid : parse "void|null".toList =
      .error ⟨.illegal .excludesCompany ["null".toList], "void".toList, some ⟨0, 4⟩⟩ := by
    decide +kernel
  have htwice : parse "??A".toList = .error ⟨.invalidName, "?A".toList, some ⟨0, 3⟩⟩ := by
    decide +kernel
  refine ⟨?_, fun h => ?_, fun h => ?_⟩
  · obtain ⟨a, -, ha, hp, hu⟩ :=
      (mark_agrees_with_null (t := " \\Foo ".toList) (by decide) (by decide)).2 _ hclass
    obtain rfl : Atom.ofClass "Foo".toList = a := by simpa using ha
    exact ⟨hp, hu⟩
  · obtain ⟨-, u, hu⟩ := (mark_agrees_with_null (t := "void".toList) (by decide) (by decide)).1.mp h
    exact nomatch hvoid.symm.trans hu
  · obtain ⟨m, hm⟩ := (mark_agrees_with_null (t := "?A".toList) (by decide) (by decide)).1.mpr h
    exact nomatch htwice.symm.trans hm

end Hint
end TypeExpr
