import TypeExpr.Atom.Legality
import TypeExpr.Proofs.Text.Characters
import TypeExpr.Proofs.Text.Parts

/-!
# `TypeExpr.Proofs.Atom.Names`: the names of atoms

A text is read as an atom just if it holds, between blanks and after at most one backslash,
identifiers joined by backslashes; which atom it denotes is settled by that name alone
(`ofText_eq_ok_iff`). In particular a keyword is an identifier in any case it may be written in.

Atoms that a text can denote are **well-formed**. They are exactly the atoms whose name denotes them
(`wellFormed_iff`), so both the bare and the full name are read back as the atom (`spells_name`,
`spells_fullName`). Whatever is read back tells atoms apart (`Spells.inj`), and keywords from
classes (`Spells.eq_ofKeyword`).
-/

namespace TypeExpr

namespace Text

/-! ### Class names -/

theorem isWord_of_mem_identifier {t : Text} (h : t.isIdentifier = true) {c : Char} (hc : c ∈ t) :
    isWord c = true := by
  cases t with
  | nil => exact absurd hc List.not_mem_nil
  | cons d rest =>
      obtain ⟨hd, hrest⟩ := Bool.and_eq_true_iff.mp h
      rcases List.mem_cons.mp hc with rfl | hc
      · exact isWord_of_startsWord hd
      · exact List.all_eq_true.mp hrest c hc

theorem ne_nil_of_isIdentifier {t : Text} (h : t.isIdentifier = true) : t ≠ [] := by
  rintro rfl
  exact absurd h (by decide)

/-- An identifier holds no backslash. -/
theorem backslash_not_mem_identifier {t : Text} (h : t.isIdentifier = true) : '\\' ∉ t := fun hm =>
  absurd (isWord_of_mem_identifier h hm) (by decide)

/-- Class names are identifiers joined by backslashes. -/
theorem isClassName_iff {t : Text} :
    t.isClassName = true ↔ ∃ ids : List Text, ids ≠ [] ∧ (∀ i ∈ ids, i.isIdentifier = true) ∧
      t = ['\\'].intercalate ids := by
  constructor
  · intro h
    exact ⟨t.splitOn '\\', List.splitOn_ne_nil _ t, List.all_eq_true.mp h,
      (List.intercalate_splitOn _).symm⟩
  · intro h
    obtain ⟨ids, hne, hids, rfl⟩ := h
    rw [isClassName,
      List.splitOn_intercalate _ (fun i hi => backslash_not_mem_identifier (hids i hi)) hne]
    exact List.all_eq_true.mpr hids

theorem isClassName_of_isIdentifier {t : Text} (h : t.isIdentifier = true) :
    t.isClassName = true :=
  isClassName_iff.mpr ⟨[t], by simp, by simpa using h, by simp [List.intercalate_singleton]⟩

/-- On either side of a backslash in a class name stands a class name. -/
theorem isClassName_append_cons {s u : Text} :
    isClassName (s ++ '\\' :: u) = true ↔ s.isClassName = true ∧ u.isClassName = true := by
  rw [isClassName, List.splitOn_append_cons_self, List.all_append, Bool.and_eq_true_iff]
  rfl

theorem isNameChar_of_mem {t : Text} (h : t.isClassName = true) {c : Char} (hc : c ∈ t) :
    isNameChar c = true := by
  obtain ⟨ids, -, hids, rfl⟩ := isClassName_iff.mp h
  rcases mem_intercalate hc with rfl | ⟨i, hi, hci⟩
  · decide
  · exact isNameChar_of_isWord (isWord_of_mem_identifier (hids i hi) hci)

/-- A class name begins with a character of its first identifier. -/
theorem head_of_isClassName {t : Text} (h : t.isClassName = true) :
    ∃ c rest, t = c :: rest ∧ isWord c = true := by
  obtain ⟨ids, hne, hids, rfl⟩ := isClassName_iff.mp h
  obtain ⟨i, is, rfl⟩ := List.exists_cons_of_ne_nil hne
  have hi := hids i (by simp)
  obtain ⟨c, rest, rfl⟩ := List.exists_cons_of_ne_nil (ne_nil_of_isIdentifier hi)
  have hc : isWord c = true := isWord_of_mem_identifier hi (by simp)
  cases is with
  | nil => exact ⟨c, rest, by rw [List.intercalate_singleton], hc⟩
  | cons j js =>
      exact ⟨c, _, by rw [List.intercalate_cons_cons, List.append_assoc, List.cons_append], hc⟩

theorem unqualified_of_isClassName {t : Text} (h : t.isClassName = true) : t.unqualified = t := by
  obtain ⟨c, rest, rfl, hc⟩ := head_of_isClassName h
  have hne : c ≠ '\\' := by
    rintro rfl
    exact absurd hc (by decide)
  unfold unqualified
  split
  · next e => exact absurd (List.cons.inj e).1 hne
  · rfl

theorem trim_of_isNameChar {t : Text} (h : ∀ c ∈ t, isNameChar c = true) : t.trim = t :=
  trim_eq_self_of_forall fun c hc => isBlank_of_isNameChar (h c hc)

/-- Whatever has the lower-case form of a keyword is an identifier. -/
theorem isIdentifier_of_lower_eq_spelling {t : Text} {k : Keyword} (h : t.lower = k.spelling) :
    t.isIdentifier = true := by
  have halpha := forall_isAlpha_of_lower_eq_spelling h
  cases t with
  | nil =>
      have hk : k.spelling ≠ [] := by cases k <;> decide
      exact absurd h.symm hk
  | cons c rest =>
      have hstart : ∀ d ∈ c :: rest, startsWord d = true := fun d hd =>
        startsWord_of_isAlpha (halpha d hd).1 (halpha d hd).2
      refine Bool.and_eq_true_iff.mpr ⟨hstart c (by simp), List.all_eq_true.mpr fun d hd => ?_⟩
      exact isWord_of_startsWord (hstart d (List.mem_cons_of_mem c hd))

theorem unqualified_map_toLower (a : Text) :
    unqualified (a.map Char.toLower) = a.unqualified.map Char.toLower := by
  cases a with
  | nil => rfl
  | cons c rest =>
      by_cases hc : c = '\\'
      · subst hc
        rfl
      · have hlower : c.toLower ≠ '\\' := by
          intro h
          have hall := forall_ascii (p := fun c => c.toLower != '\\' || c == '\\')
            (by decide +kernel) (ascii_of_toLower_eq (d := '\\') h (by decide))
          simp [h, hc] at hall
        simp [unqualified, hc, hlower]

/-- A keyword stays one in another case. -/
theorem lower_unqualified_of_map_toLower_eq {a a' : Text} {k : Keyword}
    (h : a.unqualified.lower = k.spelling) (hcase : a'.map Char.toLower = a.map Char.toLower) :
    a'.unqualified.lower = k.spelling := by
  have hname : a'.unqualified.map Char.toLower = a.unqualified.map Char.toLower := by
    rw [← unqualified_map_toLower, hcase, unqualified_map_toLower]
  have hascii : ∀ c ∈ a.unqualified, c.toNat < 0x80 := fun c hc =>
    (forall_isAlpha_of_lower_eq_spelling h c hc).1
  have hascii' : ∀ c ∈ a'.unqualified, c.toNat < 0x80 := by
    intro c hc
    obtain ⟨d, hd, hcd⟩ := List.mem_map.mp (hname ▸ List.mem_map_of_mem hc)
    exact ascii_of_toLower_eq hcd.symm (hascii d hd)
  rw [lower_of_ascii hascii', hname, ← lower_of_ascii hascii, h]

end Text

namespace Keyword

theorem isClassName_spelling (k : Keyword) : k.spelling.isClassName = true :=
  Text.isClassName_of_isIdentifier
    (Text.isIdentifier_of_lower_eq_spelling (lower_spelling k))

end Keyword

namespace Atom

/-! ### Reading -/

/-- The atom that a name denotes: a keyword in any case, and else a class. -/
def ofName (name : Text) : Atom :=
  match Keyword.ofText? name.lower with
  | some k => ofKeyword k
  | none => ofClass name

/-- **Reading.** A text denotes an atom just if it is a class name, once blanks and a backslash are
taken off, and that name says which. -/
theorem ofText_eq_ok_iff {t : Text} {a : Atom} :
    ofText t = .ok a ↔ t.trim.unqualified.isClassName = true ∧ a = ofName t.trim.unqualified := by
  unfold ofText ofName
  -- the reader asks for a class name only where there is no keyword, but a keyword is one anyway
  cases hk : Keyword.ofText? t.trim.unqualified.lower with
  | some k =>
      have hname := Text.isClassName_of_isIdentifier
        (Text.isIdentifier_of_lower_eq_spelling (Keyword.ofText?_eq_some_iff.mp hk))
      simp [hk, hname, eq_comm]
  | none =>
      by_cases hname : t.trim.unqualified.isClassName = true
      · simp [hk, hname, eq_comm]
      · simp [hk, hname]

/-- Blanks around a text do not matter. -/
theorem ofText_trim_eq_ok_iff {t : Text} {a : Atom} : ofText t.trim = .ok a ↔ ofText t = .ok a := by
  rw [ofText_eq_ok_iff, ofText_eq_ok_iff, Text.trim_trim]

/-- A class name is read as the atom it denotes. -/
theorem ofText_of_isClassName {name : Text} (h : name.isClassName = true) :
    ofText name = .ok (ofName name) := by
  rw [ofText_eq_ok_iff, Text.trim_of_isNameChar fun c hc => Text.isNameChar_of_mem h hc,
    Text.unqualified_of_isClassName h]
  exact ⟨h, rfl⟩

theorem trim_ne_nil_of_ofText {t : Text} {a : Atom} (h : ofText t = .ok a) : t.trim ≠ [] := by
  intro hnil
  rw [ofText_eq_ok_iff, hnil] at h
  exact absurd h.1 (by decide)

/-- A backslash in front of a class name does not matter. -/
theorem ofText_root {a : Text} (h : a.isClassName = true) :
    ofText ('\\' :: a) = .ok (ofName a) := by
  have htrim : Text.trim ('\\' :: a) = '\\' :: a := Text.trim_of_isNameChar fun c hc => by
    rcases List.mem_cons.mp hc with rfl | hc
    · decide
    · exact Text.isNameChar_of_mem h hc
  rw [ofText_eq_ok_iff, htrim]
  exact ⟨h, rfl⟩

/-- A keyword is read in any case. -/
theorem ofText_of_lower_eq_spelling {a : Text} {k : Keyword}
    (h : a.unqualified.lower = k.spelling) : ofText a = .ok (.ofKeyword k) := by
  have hident := Text.isIdentifier_of_lower_eq_spelling h
  have hclass := Text.isClassName_of_isIdentifier hident
  have hname : ofName a.unqualified = .ofKeyword k := by
    rw [ofName, h, Keyword.ofText?_spelling]
  rw [← hname]
  unfold Text.unqualified at hclass ⊢
  split at hclass
  · exact ofText_root hclass
  · exact ofText_of_isClassName hclass

/-- A text that denotes an atom holds characters of names and blanks. -/
theorem not_mem_of_ofText {t : Text} {a : Atom} (h : ofText t = .ok a) {c : Char}
    (hname : isNameChar c = false) (hblank : isBlank c = false) : c ∉ t := by
  obtain ⟨hclass, -⟩ := ofText_eq_ok_iff.mp h
  intro hc
  have hmem : c ∈ t.trim.unqualified := by
    have hc := (Text.mem_trim hblank).mpr hc
    unfold Text.unqualified
    split
    · next rest htrim =>
        rw [htrim] at hc
        rcases List.mem_cons.mp hc with rfl | hc
        · exact absurd hname (by decide)
        · exact hc
    · exact hc
  rw [Text.isNameChar_of_mem hclass hmem] at hname
  cases hname

/-- An atom that some text denotes. -/
def WellFormed (a : Atom) : Prop := ∃ t, ofText t = .ok a

theorem ofName_name_of_ofName {name : Text} : ofName (ofName name).name = ofName name := by
  unfold ofName
  cases hk : Keyword.ofText? name.lower with
  | some k => simp [ofKeyword]
  | none => simp [ofClass, hk]

/-- An atom is well-formed just if its name is a class name and denotes it. -/
theorem wellFormed_iff {a : Atom} :
    a.WellFormed ↔ a.name.isClassName = true ∧ ofName a.name = a := by
  constructor
  · intro h
    obtain ⟨t, ht⟩ := h
    obtain ⟨hname, rfl⟩ := ofText_eq_ok_iff.mp ht
    -- the name is the keyword's spelling or the text itself
    refine ⟨?_, ofName_name_of_ofName⟩
    unfold ofName
    split
    · exact Keyword.isClassName_spelling _
    · exact hname
  · intro h
    obtain ⟨hname, ha⟩ := h
    exact ⟨a.name, by rw [ofText_of_isClassName hname, ha]⟩

instance (a : Atom) : Decidable a.WellFormed := decidable_of_iff _ wellFormed_iff.symm

/-! ### Writing -/

/-- A way to write atoms that reads back: what is written consists of characters of names only, and
denotes the atom it was written for. -/
structure Spells (leaf : Atom → Text) : Prop where
  ofText_leaf {a : Atom} (h : a.WellFormed) : ofText (leaf a) = .ok a
  isNameChar_leaf {a : Atom} (h : a.WellFormed) {c : Char} (hc : c ∈ leaf a) : isNameChar c = true

theorem spells_name : Spells name where
  ofText_leaf h := by
    obtain ⟨hname, ha⟩ := wellFormed_iff.mp h
    rw [ofText_of_isClassName hname, ha]
  isNameChar_leaf h _ hc := Text.isNameChar_of_mem (wellFormed_iff.mp h).1 hc

theorem isNameChar_of_mem_fullName {a : Atom} (h : a.WellFormed) {c : Char}
    (hc : c ∈ a.fullName) : isNameChar c = true := by
  unfold fullName at hc
  split at hc
  · exact spells_name.isNameChar_leaf h hc
  · rcases List.mem_cons.mp hc with rfl | hc
    · decide
    · exact spells_name.isNameChar_leaf h hc

theorem spells_fullName : Spells fullName where
  ofText_leaf {a} h := by
    obtain ⟨hname, ha⟩ := wellFormed_iff.mp h
    have hbare : a.fullName.unqualified = a.name := by
      unfold fullName
      split
      · exact Text.unqualified_of_isClassName hname
      · rfl
    have htrim := Text.trim_of_isNameChar fun c hc => isNameChar_of_mem_fullName h hc
    rw [ofText_eq_ok_iff, htrim, hbare]
    exact ⟨hname, ha.symm⟩
  isNameChar_leaf h _ hc := isNameChar_of_mem_fullName h hc

/-- What is written for an atom holds no character of the syntax around it. -/
theorem Spells.not_mem_leaf {leaf : Atom → Text} (hl : Spells leaf) {a : Atom} (h : a.WellFormed)
    {c : Char} (hc : isNameChar c = false) : c ∉ leaf a := fun hm => by
  rw [hl.isNameChar_leaf h hm] at hc
  exact absurd hc (by simp)

theorem Spells.trim_leaf {leaf : Atom → Text} (hl : Spells leaf) {a : Atom} (h : a.WellFormed) :
    (leaf a).trim = leaf a :=
  Text.trim_of_isNameChar fun _ hc => hl.isNameChar_leaf h hc

/-! ### Telling atoms apart -/

/-- What is written for an atom gives it away. -/
theorem Spells.inj {leaf : Atom → Text} (hl : Spells leaf) {a b : Atom} (ha : a.WellFormed)
    (hb : b.WellFormed) (h : leaf a = leaf b) : a = b := by
  have hread := hl.ofText_leaf ha
  rw [h, hl.ofText_leaf hb] at hread
  exact (Except.ok.inj hread).symm

/-- An atom that is written like a keyword, in whatever case, is that keyword. -/
theorem Spells.eq_ofKeyword {leaf : Atom → Text} (hl : Spells leaf) {a : Atom} (ha : a.WellFormed)
    {k : Keyword} (h : (leaf a).lower = k.spelling) : a = ofKeyword k := by
  have hclass := Text.isClassName_of_isIdentifier (Text.isIdentifier_of_lower_eq_spelling h)
  have hbare : (leaf a).unqualified = leaf a := Text.unqualified_of_isClassName hclass
  have hread : ofText (leaf a) = .ok (ofKeyword k) := ofText_of_lower_eq_spelling (by rw [hbare, h])
  exact Except.ok.inj ((hl.ofText_leaf ha).symm.trans hread)

/-- What a keyword shares with its spellings in other cases is the spelling itself. -/
theorem identity_ofKeyword (k : Keyword) : (ofKeyword k).identity = k.spelling :=
  Keyword.lower_spelling k

/-- What shares its name with a keyword but for cases is that keyword. -/
theorem identity_eq_spelling_iff {a : Atom} (h : a.WellFormed) {k : Keyword} :
    a.identity = k.spelling ↔ a = ofKeyword k := by
  constructor
  · exact spells_name.eq_ofKeyword h
  · rintro rfl
    exact identity_ofKeyword k

theorem name_eq_spelling_iff {a : Atom} (h : a.WellFormed) {k : Keyword} :
    a.name = k.spelling ↔ a = ofKeyword k := by
  constructor
  · intro hname
    have hlower : a.name.lower = k.spelling.lower := congrArg Text.lower hname
    exact (identity_eq_spelling_iff h).mp (hlower.trans (Keyword.lower_spelling k))
  · exact congrArg name

/-- Of the atoms that a text can denote the built-in ones are the keywords. -/
theorem isBuiltin_iff {a : Atom} (h : a.WellFormed) :
    a.isBuiltin = true ↔ ∃ k, a = ofKeyword k := by
  constructor
  · intro hbuiltin
    obtain ⟨t, ht⟩ := h
    rcases ofText_eq_ok ht with ⟨k, hk, -⟩ | ⟨rfl, -, -⟩
    · exact ⟨k, hk⟩
    · exact absurd hbuiltin (by simp)
  · intro hkeyword
    obtain ⟨k, rfl⟩ := hkeyword
    exact isBuiltin_ofKeyword k

end Atom
end TypeExpr
