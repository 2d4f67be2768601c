import TypeExpr.Keyword
import TypeExpr.Text.Blank
import TypeExpr.Text.Word

/-!
# `TypeExpr.Proofs.Text.Characters`: which characters can be which

The characters of names are neither blanks nor separators nor parentheses (`isBlank_of_isNameChar`),
so a name cannot be mistaken for the syntax around it.

Lower-casing takes some characters beyond ASCII into ASCII: the Kelvin sign has the lower-case form
`k`. No keyword holds a `k`, so whatever is lower-cased to a keyword is spelled in ASCII letters
(`forall_isAlpha_of_lower_eq_spelling`).
-/

namespace TypeExpr

/-! ### Characters of names -/

/-- The characters of a class name: word characters, and the backslash between identifiers. -/
def isNameChar (c : Char) : Bool := isWord c || c == '\\'

theorem isNameChar_of_isWord {c : Char} (h : isWord c = true) : isNameChar c = true := by
  simp [isNameChar, h]

theorem isWord_of_startsWord {c : Char} (h : startsWord c = true) : isWord c = true :=
  (Bool.and_eq_true_iff.mp h).1

/-- What holds of every ASCII code point holds of every ASCII character. -/
theorem forall_ascii {p : Char → Bool}
    (h : ((List.range 0x80).all fun n => p (Char.ofNat n)) = true) {c : Char}
    (hc : c.toNat < 0x80) : p c = true := by
  have hn := List.all_eq_true.mp h c.toNat (List.mem_range.mpr hc)
  rwa [Char.ofNat_toNat] at hn

/-- The blank characters as ranges of code points. -/
def blankRanges : List (Nat × Nat) :=
  [(0x9, 0xD), (0x1C, 0x20), (0x85, 0x85), (0xA0, 0xA0), (0x1680, 0x1680), (0x2000, 0x200A),
    (0x2028, 0x2029), (0x202F, 0x202F), (0x205F, 0x205F), (0x3000, 0x3000)]

theorem inRanges_of_isBlank {c : Char} (h : isBlank c = true) :
    Text.inRanges blankRanges c.toNat = true := by
  simp only [isBlank, Bool.or_eq_true, Bool.and_eq_true, decide_eq_true_eq, beq_iff_eq] at h
  simp only [Text.inRanges, blankRanges, List.any_cons, List.any_nil, Bool.or_eq_true,
    Bool.and_eq_true, decide_eq_true_eq, Bool.false_eq_true, or_false]
  omega

/-- No blank is a character of a name. -/
theorem isBlank_of_isNameChar {c : Char} (h : isNameChar c = true) : isBlank c = false := by
  refine Bool.eq_false_iff.mpr fun hb => ?_
  by_cases hc : c.toNat < 0x80
  -- in ASCII all characters are tried; above, no range of word characters meets a range of blanks
  · have hdisjoint := forall_ascii (p := fun c => !(isNameChar c && isBlank c))
      (by decide +kernel) hc
    simp [h, hb] at hdisjoint
  · have hdisjoint : (Text.wordRanges.all fun r => blankRanges.all fun b =>
        decide (b.2 < r.1) || decide (r.2 < b.1)) = true := by decide +kernel
    have hw : isWord c = true := by
      have hne : c ≠ '\\' := by
        rintro rfl
        exact hc (by decide)
      simpa [isNameChar, hne] using h
    rw [isWord, if_neg hc] at hw
    obtain ⟨r, hr, hlo, hhi⟩ := Text.inRanges_iff.mp hw
    obtain ⟨b, hb, hblo, hbhi⟩ := Text.inRanges_iff.mp (inRanges_of_isBlank hb)
    have hrb := List.all_eq_true.mp (List.all_eq_true.mp hdisjoint r hr) b hb
    simp only [Bool.or_eq_true, decide_eq_true_eq] at hrb
    omega

/-! ### Lower case of keywords -/

/-- The letters that keywords are written in. -/
def isKeywordLetter (c : Char) : Bool :=
  decide ('a'.toNat ≤ c.toNat) && decide (c.toNat ≤ 'z'.toNat) && c != 'k'

theorem isKeywordLetter_of_mem_spelling {k : Keyword} {c : Char} (h : c ∈ k.spelling) :
    isKeywordLetter c = true := by
  have hall : (k.spelling.all isKeywordLetter) = true := by cases k <;> rfl
  exact List.all_eq_true.mp hall c h

namespace Text

/-- A run of case changes that leads into ASCII leads to `k` and nowhere else. -/
theorem covers_shift_toNat {r : CaseRun} (hr : r ∈ lowercaseRuns) {n : Nat}
    (hn : r.covers n = true) :
    0x80 ≤ (n + r.shift).toNat ∨ (n + r.shift).toNat = 'k'.toNat := by
  have hruns : (lowercaseRuns.all fun r => decide (0x80 ≤ r.first + r.shift) ||
      (r.first == r.last && r.first + r.shift == 'k'.toNat)) = true := by decide +kernel
  have h := List.all_eq_true.mp hruns r hr
  simp only [CaseRun.covers, Bool.and_eq_true, decide_eq_true_eq] at hn
  simp only [Bool.or_eq_true, Bool.and_eq_true, decide_eq_true_eq, beq_iff_eq] at h
  omega

/-- A character made from a code point has that code point, or is the null character. -/
theorem toNat_ofNat_eq (n : Nat) : (Char.ofNat n).toNat = n ∨ (Char.ofNat n).toNat = 0 := by
  by_cases h : n.isValidChar
  · exact .inl (congrArg Char.toNat (dif_pos h))
  · exact .inr (congrArg Char.toNat (dif_neg h))

/-- Only an ASCII letter has a letter of keywords as its lower-case form. -/
theorem isAlpha_of_lowerChar {c : Char} (h : ∀ d ∈ lowerChar c, isKeywordLetter d = true) :
    c.toNat < 0x80 ∧ c.isAlpha = true := by
  have hk : 'k'.toNat = 107 := rfl
  have hz : 'z'.toNat = 122 := rfl
  have ha : 'a'.toNat = 97 := rfl
  unfold lowerChar at h
  -- above ASCII only one run of case changes comes down to a letter, and that is `k`
  split at h
  · next hc =>
      have hletter := forall_ascii (p := fun c => !isKeywordLetter c.toLower || c.isAlpha)
        (by decide +kernel) hc
      rw [h _ (List.mem_singleton_self _)] at hletter
      exact ⟨hc, by simpa using hletter⟩
  · exfalso
    split at h
    · exact absurd (h '\u0307' (by simp)) (by decide)
    · split at h
      · next r hr =>
          have hd := h _ (List.mem_singleton_self _)
          have hcov : r.covers c.toNat = true := (List.find?_eq_some_iff_append.mp hr).1
          have hrun := covers_shift_toNat (List.mem_of_find?_eq_some hr) hcov
          have hcode := toNat_ofNat_eq (c.toNat + r.shift).toNat
          simp only [isKeywordLetter, Bool.and_eq_true, decide_eq_true_eq, bne_iff_ne, ne_eq,
            ← Char.toNat_inj] at hd
          omega
      · have hd := h c (List.mem_singleton_self _)
        simp only [isKeywordLetter, Bool.and_eq_true, decide_eq_true_eq] at hd
        omega

/-- The lower-case form of a text holds those of its characters. -/
theorem lowerChar_subset_lowerAfter {c : Char} (hs : c ≠ 'Σ') {t : Text} (h : c ∈ t)
    (before : Text) : ∀ d ∈ lowerChar c, d ∈ lowerAfter before t := by
  induction t generalizing before with
  | nil => exact absurd h List.not_mem_nil
  | cons e rest ih =>
      intro d hd
      rw [lowerAfter, List.mem_append]
      rcases List.mem_cons.mp h with rfl | h
      · exact .inl (by rwa [if_neg hs])
      · exact .inr (ih h (e :: before) d hd)

/-- A capital sigma leaves a sigma in the lower-case form of a text. -/
theorem mem_lowerAfter_of_sigma {t : Text} (h : 'Σ' ∈ t) (before : Text) :
    'ς' ∈ lowerAfter before t ∨ 'σ' ∈ lowerAfter before t := by
  induction t generalizing before with
  | nil => exact absurd h List.not_mem_nil
  | cons e rest ih =>
      rw [lowerAfter, List.mem_append, List.mem_append]
      rcases List.mem_cons.mp h with rfl | h
      · rw [if_pos rfl]
        split
        · exact .inl (.inl (List.mem_singleton_self _))
        · exact .inr (.inl (List.mem_singleton_self _))
      · exact (ih h (e :: before)).imp .inr .inr

/-- Whatever has the lower-case form of a keyword is written in ASCII letters. -/
theorem forall_isAlpha_of_lower_eq_spelling {t : Text} {k : Keyword} (h : t.lower = k.spelling) :
    ∀ c ∈ t, c.toNat < 0x80 ∧ c.isAlpha = true := by
  intro c hc
  have hletter : ∀ d ∈ t.lower, isKeywordLetter d = true := fun d hd =>
    isKeywordLetter_of_mem_spelling (h ▸ hd)
  -- a capital sigma is the one character whose lower-case form depends on its place
  by_cases hs : c = 'Σ'
  · rcases mem_lowerAfter_of_sigma (hs ▸ hc) [] with hm | hm
    · exact absurd (hletter _ hm) (by decide)
    · exact absurd (hletter _ hm) (by decide)
  · exact isAlpha_of_lowerChar fun d hd => hletter d (lowerChar_subset_lowerAfter hs hc [] d hd)

/-- ASCII text is lower-cased letter by letter. -/
theorem lower_of_ascii {t : Text} (h : ∀ c ∈ t, c.toNat < 0x80) :
    t.lower = t.map Char.toLower := by
  suffices ∀ before, lowerAfter before t = t.map Char.toLower from this []
  induction t with
  | nil => exact fun _ => rfl
  | cons c rest ih =>
      intro before
      have hc := h c (by simp)
      have hs : c ≠ 'Σ' := by
        rintro rfl
        exact absurd hc (by decide)
      rw [lowerAfter, if_neg hs, lowerChar, if_pos hc,
        ih fun d hd => h d (List.mem_cons_of_mem c hd), List.map_cons, List.singleton_append]

/-- Of characters that differ in case only, both are in ASCII or neither is. -/
theorem ascii_of_toLower_eq {c d : Char} (h : c.toLower = d.toLower) (hd : d.toNat < 0x80) :
    c.toNat < 0x80 := by
  have hlower : d.toLower.toNat < 0x80 := by
    have hall := forall_ascii (p := fun d => decide (d.toLower.toNat < 0x80)) (by decide +kernel) hd
    exact of_decide_eq_true hall
  refine Decidable.byContradiction fun hc => ?_
  -- beyond ASCII there is no other case
  have hself : c.toLower = c := by
    refine dif_neg fun hupper => hc ?_
    exact Nat.lt_of_le_of_lt hupper.2 (by decide)
  rw [← h, hself] at hlower
  exact hc hlower

/-- An ASCII letter may begin a name. -/
theorem startsWord_of_isAlpha {c : Char} (hc : c.toNat < 0x80) (h : c.isAlpha = true) :
    startsWord c = true := by
  have hstarts := forall_ascii (p := fun c => !c.isAlpha || startsWord c) (by decide +kernel) hc
  simpa [h] using hstarts

end Text
end TypeExpr
