import TypeExpr.Text.Basic

/-!
# `TypeExpr.Text.Blank`: blanks and trimming

Twenty-nine characters are blank: the controls that move the cursor, the four information
separators, the space and next line, and the spaces and line and paragraph separators beyond ASCII.
Trimming takes blanks off the ends of a text, so what is left begins and ends with no blank
(`trim_eq_self_iff`), and trimming twice is trimming once (`trim_trim`).
-/

namespace TypeExpr

/-- The blank characters: tab to carriage return, U+001C to U+001F, space, next line, and the
separators beyond ASCII. -/
def isBlank (c : Char) : Bool :=
  let n := c.toNat
  (9 ≤ n && n ≤ 13) || (0x1C ≤ n && n ≤ 0x20) || n == 0x85 || n == 0xA0 || n == 0x1680 ||
    (0x2000 ≤ n && n ≤ 0x200A) || n == 0x2028 || n == 0x2029 || n == 0x202F || n == 0x205F ||
    n == 0x3000

namespace Text

/-- The text without its leading blanks. -/
def trimStart (t : Text) : Text := t.dropWhile isBlank

/-- The text without its trailing blanks. -/
def trimEnd (t : Text) : Text := (t.reverse.dropWhile isBlank).reverse

/-- The text without the blanks at either end. -/
def trim (t : Text) : Text := t.trimStart.trimEnd

/-- How many blanks the text begins with. -/
def indent (t : Text) : Nat := (t.takeWhile isBlank).length

/-! ### What trimming removes -/

theorem takeWhile_append_trimStart (t : Text) : t.takeWhile isBlank ++ t.trimStart = t :=
  List.takeWhile_append_dropWhile

theorem trimEnd_append_takeWhile (t : Text) :
    t.trimEnd ++ (t.reverse.takeWhile isBlank).reverse = t := by
  rw [trimEnd, ← List.reverse_append, List.takeWhile_append_dropWhile, List.reverse_reverse]

/-- A text is its trimmed self with blanks on both sides. -/
theorem exists_eq_trim (t : Text) :
    ∃ before after : Text, t = before ++ t.trim ++ after ∧ before.length = t.indent ∧
      (∀ c ∈ before, isBlank c = true) ∧ ∀ c ∈ after, isBlank c = true := by
  refine ⟨t.takeWhile isBlank, (t.trimStart.reverse.takeWhile isBlank).reverse, ?_, rfl, ?_, ?_⟩
  · rw [List.append_assoc, trim, trimEnd_append_takeWhile, takeWhile_append_trimStart]
  · exact fun c hc => List.all_eq_true.mp List.all_takeWhile c hc
  · intro c hc
    exact List.all_eq_true.mp List.all_takeWhile c (List.mem_reverse.mp hc)

/-! ### What trimming leaves -/

theorem length_trimStart_le (t : Text) : t.trimStart.length ≤ t.length :=
  (List.dropWhile_sublist isBlank).length_le

theorem length_trimEnd_le (t : Text) : t.trimEnd.length ≤ t.length := by
  simpa [trimEnd, trimStart] using length_trimStart_le t.reverse

theorem trimStart_eq_self_iff {t : Text} :
    t.trimStart = t ↔ ∀ c, t.head? = some c → isBlank c = false := by
  cases t with
  | nil => simp [trimStart]
  | cons c rest =>
    by_cases h : isBlank c = true
    · have hne : rest.dropWhile isBlank ≠ c :: rest := by
        intro e
        have hlen := length_trimStart_le rest
        rw [trimStart, e, List.length_cons] at hlen
        omega
      simp [trimStart, List.dropWhile, h, hne]
    · simp [trimStart, List.dropWhile, h]

theorem trimEnd_eq_self_iff {t : Text} :
    t.trimEnd = t ↔ ∀ c, t.getLast? = some c → isBlank c = false := by
  rw [← List.head?_reverse, ← trimStart_eq_self_iff, trimEnd, trimStart, List.reverse_eq_iff]

/-- A text is trimmed just if it begins and ends with no blank. -/
theorem trim_eq_self_iff {t : Text} :
    t.trim = t ↔ (∀ c, t.head? = some c → isBlank c = false) ∧
      ∀ c, t.getLast? = some c → isBlank c = false := by
  rw [← trimStart_eq_self_iff, ← trimEnd_eq_self_iff]
  constructor
  · intro h
    have hle : t.length ≤ t.trimStart.length := by
      have := length_trimEnd_le t.trimStart
      rwa [← trim, h] at this
    have hs : t.trimStart = t := (List.dropWhile_sublist isBlank).eq_of_length_le hle
    exact ⟨hs, by rwa [trim, hs] at h⟩
  · rintro ⟨hs, he⟩
    rw [trim, hs, he]

theorem isBlank_of_head?_trim {t : Text} {c : Char} (h : t.trim.head? = some c) :
    isBlank c = false := by
  have hs : (t.dropWhile isBlank).head? = some c := by
    rw [← trimStart, ← trimEnd_append_takeWhile t.trimStart, List.head?_append, ← trim, h]
    rfl
  simpa [hs] using List.head?_dropWhile_not isBlank t

theorem isBlank_of_getLast?_trim {t : Text} {c : Char} (h : t.trim.getLast? = some c) :
    isBlank c = false := by
  rw [trim, trimEnd, List.getLast?_reverse] at h
  simpa [h] using List.head?_dropWhile_not isBlank t.trimStart.reverse

/-- A trimmed text begins with the first character that is no blank. -/
theorem head?_trim (t : Text) : t.trim.head? = t.find? fun c => !isBlank c := by
  obtain ⟨before, after, ht, -, hbefore, hafter⟩ := exists_eq_trim t
  have hblank : ∀ u : Text, (∀ c ∈ u, isBlank c = true) → u.find? (fun c => !isBlank c) = none :=
    fun u hu => List.find?_eq_none.mpr fun c hc => by simp [hu c hc]
  have hfind : t.find? (fun c => !isBlank c) = t.trim.find? fun c => !isBlank c := by
    conv => lhs; rw [ht]
    rw [List.find?_append, List.find?_append, hblank before hbefore, hblank after hafter,
      Option.none_or, Option.or_none]
  rw [hfind]
  cases h : t.trim with
  | nil => rfl
  | cons c rest =>
      have hc : isBlank c = false := isBlank_of_head?_trim (congrArg List.head? h)
      simp [hc]

/-- Trimming twice is trimming once. -/
@[simp] theorem trim_trim (t : Text) : t.trim.trim = t.trim :=
  trim_eq_self_iff.mpr ⟨fun _ => isBlank_of_head?_trim, fun _ => isBlank_of_getLast?_trim⟩

end Text
end TypeExpr
