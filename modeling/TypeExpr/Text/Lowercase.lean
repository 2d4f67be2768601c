import TypeExpr.Text.Basic
import TypeExpr.Text.Ranges
import TypeExpr.Text.LowercaseTable

/-!
# `TypeExpr.Text.Lowercase`: full lower-casing

Lower-casing maps each character by itself, with two exceptions. A capital I with a dot becomes two
characters. A capital sigma becomes a final sigma where a word ends: the nearest character before it
that is not case-ignorable is cased, and the nearest such character after it is not.

Text that holds no ASCII capital and nothing beyond ASCII is its own lower-case form
(`lower_eq_self`).
-/

namespace TypeExpr

namespace Text

/-- Letters that have a case. -/
def isCased (c : Char) : Bool :=
  if c.toNat < 0x80 then c.isAlpha else inRanges casedRanges c.toNat

/-- Characters passed over in the search for the letter next to a sigma. -/
def isCaseIgnorable (c : Char) : Bool :=
  if c.toNat < 0x80 then c == '\'' || c == '.' || c == ':' || c == '^' || c.toNat == 0x60
  else inRanges caseIgnorableRanges c.toNat

/-- Whether a run of case changes takes in the code point `n`. -/
def CaseRun.covers (r : CaseRun) (n : Nat) : Bool :=
  decide (r.first ≤ n) && decide (n ≤ r.last) && (n - r.first) % r.step == 0

/-- The lower-case form of a character by itself. -/
def lowerChar (c : Char) : Text :=
  if c.toNat < 0x80 then [c.toLower]
  else if c.toNat = 0x130 then ['i', '\u0307']
  else match lowercaseRuns.find? (·.covers c.toNat) with
    | some r => [Char.ofNat (c.toNat + r.shift).toNat]
    | none => [c]

/-- Whether the first character that is not case-ignorable exists and is cased. -/
def meetsCased (t : Text) : Bool :=
  match t.dropWhile isCaseIgnorable with
  | c :: _ => isCased c
  | [] => false

/-- The lower-case form of `t`, where `before` holds the characters in front of it, nearest
first. -/
def lowerAfter (before : Text) : Text → Text
  | [] => []
  | c :: rest =>
    (if c = 'Σ' then [if meetsCased before && !meetsCased rest then 'ς' else 'σ']
      else lowerChar c) ++ lowerAfter (c :: before) rest

/-- The lower-case form of a text. -/
def lower (t : Text) : Text := lowerAfter [] t

/-! ### ASCII -/

/-- An ASCII character that is no capital is its own lower-case form. -/
theorem lowerChar_eq_self {c : Char} (ha : c.toNat < 0x80) (hu : c.isUpper = false) :
    lowerChar c = [c] := by
  have : c.toLower = c := dif_neg (of_decide_eq_false hu)
  simp [lowerChar, ha, this]

/-- ASCII text without capitals is its own lower-case form. -/
theorem lower_eq_self {t : Text} (h : ∀ c ∈ t, c.toNat < 0x80 ∧ c.isUpper = false) :
    t.lower = t := by
  suffices ∀ before, lowerAfter before t = t from this []
  induction t with
  | nil => exact fun _ => rfl
  | cons c rest ih =>
    intro before
    obtain ⟨ha, hu⟩ := h c (by simp)
    have hs : c ≠ 'Σ' := by rintro rfl; simp at ha
    simp [lowerAfter, hs, lowerChar_eq_self ha hu, ih (fun d hd => h d (by simp [hd]))]

end Text
end TypeExpr
