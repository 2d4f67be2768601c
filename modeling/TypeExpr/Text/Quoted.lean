import TypeExpr.Text.Basic
import TypeExpr.Text.Ranges
import TypeExpr.Text.PrintableTable

/-!
# `TypeExpr.Text.Quoted`: text between quotes, on one line

A quoted text stands between single quotes, or between double quotes if it holds a single quote and
no double one. Inside, the backslash, the quote in use and every character that does not show are
escaped, so whatever the text holds, its quoted form is one printable line
(`isPrintable_of_mem_quoted`).
-/

namespace TypeExpr.Text

/-- Characters that print as themselves; the space is the only blank among them. -/
def isPrintable (c : Char) : Bool :=
  if c.toNat < 0x80 then 0x20 ≤ c.toNat && c.toNat < 0x7F else inRanges printableRanges c.toNat

/-- A number in lower-case hexadecimal digits, padded with zeros to a width. -/
def hex (width n : Nat) : Text := (Nat.toDigits 16 n).leftpad width '0'

/-- A character as it is written between quotes of the given kind. -/
def escape (quote c : Char) : Text :=
  if c == quote || c == '\\' then ['\\', c]
  else if c == '\t' then ['\\', 't']
  else if c == '\n' then ['\\', 'n']
  else if c == '\r' then ['\\', 'r']
  else if isPrintable c then [c]
  else if c.toNat < 0x100 then '\\' :: 'x' :: hex 2 c.toNat
  else if c.toNat < 0x10000 then '\\' :: 'u' :: hex 4 c.toNat
  else '\\' :: 'U' :: hex 8 c.toNat

/-- The quote a text is put between. -/
def quoteMark (t : Text) : Char :=
  if t.contains '\'' && !t.contains '"' then '"' else '\''

/-- The text between quotes. -/
def quoted (t : Text) : Text :=
  let mark := quoteMark t
  mark :: t.flatMap (escape mark) ++ [mark]

/-! ### Quoted text prints on one line -/

theorem isPrintable_of_mem_toDigits {n : Nat} {c : Char} (h : c ∈ Nat.toDigits 16 n) :
    isPrintable c = true := by
  have hdigit : ∀ d < 16, isPrintable (Nat.digitChar d) = true := by decide
  induction n using Nat.strongRecOn with
  | ind n ih =>
    rw [Nat.toDigits_eq_if (by decide)] at h
    split at h
    · next hlt => exact List.mem_singleton.mp h ▸ hdigit n hlt
    · rcases List.mem_append.mp h with h | h
      · exact ih (n / 16) (by omega) h
      · exact List.mem_singleton.mp h ▸ hdigit (n % 16) (Nat.mod_lt n (by decide))

theorem isPrintable_of_mem_hex {width n : Nat} {c : Char} (h : c ∈ hex width n) :
    isPrintable c = true := by
  rcases List.mem_append.mp h with h | h
  · exact List.eq_of_mem_replicate h ▸ by decide
  · exact isPrintable_of_mem_toDigits h

/-- Whatever a character is, what is written for it is printable. -/
theorem isPrintable_of_mem_escape {quote c d : Char} (hq : isPrintable quote = true)
    (h : d ∈ escape quote c) : isPrintable d = true := by
  have hcode : ∀ {mark : Char} {width : Nat}, isPrintable mark = true →
      d ∈ '\\' :: mark :: hex width c.toNat → isPrintable d = true := by
    intro mark width hmark hd
    rcases List.mem_cons.mp hd with rfl | hd
    · decide
    · rcases List.mem_cons.mp hd with rfl | hd
      · exact hmark
      · exact isPrintable_of_mem_hex hd
  have hpair : ∀ {e : Char}, isPrintable e = true → d ∈ ['\\', e] → isPrintable d = true := by
    intro e he hd
    rcases List.mem_cons.mp hd with rfl | hd
    · decide
    · exact List.mem_singleton.mp hd ▸ he
  unfold escape at h
  split at h
  · next hc =>
    refine hpair ?_ h
    rcases Bool.or_eq_true_iff.mp hc with hc | hc
    · exact beq_iff_eq.mp hc ▸ hq
    · exact beq_iff_eq.mp hc ▸ by decide
  split at h
  · exact hpair (by decide) h
  split at h
  · exact hpair (by decide) h
  split at h
  · exact hpair (by decide) h
  split at h
  · next hp => exact List.mem_singleton.mp h ▸ hp
  split at h
  · exact hcode (by decide) h
  split at h
  · exact hcode (by decide) h
  · exact hcode (by decide) h

/-- A quoted text is printable, whatever the text holds. -/
theorem isPrintable_of_mem_quoted {t : Text} {c : Char} (h : c ∈ t.quoted) :
    isPrintable c = true := by
  have hmark : isPrintable t.quoteMark = true := by
    unfold quoteMark
    split <;> decide
  rcases List.mem_append.mp h with h | h
  · rcases List.mem_cons.mp h with rfl | h
    · exact hmark
    · obtain ⟨d, -, hc⟩ := List.mem_flatMap.mp h
      exact isPrintable_of_mem_escape hmark hc
  · exact List.mem_singleton.mp h ▸ hmark

end TypeExpr.Text
