/-!
# `TypeExpr.Text.Basic`: text as a list of characters

Type expressions, names, messages and printed lines are all lists of code points, so that every
index and length counts code points. Besides the type this module holds the order by code point, and
what there is to add to the library about splitting at a separator: how many parts there are
(`length_splitOn`), and that none of them holds the separator (`not_mem_of_mem_splitOn`).

The order is that of the library's comparison of lists (`le_eq_isLE_compare`), and inherits its
laws.
-/

namespace TypeExpr

/-- A sequence of code points. -/
abbrev Text := List Char

namespace Text

/-! ### Splitting -/

/-- There is one part more than there are separators. -/
theorem length_splitOn (sep : Char) (t : Text) : (t.splitOn sep).length = t.count sep + 1 := by
  induction t with
  | nil => rfl
  | cons c rest ih => by_cases h : c = sep <;> simp [List.splitOn_cons_eq_if_modifyHead, h, ih]

/-- No part holds the separator. -/
theorem not_mem_of_mem_splitOn {sep : Char} {t p : Text} (h : p ∈ t.splitOn sep) : sep ∉ p := by
  induction t generalizing p with
  | nil => simp_all
  | cons c rest ih =>
      rw [List.splitOn_cons_eq_if_modifyHead] at h
      by_cases hc : c = sep
      · rw [if_pos (beq_iff_eq.mpr hc), List.mem_cons] at h
        rcases h with rfl | h
        · exact List.not_mem_nil
        · exact ih h
      · obtain ⟨q, qs, hs⟩ := List.exists_cons_of_ne_nil (List.splitOn_ne_nil sep rest)
        rw [if_neg (by simpa using hc), hs, List.modifyHead_cons, List.mem_cons] at h
        rcases h with rfl | h
        · simp [ih (p := q) (by simp [hs]), Ne.symm hc]
        · exact ih (by simp [hs, h])

/-! ### Order by code point -/

theorem compare_char_of_lt {a b : Char} (h : a < b) : compare a b = .lt :=
  compareOfLessAndEq_eq_lt.mpr h

theorem compare_char_of_gt {a b : Char} (h : b < a) : compare a b = .gt := by
  rw [Std.OrientedOrd.eq_swap, compare_char_of_lt h]
  rfl

/-- Lexicographic order by code point; a proper prefix comes first. -/
def le : Text → Text → Bool
  | [], _ => true
  | _ :: _, [] => false
  | a :: s, b :: t => decide (a.toNat < b.toNat) || (a == b && le s t)

/-- The order of texts is their comparison. -/
theorem le_eq_isLE_compare (s t : Text) : s.le t = (compare s t).isLE := by
  induction s generalizing t with
  | nil => cases t <;> rfl
  | cons a s ih =>
      cases t with
      | nil => rfl
      | cons b t =>
          rw [le, List.compare_cons_cons, ih]
          rcases Nat.lt_trichotomy a.toNat b.toNat with h | h | h
          · simp [h, compare_char_of_lt h]
          · obtain rfl : a = b := Char.toNat_inj.mp h
            simp
          · have hne : a ≠ b := by
              rintro rfl
              exact Nat.lt_irrefl _ h
            simp [hne, compare_char_of_gt h, Nat.le_of_lt h]

theorem le_total (s t : Text) : (le s t || le t s) = true := by
  rw [le_eq_isLE_compare, le_eq_isLE_compare, Std.OrientedOrd.eq_swap (a := t)]
  cases compare s t <;> rfl

theorem le_antisymm {s t : Text} (h₁ : le s t = true) (h₂ : le t s = true) : s = t := by
  rw [le_eq_isLE_compare] at h₁ h₂
  exact Std.LawfulEqOrd.eq_of_compare (Std.OrientedCmp.isLE_antisymm h₁ h₂)

theorem le_trans {s t u : Text} (h₁ : le s t = true) (h₂ : le t u = true) : le s u = true := by
  rw [le_eq_isLE_compare] at h₁ h₂ ⊢
  exact Std.TransOrd.isLE_trans h₁ h₂

end Text
end TypeExpr
