import TypeExpr.Ty.Render

/-!
# `TypeExpr.Ty.Order`: the canonical order of members

The members of a combination are listed in a fixed order: atoms first, by precedence and then by
name, so classes lead and built-in types follow; then the nested types, by how they are written. The
order is a total preorder on types (`le_total`, `le_trans`), decided by a key, and sorting is
stable.
-/

namespace TypeExpr

/-- What a member is ordered by: its rank, then its precedence, then its spelling. -/
structure SortKey where
  rank : Nat
  precedence : Int
  spelling : Text
deriving DecidableEq, Repr

namespace SortKey

/-- Whether one key comes no later than another. -/
def le (k l : SortKey) : Bool :=
  decide (k.rank < l.rank) || (k.rank == l.rank &&
    (decide (k.precedence < l.precedence) || (k.precedence == l.precedence &&
      k.spelling.le l.spelling)))

theorem le_total (k l : SortKey) : (le k l || le l k) = true := by
  have ht := Text.le_total k.spelling l.spelling
  simp only [le, Bool.or_eq_true, Bool.and_eq_true, decide_eq_true_eq, beq_iff_eq] at ht ⊢
  by_cases h₁ : k.rank = l.rank
  · by_cases h₂ : k.precedence = l.precedence
    · rcases ht with ht | ht <;> simp [h₁, h₂, ht]
    · omega
  · omega

theorem le_antisymm {k l : SortKey} (h₁ : le k l = true) (h₂ : le l k = true) : k = l := by
  simp only [le, Bool.or_eq_true, Bool.and_eq_true, decide_eq_true_eq, beq_iff_eq] at h₁ h₂
  obtain ⟨hr, hp, hs⟩ :
      k.rank = l.rank ∧ k.precedence = l.precedence ∧ k.spelling = l.spelling := by
    rcases h₁ with h₁ | ⟨hr, h₁⟩
    · omega
    · rcases h₂ with h₂ | ⟨_, h₂⟩
      · omega
      · rcases h₁ with h₁ | ⟨hp, h₁⟩
        · omega
        · rcases h₂ with h₂ | ⟨_, h₂⟩
          · omega
          · exact ⟨hr, hp, Text.le_antisymm h₁ h₂⟩
  cases k; cases l; simp_all

theorem le_trans {k l m : SortKey} (h₁ : le k l = true) (h₂ : le l m = true) : le k m = true := by
  simp only [le, Bool.or_eq_true, Bool.and_eq_true, decide_eq_true_eq, beq_iff_eq] at *
  rcases h₁ with h₁ | ⟨hr₁, h₁⟩
  · rcases h₂ with h₂ | ⟨hr₂, _⟩ <;> exact .inl (by omega)
  · rcases h₂ with h₂ | ⟨hr₂, h₂⟩
    · exact .inl (by omega)
    · refine .inr ⟨by omega, ?_⟩
      rcases h₁ with h₁ | ⟨hp₁, h₁⟩
      · rcases h₂ with h₂ | ⟨hp₂, _⟩ <;> exact .inl (by omega)
      · rcases h₂ with h₂ | ⟨hp₂, h₂⟩
        · exact .inl (by omega)
        · exact .inr ⟨by omega, Text.le_trans h₁ h₂⟩

end SortKey

namespace Ty

/-- Atoms rank first, by precedence and name; combinations follow, by their documentation. -/
def sortKey : Ty → SortKey
  | .atom a => ⟨0, a.precedence, a.name⟩
  | .combine mode ts => ⟨1, 0, (Ty.combine mode ts).documentation⟩

/-- Canonical order. -/
def le (s t : Ty) : Bool := s.sortKey.le t.sortKey

/-- Two atoms with one key are one atom. -/
theorem sortKey_atom_inj {a b : Atom} : (Ty.atom a).sortKey = (Ty.atom b).sortKey ↔ a = b := by
  constructor
  · intro h
    cases a; cases b
    simpa [sortKey, and_comm] using h
  · rintro rfl
    rfl

/-! ### Sorting -/

/-- Puts an entry in front of the first one that its key does not come after. -/
def insertByKey {α : Type} (key : α → SortKey) (x : α) : List α → List α
  | [] => [x]
  | y :: ys => if (key x).le (key y) then x :: y :: ys else y :: insertByKey key x ys

/-- Entries in the order of their keys; those of equal key keep the order they have. -/
def sortByKey {α : Type} (key : α → SortKey) : List α → List α
  | [] => []
  | x :: xs => insertByKey key x (sortByKey key xs)

/-- Types in canonical order. -/
def sort (ts : List Ty) : List Ty := sortByKey sortKey ts

theorem insertByKey_perm {α : Type} (key : α → SortKey) (x : α) (xs : List α) :
    (insertByKey key x xs).Perm (x :: xs) := by
  induction xs with
  | nil => exact .rfl
  | cons y ys ih =>
    simp only [insertByKey]
    split
    · exact .rfl
    · exact (ih.cons y).trans (.swap x y ys)

/-- Sorting neither loses nor repeats an entry. -/
theorem sortByKey_perm {α : Type} (key : α → SortKey) (xs : List α) :
    (sortByKey key xs).Perm xs := by
  induction xs with
  | nil => exact .rfl
  | cons x xs ih => exact (insertByKey_perm key x _).trans (ih.cons x)

theorem pairwise_insertByKey {α : Type} {key : α → SortKey} {x : α} {xs : List α}
    (h : xs.Pairwise fun a b => (key a).le (key b) = true) :
    (insertByKey key x xs).Pairwise fun a b => (key a).le (key b) = true := by
  induction xs with
  | nil => simp [insertByKey]
  | cons y ys ih =>
    obtain ⟨hy, hys⟩ := List.pairwise_cons.mp h
    simp only [insertByKey]
    split
    · next hxy =>
      refine List.pairwise_cons.mpr ⟨fun z hz => ?_, h⟩
      rcases List.mem_cons.mp hz with rfl | hz
      · exact hxy
      · exact SortKey.le_trans hxy (hy z hz)
    · next hxy =>
      have hyx : (key y).le (key x) = true := by
        have := SortKey.le_total (key x) (key y)
        simpa [hxy] using this
      refine List.pairwise_cons.mpr ⟨fun z hz => ?_, ih hys⟩
      rcases List.mem_cons.mp ((insertByKey_perm key x ys).subset hz) with rfl | hz
      · exact hyx
      · exact hy z hz

/-- Sorted entries stand in the order of their keys. -/
theorem pairwise_sortByKey {α : Type} (key : α → SortKey) (xs : List α) :
    (sortByKey key xs).Pairwise fun a b => (key a).le (key b) = true := by
  induction xs with
  | nil => simp [sortByKey]
  | cons x xs ih => exact pairwise_insertByKey ih

end Ty
end TypeExpr
