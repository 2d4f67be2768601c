import Mathlib.Data.List.Forall2
import TypeExpr.Inquiry

/-!
# `TypeExpr.Proofs.Outcome`: outcomes of readings in sequence

What an inquiry comes to does not depend on the questions it asked, so its outcome can be followed
without them (`outcome_mapM`, `outcome_forM`). A sequence of readings succeeds just if each of them
does (`mapM_eq_ok_iff`).

Two outcomes are the same **but for positions** if they are equal once the errors have forgotten
where they are (`unplaced`). The operations readings are built from respect this.
-/

namespace TypeExpr

/-! ### Sequences of inquiries -/

namespace Inquiry

variable {α β : Type}

theorem outcome_mapM (f : α → Inquiry β) (xs : List α) :
    (xs.mapM f).outcome = xs.mapM fun x => (f x).outcome := by
  induction xs with
  | nil => rfl
  | cons x xs ih => simp only [List.mapM_cons, outcome_bind, ih, outcome_pure]; rfl

theorem outcome_forM (f : α → Inquiry Unit) (xs : List α) :
    (forM xs f).outcome = forM xs fun x => (f x).outcome := by
  induction xs with
  | nil => rfl
  | cons x xs ih => simp only [List.forM_cons, outcome_bind, ih]

end Inquiry

/-! ### Success in sequence -/

section Success

variable {α β ε : Type}

theorem bind_eq_ok_iff {x : Except ε α} {f : α → Except ε β} {b : β} :
    x >>= f = .ok b ↔ ∃ a, x = .ok a ∧ f a = .ok b := by
  cases x with
  | error e => exact ⟨fun h => (by cases h), fun ⟨a, ha, _⟩ => by cases ha⟩
  | ok a => exact ⟨fun h => ⟨a, rfl, h⟩, fun ⟨a', ha, h⟩ => by cases ha; exact h⟩

theorem bind_eq_error_iff {x : Except ε α} {f : α → Except ε β} {e : ε} :
    x >>= f = .error e ↔ x = .error e ∨ ∃ a, x = .ok a ∧ f a = .error e := by
  cases x with
  | error e' =>
      constructor
      · intro h
        cases h
        exact .inl rfl
      · intro h
        rcases h with h | ⟨a, ha, -⟩
        · cases h
          rfl
        · cases ha
  | ok a =>
      constructor
      · exact fun h => .inr ⟨a, rfl, h⟩
      · intro h
        rcases h with h | ⟨a', ha, h⟩
        · cases h
        · cases ha
          exact h

theorem map_eq_ok_iff {x : Except ε α} {f : α → β} {b : β} :
    x.map f = .ok b ↔ ∃ a, x = .ok a ∧ f a = b := by
  cases x <;> simp [Except.map]

theorem map_eq_error_iff {x : Except ε α} {f : α → β} {e : ε} :
    x.map f = .error e ↔ x = .error e := by
  cases x <;> simp [Except.map]

/-- A sequence of readings succeeds just if each of them does, with the results in order. -/
theorem mapM_eq_ok_iff {f : α → Except ε β} {xs : List α} {ys : List β} :
    xs.mapM f = .ok ys ↔ List.Forall₂ (fun x y => f x = .ok y) xs ys := by
  induction xs generalizing ys with
  | nil =>
      rw [List.mapM_nil, List.forall₂_nil_left_iff]
      exact ⟨fun h => (Except.ok.inj h).symm, fun h => by rw [h]; rfl⟩
  | cons x xs ih =>
      rw [List.mapM_cons, List.forall₂_cons_left_iff, bind_eq_ok_iff]
      constructor
      · intro h
        obtain ⟨y, hy, h⟩ := h
        obtain ⟨ys', hys, h⟩ := bind_eq_ok_iff.mp h
        exact ⟨y, ys', hy, ih.mp hys, (Except.ok.inj h).symm⟩
      · intro h
        obtain ⟨y, ys', hy, hys, rfl⟩ := h
        exact ⟨y, hy, bind_eq_ok_iff.mpr ⟨ys', ih.mpr hys, rfl⟩⟩

/-- A sequence of readings fails with the failure of one of them. -/
theorem exists_mem_of_mapM_eq_error {f : α → Except ε β} {xs : List α} {e : ε}
    (h : xs.mapM f = .error e) : ∃ x ∈ xs, f x = .error e := by
  induction xs with
  | nil => cases h
  | cons x xs ih =>
      rw [List.mapM_cons] at h
      rcases bind_eq_error_iff.mp h with hx | ⟨y, -, h⟩
      · exact ⟨x, by simp, hx⟩
      · rcases bind_eq_error_iff.mp h with hxs | ⟨ys, -, h⟩
        · obtain ⟨z, hz, hfails⟩ := ih hxs
          exact ⟨z, List.mem_cons_of_mem x hz, hfails⟩
        · cases h

theorem exists_forall₂ {γ : Type} {R : α → γ → Prop} {xs : List α} (h : ∀ x ∈ xs, ∃ z, R x z) :
    ∃ zs, List.Forall₂ R xs zs := by
  induction xs with
  | nil => exact ⟨[], .nil⟩
  | cons x xs ih =>
      obtain ⟨z, hz⟩ := h x (by simp)
      obtain ⟨zs, hzs⟩ := ih fun y hy => h y (List.mem_cons_of_mem x hy)
      exact ⟨z :: zs, .cons hz hzs⟩

theorem forall₂_exists_of_mem_right {γ : Type} {R : α → γ → Prop} {xs : List α} {zs : List γ}
    (h : List.Forall₂ R xs zs) {z : γ} (hz : z ∈ zs) : ∃ x ∈ xs, R x z := by
  induction h with
  | nil => exact absurd hz List.not_mem_nil
  | @cons x z' xs zs hxz _ ih =>
      rcases List.mem_cons.mp hz with rfl | hz
      · exact ⟨x, by simp, hxz⟩
      · obtain ⟨y, hy, hyz⟩ := ih hz
        exact ⟨y, List.mem_cons_of_mem _ hy, hyz⟩

/-- A list that is related to a list cut in two is cut in two, too. -/
theorem exists_append_cons_of_forall₂ {γ : Type} {R : α → γ → Prop} {before after : List α} {x : α}
    {zs : List γ} (h : List.Forall₂ R (before ++ x :: after) zs) :
    ∃ before' z after', zs = before' ++ z :: after' ∧ List.Forall₂ R before before' ∧ R x z := by
  induction before generalizing zs with
  | nil =>
      obtain ⟨z, after', hz, -, rfl⟩ := List.forall₂_cons_left_iff.mp h
      exact ⟨[], z, after', rfl, .nil, hz⟩
  | cons y before ih =>
      obtain ⟨w, rest, hw, hrest, rfl⟩ := List.forall₂_cons_left_iff.mp h
      obtain ⟨before', z, after', rfl, hbefore, hz⟩ := ih hrest
      exact ⟨w :: before', z, after', rfl, .cons hw hbefore, hz⟩

/-- Leaving out elements leaves out what they are related to. -/
theorem exists_sublist_of_forall₂ {γ : Type} {R : α → γ → Prop} {xs us : List α} {zs : List γ}
    (h : List.Forall₂ R xs zs) (hsub : us.Sublist xs) :
    ∃ vs, vs.Sublist zs ∧ List.Forall₂ R us vs := by
  induction hsub generalizing zs with
  | slnil => exact ⟨[], zs.nil_sublist, .nil⟩
  | cons x _ ih =>
      cases h with
      | @cons _ z _ _ _ hrest =>
          obtain ⟨vs, hvs, hus⟩ := ih hrest
          exact ⟨vs, hvs.cons z, hus⟩
  | cons_cons x _ ih =>
      cases h with
      | @cons _ z _ _ hxz hrest =>
          obtain ⟨vs, hvs, hus⟩ := ih hrest
          exact ⟨z :: vs, hvs.cons_cons z, .cons hxz hus⟩

/-- If each reading that succeeds has a cause, a sequence that succeeds has a sequence of causes. -/
theorem exists_forall₂_of_mapM {γ : Type} {f : α → Except ε β} {R : α → γ → Prop}
    (hf : ∀ x y, f x = .ok y → ∃ z, R x z) {xs : List α} {ys : List β} (h : xs.mapM f = .ok ys) :
    ∃ zs, List.Forall₂ R xs zs := by
  refine exists_forall₂ fun x hx => ?_
  obtain ⟨y, -, hy⟩ := forall₂_exists_of_mem_right (mapM_eq_ok_iff.mp h).flip hx
  exact hf x y hy

theorem forM_eq_ok_iff {f : α → Except ε Unit} {xs : List α} :
    forM xs f = .ok () ↔ ∀ x ∈ xs, f x = .ok () := by
  induction xs with
  | nil => exact ⟨fun _ _ hx => absurd hx List.not_mem_nil, fun _ => rfl⟩
  | cons x xs ih =>
      rw [List.forM_cons, bind_eq_ok_iff, List.forall_mem_cons, ← ih]
      exact ⟨fun ⟨_, hx, hxs⟩ => ⟨hx, hxs⟩, fun ⟨hx, hxs⟩ => ⟨(), hx, hxs⟩⟩

/-- A sequence of checks fails with the first failure. -/
theorem forM_eq_error_iff {f : α → Except ε Unit} {xs : List α} {e : ε} :
    forM xs f = .error e ↔ ∃ before x after, xs = before ++ x :: after ∧
      (∀ y ∈ before, f y = .ok ()) ∧ f x = .error e := by
  induction xs with
  | nil => exact ⟨fun h => (by cases h), fun ⟨_, _, _, h, _⟩ => (by simp at h)⟩
  | cons y ys ih =>
      rw [List.forM_cons]
      -- either the check of `y` is the first to fail, or the failure is left to the rest
      cases hy : f y with
      | error e' =>
          constructor
          · intro h
            exact ⟨[], y, ys, rfl, by simp, hy.trans h⟩
          · intro h
            obtain ⟨before, x, after, hxs, hbefore, hx⟩ := h
            cases before with
            | nil =>
                obtain ⟨rfl, rfl⟩ := List.cons.inj hxs
                exact hy.symm.trans hx
            | cons z zs =>
                obtain ⟨rfl, -⟩ := List.cons.inj hxs
                rw [hbefore y (by simp)] at hy
                cases hy
      | ok u =>
          refine ih.trans ⟨?_, ?_⟩
          · intro h
            obtain ⟨before, x, after, rfl, hbefore, hx⟩ := h
            exact ⟨y :: before, x, after, rfl, List.forall_mem_cons.mpr ⟨hy, hbefore⟩, hx⟩
          · intro h
            obtain ⟨before, x, after, hxs, hbefore, hx⟩ := h
            cases before with
            | nil =>
                obtain ⟨rfl, -⟩ := List.cons.inj hxs
                rw [hy] at hx
                cases hx
            | cons z zs =>
                obtain ⟨rfl, rfl⟩ := List.cons.inj hxs
                exact ⟨zs, x, after, rfl, (List.forall_mem_cons.mp hbefore).2, hx⟩

end Success

/-! ### Outcomes but for positions -/

/-- The error without its position. -/
def Error.unplaced (e : Error) : Error := { e with span := none }

/-- The outcome with no position in its error. -/
def unplaced {α : Type} (x : Except Error α) : Except Error α := x.mapError Error.unplaced

section Unplaced

variable {α β : Type}

@[simp] theorem unplaced_ok (a : α) : unplaced (.ok a : Except Error α) = .ok a := rfl

@[simp] theorem unplaced_error (e : Error) :
    unplaced (.error e : Except Error α) = .error e.unplaced := rfl

theorem unplaced_mapError_locate (x : Except Error α) (s : Span) :
    unplaced (x.mapError (·.locate s)) = unplaced x := by
  cases x <;> rfl

theorem unplaced_bind (x : Except Error α) (f : α → Except Error β) :
    unplaced (x >>= f) = unplaced x >>= fun a => unplaced (f a) := by
  cases x <;> rfl

theorem unplaced_mapM (f : α → Except Error β) (xs : List α) :
    unplaced (xs.mapM f) = xs.mapM fun x => unplaced (f x) := by
  induction xs with
  | nil => rfl
  | cons x xs ih => simp only [List.mapM_cons, unplaced_bind, ih]; rfl

theorem unplaced_forM (f : α → Except Error Unit) (xs : List α) :
    unplaced (forM xs f) = forM xs fun x => unplaced (f x) := by
  induction xs with
  | nil => rfl
  | cons x xs ih => simp only [List.forM_cons, unplaced_bind, ih]

/-- Success does not depend on positions. -/
theorem eq_ok_iff_of_unplaced_eq {x y : Except Error α} (h : unplaced x = unplaced y) {a : α} :
    x = .ok a ↔ y = .ok a := by
  cases x <;> cases y <;> simp_all [unplaced, Except.mapError]

/-- Failures that are the same but for positions have one fault and are about one text. -/
theorem exists_error_of_unplaced_eq {x y : Except Error α} (h : unplaced x = unplaced y) {e : Error}
    (he : x = .error e) : ∃ e', y = .error e' ∧ e'.fault = e.fault ∧ e'.text = e.text := by
  subst he
  cases y with
  | ok b => exact absurd h (by simp)
  | error e' =>
      have heq : e.unplaced = e'.unplaced := Except.error.inj h
      exact ⟨e', rfl, (congrArg Error.fault heq).symm, (congrArg Error.text heq).symm⟩

end Unplaced

/-- Errors that make one complaint, whatever position they give. -/
structure Error.Alike (e e' : Error) : Prop where
  fault : e'.fault = e.fault
  text : e'.text = e.text
  message : e'.message = e.message
  conflicts : e'.conflicts = e.conflicts

/-- What is complained of is settled by the fault and the text. -/
theorem Error.Alike.of_eq {e e' : Error} (hfault : e'.fault = e.fault) (htext : e'.text = e.text) :
    e.Alike e' := by
  refine ⟨hfault, htext, ?_, ?_⟩
  · rw [Error.message, Error.message, hfault, htext]
  · rw [Error.conflicts, Error.conflicts, hfault]

theorem alike_of_unplaced_eq {α : Type} {x y : Except Error α} (h : unplaced x = unplaced y)
    {e : Error} (he : x = .error e) : ∃ e', y = .error e' ∧ e.Alike e' := by
  obtain ⟨e', hy, hfault, htext⟩ := exists_error_of_unplaced_eq h he
  exact ⟨e', hy, .of_eq hfault htext⟩

end TypeExpr
