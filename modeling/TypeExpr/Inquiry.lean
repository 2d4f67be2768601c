import TypeExpr.Rules

/-!
# `TypeExpr.Inquiry`: a computation that consults rules

Building a type consults its rules many times, and which questions are put, and in what order, is
part of what it does. An inquiry holds the questions asked and the outcome. Inquiries run one after
the other until one fails: `bind_of_error` and `bind_of_ok` say how.
-/

namespace TypeExpr

/-- A question put to the rules: may this atom stand with these others? -/
structure Consultation where
  mode : Mode
  atom : Atom
  others : List Atom
deriving DecidableEq, Repr

/-- The questions asked, in order, and what came of them. -/
structure Inquiry (α : Type) where
  asked : List Consultation
  outcome : Except Error α

namespace Inquiry

instance : Monad Inquiry where
  pure a := ⟨[], .ok a⟩
  bind x f :=
    match x with
    | ⟨asked, .error e⟩ => ⟨asked, .error e⟩
    | ⟨asked, .ok a⟩ =>
      match f a with
      | ⟨more, outcome⟩ => ⟨asked ++ more, outcome⟩

/-- An outcome that takes no questions. -/
def ofExcept {α : Type} (x : Except Error α) : Inquiry α := ⟨[], x⟩

@[simp] theorem outcome_pure {α : Type} (a : α) : (pure a : Inquiry α).outcome = .ok a := rfl

@[simp] theorem outcome_ofExcept {α : Type} (x : Except Error α) : (ofExcept x).outcome = x := rfl

/-- A failure ends an inquiry. -/
theorem bind_of_error {α β : Type} {x : Inquiry α} {e : Error} (h : x.outcome = .error e)
    (f : α → Inquiry β) : x >>= f = ⟨x.asked, .error e⟩ := by
  obtain ⟨asked, outcome⟩ := x
  subst h
  rfl

/-- After a success the next inquiry follows, and its questions come after. -/
theorem bind_of_ok {α β : Type} {x : Inquiry α} {a : α} (h : x.outcome = .ok a)
    (f : α → Inquiry β) : x >>= f = ⟨x.asked ++ (f a).asked, (f a).outcome⟩ := by
  obtain ⟨asked, outcome⟩ := x
  subst h
  rfl

/-- The outcome of inquiries in sequence depends on their outcomes only. -/
theorem outcome_bind {α β : Type} (x : Inquiry α) (f : α → Inquiry β) :
    (x >>= f).outcome = x.outcome >>= fun a => (f a).outcome := by
  cases h : x.outcome with
  | error e => rw [bind_of_error h]; rfl
  | ok a => rw [bind_of_ok h]; rfl

theorem ext {α : Type} {x y : Inquiry α} (h₁ : x.asked = y.asked) (h₂ : x.outcome = y.outcome) :
    x = y := by
  cases x; cases y; simp_all

instance : LawfulMonad Inquiry := LawfulMonad.mk' Inquiry
  (by
    intro α x
    obtain ⟨asked, outcome⟩ := x
    cases outcome with
    | error e => rfl
    | ok a => exact ext (List.append_nil _) rfl)
  (by intro α β a f; exact bind_of_ok rfl f)
  (by
    intro α β γ x f g
    cases h : x.outcome with
    | error e => rw [bind_of_error h, bind_of_error h, bind_of_error rfl]
    | ok a =>
      rw [bind_of_ok h, bind_of_ok h]
      cases hf : (f a).outcome with
      | error e => rw [bind_of_error rfl, bind_of_error hf]
      | ok b => rw [bind_of_ok rfl, bind_of_ok hf, List.append_assoc])

end Inquiry
end TypeExpr
