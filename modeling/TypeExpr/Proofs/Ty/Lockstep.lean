import TypeExpr.Proofs.Text.Places
import TypeExpr.Proofs.Ty.Build

/-!
# `TypeExpr.Proofs.Ty.Lockstep`: two readings side by side

The same text may be read in two places, or under two sets of rules, and the two readings compared.
They are in **lockstep** if they ask the same questions in the same order and their outcomes agree:
both give results, one the image of the other, or both fail, with errors that are related.

Inquiries in sequence are in lockstep if each of them is (`Lockstep.bind`, `Lockstep.mapM`,
`Lockstep.forM`). So if two sets of rules are **counterparts**, which answer every question alike up
to related errors, then readers of all kinds are in lockstep under them, on a piece and on the same
piece further on in a text (`Counterparts.readGroup`, `Counterparts.readUnion`).
-/

namespace TypeExpr

/-! ### Outcomes that agree -/

section Agree

variable {α β γ δ : Type} {R : Error → Error → Prop}

/-- Outcomes that agree: a result and its image, or two errors that are related. -/
inductive Agree (f : α → β) (R : Error → Error → Prop) : Except Error α → Except Error β → Prop
  | ok (a : α) : Agree f R (.ok a) (.ok (f a))
  | error {e e' : Error} (h : R e e') : Agree f R (.error e) (.error e')

theorem Agree.eq_ok {f : α → β} {x : Except Error α} {y : Except Error β} (h : Agree f R x y)
    {a : α} (ha : x = .ok a) : y = .ok (f a) := by
  subst ha
  cases h
  rfl

theorem Agree.exists_error {f : α → β} {x : Except Error α} {y : Except Error β} (h : Agree f R x y)
    {e : Error} (he : x = .error e) : ∃ e', y = .error e' ∧ R e e' := by
  subst he
  cases h with
  | error h => exact ⟨_, rfl, h⟩

/-- What is made of results on both sides agrees if it fits together. -/
theorem Agree.map {f : α → β} {x : Except Error α} {y : Except Error β} (h : Agree f R x y)
    {g : γ → δ} {k : α → γ} {k' : β → δ} (hk : ∀ a, k' (f a) = g (k a)) :
    Agree g R (x.map k) (y.map k') := by
  cases h with
  | ok a =>
      simp only [Except.map, hk]
      exact .ok (k a)
  | error h => exact .error h

theorem mapError_map (x : Except Error α) (f : α → β) (g : Error → Error) :
    (x.map f).mapError g = (x.mapError g).map f := by
  cases x <;> rfl

/-- Inquiries that ask the same questions and have outcomes that agree. -/
structure Lockstep (f : α → β) (R : Error → Error → Prop) (x : Inquiry α) (y : Inquiry β) :
    Prop where
  asked_eq : y.asked = x.asked
  agree : Agree f R x.outcome y.outcome

namespace Lockstep

theorem ofExcept {f : α → β} {x : Except Error α} {y : Except Error β} (h : Agree f R x y) :
    Lockstep f R (Inquiry.ofExcept x) (Inquiry.ofExcept y) := ⟨rfl, h⟩

theorem pure (f : α → β) (R : Error → Error → Prop) (a : α) :
    Lockstep f R (Pure.pure a : Inquiry α) (Pure.pure (f a) : Inquiry β) := ⟨rfl, .ok a⟩

/-- **One after the other.** Of the second inquiries only those are compared that are reached
together. -/
theorem bind {f : α → β} {g : γ → δ} {x : Inquiry α} {y : Inquiry β} (h : Lockstep f R x y)
    {k : α → Inquiry γ} {k' : β → Inquiry δ} (hk : ∀ a, Lockstep g R (k a) (k' (f a))) :
    Lockstep g R (x >>= k) (y >>= k') := by
  obtain ⟨hasked, hagree⟩ := h
  cases hx : x.outcome with
  | error e =>
      obtain ⟨e', hy, he⟩ := hagree.exists_error hx
      rw [Inquiry.bind_of_error hx, Inquiry.bind_of_error hy]
      exact ⟨hasked, .error he⟩
  | ok a =>
      rw [Inquiry.bind_of_ok hx, Inquiry.bind_of_ok (hagree.eq_ok hx)]
      refine ⟨?_, (hk a).agree⟩
      rw [hasked, (hk a).asked_eq]

theorem mapM {ι : Type} {f : α → β} {k : ι → Inquiry α} {k' : ι → Inquiry β} {xs : List ι}
    (h : ∀ x ∈ xs, Lockstep f R (k x) (k' x)) :
    Lockstep (List.map f) R (xs.mapM k) (xs.mapM k') := by
  induction xs with
  | nil => exact pure (List.map f) R []
  | cons x xs ih =>
      obtain ⟨hx, hxs⟩ := List.forall_mem_cons.mp h
      rw [List.mapM_cons, List.mapM_cons]
      exact hx.bind fun a => (ih hxs).bind fun as => pure (List.map f) R (a :: as)

theorem forM {ι : Type} {k k' : ι → Inquiry Unit} {xs : List ι}
    (h : ∀ x ∈ xs, Lockstep id R (k x) (k' x)) : Lockstep id R (xs.forM k) (xs.forM k') := by
  induction xs with
  | nil => exact pure id R ()
  | cons x xs ih =>
      obtain ⟨hx, hxs⟩ := List.forall_mem_cons.mp h
      exact hx.bind fun _ => ih hxs

end Lockstep

end Agree

/-! ### Counterparts -/

/-- Rules that answer every question alike, up to errors that are related once they are in place,
where the second text stands `n` characters further on. Readers make errors of their own, too, which
are related to themselves. -/
structure Counterparts (R : Error → Error → Prop) (n : Nat) (rules rules' : Rules) : Prop where
  placed : ∀ fault t s, R ⟨fault, t, some s⟩ ⟨fault, t, some (s.shift n)⟩
  read : ∀ t s, Agree id R ((rules.readAtom t).mapError (·.locate s))
    ((rules'.readAtom t).mapError (·.locate (s.shift n)))
  check : ∀ mode a others s, others ≠ [] → Agree id R
    ((rules.check mode a others).mapError (·.locate s))
    ((rules'.check mode a others).mapError (·.locate (s.shift n)))

namespace Ty

/-- What was found in a place, found further on. -/
def Placed.shift (m : Placed) (n : Nat) : Placed := ⟨m.type, m.span.shift n⟩

theorem placedAtoms_map_shift (n : Nat) (ms : List Placed) :
    placedAtoms (ms.map (·.shift n)) = (placedAtoms ms).map fun a => (a.1, a.2.shift n) := by
  rw [placedAtoms, placedAtoms, List.filterMap_map, List.map_filterMap]
  refine List.filterMap_congr fun m _ => ?_
  cases h : m.type.atom? <;> simp [Placed.shift, h]

/-- The body of a group further on is the body of the group, further on. -/
theorem agree_groupBody {R : Error → Error → Prop} {n : Nat}
    (hR : ∀ fault t s, R ⟨fault, t, some s⟩ ⟨fault, t, some (s.shift n)⟩) (p : Piece) :
    Agree (·.shift n) R (groupBody p) (groupBody (p.shift n)) := by
  by_cases hopen : ∃ rest, p.text = '(' :: rest
  · obtain ⟨rest, hp⟩ := hopen
    have hp' : (p.shift n).text = '(' :: rest := hp
    simp only [groupBody, hp, hp', Piece.span_shift]
    split
    · have hbody : (Piece.mk ((p.shift n).start + 1) rest.dropLast) =
          (Piece.mk (p.start + 1) rest.dropLast).shift n := by
        simp only [Piece.shift, Nat.add_right_comm]
      rw [hbody, Piece.trim_shift]
      exact .ok _
    · exact .error (hR _ _ _)
  · have hne : ∀ rest, p.text ≠ '(' :: rest := fun rest hp => hopen ⟨rest, hp⟩
    rw [groupBody_of_ne hne, groupBody_of_ne (p := p.shift n) hne]
    exact .ok p

end Ty

/-- The parts of a piece are read in lockstep further on if every piece is. -/
theorem Lockstep.mapM_cut {R : Error → Error → Prop} {n : Nat} {k k' : Piece → Inquiry Ty.Placed}
    (h : ∀ p, Lockstep (·.shift n) R (k p) (k' (p.shift n))) (sep : Char) (p : Piece) :
    Lockstep (List.map (·.shift n)) R ((p.cut sep).mapM fun q => k q.trim)
      (((p.shift n).cut sep).mapM fun q => k' q.trim) := by
  rw [Piece.cut_shift, List.mapM_map]
  refine .mapM fun q _ => ?_
  rw [Function.comp_apply, Piece.trim_shift]
  exact h q.trim

namespace Counterparts

open Ty

variable {R : Error → Error → Prop} {n : Nat} {rules rules' : Rules}

theorem readLeaf (h : Counterparts R n rules rules') (p : Piece) :
    Lockstep (·.shift n) R (Ty.readLeaf rules p) (Ty.readLeaf rules' (p.shift n)) := by
  have hread := h.read p.text p.span
  rw [← Piece.span_shift] at hread
  refine .ofExcept ?_
  rw [mapError_map, mapError_map]
  exact hread.map fun a => by rw [Placed.shift, Piece.span_shift, id_eq]

theorem consult (h : Counterparts R n rules rules') (mode : Mode) (a : Atom × Span)
    (others : List Atom) :
    Lockstep id R (Ty.consult rules mode a others)
      (Ty.consult rules' mode (a.1, a.2.shift n) others) := by
  unfold Ty.consult
  split
  · exact .pure id R ()
  · next hne => exact ⟨rfl, h.check mode a.1 others a.2 (by simpa using hne)⟩

theorem validate (h : Counterparts R n rules rules') (mode : Mode) (ms : List Placed) :
    Lockstep id R (Ty.validate rules mode ms) (Ty.validate rules' mode (ms.map (·.shift n))) := by
  unfold Ty.validate
  rw [placedAtoms_map_shift, withOthers_map, List.forM_eq_forM, List.forM_map]
  refine .forM fun p _ => ?_
  rw [List.map_map]
  exact h.consult mode p.1 (p.2.map Prod.fst)

/-- Members are put in order by what they are and not by where they were found. -/
theorem assemble (h : Counterparts R n rules rules') (mode : Mode) (ms : List Placed) :
    Lockstep id R (Ty.assemble rules mode ms) (Ty.assemble rules' mode (ms.map (·.shift n))) := by
  have hsort : sortByKey (·.type.sortKey) (ms.map (·.shift n)) =
      (sortByKey (·.type.sortKey) ms).map (·.shift n) :=
    (map_sortByKey (·.shift n) (·.type.sortKey) ms).symm
  have htypes : ((sortByKey (·.type.sortKey) ms).map (·.shift n)).map (·.type) =
      (sortByKey (·.type.sortKey) ms).map (·.type) := by
    rw [List.map_map]
    rfl
  unfold Ty.assemble
  simp only [hsort, htypes]
  exact (h.validate mode _).bind fun _ => .pure id R _

theorem readGroup (h : Counterparts R n rules rules') (p : Piece) :
    Lockstep id R (Ty.readGroup rules p) (Ty.readGroup rules' (p.shift n)) := by
  refine (Lockstep.ofExcept (agree_groupBody h.placed p)).bind fun body => ?_
  exact (Lockstep.mapM_cut h.readLeaf '&' body).bind (h.assemble .intersection)

theorem readSegment (h : Counterparts R n rules rules') (p : Piece) :
    Lockstep (·.shift n) R (Ty.readSegment rules p) (Ty.readSegment rules' (p.shift n)) := by
  unfold Ty.readSegment
  rw [Piece.span_shift, Piece.text_shift]
  split
  · exact (h.readGroup p).bind fun t => .pure (Placed.shift · n) R ⟨t, p.span⟩
  · exact h.readLeaf p

theorem readUnion (h : Counterparts R n rules rules') (p : Piece) :
    Lockstep id R (Ty.readUnion rules p) (Ty.readUnion rules' (p.shift n)) := by
  exact (Lockstep.mapM_cut h.readSegment '|' p).bind (h.assemble .union)

end Counterparts
end TypeExpr
