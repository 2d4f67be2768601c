import TypeExpr.Proofs.Ty.Build

/-!
# `TypeExpr.Proofs.Ty.Steps`: reading step by step

Reading a composite type takes steps of three kinds: an atom is read from a segment, a group is
given up because its parenthesis is not closed, or the rules are asked about an atom and its
siblings. Which steps there are to take, and in what order, depends on the text and on what its
segments are read as (`steps`), and not on the answers of the rules. A reader takes the steps one
after the other, and the first that fails is the last it takes.

An inquiry **follows** a list of steps if it asks just the questions of the steps that are taken,
and fails just if one of them does, with its error. Inquiries in sequence follow the steps of each
(`Follows.bind`, `Follows.mapM`), so that every reader has its steps: `follows_readGroup`,
`follows_readSegment`, `follows_readUnion`, and for whole texts `follows_inquire`.
-/

namespace TypeExpr.Ty

/-! ### Steps -/

/-- A step on the way to a composite type. -/
inductive Step where
  /-- An atom is read from a trimmed segment. -/
  | read (p : Piece)
  /-- A group is given up, because it opens a parenthesis and does not close it. -/
  | unclosed (p : Piece)
  /-- The rules are asked about an atom that was found in some place. -/
  | ask (c : Consultation) (place : Span)
deriving DecidableEq, Repr

namespace Step

/-- The question that a step puts to the rules, if it puts one. -/
def question? : Step → Option Consultation
  | ask c _ => some c
  | _ => none

/-- The error with which a step fails, if it does. -/
def failure? (rules : Rules) : Step → Option Error
  | read p =>
    match rules.readAtom p.text with
    | .ok _ => none
    | .error e => some (e.locate p.span)
  | unclosed p => some ⟨.unclosedGroup, p.text, some p.span⟩
  | ask c place =>
    match rules.check c.mode c.atom c.others with
    | .ok _ => none
    | .error e => some (e.locate place)

end Step

/-- The steps that are taken: all up to the first that fails, and that one. -/
def taken (rules : Rules) : List Step → List Step
  | [] => []
  | s :: rest => if (s.failure? rules).isSome then [s] else s :: taken rules rest

/-- The error of the first step that fails, if one does. -/
def firstFailure? (rules : Rules) (steps : List Step) : Option Error :=
  steps.findSome? (Step.failure? rules)

section Taken

variable {rules : Rules} {first rest : List Step}

theorem firstFailure?_eq_none_iff :
    firstFailure? rules first = none ↔ ∀ s ∈ first, s.failure? rules = none :=
  List.findSome?_eq_none_iff

theorem firstFailure?_append :
    firstFailure? rules (first ++ rest) =
      (firstFailure? rules first).or (firstFailure? rules rest) :=
  List.findSome?_append

/-- Steps that do not fail are taken, and then those after them. -/
theorem taken_append_of_none (h : firstFailure? rules first = none) :
    taken rules (first ++ rest) = first ++ taken rules rest := by
  rw [firstFailure?_eq_none_iff] at h
  induction first with
  | nil => rfl
  | cons s first ih =>
      obtain ⟨hs, hfirst⟩ := List.forall_mem_cons.mp h
      rw [List.cons_append, taken, hs, if_neg (by simp), ih hfirst, List.cons_append]

/-- After a failure no step is taken. -/
theorem taken_append_of_some {e : Error} (h : firstFailure? rules first = some e) :
    taken rules (first ++ rest) = taken rules first := by
  induction first with
  | nil => cases h
  | cons s first ih =>
      rw [List.cons_append, taken, taken]
      split
      · rfl
      · next hs =>
          have hnone : s.failure? rules = none := by simpa using hs
          rw [firstFailure?, List.findSome?_cons, hnone] at h
          rw [ih h]

theorem taken_of_none (h : firstFailure? rules first = none) : taken rules first = first := by
  have happend : taken rules (first ++ []) = first ++ taken rules [] := taken_append_of_none h
  rwa [List.append_nil, taken, List.append_nil] at happend

end Taken

/-! ### Following steps -/

/-- The inquiry asks the questions of the steps that are taken, and fails just if one of them fails,
with its error. -/
structure Follows {α : Type} (rules : Rules) (x : Inquiry α) (steps : List Step) : Prop where
  asked_eq : x.asked = (taken rules steps).filterMap Step.question?
  outcome_eq_error_iff : ∀ e, x.outcome = .error e ↔ firstFailure? rules steps = some e

namespace Follows

variable {α β : Type} {rules : Rules} {x : Inquiry α} {steps : List Step}

theorem firstFailure?_of_ok (h : Follows rules x steps) {a : α} (ha : x.outcome = .ok a) :
    firstFailure? rules steps = none := by
  by_contra hfail
  obtain ⟨e, he⟩ := Option.ne_none_iff_exists'.mp hfail
  rw [(h.outcome_eq_error_iff e).mpr he] at ha
  cases ha

theorem exists_ok (h : Follows rules x steps) (hnone : firstFailure? rules steps = none) :
    ∃ a, x.outcome = .ok a := by
  cases hx : x.outcome with
  | ok a => exact ⟨a, rfl⟩
  | error e =>
      rw [(h.outcome_eq_error_iff e).mp hx] at hnone
      cases hnone

/-- If no step fails, all questions are asked. -/
theorem asked_of_none (h : Follows rules x steps) (hnone : ∀ s ∈ steps, s.failure? rules = none) :
    x.asked = steps.filterMap Step.question? ∧ ∃ a, x.outcome = .ok a := by
  rw [← firstFailure?_eq_none_iff] at hnone
  refine ⟨?_, h.exists_ok hnone⟩
  rw [h.asked_eq, taken_of_none hnone]

/-- If a step is the first to fail, the questions up to it are asked, and its error is the
outcome. -/
theorem asked_of_failure {before after : List Step} {s : Step} {e : Error}
    (h : Follows rules x (before ++ s :: after)) (hbefore : ∀ r ∈ before, r.failure? rules = none)
    (hs : s.failure? rules = some e) :
    x.asked = (before ++ [s]).filterMap Step.question? ∧ x.outcome = .error e := by
  rw [← firstFailure?_eq_none_iff] at hbefore
  have hfirst : firstFailure? rules (s :: after) = some e := by
    rw [firstFailure?, List.findSome?_cons, hs]
  have htaken : taken rules (s :: after) = [s] := by
    rw [taken, hs]
    rfl
  constructor
  · rw [h.asked_eq, taken_append_of_none hbefore, htaken]
  · rw [h.outcome_eq_error_iff, firstFailure?_append, hbefore, Option.none_or, hfirst]

theorem pure (rules : Rules) (a : α) : Follows rules (Pure.pure a : Inquiry α) [] :=
  ⟨rfl, fun _ => ⟨fun h => (nomatch h), fun h => (nomatch h)⟩⟩

/-- A single step, which puts its question if it has one. -/
theorem single {s : Step} (hasked : x.asked = s.question?.toList)
    (houtcome : ∀ e, x.outcome = .error e ↔ s.failure? rules = some e) : Follows rules x [s] := by
  refine ⟨?_, fun e => ?_⟩
  · have htaken : taken rules [s] = [s] := by
      rw [taken, taken]
      exact ite_self [s]
    rw [htaken, hasked]
    cases hs : s.question? <;> simp [hs]
  · rw [houtcome e, firstFailure?, List.findSome?_cons, List.findSome?_nil]
    cases s.failure? rules <;> simp

/-- **One after the other.** What comes second is of interest only if what comes first succeeds. -/
theorem bind (h : Follows rules x steps) {f : α → Inquiry β} {rest : List Step}
    (hf : ∀ a, x.outcome = .ok a → Follows rules (f a) rest) :
    Follows rules (x >>= f) (steps ++ rest) := by
  cases hx : x.outcome with
  | error e =>
      have hfail := (h.outcome_eq_error_iff e).mp hx
      rw [Inquiry.bind_of_error hx]
      refine ⟨?_, fun e' => ?_⟩
      · rw [taken_append_of_some hfail]
        exact h.asked_eq
      · rw [firstFailure?_append, hfail]
        simp
  | ok a =>
      have hnone := h.firstFailure?_of_ok hx
      have hrest := hf a hx
      rw [Inquiry.bind_of_ok hx]
      refine ⟨?_, fun e' => ?_⟩
      · rw [taken_append_of_none hnone, List.filterMap_append, ← hrest.asked_eq, h.asked_eq,
          taken_of_none hnone]
      · rw [firstFailure?_append, hnone, Option.none_or]
        exact hrest.outcome_eq_error_iff e'

/-- What is made of a result takes no step. -/
theorem map (h : Follows rules x steps) (f : α → β) :
    Follows rules (x >>= fun a => Pure.pure (f a)) steps := by
  have hmap := h.bind (f := fun a => Pure.pure (f a)) fun a _ => Follows.pure rules (f a)
  rwa [List.append_nil] at hmap

theorem mapM {γ : Type} {f : γ → Inquiry β} {stepsOf : γ → List Step} {xs : List γ}
    (h : ∀ c ∈ xs, Follows rules (f c) (stepsOf c)) :
    Follows rules (xs.mapM f) (xs.flatMap stepsOf) := by
  induction xs with
  | nil => exact Follows.pure rules []
  | cons c cs ih =>
      obtain ⟨hc, hcs⟩ := List.forall_mem_cons.mp h
      rw [List.mapM_cons, List.flatMap_cons]
      exact hc.bind fun b _ => (ih hcs).map (b :: ·)

theorem forM {γ : Type} {f : γ → Inquiry Unit} {stepsOf : γ → List Step} {xs : List γ}
    (h : ∀ c ∈ xs, Follows rules (f c) (stepsOf c)) :
    Follows rules (xs.forM f) (xs.flatMap stepsOf) := by
  induction xs with
  | nil => exact Follows.pure rules ()
  | cons c cs ih =>
      obtain ⟨hc, hcs⟩ := List.forall_mem_cons.mp h
      rw [List.flatMap_cons]
      exact hc.bind fun _ _ => ih hcs

end Follows

/-! ### Questions about siblings -/

/-- Atoms, each with its place, in canonical order. -/
def inOrder (as : List (Atom × Span)) : List (Atom × Span) :=
  sortByKey (fun a => (Ty.atom a.1).sortKey) as

/-- The questions about atoms that are siblings: each is asked about beside all the others, which
are those at other positions. An atom without siblings is not asked about. -/
def questions (mode : Mode) (as : List (Atom × Span)) : List Step :=
  if as.length < 2 then []
  else as.mapIdx fun i a => .ask ⟨mode, a.1, (as.eraseIdx i).map Prod.fst⟩ a.2

theorem map_mapIdx {α β γ : Type} (f : Nat → α → β) (g : β → γ) (xs : List α) :
    (xs.mapIdx f).map g = xs.mapIdx fun i x => g (f i x) := by
  rw [List.mapIdx_eq_zipIdx_map, List.mapIdx_eq_zipIdx_map, List.map_map]
  rfl

/-- The others of an entry are the entries at other positions. -/
theorem withOthers_eq_mapIdx {α : Type} (xs : List α) :
    withOthers xs = xs.mapIdx fun i x => (x, xs.eraseIdx i) := by
  induction xs with
  | nil => rfl
  | cons x xs ih =>
      rw [withOthers, ih, List.mapIdx_cons, map_mapIdx]
      rfl

/-- Of two entries or more, each has others. -/
theorem others_ne_nil {α : Type} {xs : List α} (two : 2 ≤ xs.length) {p : α × List α}
    (h : p ∈ withOthers xs) : p.2 ≠ [] := by
  obtain ⟨before, after, rfl, hp⟩ := mem_withOthers.mp h
  rw [hp]
  intro hnil
  obtain ⟨rfl, rfl⟩ := List.append_eq_nil_iff.mp hnil
  exact absurd two (by simp)

theorem follows_consult (rules : Rules) (mode : Mode) (a : Atom × Span) {others : List Atom}
    (hne : others ≠ []) :
    Follows rules (consult rules mode a others) [.ask ⟨mode, a.1, others⟩ a.2] := by
  have hempty : others.isEmpty = false := by simpa using hne
  unfold consult
  rw [if_neg (by simp [hempty])]
  refine Follows.single rfl fun e => ?_
  simp only [Step.failure?]
  cases rules.check mode a.1 others <;> simp [Except.mapError]

/-- Validating asks the questions about the atoms among the members. -/
theorem follows_validate (rules : Rules) (mode : Mode) (ms : List Placed) :
    Follows rules (validate rules mode ms) (questions mode (placedAtoms ms)) := by
  unfold validate questions
  split
  · next hshort =>
      -- there is at most one atom, and it has no siblings
      have hnone : ∀ p ∈ withOthers (placedAtoms ms),
          Follows rules (consult rules mode p.1 (p.2.map Prod.fst)) [] := by
        intro p hp
        obtain ⟨before, after, hms, hothers⟩ := mem_withOthers.mp hp
        have hlength := congrArg List.length hms
        rw [List.length_append, List.length_cons] at hlength
        have hnil : p.2 = [] := by
          rw [hothers, List.append_eq_nil_iff, ← List.length_eq_zero_iff, ← List.length_eq_zero_iff]
          omega
        rw [consult, hnil]
        exact Follows.pure rules ()
      have hall := Follows.forM hnone
      rwa [List.flatMap_eq_nil_iff.mpr fun _ _ => rfl] at hall
  · next htwo =>
      have hask : ∀ p ∈ withOthers (placedAtoms ms),
          Follows rules (consult rules mode p.1 (p.2.map Prod.fst))
            [.ask ⟨mode, p.1.1, p.2.map Prod.fst⟩ p.1.2] := by
        intro p hp
        have hne : p.2 ≠ [] := others_ne_nil (Nat.le_of_not_lt htwo) hp
        exact follows_consult rules mode p.1 (mt List.map_eq_nil_iff.mp hne)
      have hquestions : ((withOthers (placedAtoms ms)).flatMap fun p =>
          [Step.ask ⟨mode, p.1.1, p.2.map Prod.fst⟩ p.1.2]) =
          (placedAtoms ms).mapIdx fun i a =>
            .ask ⟨mode, a.1, ((placedAtoms ms).eraseIdx i).map Prod.fst⟩ a.2 := by
        rw [← List.map_eq_flatMap, withOthers_eq_mapIdx, map_mapIdx]
      rw [← hquestions]
      exact Follows.forM hask

/-! ### Atoms in order -/

/-- The atoms among sorted members are in order. -/
theorem placedAtoms_sortByKey (ms : List Placed) :
    placedAtoms (sortByKey (·.type.sortKey) ms) = inOrder (placedAtoms ms) := by
  refine filterMap_sortByKey (fun m a h => ?_) ms
  obtain ⟨b, hb, rfl⟩ := Option.map_eq_some_iff.mp h
  obtain ⟨type, span⟩ := m
  cases type with
  | atom c =>
      cases hb
      rfl
  | combine mode ts => cases hb

/-- Combining members asks about the atoms among them, in canonical order. -/
theorem follows_assemble (rules : Rules) (mode : Mode) (ms : List Placed) :
    Follows rules (assemble rules mode ms) (questions mode (inOrder (placedAtoms ms))) := by
  rw [← placedAtoms_sortByKey]
  exact (follows_validate rules mode _).map fun _ => _

theorem atom?_of_assemble {rules : Rules} {mode : Mode} {ms : List Placed} {t : Ty}
    (h : (assemble rules mode ms).outcome = .ok t) : t.atom? = none := by
  rw [assemble, Inquiry.outcome_bind] at h
  obtain ⟨_, -, h⟩ := bind_eq_ok_iff.mp h
  cases h
  rfl

/-! ### The steps of a text -/

section Protocol

variable (readAtom : Text → Except Error Atom)

/-- The atoms that pieces are read as, each with its place. -/
def atomsAt (ps : List Piece) : List (Atom × Span) :=
  ps.filterMap fun p => (readAtom p.text).toOption.map (·, p.span)

/-- The steps of a group: all its atoms are read, and then each is asked about. -/
def groupSteps (p : Piece) : List Step :=
  match groupBody p with
  | .error _ => [.unclosed p]
  | .ok body =>
    let parts := (body.cut '&').map Piece.trim
    parts.map .read ++ questions .intersection (inOrder (atomsAt readAtom parts))

/-- The steps of a segment of a union. -/
def segmentSteps (p : Piece) : List Step :=
  if p.text.contains '&' then groupSteps readAtom p else [.read p]

/-- The steps of a union: those of its segments, and then each atom that is a segment is asked about
beside the others. -/
def unionSteps (p : Piece) : List Step :=
  let parts := (p.cut '|').map Piece.trim
  parts.flatMap (segmentSteps readAtom) ++
    questions .union (inOrder (atomsAt readAtom (parts.filter fun q => !q.text.contains '&')))

/-- The steps of a text that holds a separator. -/
def steps (t : Text) : List Step :=
  let p := (Piece.ofText t).trim
  if p.text.contains '|' then unionSteps readAtom p else groupSteps readAtom p

end Protocol

/-! ### Readers follow their steps -/

variable {rules : Rules}

theorem follows_readLeaf (rules : Rules) (p : Piece) :
    Follows rules (readLeaf rules p) [.read p] := by
  refine Follows.single rfl fun e => ?_
  simp only [readLeaf, Inquiry.outcome_ofExcept, Step.failure?]
  cases rules.readAtom p.text <;> simp [Except.map, Except.mapError]

theorem readLeaf_eq_ok_iff {p : Piece} {m : Placed} :
    (readLeaf rules p).outcome = .ok m ↔
      ∃ a, rules.readAtom p.text = .ok a ∧ m = ⟨.atom a, p.span⟩ := by
  simp only [readLeaf, Inquiry.outcome_ofExcept]
  cases rules.readAtom p.text <;> simp [Except.map, Except.mapError, eq_comm]

theorem groupBody_eq_error {p : Piece} {e : Error} (h : groupBody p = .error e) :
    e = ⟨.unclosedGroup, p.text, some p.span⟩ := by
  unfold groupBody at h
  split at h
  · split at h
    · cases h
    · cases h
      rfl
  · cases h

/-- Pieces that were read as atoms are the atoms at their places. -/
theorem placedAtoms_of_readLeaf {ps : List Piece} {ms : List Placed}
    (h : List.Forall₂ (fun p m => (readLeaf rules p).outcome = .ok m) ps ms) :
    placedAtoms ms = atomsAt rules.readAtom ps := by
  induction h with
  | nil => rfl
  | cons hp _ ih =>
      obtain ⟨a, ha, rfl⟩ := readLeaf_eq_ok_iff.mp hp
      unfold placedAtoms atomsAt at ih ⊢
      rw [List.filterMap_cons, List.filterMap_cons, ih, ha]
      rfl

theorem follows_readGroup (rules : Rules) (p : Piece) :
    Follows rules (readGroup rules p) (groupSteps rules.readAtom p) := by
  unfold readGroup groupSteps
  cases hbody : groupBody p with
  | error e =>
      obtain rfl := groupBody_eq_error hbody
      refine Follows.single rfl fun e' => ?_
      rw [Inquiry.bind_of_error rfl]
      simp [Step.failure?]
  | ok body =>
      have hreads : Follows rules (((body.cut '&').map Piece.trim).mapM (readLeaf rules))
          (((body.cut '&').map Piece.trim).map .read) := by
        have hall := Follows.mapM fun p (_ : p ∈ (body.cut '&').map Piece.trim) =>
          follows_readLeaf rules p
        rwa [← List.map_eq_flatMap] at hall
      have hgroup := hreads.bind (f := assemble rules .intersection) fun ms hms => by
        rw [Inquiry.outcome_mapM, mapM_eq_ok_iff] at hms
        have hquestions := follows_assemble rules .intersection ms
        rwa [placedAtoms_of_readLeaf hms] at hquestions
      rw [List.mapM_map] at hgroup
      rw [Inquiry.bind_of_ok rfl]
      exact hgroup

theorem atom?_of_readGroup {p : Piece} {t : Ty} (h : (readGroup rules p).outcome = .ok t) :
    t.atom? = none := by
  rw [readGroup, Inquiry.outcome_bind] at h
  obtain ⟨_, -, h⟩ := bind_eq_ok_iff.mp h
  rw [Inquiry.outcome_bind] at h
  obtain ⟨_, -, h⟩ := bind_eq_ok_iff.mp h
  exact atom?_of_assemble h

theorem follows_readSegment (rules : Rules) (p : Piece) :
    Follows rules (readSegment rules p) (segmentSteps rules.readAtom p) := by
  unfold readSegment segmentSteps
  split
  · exact (follows_readGroup rules p).map fun t => (⟨t, p.span⟩ : Placed)
  · exact follows_readLeaf rules p

/-- Segments that were read have the atoms of those that are no groups. -/
theorem placedAtoms_of_readSegment {ps : List Piece} {ms : List Placed}
    (h : List.Forall₂ (fun p m => (readSegment rules p).outcome = .ok m) ps ms) :
    placedAtoms ms = atomsAt rules.readAtom (ps.filter fun p => !p.text.contains '&') := by
  induction h with
  | nil => rfl
  | @cons p m ps ms hp _ ih =>
      unfold readSegment at hp
      unfold placedAtoms at ih ⊢
      split at hp
      · next hamp =>
          rw [Inquiry.outcome_bind] at hp
          obtain ⟨t, ht, hm⟩ := bind_eq_ok_iff.mp hp
          cases hm
          rw [List.filterMap_cons, atom?_of_readGroup ht, ih,
            List.filter_cons_of_neg (by simpa using hamp)]
          rfl
      · next hamp =>
          obtain ⟨a, ha, rfl⟩ := readLeaf_eq_ok_iff.mp hp
          rw [List.filterMap_cons, ih, List.filter_cons_of_pos (by simpa using hamp), atomsAt,
            atomsAt, List.filterMap_cons, ha]
          rfl

theorem follows_readUnion (rules : Rules) (p : Piece) :
    Follows rules (readUnion rules p) (unionSteps rules.readAtom p) := by
  have hsegments : Follows rules (((p.cut '|').map Piece.trim).mapM (readSegment rules))
      (((p.cut '|').map Piece.trim).flatMap (segmentSteps rules.readAtom)) :=
    Follows.mapM fun q _ => follows_readSegment rules q
  have hunion := hsegments.bind (f := assemble rules .union) fun ms hms => by
    rw [Inquiry.outcome_mapM, mapM_eq_ok_iff] at hms
    have hquestions := follows_assemble rules .union ms
    rwa [placedAtoms_of_readSegment hms] at hquestions
  rw [List.mapM_map] at hunion
  exact hunion

/-- **Reading follows the steps of the text.** -/
theorem follows_inquire (rules : Rules) {t : Text} (h : t.isComposite = true) :
    Follows rules (inquire rules t) (steps rules.readAtom t) := by
  simp only [inquire, steps, h, Bool.not_true, Bool.false_eq_true, if_false]
  split
  · exact follows_readUnion rules _
  · exact follows_readGroup rules _

end TypeExpr.Ty
