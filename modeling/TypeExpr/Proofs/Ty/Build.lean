import TypeExpr.Proofs.Outcome
import TypeExpr.Proofs.Text.Parts
import TypeExpr.Proofs.Ty.Canonical
import TypeExpr.Ty.Parse

/-!
# `TypeExpr.Proofs.Ty.Build`: reading without positions

Readers work on pieces, which know where they are. What they build, and whether they fail and how,
depends on the texts alone: `build` splits a text, trims the parts and reads them, and a parser has
the outcome of `build` but for the position in an error (`unplaced_parseWith`).

The checks on company are gathered in a **verdict** on a list of atoms, which is passed just if each
atom is accepted beside the others (`Rules.verdict_eq_ok_iff`).
-/

namespace TypeExpr

/-! ### Siblings -/

namespace Ty

variable {α β : Type}

theorem withOthers_map (f : α → β) (xs : List α) :
    withOthers (xs.map f) = (withOthers xs).map fun p => (f p.1, p.2.map f) := by
  induction xs with
  | nil => rfl
  | cons x xs ih =>
      rw [List.map_cons, withOthers, withOthers, ih, List.map_cons, List.map_map, List.map_map]
      rfl

/-- The others of an entry are the entries before it and after it. -/
theorem mem_withOthers {xs : List α} {p : α × List α} :
    p ∈ withOthers xs ↔ ∃ before after, xs = before ++ p.1 :: after ∧ p.2 = before ++ after := by
  obtain ⟨y, ys⟩ := p
  induction xs generalizing ys with
  | nil => simp [withOthers]
  | cons x xs ih =>
      rw [withOthers, List.mem_cons, List.mem_map]
      -- the entry is `x` itself, or one further back that has `x` among its others
      constructor
      · intro h
        rcases h with h | ⟨⟨z, zs⟩, hz, h⟩
        · obtain ⟨rfl, rfl⟩ := Prod.mk.inj h
          exact ⟨[], ys, rfl, rfl⟩
        · obtain ⟨rfl, rfl⟩ := Prod.mk.inj h
          obtain ⟨before, after, rfl, rfl⟩ := (ih zs).mp hz
          exact ⟨x :: before, after, rfl, rfl⟩
      · intro h
        obtain ⟨before, after, hxs, rfl⟩ := h
        cases before with
        | nil =>
            obtain ⟨rfl, rfl⟩ := List.cons.inj hxs
            exact .inl rfl
        | cons z zs =>
            obtain ⟨rfl, rfl⟩ := List.cons.inj hxs
            exact .inr ⟨(y, zs ++ after), (ih _).mpr ⟨zs, after, rfl, rfl⟩, rfl⟩

/-- What each entry is to all others, every two entries are to each other. -/
theorem forall_withOthers_iff {R : α → α → Prop} {xs : List α} :
    (∀ p ∈ withOthers xs, ∀ y ∈ p.2, R p.1 y) ↔ xs.Pairwise fun a b => R a b ∧ R b a := by
  induction xs with
  | nil => simp [withOthers]
  | cons x xs ih =>
      rw [withOthers, List.forall_mem_cons, List.pairwise_cons, ← ih]
      simp only [List.mem_map]
      -- what `x` is to the rest is asked of `x`, and what the rest are to `x` is asked of each of
      -- them
      constructor
      · intro h
        obtain ⟨hx, hxs⟩ := h
        refine ⟨fun y hy => ⟨hx y hy, ?_⟩, fun p hp y hy => ?_⟩
        · obtain ⟨before, after, rfl⟩ := List.append_of_mem hy
          have hp : (y, before ++ after) ∈ withOthers (before ++ y :: after) :=
            mem_withOthers.mpr ⟨before, after, rfl, rfl⟩
          exact hxs _ ⟨_, hp, rfl⟩ x (by simp)
        · exact hxs _ ⟨p, hp, rfl⟩ y (List.mem_cons_of_mem x hy)
      · intro h
        obtain ⟨hx, hxs⟩ := h
        refine ⟨fun y hy => (hx y hy).1, ?_⟩
        rintro _ ⟨p, hp, rfl⟩ y hy
        rcases List.mem_cons.mp hy with rfl | hy
        · obtain ⟨before, after, rfl, -⟩ := mem_withOthers.mp hp
          exact (hx p.1 (by simp)).2
        · exact hxs p hp y hy

end Ty

/-! ### Validation -/

namespace Rules

/-- Lets each of the atoms answer to the others, one after the other. -/
def verdict (rules : Rules) (mode : Mode) (as : List Atom) : Except Error Unit :=
  forM (Ty.withOthers as) fun p => if p.2.isEmpty then .ok () else rules.check mode p.1 p.2

theorem verdict_eq_ok_iff {rules : Rules} {mode : Mode} {as : List Atom} :
    rules.verdict mode as = .ok () ↔
      ∀ p ∈ Ty.withOthers as, p.2 ≠ [] → rules.check mode p.1 p.2 = .ok () := by
  rw [verdict, forM_eq_ok_iff]
  refine forall₂_congr fun p _ => ?_
  cases p.2 with
  | nil => simp
  | cons o os => simp

end Rules

namespace Ty

theorem map_fst_placedAtoms (ms : List Placed) :
    (placedAtoms ms).map Prod.fst = atomicMembers (ms.map (·.type)) := by
  rw [placedAtoms, atomicMembers, List.map_filterMap, List.filterMap_map]
  refine List.filterMap_congr fun m _ => ?_
  cases h : m.type.atom? <;> simp [h]

theorem unplaced_consult (rules : Rules) (mode : Mode) (a : Atom × Span) (others : List Atom) :
    unplaced (consult rules mode a others).outcome =
      unplaced (if others.isEmpty then .ok () else rules.check mode a.1 others) := by
  unfold consult
  split
  · rfl
  · exact unplaced_mapError_locate _ _

theorem unplaced_validate (rules : Rules) (mode : Mode) (ms : List Placed) :
    unplaced (validate rules mode ms).outcome =
      unplaced (rules.verdict mode (atomicMembers (ms.map (·.type)))) := by
  rw [validate, List.forM_eq_forM, Inquiry.outcome_forM, unplaced_forM, Rules.verdict,
    ← map_fst_placedAtoms, withOthers_map, List.forM_map, unplaced_forM]
  exact congrArg (forM _) (funext fun p => by rw [unplaced_consult, List.isEmpty_map])

/-! ### Building -/

/-- Combines types, wherever they were found. -/
def settle (rules : Rules) (mode : Mode) (ts : List Ty) : Except Error Ty := do
  rules.verdict mode (atomicMembers (sort ts))
  return .combine mode (sort ts)

theorem unplaced_assemble (rules : Rules) (mode : Mode) (ms : List Placed) :
    unplaced (assemble rules mode ms).outcome = unplaced (settle rules mode (ms.map (·.type))) := by
  have hsort : (sortByKey (·.type.sortKey) ms).map (·.type) = sort (ms.map (·.type)) :=
    map_sortByKey (·.type) sortKey ms
  rw [assemble, Inquiry.outcome_bind, unplaced_bind, unplaced_validate, settle, unplaced_bind,
    hsort]
  rfl

theorem settle_eq_ok_iff {rules : Rules} {mode : Mode} {ts : List Ty} {t : Ty} :
    settle rules mode ts = .ok t ↔
      rules.verdict mode (atomicMembers (sort ts)) = .ok () ∧ t = .combine mode (sort ts) := by
  rw [settle, bind_eq_ok_iff]
  exact ⟨fun ⟨_, hv, ht⟩ => ⟨hv, (Except.ok.inj ht).symm⟩, fun ⟨hv, ht⟩ => ⟨(), hv, ht ▸ rfl⟩⟩

theorem settle_eq_of_sort_eq {ts us : List Ty} (h : sort ts = sort us) (rules : Rules)
    (mode : Mode) : settle rules mode ts = settle rules mode us := by
  rw [settle, settle, h]

end Ty

namespace Text

/-- The text without one pair of parentheses around it, if it opens with one. -/
def unwrap : Text → Text
  | '(' :: rest => rest.dropLast
  | t => t

/-- Whether the text opens with a parenthesis and does not end in one. -/
def isUnclosed : Text → Bool
  | '(' :: rest => rest.getLast? != some ')'
  | _ => false

theorem unwrap_enclosed (t : Text) : unwrap ('(' :: (t ++ [')'])) = t := List.dropLast_concat

theorem isUnclosed_enclosed (t : Text) : isUnclosed ('(' :: (t ++ [')'])) = false := by
  simp [isUnclosed]

theorem trim_enclosed (t : Text) : trim ('(' :: (t ++ [')'])) = '(' :: (t ++ [')']) := by
  refine trim_eq_self_iff.mpr ⟨fun c hc => ?_, fun c hc => ?_⟩
  · rw [← Option.some.inj hc]
    decide
  · rw [← List.cons_append, List.getLast?_concat] at hc
    rw [← Option.some.inj hc]
    decide

theorem unwrap_of_ne {t : Text} (h : ∀ rest, t ≠ '(' :: rest) : t.unwrap = t := by
  unfold unwrap
  split
  · next rest => exact absurd rfl (h rest)
  · rfl

theorem unwrap_of_not_mem {t : Text} (h : '(' ∉ t) : t.unwrap = t := by
  refine unwrap_of_ne fun rest ht => h ?_
  rw [ht]
  exact List.mem_cons_self ..

theorem isUnclosed_of_not_mem {t : Text} (h : '(' ∉ t) : t.isUnclosed = false := by
  unfold isUnclosed
  split
  · exact absurd (List.mem_cons_self ..) h
  · rfl

/-- A text that is not left open has no parentheses around it, or a pair of them. -/
theorem unwrap_eq_or {t : Text} (h : t.isUnclosed = false) :
    t.unwrap = t ∨ t = '(' :: (t.unwrap ++ [')']) := by
  unfold isUnclosed at h
  unfold unwrap
  split at h
  · next rest =>
      have hlast : rest.getLast? = some ')' := by simpa using h
      obtain ⟨inner, rfl⟩ := List.getLast?_eq_some_iff.mp hlast
      exact .inr (by simp)
  · exact .inl rfl

theorem count_unwrap {c : Char} (hopen : c ≠ '(') (hclose : c ≠ ')') {t : Text}
    (h : t.isUnclosed = false) : t.unwrap.count c = t.count c := by
  rcases unwrap_eq_or h with ht | ht
  · rw [ht]
  · conv => rhs; rw [ht]
    rw [List.count_cons_of_ne (Ne.symm hopen), List.count_append, List.count_singleton]
    simp [Ne.symm hclose]

end Text

namespace Ty

/-- Builds a group from its text. -/
def buildGroup (rules : Rules) (t : Text) : Except Error Ty :=
  if t.isUnclosed then .error ⟨.unclosedGroup, t, none⟩
  else do
    let ts ← (t.unwrap.parts '&').mapM fun s => (rules.readAtom s).map .atom
    settle rules .intersection ts

/-- Builds a member of a union from the text of its segment. -/
def buildMember (rules : Rules) (t : Text) : Except Error Ty :=
  if t.contains '&' then buildGroup rules t else (rules.readAtom t).map .atom

/-- Builds a composite type from a text. -/
def build (rules : Rules) (t : Text) : Except Error Ty :=
  if !t.isComposite then .error ⟨.notComposite, t, none⟩
  else if t.contains '|' then do
    let ts ← (t.parts '|').mapM (buildMember rules)
    settle rules .union ts
  else buildGroup rules t.trim

/-! ### Parsing is building -/

/-- Reading the trimmed parts of a piece is reading the trimmed parts of its text. -/
theorem mapM_cut {α : Type} (sep : Char) (p : Piece) (f : Text → Except Error α) :
    ((p.cut sep).mapM fun q => f q.trim.text) = (p.text.parts sep).mapM f := by
  rw [Text.parts, ← Piece.map_text_cut, List.map_map, List.mapM_map]
  rfl

theorem unplaced_readLeaf (rules : Rules) (p : Piece) :
    unplaced ((readLeaf rules p).outcome.map (·.type)) =
      unplaced ((rules.readAtom p.text).map .atom) := by
  unfold readLeaf
  cases rules.readAtom p.text <;> rfl

/-- A sequence of readings, seen only by what is built. -/
theorem map_type_mapM {α : Type} (f : α → Except Error Placed) (xs : List α) :
    (xs.mapM f).map (List.map (·.type)) = xs.mapM fun x => (f x).map (·.type) := by
  induction xs with
  | nil => rfl
  | cons x xs ih =>
      rw [List.mapM_cons, List.mapM_cons, ← ih]
      cases f x with
      | error e => rfl
      | ok m => cases xs.mapM f <;> rfl

/-- Members read from the parts of a piece and put together are built from the parts of its text. -/
theorem unplaced_mapM_assemble {rules : Rules} {mode : Mode} {sep : Char} {p : Piece}
    {read : Piece → Inquiry Placed} {member : Text → Except Error Ty}
    (h : ∀ q, unplaced ((read q).outcome.map (·.type)) = unplaced (member q.text)) :
    unplaced (do
      let ms ← (p.cut sep).mapM fun q => read q.trim
      assemble rules mode ms : Inquiry Ty).outcome =
    unplaced (do
      let ts ← (p.text.parts sep).mapM member
      settle rules mode ts) := by
  have hmembers : unplaced (((p.cut sep).mapM fun q : Piece => (read q.trim).outcome).map
      (List.map (·.type))) = unplaced ((p.text.parts sep).mapM member) := by
    rw [map_type_mapM, unplaced_mapM, unplaced_mapM, ← mapM_cut sep p fun t => unplaced (member t)]
    simp only [h]
  rw [Inquiry.outcome_bind, Inquiry.outcome_mapM, unplaced_bind, unplaced_bind, ← hmembers]
  cases (p.cut sep).mapM (fun q : Piece => (read q.trim).outcome) with
  | error e => rfl
  | ok ms => exact unplaced_assemble rules mode ms

theorem groupBody_of_isUnclosed {p : Piece} (h : p.text.isUnclosed = true) :
    groupBody p = .error ⟨.unclosedGroup, p.text, some p.span⟩ := by
  unfold groupBody
  unfold Text.isUnclosed at h
  split at h
  · next rest hp => simp [hp, bne_iff_ne.mp h]
  · exact absurd h (by simp)

theorem groupBody_of_ne {p : Piece} (h : ∀ rest, p.text ≠ '(' :: rest) : groupBody p = .ok p := by
  unfold groupBody
  split
  · next rest hp => exact absurd hp (h rest)
  · rfl

/-- The body of a group has the parts of its text without the parentheses. -/
theorem groupBody_of_not_isUnclosed {p : Piece} (h : p.text.isUnclosed = false) :
    ∃ body, groupBody p = .ok body ∧ body.text.parts '&' = p.text.unwrap.parts '&' := by
  by_cases hopen : ∃ rest, p.text = '(' :: rest
  · obtain ⟨rest, hp⟩ := hopen
    have hclosed : rest.getLast? = some ')' := by simpa [hp, Text.isUnclosed] using h
    refine ⟨Piece.trim ⟨p.start + 1, rest.dropLast⟩, by simp [groupBody, hp, hclosed], ?_⟩
    rw [Piece.text_trim, Text.parts_trim (by decide), hp, Text.unwrap]
  · have hne : ∀ rest, p.text ≠ '(' :: rest := fun rest hp => hopen ⟨rest, hp⟩
    exact ⟨p, groupBody_of_ne hne, by rw [Text.unwrap_of_ne hne]⟩

theorem unplaced_readGroup (rules : Rules) (p : Piece) :
    unplaced (readGroup rules p).outcome = unplaced (buildGroup rules p.text) := by
  rw [readGroup, buildGroup, Inquiry.outcome_bind, Inquiry.outcome_ofExcept]
  cases hp : p.text.isUnclosed with
  | true => rw [groupBody_of_isUnclosed hp]; rfl
  | false =>
      obtain ⟨body, hbody, hparts⟩ := groupBody_of_not_isUnclosed hp
      rw [hbody, ← hparts]
      exact unplaced_mapM_assemble (unplaced_readLeaf rules)

theorem unplaced_readSegment (rules : Rules) (p : Piece) :
    unplaced ((readSegment rules p).outcome.map (·.type)) =
      unplaced (buildMember rules p.text) := by
  unfold readSegment buildMember
  split
  · rw [Inquiry.outcome_bind, ← unplaced_readGroup]
    cases (readGroup rules p).outcome <;> rfl
  · exact unplaced_readLeaf rules p

theorem unplaced_readUnion (rules : Rules) (p : Piece) :
    unplaced (readUnion rules p).outcome = unplaced (do
      let ts ← (p.text.parts '|').mapM (buildMember rules)
      settle rules .union ts) :=
  unplaced_mapM_assemble (unplaced_readSegment rules)

/-- **Parsing is building**, but for the position in an error. -/
theorem unplaced_parseWith (rules : Rules) (t : Text) :
    unplaced (parseWith rules t) = unplaced (build rules t) := by
  have hbar : (Piece.ofText t).trim.text.contains '|' = t.contains '|' := by
    rw [Bool.eq_iff_iff, List.contains_iff_mem, List.contains_iff_mem]
    exact Text.bar_mem_trim
  rw [parseWith, inquire, build]
  simp only [hbar]
  -- the parser trims the whole text first, which trimmed parts do not show
  split
  · rfl
  · split
    · rw [unplaced_readUnion, Piece.text_trim, Piece.ofText, Text.parts_trim (by decide)]
    · exact unplaced_readGroup rules _

end Ty
end TypeExpr
