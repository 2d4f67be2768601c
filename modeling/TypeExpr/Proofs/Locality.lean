import TypeExpr.Proofs.Atom.Company
import TypeExpr.Proofs.Ty.Lockstep
import TypeExpr.Proofs.Ty.Steps

/-!
# `TypeExpr.Proofs.Locality`: the parts of a union by themselves

A part of a union is read as it would be by itself: nothing that stands around it has a say. So if
parts fail by themselves the union fails with the error of the first of them, in its place
(`Error.CarriedTo`). If none does, all that is left to fail is the company that the atoms among the
parts keep, and a type has what the parts are read as for its members.

By itself a part begins at position zero, and in a union it begins further on. Readers do not see
the difference but in positions (`Counterparts.moved`). Blanks are trimmed off the union before it
is cut, and off a part before it is read, so a part is read from the same text either way, and from
the same place unless it is all blank (`Piece.forall₂_remains_cut`).
-/

namespace TypeExpr

/-! ### Errors further on -/

/-- The second error is the first one, further on in a text. -/
def Error.Moved (n : Nat) (e e' : Error) : Prop :=
  ∃ s, e.span = some s ∧ e' = { e with span := some (s.shift n) }

/-- An error that gives no position has the one it is located at. -/
theorem Error.moved_locate {e : Error} (h : e.span = none) (s : Span) (n : Nat) :
    Moved n (e.locate s) (e.locate (s.shift n)) := by
  refine ⟨s, ?_, ?_⟩ <;> simp [locate, h]

/-- **Further on.** The standard rules say nothing of positions, so where a text stands is seen in
the positions of errors only. -/
theorem Counterparts.moved (n : Nat) : Counterparts (Error.Moved n) n .standard .standard where
  placed fault t s := ⟨s, rfl, rfl⟩
  read t s := by
    cases h : Rules.standard.readAtom t with
    | ok a => exact .ok a
    | error e =>
        have hspan : e.span = none := by rw [Atom.ofText_eq_error h]
        exact .error (Error.moved_locate hspan s n)
  check mode a others s _ := by
    cases h : Rules.standard.check mode a others with
    | ok _ => exact .ok ()
    | error e =>
        obtain ⟨c, -, rfl⟩ := Atom.check_eq_error h
        exact .error (Error.moved_locate rfl s n)

namespace Ty

/-! ### Parts by themselves -/

/-- What a part of a union is by itself: a composite type if it holds a `&`, and else an atom. -/
def parseAlone (t : Text) : Except Error Ty :=
  if t.contains '&' then parse t else (Atom.ofText t.trim).map .atom

variable {rules : Rules} {t : Text}

theorem inquire_of_bar_mem (hbar : '|' ∈ t) :
    inquire rules t = readUnion rules (Piece.ofText t).trim := by
  have hcomposite : t.isComposite = true := Text.isComposite_iff.mpr (.inl hbar)
  have hbar' : (Piece.ofText t).trim.text.contains '|' = true := by
    simpa [Piece.ofText] using Text.bar_mem_trim.mpr hbar
  simp only [inquire, hcomposite, hbar', Bool.not_true, Bool.false_eq_true, if_false, if_true]

theorem inquire_of_amp_mem (hbar : '|' ∉ t) (hamp : '&' ∈ t) :
    inquire rules t = readGroup rules (Piece.ofText t).trim := by
  have hcomposite : t.isComposite = true := Text.isComposite_iff.mpr (.inr hamp)
  have hbar' : (Piece.ofText t).trim.text.contains '|' = false := by
    simpa [Piece.ofText] using mt Text.bar_mem_trim.mp hbar
  simp only [inquire, hcomposite, hbar', Bool.not_true, Bool.false_eq_true, if_false]

end Ty

/-- The first error is one that a piece makes by itself, and the second one is the same complaint in
place: further on by the position of the piece if that is a group, about the text of the piece if
that is no atom, and somewhere in its blanks if it has no text. -/
structure Error.CarriedTo (p : Piece) (e e' : Error) : Prop where
  alike : e.Alike e'
  group : '&' ∈ p.text → ∃ s, e.span = some s ∧ e'.span = some (s.shift p.start)
  atom : '&' ∉ p.text → p.text.trim ≠ [] → e'.span = some p.trim.span
  blank : p.text.trim = [] → ∃ n, e'.span = some ⟨n, n⟩ ∧ p.start ≤ n ∧ n ≤ p.stop

theorem Error.Moved.carriedTo {p : Piece} (hamp : '&' ∈ p.text) {e e' : Error}
    (h : Moved p.start e e') : e.CarriedTo p e' := by
  obtain ⟨s, hs, rfl⟩ := h
  refine ⟨.of_eq rfl rfl, fun _ => ⟨s, hs, rfl⟩, fun h => absurd hamp h, fun hblank => ?_⟩
  have hmem : '&' ∈ p.text.trim := Text.amp_mem_trim.mpr hamp
  rw [hblank] at hmem
  exact absurd hmem List.not_mem_nil

theorem Error.carriedTo_of_remains {p q : Piece} (h : p.Remains q) (hamp : '&' ∉ p.text) :
    Error.CarriedTo p ⟨.invalidName, p.text.trim, none⟩
      ⟨.invalidName, p.text.trim, some q.trim.span⟩ := by
  refine ⟨.of_eq rfl rfl, fun h => absurd h hamp, fun _ hne => by rw [h.trim_eq hne],
    fun hblank => ?_⟩
  have hempty : q.trim.stop = q.trim.start := by
    rw [Piece.stop, Piece.text_trim, h.trim_text, hblank, List.length_nil, Nat.add_zero]
  have hstop := h.stop_le
  rw [hempty] at hstop
  exact ⟨q.trim.start, by rw [Piece.span, hempty], h.start_le, hstop⟩

namespace Ty

variable {p q : Piece}

/-- **Each part by itself.** A part of a union is read as it would be by itself. -/
theorem agree_readSegment (hbar : '|' ∉ p.text) (h : p.Remains q) :
    Agree (⟨·, q.trim.span⟩) (Error.CarriedTo p) (parseAlone p.text)
      (readSegment .standard q.trim).outcome := by
  have hsame : q.trim.text.contains '&' = p.text.contains '&' := by
    rw [Bool.eq_iff_iff, List.contains_iff_mem, List.contains_iff_mem, Piece.text_trim, h.trim_text,
      Text.amp_mem_trim]
  unfold parseAlone readSegment
  rw [hsame]
  split
  · next hamp =>
      have hamp : '&' ∈ p.text := by simpa using hamp
      have hne : p.text.trim ≠ [] := List.ne_nil_of_mem (Text.amp_mem_trim.mpr hamp)
      have hplace : q.trim = (Piece.ofText p.text).trim.shift p.start := by
        rw [h.trim_eq hne, ← Piece.trim_shift, Piece.shift_ofText]
      have hgroup := ((Counterparts.moved p.start).readGroup (Piece.ofText p.text).trim).agree
      rw [← inquire_of_amp_mem hbar hamp, ← hplace] at hgroup
      rw [Inquiry.outcome_bind]
      cases hparse : parse p.text with
      | ok u =>
          rw [hgroup.eq_ok hparse]
          exact .ok u
      | error e =>
          obtain ⟨e', he', hmoved⟩ := hgroup.exists_error hparse
          rw [he']
          exact .error (hmoved.carriedTo hamp)
  · next hamp =>
      have hamp : '&' ∉ p.text := by simpa using hamp
      simp only [readLeaf, Inquiry.outcome_ofExcept, Piece.text_trim, h.trim_text, Rules.standard]
      cases hread : Atom.ofText p.text.trim with
      | ok a => exact .ok (Ty.atom a)
      | error e =>
          obtain rfl := Atom.ofText_eq_error hread
          exact .error (Error.carriedTo_of_remains h hamp)

/-! ### Parts together -/

/-- What is combined has the members in some order, unless an atom among them is refused. -/
theorem assemble_eq_ok {mode : Mode} {ms : List Placed} {u : Ty}
    (h : (assemble rules mode ms).outcome = .ok u) :
    ∃ us, us.Perm (ms.map (·.type)) ∧ u = .combine mode us := by
  rw [assemble, Inquiry.outcome_bind] at h
  obtain ⟨_, -, h⟩ := bind_eq_ok_iff.mp h
  cases h
  exact ⟨_, (sortByKey_perm _ ms).map _, rfl⟩

theorem mem_placedAtoms {ms : List Placed} {a : Atom × Span} :
    a ∈ placedAtoms ms ↔ ⟨.atom a.1, a.2⟩ ∈ ms := by
  rw [placedAtoms, List.mem_filterMap]
  constructor
  · intro h
    obtain ⟨⟨type, span⟩, hm, ha⟩ := h
    cases type with
    | atom b =>
        cases ha
        exact hm
    | combine mode ts => cases ha
  · exact fun h => ⟨_, h, rfl⟩

/-- Consulting the standard rules fails only if they refuse the atom, which is blamed in its
place. -/
theorem exists_of_consult_eq_error {mode : Mode} {a : Atom × Span} {others : List Atom} {e : Error}
    (h : (consult .standard mode a others).outcome = .error e) :
    ∃ c, e = (a.1.blame c).locate a.2 := by
  unfold consult at h
  split at h
  · cases h
  · cases hcheck : Rules.standard.check mode a.1 others with
    | ok _ => simp [hcheck, Except.mapError] at h
    | error e' =>
        obtain ⟨c, -, rfl⟩ := Atom.check_eq_error hcheck
        simp only [hcheck, Except.mapError, Except.error.injEq] at h
        exact ⟨c, h.symm⟩

/-- Combining fails only where an atom is refused, which is blamed in its place. -/
theorem exists_of_assemble_eq_error {mode : Mode} {ms : List Placed} {e : Error}
    (h : (assemble .standard mode ms).outcome = .error e) :
    e.isIllegal = true ∧ ∃ a s, ⟨.atom a, s⟩ ∈ ms ∧ e.text = a.name ∧ e.span = some s := by
  rw [assemble, Inquiry.outcome_bind] at h
  rcases bind_eq_error_iff.mp h with h | ⟨_, -, h⟩
  · rw [validate, List.forM_eq_forM, Inquiry.outcome_forM] at h
    obtain ⟨before, p, after, hps, -, hp⟩ := forM_eq_error_iff.mp h
    have hmem : p ∈ withOthers (placedAtoms (sortByKey (·.type.sortKey) ms)) := by simp [hps]
    obtain ⟨before', after', hatoms, -⟩ := mem_withOthers.mp hmem
    have hatom : p.1 ∈ placedAtoms (sortByKey (·.type.sortKey) ms) := by simp [hatoms]
    have hms : ⟨.atom p.1.1, p.1.2⟩ ∈ ms :=
      (sortByKey_perm _ ms).mem_iff.mp (mem_placedAtoms.mp hatom)
    obtain ⟨c, rfl⟩ := exists_of_consult_eq_error hp
    exact ⟨rfl, p.1.1, p.1.2, hms, rfl, rfl⟩
  · cases h

theorem parse_of_bar_mem (hbar : '|' ∈ t) :
    parse t =
      (((Piece.ofText t).trim.cut '|').mapM fun q => (readSegment .standard q.trim).outcome) >>=
        fun ms => (assemble .standard .union ms).outcome := by
  rw [parse, parseWith, inquire_of_bar_mem hbar, readUnion, Inquiry.outcome_bind,
    Inquiry.outcome_mapM]

/-- The member is what the part is by itself, found where the text of the part is. -/
def FoundIn (p : Piece) (m : Placed) : Prop :=
  parseAlone p.text = .ok m.type ∧ ∃ q, p.Remains q ∧ m.span = q.trim.span

/-- Parts that can be read by themselves are read together. -/
theorem exists_foundIn {ps qs : List Piece} (h : List.Forall₂ Piece.Remains ps qs)
    (hbar : ∀ p ∈ ps, '|' ∉ p.text) (hps : ∀ p ∈ ps, ∃ u, parseAlone p.text = .ok u) :
    ∃ ms, qs.mapM (fun q => (readSegment .standard q.trim).outcome) = .ok ms ∧
      List.Forall₂ FoundIn ps ms := by
  induction h with
  | nil => exact ⟨[], rfl, .nil⟩
  | @cons p q ps qs hp _ ih =>
      obtain ⟨hbar, hbars⟩ := List.forall_mem_cons.mp hbar
      obtain ⟨⟨u, hu⟩, hus⟩ := List.forall_mem_cons.mp hps
      obtain ⟨ms, hms, hfound⟩ := ih hbars hus
      refine ⟨⟨u, q.trim.span⟩ :: ms, ?_, .cons ⟨hu, q, hp, rfl⟩ hfound⟩
      rw [List.mapM_cons, (agree_readSegment hbar hp).eq_ok hu, hms]
      rfl

/-- An atom is found where it stands, in a part that is no group. -/
theorem FoundIn.atom {a : Atom} {s : Span} (hbar : '|' ∉ p.text) (h : FoundIn p ⟨.atom a, s⟩) :
    '&' ∉ p.text ∧ Atom.ofText p.text.trim = .ok a ∧ s = p.trim.span := by
  obtain ⟨halone, q, hq, rfl⟩ := h
  have hamp : '&' ∉ p.text := by
    intro hamp
    rw [parseAlone, if_pos (by simpa using hamp), parse, parseWith, inquire_of_amp_mem hbar hamp]
      at halone
    exact Option.some_ne_none a (atom?_of_readGroup halone)
  rw [parseAlone, if_neg (by simpa using hamp)] at halone
  obtain ⟨b, hb, hab⟩ := map_eq_ok_iff.mp halone
  cases hab
  have hne : p.text.trim ≠ [] := by
    intro hblank
    have hnone : Atom.ofText [] = .error ⟨.invalidName, [], none⟩ := by decide +kernel
    rw [hblank, hnone] at hb
    cases hb
  exact ⟨hamp, hb, by rw [hq.trim_eq hne]⟩

/-- **Part by part.** If a part of a union fails by itself and none before it does, the union fails
with its error, in place. If no part fails by itself, the union is the type of what the parts are by
themselves, in some order, or one of the atoms among them is refused. -/
theorem union_part_by_part (t : Text) (hbar : '|' ∈ t) :
    (∀ before p after e, (Piece.ofText t).cut '|' = before ++ p :: after →
      (∀ q ∈ before, ∃ u, parseAlone q.text = .ok u) → parseAlone p.text = .error e →
      ∃ e', parse t = .error e' ∧ e.CarriedTo p e') ∧
    ((∀ p ∈ (Piece.ofText t).cut '|', ∃ u, parseAlone p.text = .ok u) →
      (∃ us ms, List.Forall₂ (fun p u => parseAlone p.text = .ok u) ((Piece.ofText t).cut '|') us ∧
        ms.Perm us ∧ parse t = .ok (.combine .union ms)) ∨
      ∃ e p a, parse t = .error e ∧ e.isIllegal = true ∧ p ∈ (Piece.ofText t).cut '|' ∧
        '&' ∉ p.text ∧ Atom.ofText p.text.trim = .ok a ∧ e.text = a.name ∧
        e.span = some p.trim.span) := by
  have hbars : ∀ p ∈ (Piece.ofText t).cut '|', '|' ∉ p.text := by
    intro p hp
    obtain ⟨_, _, _, _, hnone, _⟩ := Piece.partOf_of_mem_cut hp
    exact hnone
  have hremains := Piece.forall₂_remains_cut (by decide : isBlank '|' = false) (Piece.ofText t)
  constructor
  · intro before p after e hparts hbefore hp
    rw [hparts] at hremains hbars
    obtain ⟨before', q, after', hparts', hremains, hq⟩ := exists_append_cons_of_forall₂ hremains
    have hbar' : ∀ r ∈ before, '|' ∉ r.text := fun r hr => hbars r (List.mem_append_left _ hr)
    obtain ⟨e', he', hcarried⟩ := (agree_readSegment (hbars p (by simp)) hq).exists_error hp
    obtain ⟨ms, hms, -⟩ := exists_foundIn hremains hbar' hbefore
    refine ⟨e', ?_, hcarried⟩
    rw [parse_of_bar_mem hbar, hparts', List.mapM_append, hms, List.mapM_cons, he']
    rfl
  · intro hparts
    obtain ⟨ms, hms, hfound⟩ := exists_foundIn hremains hbars hparts
    have hparse : parse t = (assemble .standard .union ms).outcome := by
      rw [parse_of_bar_mem hbar, hms]
      rfl
    cases hunion : (assemble .standard .union ms).outcome with
    | ok u =>
        obtain ⟨us, hperm, rfl⟩ := assemble_eq_ok hunion
        exact .inl ⟨_, us, List.forall₂_map_right_iff.mpr (hfound.imp fun _ _ hm => hm.1), hperm,
          hparse.trans hunion⟩
    | error e =>
        obtain ⟨hillegal, a, s, hm, htext, hspan⟩ := exists_of_assemble_eq_error hunion
        obtain ⟨p, hp, hfound⟩ := forall₂_exists_of_mem_right hfound hm
        obtain ⟨hamp, ha, rfl⟩ := hfound.atom (hbars p hp)
        exact .inr ⟨e, p, a, hparse.trans hunion, hillegal, hp, hamp, ha, htext, hspan⟩

/-- A group that fails and another one after it, a part that is all blank, and parts of which none
fails while two cannot stand together. -/
theorem union_part_by_part_instances :
    (∃ e', parse " A| (b &9) |C &|".toList = .error e' ∧
      Error.CarriedTo ⟨3, " (b &9) ".toList⟩ ⟨.invalidName, "9".toList, some ⟨5, 6⟩⟩ e') ∧
    (∃ e', parse "A|  ".toList = .error e' ∧
      Error.CarriedTo ⟨2, "  ".toList⟩ ⟨.invalidName, [], none⟩ e') ∧
    ∃ e p a, parse " bool|X&Y|false".toList = .error e ∧ e.isIllegal = true ∧
      p ∈ (Piece.ofText " bool|X&Y|false".toList).cut '|' ∧ '&' ∉ p.text ∧
      Atom.ofText p.text.trim = .ok a ∧ e.text = a.name ∧ e.span = some p.trim.span := by
  refine ⟨?_, ?_, ?_⟩
  · refine (union_part_by_part " A| (b &9) |C &|".toList (by decide)).1 [⟨0, " A".toList⟩]
      ⟨3, " (b &9) ".toList⟩ [⟨12, "C &".toList⟩, ⟨16, []⟩] _ (by decide +kernel) ?_
      (by decide +kernel)
    exact List.forall_mem_singleton.mpr ⟨.atom (.ofClass "A".toList), by decide +kernel⟩
  · refine (union_part_by_part "A|  ".toList (by decide)).1 [⟨0, "A".toList⟩] ⟨2, "  ".toList⟩ [] _
      (by decide +kernel) ?_ (by decide +kernel)
    exact List.forall_mem_singleton.mpr ⟨.atom (.ofClass "A".toList), by decide +kernel⟩
  · have hfails : parse " bool|X&Y|false".toList =
        .error ⟨.illegal .covers ["false".toList], "bool".toList, some ⟨1, 5⟩⟩ := by decide +kernel
    have hparts : (Piece.ofText " bool|X&Y|false".toList).cut '|' =
        [⟨0, " bool".toList⟩, ⟨6, "X&Y".toList⟩, ⟨10, "false".toList⟩] := by decide +kernel
    refine ((union_part_by_part " bool|X&Y|false".toList (by decide)).2 ?_).resolve_left ?_
    · rw [hparts]
      refine List.forall_mem_cons.mpr ⟨⟨.atom (.ofKeyword .bool), by decide +kernel⟩,
        List.forall_mem_cons.mpr ⟨⟨group [.ofClass "X".toList, .ofClass "Y".toList], ?_⟩,
          List.forall_mem_singleton.mpr ⟨.atom (.ofKeyword .falseValue), by decide +kernel⟩⟩⟩
      decide +kernel
    · intro h
      obtain ⟨us, ms, -, -, hms⟩ := h
      rw [hfails] at hms
      cases hms

end Ty
end TypeExpr
