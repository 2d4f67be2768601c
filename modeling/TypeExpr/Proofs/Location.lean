import TypeExpr.Proofs.Atom.Company
import TypeExpr.Proofs.Hint.Reading
import TypeExpr.Proofs.Text.Places
import TypeExpr.Proofs.Ty.Reading
import TypeExpr.Proofs.Ty.Steps

/-!
# `TypeExpr.Proofs.Location`: where errors are

Every error says where it is, counted in the text as it was given, and what stands there is what the
error is about: the whole text if it is no composite type, the group that is not closed, the segment
that is no name, or the segment that was read as the atom to blame.

Reading goes step by step, and an error is the failure of a step. So it is enough that each step is
about a segment of the text in its place (`inPlace_of_mem_steps`), however the text is padded, cut
up and put in order on the way.
-/

namespace TypeExpr

namespace Ty

/-! ### Segments in place -/

/-- The trimmed segments of a text that hold a `&`: the text itself if there is no `|` in it, and
else those of its parts between `|` that do. -/
inductive GroupSegment (t : Text) : Piece → Prop
  | whole (hbar : '|' ∉ t) (hamp : '&' ∈ t) : GroupSegment t (Piece.ofText t).trim
  | ofUnion {p : Piece} (hbar : '|' ∈ t) (hpart : p.PartOf '|' (Piece.ofText t).trim)
      (hamp : '&' ∈ p.trim.text) : GroupSegment t p.trim

/-- The trimmed segments of a text that are to be atoms: the parts between `|` that hold no `&`, and
the parts between `&` of groups, or of what stands between the parentheses of a group. -/
inductive AtomicSegment (t : Text) : Piece → Prop
  | ofUnion {p : Piece} (hbar : '|' ∈ t) (hpart : p.PartOf '|' (Piece.ofText t).trim)
      (hamp : '&' ∉ p.trim.text) : AtomicSegment t p.trim
  | ofGroup {g p : Piece} (hg : GroupSegment t g) (hopen : ∀ rest, g.text ≠ '(' :: rest)
      (hpart : p.PartOf '&' g) : AtomicSegment t p.trim
  | ofEnclosed {g p : Piece} {inner : Text} (hg : GroupSegment t g)
      (hinner : g.text = '(' :: (inner ++ [')']))
      (hpart : p.PartOf '&' (Piece.trim ⟨g.start + 1, inner⟩)) : AtomicSegment t p.trim

variable {t : Text} {p : Piece}

theorem GroupSegment.liesIn (h : GroupSegment t p) : p.LiesIn t := by
  have hwhole := (Piece.liesIn_ofText t).trim
  cases h with
  | whole _ _ => exact hwhole
  | ofUnion _ hpart _ => exact (hwhole.part hpart).trim

theorem GroupSegment.trim_text (h : GroupSegment t p) : p.text.trim = p.text := by
  cases h <;> exact Text.trim_trim _

theorem GroupSegment.amp_mem (h : GroupSegment t p) : '&' ∈ p.text := by
  cases h with
  | whole _ hamp => exact Text.amp_mem_trim.mpr hamp
  | ofUnion _ _ hamp => exact hamp

theorem AtomicSegment.liesIn (h : AtomicSegment t p) : p.LiesIn t := by
  cases h with
  | ofUnion _ hpart _ => exact ((Piece.liesIn_ofText t).trim.part hpart).trim
  | ofGroup hg _ hpart => exact (hg.liesIn.part hpart).trim
  | @ofEnclosed g p inner hg hinner hpart =>
      -- what stands between the parentheses begins one character further on
      have hbody : Piece.LiesIn ⟨g.start + 1, inner⟩ t := by
        obtain ⟨before, after, ht, hstart⟩ := hg.liesIn
        refine ⟨before ++ ['('], ')' :: after, by simp [ht, hinner], ?_⟩
        rw [hstart, List.length_append, List.length_singleton]
      exact (hbody.trim.part hpart).trim

theorem AtomicSegment.trim_text (h : AtomicSegment t p) : p.text.trim = p.text := by
  cases h <;> exact Text.trim_trim _

/-! ### Steps in place -/

/-- What a step is about is a segment of the text, in its place. -/
def Step.InPlace (readAtom : Text → Except Error Atom) (t : Text) : Step → Prop
  | read p => AtomicSegment t p
  | unclosed p => GroupSegment t p ∧ p.text.isUnclosed = true
  | ask c place => ∃ p, AtomicSegment t p ∧ p.span = place ∧ readAtom p.text = .ok c.atom

variable {readAtom : Text → Except Error Atom} {s : Step}

theorem mem_atomsAt {ps : List Piece} {a : Atom × Span} :
    a ∈ atomsAt readAtom ps ↔ ∃ p ∈ ps, readAtom p.text = .ok a.1 ∧ p.span = a.2 := by
  rw [atomsAt, List.mem_filterMap]
  refine exists_congr fun p => and_congr_right fun _ => ?_
  obtain ⟨atom, place⟩ := a
  cases readAtom p.text <;> simp [Except.toOption]

/-- Questions are about atoms that pieces were read as. -/
theorem exists_of_mem_questions {mode : Mode} {ps : List Piece}
    (h : s ∈ questions mode (inOrder (atomsAt readAtom ps))) :
    ∃ p ∈ ps, ∃ c, s = .ask c p.span ∧ readAtom p.text = .ok c.atom := by
  unfold questions at h
  split at h
  · exact absurd h List.not_mem_nil
  · obtain ⟨i, hi, rfl⟩ := List.mem_mapIdx.mp h
    have hmem : (inOrder (atomsAt readAtom ps))[i] ∈ atomsAt readAtom ps :=
      (sortByKey_perm _ _).mem_iff.mp (List.getElem_mem hi)
    obtain ⟨p, hp, hread, hspan⟩ := mem_atomsAt.mp hmem
    exact ⟨p, hp, _, by rw [hspan], hread⟩

/-- Atoms are asked about beside atoms that pieces were read as. -/
theorem exists_of_mem_others {mode : Mode} {ps : List Piece} {c : Consultation} {place : Span}
    (h : .ask c place ∈ questions mode (inOrder (atomsAt readAtom ps))) {o : Atom}
    (ho : o ∈ c.others) : ∃ p ∈ ps, readAtom p.text = .ok o := by
  unfold questions at h
  split at h
  · exact absurd h List.not_mem_nil
  · obtain ⟨i, hi, hask⟩ := List.mem_mapIdx.mp h
    obtain ⟨rfl, -⟩ := Step.ask.inj hask
    obtain ⟨b, hb, rfl⟩ := List.mem_map.mp ho
    have hmem : b ∈ atomsAt readAtom ps :=
      (sortByKey_perm _ _).mem_iff.mp (List.mem_of_mem_eraseIdx hb)
    obtain ⟨p, hp, hread, -⟩ := mem_atomsAt.mp hmem
    exact ⟨p, hp, hread⟩

/-- If pieces are segments, so is what is read or asked about there. -/
theorem inPlace_of_mem_questions {mode : Mode} {ps : List Piece}
    (hps : ∀ p ∈ ps, AtomicSegment t p) (h : s ∈ questions mode (inOrder (atomsAt readAtom ps))) :
    s.InPlace readAtom t := by
  obtain ⟨p, hp, c, rfl, hread⟩ := exists_of_mem_questions h
  exact ⟨p, hps p hp, rfl, hread⟩

/-- A group has its body between parentheses, or has none. -/
theorem groupBody_eq_ok {g body : Piece} (h : groupBody g = .ok body) :
    (body = g ∧ ∀ rest, g.text ≠ '(' :: rest) ∨
      ∃ inner, g.text = '(' :: (inner ++ [')']) ∧ body = Piece.trim ⟨g.start + 1, inner⟩ := by
  by_cases hopen : ∃ rest, g.text = '(' :: rest
  · obtain ⟨rest, hg⟩ := hopen
    simp only [groupBody, hg] at h
    split at h
    · next hclosed =>
        obtain ⟨inner, rfl⟩ := List.getLast?_eq_some_iff.mp hclosed
        rw [List.dropLast_concat] at h
        exact .inr ⟨inner, hg, (Except.ok.inj h).symm⟩
    · cases h
  · have hne : ∀ rest, g.text ≠ '(' :: rest := fun rest hg => hopen ⟨rest, hg⟩
    rw [groupBody_of_ne hne] at h
    exact .inl ⟨(Except.ok.inj h).symm, hne⟩

theorem isUnclosed_of_groupBody {g : Piece} {e : Error} (h : groupBody g = .error e) :
    g.text.isUnclosed = true := by
  by_contra hclosed
  obtain ⟨body, hbody, -⟩ := groupBody_of_not_isUnclosed (eq_false_of_ne_true hclosed)
  rw [hbody] at h
  cases h

theorem inPlace_of_mem_groupSteps {g : Piece} (hg : GroupSegment t g)
    (h : s ∈ groupSteps readAtom g) : s.InPlace readAtom t := by
  unfold groupSteps at h
  split at h
  · next hbody =>
      obtain rfl := List.mem_singleton.mp h
      exact ⟨hg, isUnclosed_of_groupBody hbody⟩
  · next body hbody =>
      have hparts : ∀ q ∈ (body.cut '&').map Piece.trim, AtomicSegment t q := by
        intro q hq
        obtain ⟨p, hp, rfl⟩ := List.mem_map.mp hq
        have hpart := Piece.partOf_of_mem_cut hp
        rcases groupBody_eq_ok hbody with ⟨rfl, hopen⟩ | ⟨inner, hinner, rfl⟩
        · exact .ofGroup hg hopen hpart
        · exact .ofEnclosed hg hinner hpart
      rcases List.mem_append.mp h with h | h
      · obtain ⟨q, hq, rfl⟩ := List.mem_map.mp h
        exact hparts q hq
      · exact inPlace_of_mem_questions hparts h

/-- **Steps are in place.** Whatever a step reads, gives up or asks about is a segment of the
text. -/
theorem inPlace_of_mem_steps (ht : t.isComposite = true) (h : s ∈ steps readAtom t) :
    s.InPlace readAtom t := by
  simp only [steps] at h
  split at h
  · next hbar =>
      have hbar : '|' ∈ t := Text.bar_mem_trim.mp (by simpa [Piece.ofText] using hbar)
      have hsegments : ∀ q ∈ ((Piece.ofText t).trim.cut '|').map Piece.trim,
          ('&' ∈ q.text → GroupSegment t q) ∧ ('&' ∉ q.text → AtomicSegment t q) := by
        intro q hq
        obtain ⟨p, hp, rfl⟩ := List.mem_map.mp hq
        have hpart := Piece.partOf_of_mem_cut hp
        exact ⟨.ofUnion hbar hpart, .ofUnion hbar hpart⟩
      rcases List.mem_append.mp h with h | h
      · obtain ⟨q, hq, h⟩ := List.mem_flatMap.mp h
        unfold segmentSteps at h
        split at h
        · next hamp => exact inPlace_of_mem_groupSteps ((hsegments q hq).1 (by simpa using hamp)) h
        · next hamp =>
            obtain rfl := List.mem_singleton.mp h
            exact (hsegments q hq).2 (by simpa using hamp)
      · refine inPlace_of_mem_questions (fun q hq => ?_) h
        obtain ⟨hq, hamp⟩ := List.mem_filter.mp hq
        exact (hsegments q hq).2 (by simpa using hamp)
  · next hbar =>
      have hbar : '|' ∉ t := mt Text.bar_mem_trim.mpr (by simpa [Piece.ofText] using hbar)
      have hamp : '&' ∈ t := (Text.isComposite_iff.mp ht).resolve_left hbar
      exact inPlace_of_mem_groupSteps (.whole hbar hamp) h

/-! ### Questions in a text -/

theorem exists_of_ask_mem_groupSteps {g : Piece} {c : Consultation} {place : Span}
    (h : .ask c place ∈ groupSteps readAtom g) :
    ∃ mode ps, .ask c place ∈ questions mode (inOrder (atomsAt readAtom ps)) := by
  unfold groupSteps at h
  split at h
  · cases List.mem_singleton.mp h
  · rcases List.mem_append.mp h with h | h
    · obtain ⟨q, -, hq⟩ := List.mem_map.mp h
      cases hq
    · exact ⟨_, _, h⟩

/-- Every question is one about the atoms that some pieces were read as. -/
theorem exists_of_ask_mem_steps {c : Consultation} {place : Span}
    (h : .ask c place ∈ steps readAtom t) :
    ∃ mode ps, .ask c place ∈ questions mode (inOrder (atomsAt readAtom ps)) := by
  simp only [steps] at h
  split at h
  · rcases List.mem_append.mp h with h | h
    · obtain ⟨q, -, h⟩ := List.mem_flatMap.mp h
      unfold segmentSteps at h
      split at h
      · exact exists_of_ask_mem_groupSteps h
      · cases List.mem_singleton.mp h
    · exact ⟨_, _, h⟩
  · exact exists_of_ask_mem_groupSteps h

end Ty

/-! ### Errors in place -/

/-- The error says where it is in the text, and what it is about stands there. -/
def Error.LocatedIn (e : Error) (t : Text) : Prop :=
  ∃ s : Span, e.span = some s ∧ s.start ≤ s.stop ∧ s.stop ≤ t.length ∧
    match e.fault with
    | .notComposite => s = Span.whole t.length ∧ e.text = t
    | .invalidName =>
      s.of t = e.text ∧ e.text.trim = e.text ∧
        (∃ p, Ty.AtomicSegment t p ∧ p.span = s ∧ p.text = e.text) ∧ ∀ a, Atom.ofText e.text ≠ .ok a
    | .unclosedGroup =>
      s.of t = e.text ∧ e.text.trim = e.text ∧
        (∃ p, Ty.GroupSegment t p ∧ p.span = s ∧ p.text = e.text) ∧
        '&' ∈ e.text ∧ e.text.head? = some '(' ∧ e.text.getLast? ≠ some ')'
    | .illegal _ _ =>
      ∃ p, Ty.AtomicSegment t p ∧ p.span = s ∧ p.text = s.of t ∧ p.text.trim = p.text ∧
        ∃ a, Atom.ofText (s.of t) = .ok a ∧ a.name = e.text
    | .nullableComposite | .unreadable _ => False

namespace Text

/-- A text that is left open begins with a parenthesis and does not end with one. -/
theorem isUnclosed_iff {t : Text} (hamp : '&' ∈ t) :
    t.isUnclosed = true ↔ t.head? = some '(' ∧ t.getLast? ≠ some ')' := by
  unfold isUnclosed
  split
  · next rest =>
      have hne : rest ≠ [] := by
        rintro rfl
        exact absurd hamp (by decide)
      obtain ⟨c, cs, rfl⟩ := List.exists_cons_of_ne_nil hne
      simp [List.getLast?_cons_cons]
  · next h =>
      constructor
      · intro hf
        cases hf
      · intro hopen
        obtain ⟨rest, ht⟩ := List.head?_eq_some_iff.mp hopen.1
        exact absurd ht (h rest)

end Text

variable {t : Text} {e : Error}

/-- How steps fail under the standard rules: a text is no name, a group is left open, or an atom is
blamed for a conflict with its siblings. -/
inductive Ty.Step.FailsWith (e : Error) : Ty.Step → Prop
  | read {p : Piece} (he : e = ⟨.invalidName, p.text, some p.span⟩)
      (h : ∀ a, Atom.ofText p.text ≠ .ok a) : FailsWith e (.read p)
  | unclosed {p : Piece} (he : e = ⟨.unclosedGroup, p.text, some p.span⟩) :
      FailsWith e (.unclosed p)
  | ask {c : Consultation} {place : Span} {conflict : Conflict}
      (he : e = (c.atom.blame conflict).locate place)
      (h : Atom.conflict? c.mode c.atom c.others = some conflict) : FailsWith e (.ask c place)

theorem Ty.Step.failsWith {s : Ty.Step} (h : s.failure? .standard = some e) : s.FailsWith e := by
  cases s with
  | read p =>
      cases hread : Atom.ofText p.text with
      | ok a => simp [failure?, Rules.standard, hread] at h
      | error e' =>
          obtain rfl := Atom.ofText_eq_error hread
          simp only [failure?, Rules.standard, hread, Option.some.injEq] at h
          exact .read h.symm fun a ha => by simp [hread] at ha
  | unclosed p => exact .unclosed (Option.some.inj h).symm
  | ask c place =>
      cases hcheck : Atom.check c.mode c.atom c.others with
      | ok u => simp [failure?, Rules.standard, hcheck] at h
      | error e' =>
          obtain ⟨conflict, hconflict, rfl⟩ := Atom.check_eq_error hcheck
          simp only [failure?, Rules.standard, hcheck, Option.some.injEq] at h
          exact .ask h.symm hconflict

/-- A step that fails under the standard rules fails in its place. -/
theorem Ty.Step.InPlace.locatedIn {s : Ty.Step} (h : s.InPlace Atom.ofText t) (hs : s.FailsWith e) :
    e.LocatedIn t := by
  cases hs with
  | @read p he hread =>
      have hp : Ty.AtomicSegment t p := h
      subst he
      exact ⟨p.span, rfl, p.start_le_stop, hp.liesIn.stop_le, hp.liesIn.of_span, hp.trim_text,
        ⟨p, hp, rfl, rfl⟩, hread⟩
  | @unclosed p he =>
      obtain ⟨hp, hopen⟩ := h
      subst he
      exact ⟨p.span, rfl, p.start_le_stop, hp.liesIn.stop_le, hp.liesIn.of_span, hp.trim_text,
        ⟨p, hp, rfl, rfl⟩, hp.amp_mem, (Text.isUnclosed_iff hp.amp_mem).mp hopen⟩
  | @ask c place conflict he _ =>
      obtain ⟨p, hp, rfl, hread⟩ := h
      subst he
      have hplace : p.span.of t = p.text := hp.liesIn.of_span
      exact ⟨p.span, rfl, p.start_le_stop, hp.liesIn.stop_le, p, hp, rfl, hplace.symm, hp.trim_text,
        c.atom, hplace ▸ hread, rfl⟩

/-- The error of a text with separators is that of a step. -/
theorem Ty.failsWith_of_isComposite (hc : t.isComposite = true) (h : Ty.parse t = .error e) :
    ∃ s ∈ steps Atom.ofText t, s.FailsWith e := by
  have hfail := ((follows_inquire .standard hc).outcome_eq_error_iff e).mp h
  obtain ⟨s, hs, hfails⟩ := List.exists_of_findSome?_eq_some hfail
  exact ⟨s, hs, Step.failsWith hfails⟩

/-- An error is that of a text without separators, or that of a step. -/
theorem Ty.failsWith_of_parse (h : Ty.parse t = .error e) :
    e = ⟨.notComposite, t, some (Span.whole t.length)⟩ ∨
      t.isComposite = true ∧ ∃ s ∈ steps Atom.ofText t, s.FailsWith e := by
  cases hc : t.isComposite with
  | false =>
      rw [parse, parseWith_of_not_isComposite hc] at h
      exact .inl (Except.error.inj h).symm
  | true => exact .inr ⟨rfl, failsWith_of_isComposite hc h⟩

theorem Ty.locatedIn_of_parse (h : Ty.parse t = .error e) : e.LocatedIn t := by
  rcases failsWith_of_parse h with rfl | ⟨hc, s, hs, hfails⟩
  · exact ⟨Span.whole t.length, rfl, Nat.zero_le _, Nat.le_refl _, rfl, rfl⟩
  -- the error is that of a step, and the step is in place
  · exact (inPlace_of_mem_steps hc hs).locatedIn hfails

/-- The standard reader of single hints says nothing of a position. -/
theorem Hint.span_of_readAtom {nullable : Bool} (h : readAtom .standard nullable t = .error e) :
    e.span = none := by
  rcases readAtom_eq_error h with rfl | ⟨a, o, rfl⟩
  · rfl
  · rfl

/-- **Errors are located exactly.** The error of an expression that cannot be parsed says where it
is in the text, and what it is about stands there. The same holds of hints that are composite and
not marked; the error of any other hint is about all of its text. -/
theorem error_located_in_text :
    (∀ t e, Ty.parse t = .error e → e.LocatedIn t) ∧
    ∀ t e, Hint.parse t = .error e →
      (t.isComposite = false ∨ t.trim.head? = some '?' → e.span = some (Span.whole t.length)) ∧
      (t.isComposite = true → t.trim.head? ≠ some '?' → e.LocatedIn t) := by
  refine ⟨fun t e h => Ty.locatedIn_of_parse h, fun t e h => ⟨fun hcase => ?_, fun hc hm => ?_⟩⟩
  · cases hc : t.isComposite with
    | false =>
        rw [Hint.parse, Hint.parseWith_of_not_isComposite hc] at h
        cases hread : Hint.readAtom .standard (Hint.isMarked t) (Hint.bare t) with
        | ok a => simp [hread, Except.mapError] at h
        | error e' =>
            simp only [hread, Except.mapError, Except.error.injEq] at h
            rw [← h, Error.locate, Hint.span_of_readAtom hread]
            rfl
    | true =>
        have hm : t.trim.head? = some '?' := hcase.resolve_left (by simp [hc])
        rw [Hint.parse, Hint.parseWith_of_isMarked hc (Hint.isMarked_iff.mpr hm)] at h
        cases h
        rfl
  · have hmark : Hint.isMarked t = false := eq_false_of_ne_true (mt Hint.isMarked_iff.mp hm)
    rw [Hint.parse, Hint.parseWith_of_isComposite hc hmark] at h
    cases hparse : Ty.parseWith .standard t with
    | ok u => simp [hparse, Except.map] at h
    | error e' =>
        simp only [hparse, Except.map, Except.error.injEq] at h
        exact Ty.locatedIn_of_parse (h ▸ hparse)

/-- A segment deep inside a union that is no name, a composite type that is marked, and a keyword
that another one covers. -/
theorem error_located_in_text_instances :
    (Ty.parse "A| ( B & 9 )".toList = .error ⟨.invalidName, "9".toList, some ⟨9, 10⟩⟩ ∧
      Error.LocatedIn ⟨.invalidName, "9".toList, some ⟨9, 10⟩⟩ "A| ( B & 9 )".toList) ∧
    (∃ e, Hint.parse " ?A|B".toList = .error e ∧ e.span = some (Span.whole 5)) ∧
    Hint.parse "false | bool".toList =
        .error ⟨.illegal .covers ["false".toList], "bool".toList, some ⟨8, 12⟩⟩ ∧
      Error.LocatedIn ⟨.illegal .covers ["false".toList], "bool".toList, some ⟨8, 12⟩⟩
        "false | bool".toList := by
  have hname : Ty.parse "A| ( B & 9 )".toList =
      .error ⟨.invalidName, "9".toList, some ⟨9, 10⟩⟩ := by decide +kernel
  have hmarked : Hint.parse " ?A|B".toList =
      .error ⟨.nullableComposite, " ?A|B".toList, some ⟨0, 5⟩⟩ := by decide +kernel
  have hcovers : Hint.parse "false | bool".toList =
      .error ⟨.illegal .covers ["false".toList], "bool".toList, some ⟨8, 12⟩⟩ := by decide +kernel
  refine ⟨⟨hname, error_located_in_text.1 _ _ hname⟩, ⟨_, hmarked, ?_⟩, hcovers, ?_⟩
  · exact (error_located_in_text.2 _ _ hmarked).1 (.inr (by decide +kernel))
  · exact (error_located_in_text.2 _ _ hcovers).2 (by decide +kernel) (by decide +kernel)

end TypeExpr
