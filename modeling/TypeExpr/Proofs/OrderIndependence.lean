import Mathlib.Data.List.Perm.Basic
import TypeExpr.Proofs.Ty.Legal
import TypeExpr.Proofs.Ty.Written

/-!
# `TypeExpr.Proofs.OrderIndependence`: the order of members in a text

An expression may list the segments of a union, and the texts of a group, in any order: it is parsed
or not just the same, and as the same type. The rules on company are not symmetric, and they stop at
the first objection, so this rests on three facts. Sorting comes before any check, keys tell members
apart (`Segmental.eq_of_sortKey_eq`), and whether a type is compatible does not depend on order
(`compatible_canonical_iff`).

Where a text fails in several places, the order does decide which failure is reported first. If only
siblings change places and each is acceptable by itself, there is just one place left to fail, and
the complaint is the same.
-/

namespace TypeExpr

/-! ### Segments -/

/-- A segment of an expression: texts with `&` between them, in a pair of parentheses or not. -/
structure Segment where
  texts : List Text
  /-- The blanks before and after the parentheses, if there are any parentheses. -/
  enclosure : Option (Text × Text)
  ne_nil : texts ≠ []
  plain : ∀ t ∈ texts, ∀ c ∈ ['|', '&', '(', ')'], c ∉ t
  blank : ∀ p ∈ enclosure, (∀ c ∈ p.1, isBlank c = true) ∧ ∀ c ∈ p.2, isBlank c = true

namespace Segment

/-- The texts of a segment joined. -/
def body (s : Segment) : Text := ['&'].intercalate s.texts

/-- A segment as it is written. -/
def text (s : Segment) : Text :=
  match s.enclosure with
  | none => s.body
  | some (before, after) => before ++ '(' :: (s.body ++ [')']) ++ after

variable {s s' : Segment} {rules : Rules}

theorem text_of_none (h : s.enclosure = none) : s.text = s.body := by rw [text, h]

theorem text_of_some {p : Text × Text} (h : s.enclosure = some p) :
    s.text = p.1 ++ '(' :: (s.body ++ [')']) ++ p.2 := by rw [text, h]

theorem trim_text_of_some {p : Text × Text} (h : s.enclosure = some p) :
    s.text.trim = '(' :: (s.body ++ [')']) := by
  obtain ⟨hbefore, hafter⟩ := s.blank p h
  rw [text_of_some h, Text.trim_append_append hbefore hafter, Text.trim_enclosed]

theorem not_mem_body {c : Char} (hc : c ∈ ['|', '(', ')']) : c ∉ s.body := by
  intro hm
  rcases Text.mem_intercalate hm with hsep | ⟨t, ht, hct⟩
  · rw [hsep] at hc
    exact absurd hc (by decide)
  · have hplain : c ∈ ['|', '&', '(', ')'] := by
      simp only [List.mem_cons, List.not_mem_nil, or_false] at hc ⊢
      tauto
    exact s.plain t ht c hplain hct

theorem parts_body (s : Segment) : s.body.parts '&' = s.texts.map Text.trim :=
  Text.parts_intercalate s.ne_nil fun t ht => s.plain t ht '&' (by decide)

theorem amp_mem_body_iff : '&' ∈ s.body ↔ 2 ≤ s.texts.length := by
  rw [← Text.two_le_length_parts, parts_body, List.length_map]

/-- Parentheses and the blanks around them are no separators. -/
theorem mem_text_iff {c : Char} (hblank : isBlank c = false) (hopen : c ≠ '(') (hclose : c ≠ ')') :
    c ∈ s.text ↔ c ∈ s.body := by
  cases h : s.enclosure with
  | none => rw [text_of_none h]
  | some p =>
      obtain ⟨hbefore, hafter⟩ := s.blank p h
      rw [text_of_some h, Text.mem_append_append hblank hbefore hafter]
      simp [hopen, hclose]

theorem bar_not_mem_text (s : Segment) : '|' ∉ s.text := by
  rw [mem_text_iff (by decide) (by decide) (by decide)]
  exact not_mem_body (by decide)

theorem amp_mem_trim_iff : '&' ∈ s.text.trim ↔ 2 ≤ s.texts.length := by
  rw [Text.amp_mem_trim, mem_text_iff (by decide) (by decide) (by decide), amp_mem_body_iff]

/-- A segment is read as a group just if its texts are read as the atoms, in parentheses or not. -/
theorem readsGroup_iff {as : List Atom} :
    Ty.ReadsGroup rules s.text.trim as ↔
      List.Forall₂ (fun t a => rules.readAtom t = .ok a) (s.texts.map Text.trim) as := by
  cases h : s.enclosure with
  | none =>
      have hopen : '(' ∉ s.text.trim := by
        rw [Text.mem_trim (by decide), text_of_none h]
        exact not_mem_body (by decide)
      rw [Ty.readsGroup_iff_of_not_mem hopen, Text.parts_trim (by decide), text_of_none h,
        parts_body]
  | some p => rw [trim_text_of_some h, Ty.readsGroup_enclosed_iff, parts_body]

/-- Under the standard rules it is the texts as they stand, blanks and all, that are read. -/
theorem readsGroup_standard_iff {as : List Atom} :
    Ty.ReadsGroup .standard s.text.trim as ↔
      List.Forall₂ (fun t a => Atom.ofText t = .ok a) s.texts as := by
  rw [readsGroup_iff, List.forall₂_map_left_iff]
  constructor
  · exact fun h => h.imp fun _ _ ha => Atom.ofText_trim_eq_ok_iff.mp ha
  · exact fun h => h.imp fun _ _ ha => Atom.ofText_trim_eq_ok_iff.mpr ha

/-! ### Segments in another order -/

/-- The segments have the same texts but for their order, and the same parentheses. -/
def Shuffled (s s' : Segment) : Prop := s.texts.Perm s'.texts ∧ s.enclosure = s'.enclosure

theorem Shuffled.symm (h : s.Shuffled s') : s'.Shuffled s := ⟨h.1.symm, h.2.symm⟩

/-- There is one order for one text. -/
theorem Shuffled.text_eq (h : s.Shuffled s') (hlength : ¬ 2 ≤ s.texts.length) :
    s.text = s'.text := by
  obtain ⟨hperm, henclosure⟩ := h
  obtain ⟨t, ht⟩ : ∃ t, s.texts = [t] := by
    have hpos := List.length_pos_iff.mpr s.ne_nil
    exact List.length_eq_one_iff.mp (by omega)
  have hbody : s.body = s'.body := by
    rw [ht] at hperm
    rw [body, body, ht, List.singleton_perm.mp hperm]
  rw [text, text, hbody, henclosure]

theorem Shuffled.exists_readsGroup (h : s.Shuffled s') {as : List Atom}
    (has : Ty.ReadsGroup rules s.text.trim as) :
    ∃ bs, Ty.ReadsGroup rules s'.text.trim bs ∧ bs.Perm as := by
  rw [readsGroup_iff] at has
  obtain ⟨bs, hbs, hperm⟩ := List.perm_comp_forall₂ (h.1.symm.map Text.trim) has
  exact ⟨bs, readsGroup_iff.mpr hbs, hperm⟩

/-- The order of the texts in a segment does not show in the canonical form. -/
theorem Shuffled.exists_readsMember (h : s.Shuffled s') {d : Ty}
    (hd : Ty.ReadsMember rules s.text.trim d) :
    ∃ d', Ty.ReadsMember rules s'.text.trim d' ∧ d'.canonical = d.canonical := by
  cases hd with
  | @atom a hamp ha =>
      rw [amp_mem_trim_iff] at hamp
      rw [h.text_eq hamp] at ha
      rw [h.1.length_eq] at hamp
      exact ⟨_, .atom (mt amp_mem_trim_iff.mp hamp) ha, rfl⟩
  | group hamp has =>
      obtain ⟨bs, hbs, hperm⟩ := h.exists_readsGroup has
      rw [amp_mem_trim_iff, h.1.length_eq] at hamp
      exact ⟨_, .group (amp_mem_trim_iff.mpr hamp) hbs, Ty.canonical_group_eq_of_perm hperm⟩

/-! ### Expressions -/

/-- Segments with `|` between them. -/
def expression (ss : List Segment) : Text := ['|'].intercalate (ss.map text)

theorem expression_singleton (s : Segment) : expression [s] = s.text := by
  rw [expression, List.map_singleton, List.intercalate_singleton]

theorem parts_expression {ss : List Segment} (hne : ss ≠ []) :
    (expression ss).parts '|' = ss.map fun s => s.text.trim := by
  have hbar : ∀ t ∈ ss.map text, '|' ∉ t := by
    intro t ht
    obtain ⟨s, -, rfl⟩ := List.mem_map.mp ht
    exact s.bar_not_mem_text
  rw [expression, Text.parts_intercalate (mt List.map_eq_nil_iff.mp hne) hbar, List.map_map]
  rfl

theorem bar_mem_expression_iff {ss : List Segment} : '|' ∈ expression ss ↔ 2 ≤ ss.length := by
  cases ss with
  | nil => simp [expression, List.intercalate_nil]
  | cons s ss => rw [← Text.two_le_length_parts, parts_expression (by simp), List.length_map]

/-- What the segments are read as, in their order. -/
def ReadSegments (rules : Rules) (ss : List Segment) (ds : List Ty) : Prop :=
  List.Forall₂ (fun s d => Ty.ReadsMember rules s.text.trim d) ss ds

theorem reads_union {ss : List Segment} {ds : List Ty} (two : 2 ≤ ss.length)
    (h : ReadSegments rules ss ds) : Ty.Reads rules (expression ss) (.combine .union ds) := by
  refine .union (bar_mem_expression_iff.mpr two) ?_
  rw [parts_expression (List.ne_nil_of_length_pos (by omega)), List.forall₂_map_left_iff]
  exact h

theorem reads_group {as : List Atom} (two : 2 ≤ s.texts.length)
    (h : Ty.ReadsGroup rules s.text.trim as) : Ty.Reads rules s.text (Ty.group as) :=
  .group s.bar_not_mem_text (Text.amp_mem_trim.mp (amp_mem_trim_iff.mpr two)) h

/-- An expression is read as the group that its one segment is, or as a union of what its segments
are read as. -/
theorem reads_expression_inv {ss : List Segment} {d : Ty} (h : Ty.Reads rules (expression ss) d) :
    (∃ s as, ss = [s] ∧ 2 ≤ s.texts.length ∧ Ty.ReadsGroup rules s.text.trim as ∧
      d = Ty.group as) ∨
    ∃ ds, 2 ≤ ss.length ∧ ReadSegments rules ss ds ∧ d = .combine .union ds := by
  cases h with
  | @group as hbar hamp has =>
      rw [bar_mem_expression_iff] at hbar
      cases ss with
      | nil => exact absurd hamp (by simp [expression, List.intercalate_nil])
      | cons s rest =>
          obtain rfl : rest = [] := List.length_eq_zero_iff.mp (by simpa using hbar)
          rw [expression_singleton] at hamp has
          exact .inl ⟨s, as, rfl, amp_mem_trim_iff.mp (Text.amp_mem_trim.mpr hamp), has,
            rfl⟩
  | @union ds hbar hds =>
      have two := bar_mem_expression_iff.mp hbar
      rw [parts_expression (List.ne_nil_of_length_pos (by omega)), List.forall₂_map_left_iff] at hds
      exact .inr ⟨ds, two, hds, rfl⟩

theorem ReadSegments.segmental {ss : List Segment} {ds : List Ty} (h : ReadSegments rules ss ds) :
    ∀ d ∈ ds, Ty.Segmental (Ty.Readable rules) d := by
  intro d hd
  obtain ⟨s, -, hs⟩ := forall₂_exists_of_mem_right h hd
  exact hs.segmental

theorem ReadSegments.exists_of_perm {ss us : List Segment} {ds : List Ty}
    (h : ReadSegments rules ss ds) (hperm : ss.Perm us) :
    ∃ es, ReadSegments rules us es ∧ es.Perm ds := List.perm_comp_forall₂ hperm.symm h

/-- Members that are told apart by their keys are sorted to one list, whatever their order. -/
theorem ReadSegments.sort_eq {ss : List Segment} {ds es : List Ty}
    (h : ReadSegments .standard ss ds) (hperm : es.Perm ds) :
    Ty.sort (es.map Ty.canonical) = Ty.sort (ds.map Ty.canonical) := by
  refine (Ty.sort_eq_of_perm (hperm.map _).symm fun u hu v hv huv => ?_).symm
  obtain ⟨d, hd, rfl⟩ := List.mem_map.mp hu
  obtain ⟨e, he, rfl⟩ := List.mem_map.mp hv
  exact (h.segmental d hd).canonical.eq_of_sortKey_eq (h.segmental e he).canonical huv

/-! ### Expressions in another order -/

/-- Each segment of the one expression is in the other, somewhere, with its texts in some order. -/
def Rearranged (ss us : List Segment) : Prop := ∃ ms, List.Forall₂ Shuffled ss ms ∧ ms.Perm us

theorem Rearranged.symm {ss us : List Segment} (h : Rearranged ss us) : Rearranged us ss := by
  obtain ⟨ms, hms, hperm⟩ := h
  have hback : List.Forall₂ Shuffled ms ss := hms.flip.imp fun _ _ hs => Shuffled.symm hs
  exact List.perm_comp_forall₂ hperm.symm hback

theorem Rearranged.length_eq {ss us : List Segment} (h : Rearranged ss us) :
    ss.length = us.length := by
  obtain ⟨ms, hms, hperm⟩ := h
  rw [hms.length_eq, hperm.length_eq]

/-- Shuffling the texts inside segments does not show in the canonical forms. -/
theorem ReadSegments.exists_of_shuffled {ss us : List Segment}
    (hshuffled : List.Forall₂ Shuffled ss us) {ds : List Ty} (h : ReadSegments rules ss ds) :
    ∃ es, ReadSegments rules us es ∧ es.map Ty.canonical = ds.map Ty.canonical := by
  induction hshuffled generalizing ds with
  | nil =>
      cases h
      exact ⟨[], .nil, rfl⟩
  | cons hs _ ih =>
      cases h with
      | cons hd hds =>
          obtain ⟨e, he, hcanonical⟩ := hs.exists_readsMember hd
          obtain ⟨es, hes, hrest⟩ := ih hds
          exact ⟨e :: es, .cons he hes, by rw [List.map_cons, List.map_cons, hcanonical, hrest]⟩

/-- **Order does not show in canonical forms.** What an expression is read as has the same canonical
form as what it is read as in another order. -/
theorem Rearranged.exists_reads {ss us : List Segment} (h : Rearranged ss us) {d : Ty}
    (hd : Ty.Reads .standard (expression ss) d) :
    ∃ d', Ty.Reads .standard (expression us) d' ∧ d'.canonical = d.canonical := by
  have hlength := h.length_eq
  obtain ⟨ms, hms, hperm⟩ := h
  rcases reads_expression_inv hd with ⟨s, as, rfl, two, has, rfl⟩ | ⟨ds, two, hds, rfl⟩
  -- the one segment is still alone, with its texts shuffled
  · obtain ⟨s', rest, hs', hrest, rfl⟩ := List.forall₂_cons_left_iff.mp hms
    obtain rfl := List.forall₂_nil_left_iff.mp hrest
    obtain rfl := List.singleton_perm.mp hperm
    obtain ⟨bs, hbs, hatoms⟩ := hs'.exists_readsGroup has
    rw [hs'.1.length_eq] at two
    rw [expression_singleton]
    exact ⟨_, reads_group two hbs, Ty.canonical_group_eq_of_perm hatoms⟩
  · obtain ⟨es, hes, hcanonical⟩ := ReadSegments.exists_of_shuffled hms hds
    obtain ⟨es', hes', hmembers⟩ := hes.exists_of_perm hperm
    refine ⟨_, reads_union (hlength ▸ two) hes', ?_⟩
    rw [Ty.canonical_combine, Ty.canonical_combine, hes.sort_eq hmembers, hcanonical]

theorem Rearranged.parse_eq_ok {ss us : List Segment} (h : Rearranged ss us) {u : Ty}
    (hu : Ty.parse (expression ss) = .ok u) : Ty.parse (expression us) = .ok u := by
  obtain ⟨d, hd, hcompatible, rfl⟩ := Ty.parse_eq_ok_iff.mp hu
  obtain ⟨d', hd', hcanonical⟩ := h.exists_reads hd
  rw [← Ty.compatible_canonical_iff, ← hcanonical, Ty.compatible_canonical_iff] at hcompatible
  exact Ty.parse_eq_ok_iff.mpr ⟨d', hd', hcompatible, hcanonical.symm⟩

/-! ### Complaints about siblings -/

/-- A segment that is read as an atom, or parsed, when it stands alone. -/
def Acceptable (s : Segment) : Prop :=
  (∃ a, Atom.ofText s.text = .ok a) ∨ ∃ u, Ty.parse s.text = .ok u

theorem Acceptable.exists_readsMember (h : s.Acceptable) :
    ∃ d, Ty.ReadsMember .standard s.text.trim d ∧ d.Compatible := by
  rcases h with ⟨a, ha⟩ | ⟨u, hu⟩
  · have hamp : '&' ∉ s.text.trim := by
      rw [Text.amp_mem_trim]
      exact Atom.not_mem_of_ofText ha (by decide) (by decide)
    exact ⟨.atom a, .atom hamp (Atom.ofText_trim_eq_ok_iff.mpr ha), Ty.compatible_atom a⟩
  · obtain ⟨d, hd, hcompatible, -⟩ := Ty.parse_eq_ok_iff.mp hu
    cases hd with
    | group _ hamp has => exact ⟨_, .group (Text.amp_mem_trim.mpr hamp) has, hcompatible⟩
    | union hbar _ => exact absurd hbar s.bar_not_mem_text

/-- If every segment is acceptable by itself, the order of segments decides nothing but
positions. -/
theorem unplaced_parse_expression_eq {ss us : List Segment} (hperm : ss.Perm us)
    (h : ∀ s ∈ ss, s.Acceptable) :
    unplaced (Ty.parse (expression ss)) = unplaced (Ty.parse (expression us)) := by
  by_cases two : 2 ≤ ss.length
  · obtain ⟨ds, hds⟩ := exists_forall₂ fun s hs => (h s hs).exists_readsMember
    have hread : ReadSegments .standard ss ds := hds.imp fun _ _ hd => hd.1
    have hcompatible : ∀ d ∈ ds, d.Compatible := by
      intro d hd
      obtain ⟨_, -, -, hcompatible⟩ := forall₂_exists_of_mem_right hds hd
      exact hcompatible
    obtain ⟨es, hes, hperm'⟩ := hread.exists_of_perm hperm
    have hcompatible' : ∀ e ∈ es, e.Compatible := fun e he => hcompatible e (hperm'.mem_iff.mp he)
    -- each segment is past its own checks, and the atoms among them are sorted before theirs
    rw [Ty.unplaced_parse_of_reads (reads_union two hread),
      Ty.unplaced_parse_of_reads (reads_union (hperm.length_eq ▸ two) hes),
      Ty.finish_union_of_compatible hcompatible, Ty.finish_union_of_compatible hcompatible',
      Ty.settle_eq_of_sort_eq (hread.sort_eq hperm')]
  -- a single segment, or none, has no other order
  · have heq : ss = us := by
      cases ss with
      | nil => exact (List.nil_perm.mp hperm).symm
      | cons s rest =>
          obtain rfl : rest = [] := List.length_eq_zero_iff.mp (by simpa using two)
          exact List.singleton_perm.mp hperm
    rw [heq]

/-- If every text of a group is read as an atom, the order of texts decides nothing but
positions. -/
theorem Shuffled.unplaced_parse_eq (hs : s.Shuffled s')
    (h : ∀ t ∈ s.texts, ∃ a, Atom.ofText t = .ok a) :
    unplaced (Ty.parse s.text) = unplaced (Ty.parse s'.text) := by
  by_cases two : 2 ≤ s.texts.length
  · obtain ⟨as, has⟩ := exists_forall₂ h
    have hread := readsGroup_standard_iff.mpr has
    obtain ⟨bs, hbs, hperm⟩ := hs.exists_readsGroup hread
    have hsort : Ty.sort (as.map .atom) = Ty.sort (bs.map .atom) := by
      rw [Ty.sort_map_atom, Ty.sort_map_atom, Ty.sortAtoms_eq_of_perm hperm]
    rw [Ty.unplaced_parse_of_reads (reads_group two hread),
      Ty.unplaced_parse_of_reads (reads_group (hs.1.length_eq ▸ two) hbs), Ty.finish_group,
      Ty.finish_group, Ty.settle_eq_of_sort_eq hsort]
  · rw [hs.text_eq two]

/-! ### Order independence -/

/-- **The order of members does not matter.** An expression is parsed just if it is parsed in any
other order of its segments and of the texts in each of them, and the types are the same. If only
the segments change places, each acceptable by itself, or only the texts of a lone group, each an
atom, then also a failure is the same but for its position. -/
theorem parse_order_independent :
    (∀ ss us : List Segment, Rearranged ss us →
      ((∃ u, Ty.parse (expression ss) = .ok u) ↔ ∃ u, Ty.parse (expression us) = .ok u) ∧
      ∀ u v, Ty.parse (expression ss) = .ok u → Ty.parse (expression us) = .ok v →
        u = v ∧ u.declaration = v.declaration ∧ u.documentation = v.documentation) ∧
    (∀ ss us : List Segment, ss.Perm us → (∀ s ∈ ss, s.Acceptable) →
      ∀ e, Ty.parse (expression ss) = .error e →
        ∃ e', Ty.parse (expression us) = .error e' ∧ e.Alike e') ∧
    ∀ s s' : Segment, s.Shuffled s' → (∀ t ∈ s.texts, ∃ a, Atom.ofText t = .ok a) →
      ∀ e, Ty.parse s.text = .error e → ∃ e', Ty.parse s'.text = .error e' ∧ e.Alike e' := by
  refine ⟨fun ss us h => ⟨?_, fun u v hu hv => ?_⟩, fun ss us hperm h e he => ?_,
    fun s s' hs h e he => ?_⟩
  · exact ⟨fun ⟨u, hu⟩ => ⟨u, h.parse_eq_ok hu⟩, fun ⟨u, hu⟩ => ⟨u, h.symm.parse_eq_ok hu⟩⟩
  · have heq : u = v := Except.ok.inj ((h.parse_eq_ok hu).symm.trans hv)
    rw [heq]
    exact ⟨rfl, rfl, rfl⟩
  · exact alike_of_unplaced_eq (unplaced_parse_expression_eq hperm h) he
  · exact alike_of_unplaced_eq (hs.unplaced_parse_eq h) he

/-- A union of a group and a keyword both ways round, an illegal union, and an illegal group. -/
theorem parse_order_independent_instances :
    ((∃ u, Ty.parse "(B& A)|null".toList = .ok u) ↔ ∃ u, Ty.parse "null|( A&B)".toList = .ok u) ∧
    (∃ e, Ty.parse "false|bool".toList = .error e ∧
      Error.Alike ⟨.illegal .covers ["false".toList], "bool".toList, some ⟨0, 4⟩⟩ e) ∧
    ∃ e, Ty.parse "a&A".toList = .error e ∧
      Error.Alike
        ⟨.illegal (.duplicate .intersection) ["a".toList], "A".toList, some ⟨0, 1⟩⟩ e := by
  let null : Segment := ⟨["null".toList], none, by simp, by simp, by simp⟩
  let bool : Segment := ⟨["bool".toList], none, by simp, by simp, by simp⟩
  let falseValue : Segment := ⟨["false".toList], none, by simp, by simp, by simp⟩
  let ba : Segment := ⟨["B".toList, " A".toList], some ([], []), by simp, by simp, by simp⟩
  let ab : Segment := ⟨[" A".toList, "B".toList], some ([], []), by simp, by simp, by simp⟩
  let upper : Segment := ⟨["A".toList, "a".toList], none, by simp, by simp, by simp⟩
  let lower : Segment := ⟨["a".toList, "A".toList], none, by simp, by simp, by simp⟩
  refine ⟨?_, ?_, ?_⟩
  · have hba : ba.Shuffled ab := ⟨.swap _ _ _, rfl⟩
    have hrearranged : Rearranged [ba, null] [null, ab] :=
      ⟨[ab, null], .cons hba (.cons ⟨.rfl, rfl⟩ .nil), .swap _ _ _⟩
    exact (parse_order_independent.1 [ba, null] [null, ab] hrearranged).1
  · have hacceptable : ∀ s ∈ [bool, falseValue], s.Acceptable := by
      refine List.forall_mem_cons.mpr ⟨.inl ⟨.ofKeyword .bool, ?_⟩,
        List.forall_mem_singleton.mpr (.inl ⟨.ofKeyword .falseValue, ?_⟩)⟩
      · decide +kernel
      · decide +kernel
    exact parse_order_independent.2.1 [bool, falseValue] [falseValue, bool] (.swap _ _ _)
      hacceptable _ (by decide +kernel)
  · have hatoms : ∀ t ∈ upper.texts, ∃ a, Atom.ofText t = .ok a := by
      refine List.forall_mem_cons.mpr ⟨⟨.ofClass "A".toList, ?_⟩,
        List.forall_mem_singleton.mpr ⟨.ofClass "a".toList, ?_⟩⟩
      · decide +kernel
      · decide +kernel
    exact parse_order_independent.2.2 upper lower ⟨.swap _ _ _, rfl⟩ hatoms _ (by decide +kernel)

end Segment
end TypeExpr
