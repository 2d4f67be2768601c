import Mathlib.Data.List.Basic
import TypeExpr.Proofs.Ty.Canonical

/-!
# `TypeExpr.Proofs.Ty.Outline`: outlines give types away

The outline of a type lists its nodes, one a line, each standing deeper than the node above it. From
the lines alone the type can be found again, as long as no name is empty or begins with a space:
then the blanks in front of a line say how deep its node is.

Two things are to be shown. The headline of a node says what the node is, but for its members
(`eq_of_headline_eq`): the number at the end of the line of an atom can be told from the name in
front, whatever this may hold. And in the lines of several members one after the other it can be
seen where each of them ends (`cut_outlineMembers`), since all lines of a member but the first begin
with the blanks of a level, and the first does not.
-/

namespace TypeExpr

/-- **A list is cut in one way** into elements with a property, and others of which the first is
without it. -/
theorem append_inj_of_forall {α : Type} {P : α → Prop} {xs ys us vs : List α} (hxs : ∀ x ∈ xs, P x)
    (hys : ∀ y ∈ ys, P y) (hus : ∀ u ∈ us.head?, ¬ P u) (hvs : ∀ v ∈ vs.head?, ¬ P v)
    (h : xs ++ us = ys ++ vs) : xs = ys ∧ us = vs := by
  -- what one front has more than the other is the beginning of what comes after the other
  rcases List.append_eq_append_iff.mp h with ⟨more, rfl, rfl⟩ | ⟨more, rfl, rfl⟩
  · cases more with
    | nil => exact ⟨(List.append_nil xs).symm, rfl⟩
    | cons u more => exact absurd (hys u (by simp)) (hus u (by simp))
  · cases more with
    | nil => exact ⟨List.append_nil ys, rfl⟩
    | cons v more => exact absurd (hxs v (by simp)) (hvs v (by simp))

namespace Text

/-- The text begins with a character, and not with a space. -/
def Flush (t : Text) : Prop := t ≠ [] ∧ t.head? ≠ some ' '

instance (t : Text) : Decidable t.Flush := inferInstanceAs (Decidable (_ ∧ _))

theorem Flush.append {t : Text} (h : t.Flush) (u : Text) : Flush (t ++ u) := by
  obtain ⟨c, rest, rfl⟩ := List.exists_cons_of_ne_nil h.1
  exact ⟨by simp, h.2⟩

/-- A text is cut in one way at its last space. -/
theorem append_space_inj {x y u v : Text} (hu : ' ' ∉ u) (hv : ' ' ∉ v)
    (h : x ++ ' ' :: u = y ++ ' ' :: v) : x = y ∧ u = v := by
  have hreverse : u.reverse ++ ' ' :: x.reverse = v.reverse ++ ' ' :: y.reverse := by
    simpa using congrArg List.reverse h
  have hcut := append_inj_of_forall (P := (· ≠ ' ')) (fun c hc hs => hu (by simpa [hs] using hc))
    (fun c hc hs => hv (by simpa [hs] using hc)) (by simp) (by simp) hreverse
  exact ⟨by simpa using hcut.2, by simpa using hcut.1⟩

theorem space_not_mem_ofInt (i : Int) : ' ' ∉ ofInt i := fun h => by
  rcases eq_minus_or_isDigit_of_mem_ofInt h with hc | hc <;> exact absurd hc (by decide)

end Text

namespace Ty

/-! ### Headlines -/

/-- The first line of an outline, which is that of the node itself. -/
def headline : Ty → Text
  | .atom a => outlineLeaf a
  | .combine mode _ => mode.name

theorem outline_eq_cons (t : Ty) :
    t.outline [] = t.headline :: (outlineMembers [] t.members).map (outlineStep ++ ·) := by
  cases t with
  | atom a => rfl
  | combine mode ts =>
      have hdeeper := outlineMembers_append outlineStep [] ts
      rw [List.append_nil] at hdeeper
      rw [outline, List.nil_append, List.nil_append, hdeeper]
      rfl

/-- The line of an atom says which atom it is, even where the name looks like the end of such a
line. -/
theorem outlineLeaf_inj {a b : Atom} : outlineLeaf a = outlineLeaf b ↔ a = b := by
  refine ⟨fun h => ?_, congrArg outlineLeaf⟩
  -- the precedence stands behind the last space
  have hline : ∀ c : Atom, outlineLeaf c = ((c.name ++ " (".toList ++
      (if c.isBuiltin then "built-in".toList else "class".toList) ++ [',']) ++
      ' ' :: Text.ofInt c.precedence) ++ [')'] := fun c => by
    have hcomma : ", ".toList = [',', ' '] := rfl
    have hclose : ")".toList = [')'] := rfl
    simp only [outlineLeaf, hcomma, hclose, List.append_assoc, List.cons_append, List.nil_append]
  rw [hline, hline] at h
  obtain ⟨hfront, hnumber⟩ := Text.append_space_inj (Text.space_not_mem_ofInt _)
    (Text.space_not_mem_ofInt _) (List.append_cancel_right h)
  have hprecedence : a.precedence = b.precedence := Text.ofInt_inj.mp hnumber
  have hbuiltin : a.isBuiltin = b.isBuiltin := by rw [Atom.isBuiltin, Atom.isBuiltin, hprecedence]
  rw [hbuiltin] at hfront
  have hname : a.name = b.name :=
    List.append_cancel_right (List.append_cancel_right (List.append_cancel_right hfront))
  cases a
  cases b
  exact congrArg₂ Atom.mk hname hprecedence

theorem outlineLeaf_ne_name (a : Atom) (mode : Mode) : outlineLeaf a ≠ mode.name := by
  intro h
  have hleaf : (outlineLeaf a).getLast? = some ')' := List.getLast?_concat
  have hname : mode.name.getLast? ≠ some ')' := by cases mode <;> decide
  exact hname (h ▸ hleaf)

/-- **Headlines tell nodes apart.** A type is settled by its headline and its members. -/
theorem eq_of_headline_eq {s t : Ty} (hhead : s.headline = t.headline)
    (hmembers : s.members = t.members) : s = t := by
  cases s with
  | atom a =>
      cases t with
      | atom b => rw [outlineLeaf_inj.mp hhead]
      | combine mode ts => exact absurd hhead (outlineLeaf_ne_name a mode)
  | combine mode ss =>
      cases t with
      | atom b => exact absurd hhead.symm (outlineLeaf_ne_name b mode)
      | combine mode' ts =>
          have hmode : mode = mode' := Mode.name_inj.mp hhead
          have hsame : ss = ts := hmembers
          rw [hmode, hsame]

/-! ### Depth -/

/-- The names in the type can be told from the blanks in front of them. -/
def Legible (t : Ty) : Prop := ∀ a ∈ t.atoms, a.name.Flush

instance (t : Ty) : Decidable t.Legible := inferInstanceAs (Decidable (∀ a ∈ t.atoms, a.name.Flush))

theorem Legible.flush_headline {t : Ty} (h : t.Legible) : t.headline.Flush := by
  cases t with
  | atom a =>
      have hname : a.name.Flush := h a (List.mem_singleton_self a)
      rw [headline, outlineLeaf]
      simp only [List.append_assoc]
      exact hname.append _
  | combine mode ts =>
      have hname : mode.name.Flush := by cases mode <;> decide
      exact hname

theorem legible_of_mem_members {s t : Ty} (h : t.Legible) (hs : s ∈ t.members) : s.Legible := by
  cases t with
  | atom a => exact absurd hs List.not_mem_nil
  | combine mode ts =>
      intro a ha
      refine h a ?_
      rw [atoms, memberAtoms_eq_flatMap]
      exact List.mem_flatMap.mpr ⟨s, hs, ha⟩

theorem memberSize_members_lt (t : Ty) : memberSize t.members < t.size := by
  cases t with
  | atom a => exact Nat.one_pos
  | combine mode ts =>
      rw [size, members]
      omega

/-- Whether a line begins with the blanks of a level. -/
def Deeper (line : Text) : Prop := ∃ rest, line = outlineStep ++ rest

theorem not_deeper_of_flush {line : Text} (h : line.Flush) : ¬ Deeper line := by
  rintro ⟨rest, rfl⟩
  exact h.2 rfl

/-- **Where a member ends.** From the lines of members one after the other, the first line is the
headline of the first member, and the lines after it that stand deeper are those of its own
members. -/
theorem cut_outlineMembers {s t : Ty} {ss ts : List Ty} (hs : ∀ u ∈ ss, u.Legible)
    (ht : ∀ u ∈ ts, u.Legible) (h : outlineMembers [] (s :: ss) = outlineMembers [] (t :: ts)) :
    s.headline = t.headline ∧ outlineMembers [] s.members = outlineMembers [] t.members ∧
      outlineMembers [] ss = outlineMembers [] ts := by
  rw [outlineMembers, outlineMembers, outline_eq_cons, outline_eq_cons] at h
  obtain ⟨hhead, hrest⟩ := List.cons.inj h
  have hdeeper : ∀ lines : List Text, ∀ line ∈ lines.map (outlineStep ++ ·), Deeper line := by
    intro lines line hline
    obtain ⟨rest, -, rfl⟩ := List.mem_map.mp hline
    exact ⟨rest, rfl⟩
  have hfirst : ∀ {us : List Ty}, (∀ u ∈ us, u.Legible) →
      ∀ line ∈ (outlineMembers [] us).head?, ¬ Deeper line := by
    intro us hus line hline
    cases us with
    | nil => cases hline
    | cons u us =>
        rw [outlineMembers, outline_eq_cons] at hline
        obtain rfl := Option.some.inj hline
        exact not_deeper_of_flush (hus u (by simp)).flush_headline
  obtain ⟨hmembers, hothers⟩ :=
    append_inj_of_forall (hdeeper _) (hdeeper _) (hfirst hs) (hfirst ht) hrest
  exact ⟨hhead, (List.append_right_injective outlineStep).list_map hmembers, hothers⟩

/-! ### Reading outlines -/

/-- Members with the same lines are the same members. By induction on the number of nodes: the first
members have the same headline and, among their own members, fewer nodes. -/
theorem eq_of_outlineMembers_eq : ∀ {ss ts : List Ty}, (∀ s ∈ ss, s.Legible) →
    (∀ t ∈ ts, t.Legible) → outlineMembers [] ss = outlineMembers [] ts → ss = ts
  | [], [], _, _, _ => rfl
  | [], t :: ts, _, _, h => by
      rw [outlineMembers, outlineMembers, outline_eq_cons] at h
      cases h
  | s :: ss, [], _, _, h => by
      rw [outlineMembers, outlineMembers, outline_eq_cons] at h
      cases h
  | s :: ss, t :: ts, hs, ht, h => by
      obtain ⟨hs, hss⟩ := List.forall_mem_cons.mp hs
      obtain ⟨ht, hts⟩ := List.forall_mem_cons.mp ht
      obtain ⟨hhead, hmembers, hrest⟩ := cut_outlineMembers hss hts h
      have hfirst : s = t := eq_of_headline_eq hhead (eq_of_outlineMembers_eq
        (fun _ => legible_of_mem_members hs) (fun _ => legible_of_mem_members ht) hmembers)
      rw [hfirst, eq_of_outlineMembers_eq hss hts hrest]
termination_by ss => memberSize ss
decreasing_by
  all_goals
    have hmembers := memberSize_members_lt s
    rw [memberSize]
    omega

/-- **Outlines give types away.** Types whose names are not empty and do not begin with a space are
the same if their outlines are, however deep they are set in. An outline has a line for every
node. -/
theorem outline_determines_type :
    (∀ (s t : Ty) (indent : Text), s.Legible → t.Legible → s.outline indent = t.outline indent →
      s = t) ∧
    ∀ (t : Ty) (indent : Text), (t.outline indent).length = t.size := by
  refine ⟨fun s t indent hs ht h => ?_, fun t indent => length_outline indent t⟩
  have hindent : ∀ u : Ty, u.outline indent = (u.outline []).map (indent ++ ·) := fun u => by
    rw [← outline_append, List.append_nil]
  rw [hindent, hindent] at h
  have houtline : s.outline [] = t.outline [] :=
    (List.append_right_injective indent).list_map h
  have hmembers : outlineMembers [] [s] = outlineMembers [] [t] := by
    rw [outlineMembers, outlineMembers, houtline]
    rfl
  exact List.singleton_inj.mp
    (eq_of_outlineMembers_eq (by simpa using hs) (by simpa using ht) hmembers)

/-- A type with a combination of nothing in it, and a name that looks like a line of an outline. -/
theorem outline_determines_type_instances :
    ∃ s t : Ty,
      s = (combine .union
        [.combine .intersection [], .atom ⟨"A (class, 0)".toList, -3⟩]).canonical ∧
      t = .combine .union [.atom ⟨"A (class, 0)".toList, -3⟩, .combine .intersection []] ∧
      s.Legible ∧ t.Legible ∧ s.outline "  ".toList = t.outline "  ".toList ∧ s = t := by
  refine ⟨_, _, rfl, rfl, ?_⟩
  have hs : (combine .union [.combine .intersection [],
      .atom ⟨"A (class, 0)".toList, -3⟩]).canonical.Legible := by decide +kernel
  have ht : Legible (.combine .union [.atom ⟨"A (class, 0)".toList, -3⟩,
      .combine .intersection []]) := by decide +kernel
  refine ⟨hs, ht, ?_, outline_determines_type.1 _ _ "  ".toList hs ht ?_⟩
  · decide +kernel
  · decide +kernel

/-- A name that begins with spaces may pass for that of a node further down. -/
example :
    (combine .union [.combine .union [], .atom ⟨"    A".toList, 0⟩]).outline [] =
      (combine .union [.combine .union [.atom ⟨"A".toList, 0⟩]]).outline [] := by
  decide +kernel

end Ty
end TypeExpr
