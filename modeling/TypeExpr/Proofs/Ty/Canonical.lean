import TypeExpr.Ty.Order

/-!
# `TypeExpr.Proofs.Ty.Canonical`: canonical form

Sorting depends on the members and not on how they are carried around (`map_sortByKey`) or what else
is sorted with them (`filterMap_sortByKey`), leaves a sorted list alone (`sort_eq_self`), and
forgets the order of its input as far as members can be told apart by their keys
(`sort_eq_of_perm`). In a sorted list the atoms come first (`exists_atoms_append`).

The **canonical** form of a type has the members of every combination in it sorted. **Splicing**
replaces each union in a union by its members.
-/

namespace TypeExpr.Ty

/-! ### Sorting -/

/-- Dropping entries from a sorted list commutes with putting one in. -/
theorem filterMap_insertByKey {α β : Type} {key : α → SortKey} {key' : β → SortKey}
    {f : α → Option β} (hkey : ∀ a b, f a = some b → key' b = key a) {x : α} {xs : List α}
    (hxs : xs.Pairwise fun a b => (key a).le (key b) = true) :
    (insertByKey key x xs).filterMap f =
      match f x with
      | none => xs.filterMap f
      | some y => insertByKey key' y (xs.filterMap f) := by
  induction xs with
  | nil => cases hx : f x <;> simp [insertByKey, hx]
  | cons z zs ih =>
      obtain ⟨hz, hzs⟩ := List.pairwise_cons.mp hxs
      rw [insertByKey]
      cases hx : f x with
      | none =>
          split
          · rw [List.filterMap_cons_none hx]
          · rw [List.filterMap_cons, List.filterMap_cons, ih hzs, hx]
      | some y =>
          split
          · next hle =>
              -- the entry goes in front of all, and so it does among those that are kept
              have hfirst : ∀ w ∈ (z :: zs).filterMap f, (key' y).le (key' w) = true := by
                intro w hw
                obtain ⟨v, hv, hvw⟩ := List.mem_filterMap.mp hw
                rw [hkey x y hx, hkey v w hvw]
                rcases List.mem_cons.mp hv with rfl | hv
                · exact hle
                · exact SortKey.le_trans hle (hz v hv)
              rw [List.filterMap_cons_some hx]
              cases hkept : (z :: zs).filterMap f with
              | nil => rfl
              | cons w ws =>
                  rw [hkept] at hfirst
                  exact (if_pos (hfirst w (List.mem_cons_self ..))).symm
          · next hle =>
              rw [List.filterMap_cons, ih hzs, hx, List.filterMap_cons]
              cases hfz : f z with
              | none => rfl
              | some w =>
                  rw [← hkey x y hx, ← hkey z w hfz] at hle
                  exact (if_neg hle).symm

/-- Sorting and then dropping entries is dropping them and then sorting. -/
theorem filterMap_sortByKey {α β : Type} {key : α → SortKey} {key' : β → SortKey} {f : α → Option β}
    (hkey : ∀ a b, f a = some b → key' b = key a) (xs : List α) :
    (sortByKey key xs).filterMap f = sortByKey key' (xs.filterMap f) := by
  induction xs with
  | nil => rfl
  | cons x xs ih =>
      rw [sortByKey, filterMap_insertByKey hkey (pairwise_sortByKey key xs), ih,
        List.filterMap_cons]
      cases f x <;> rfl

/-- Sorting by what is seen of the entries is sorting what is seen. -/
theorem map_sortByKey {α β : Type} (f : α → β) (key : β → SortKey) (xs : List α) :
    (sortByKey (fun a => key (f a)) xs).map f = sortByKey key (xs.map f) := by
  rw [← List.filterMap_eq_map]
  exact filterMap_sortByKey (fun a b hab => by rw [← Option.some.inj hab]) xs

theorem sort_perm (ts : List Ty) : (sort ts).Perm ts := sortByKey_perm sortKey ts

theorem pairwise_sort (ts : List Ty) : (sort ts).Pairwise fun s t => s.le t = true :=
  pairwise_sortByKey sortKey ts

theorem length_sort (ts : List Ty) : (sort ts).length = ts.length := (sort_perm ts).length_eq

theorem mem_sort {t : Ty} {ts : List Ty} : t ∈ sort ts ↔ t ∈ ts := (sort_perm ts).mem_iff

/-- A sorted list stays as it is. -/
theorem sort_eq_self {ts : List Ty} (h : ts.Pairwise fun s t => s.le t = true) : sort ts = ts := by
  induction ts with
  | nil => rfl
  | cons t ts ih =>
      obtain ⟨ht, hts⟩ := List.pairwise_cons.mp h
      have hsort : sortByKey sortKey ts = ts := ih hts
      rw [sort, sortByKey, hsort]
      cases ts with
      | nil => rfl
      | cons u us =>
          have htu : t.sortKey.le u.sortKey = true := ht u (by simp)
          rw [insertByKey, if_pos htu]

@[simp] theorem sort_sort (ts : List Ty) : sort (sort ts) = sort ts :=
  sort_eq_self (pairwise_sort ts)

/-- The order of the input is forgotten if the keys tell its members apart. -/
theorem sort_eq_of_perm {ts us : List Ty} (h : ts.Perm us)
    (hinj : ∀ s ∈ ts, ∀ t ∈ ts, s.sortKey = t.sortKey → s = t) : sort ts = sort us := by
  -- both results are in order and have the same entries, so they differ in entries of one key at
  -- most
  refine List.Perm.eq_of_pairwise ?_ (pairwise_sort ts) (pairwise_sort us)
    ((sort_perm ts).trans (h.trans (sort_perm us).symm))
  intro s t hs ht hst hts
  exact hinj s (mem_sort.mp hs) t (h.mem_iff.mpr (mem_sort.mp ht)) (SortKey.le_antisymm hst hts)

/-! ### Atoms among members -/

/-- The atoms among the members of a combination, in their order. -/
def atomicMembers (ts : List Ty) : List Atom := ts.filterMap atom?

@[simp] theorem atomicMembers_map_atom (as : List Atom) : atomicMembers (as.map .atom) = as := by
  rw [atomicMembers, List.filterMap_map]
  exact List.filterMap_some

theorem atomicMembers_perm {ts us : List Ty} (h : ts.Perm us) :
    (atomicMembers ts).Perm (atomicMembers us) := h.filterMap atom?

/-- The atoms of a sorted list are in order. -/
theorem pairwise_atomicMembers {ts : List Ty} (h : ts.Pairwise fun s t => s.le t = true) :
    (atomicMembers ts).Pairwise fun a b => (Ty.atom a).le (.atom b) = true := by
  rw [atomicMembers, List.pairwise_filterMap]
  refine h.imp fun {s t} hst a ha b hb => ?_
  cases s with
  | combine mode us => cases ha
  | atom a' =>
      cases t with
      | combine mode us => cases hb
      | atom b' =>
          cases ha
          cases hb
          exact hst

/-- In a sorted list the atoms come first. -/
theorem exists_atoms_append {ts : List Ty} (h : ts.Pairwise fun s t => s.le t = true) :
    ∃ (as : List Atom) (us : List Ty), ts = as.map .atom ++ us ∧ ∀ u ∈ us, u.atom? = none := by
  induction ts with
  | nil => exact ⟨[], [], rfl, by simp⟩
  | cons t ts ih =>
      obtain ⟨ht, hts⟩ := List.pairwise_cons.mp h
      cases t with
      | atom a =>
          obtain ⟨as, us, rfl, hus⟩ := ih hts
          exact ⟨a :: as, us, rfl, hus⟩
      | combine mode ms =>
          -- an atom further back would rank before this combination
          refine ⟨[], .combine mode ms :: ts, rfl, fun u hu => ?_⟩
          rcases List.mem_cons.mp hu with rfl | hu
          · rfl
          · cases u with
            | atom a => exact absurd (ht _ hu) (by simp [le, sortKey, SortKey.le])
            | combine n us => rfl

/-! ### Canonical form -/

mutual
/-- The type with the members of every combination in canonical order. -/
def canonical : Ty → Ty
  | .atom a => .atom a
  | .combine mode ts => .combine mode (sort (canonicalMembers ts))

/-- Members, each in canonical form. -/
def canonicalMembers : List Ty → List Ty
  | [] => []
  | t :: ts => t.canonical :: canonicalMembers ts
end

theorem canonicalMembers_eq_map (ts : List Ty) : canonicalMembers ts = ts.map canonical := by
  induction ts with
  | nil => rfl
  | cons t ts ih => rw [canonicalMembers, ih, List.map_cons]

theorem canonical_combine (mode : Mode) (ts : List Ty) :
    (Ty.combine mode ts).canonical = .combine mode (sort (ts.map canonical)) := by
  rw [canonical, canonicalMembers_eq_map]

mutual
/-- A canonical form is its own. -/
theorem canonical_canonical : ∀ (t : Ty), t.canonical.canonical = t.canonical
  | .atom a => rfl
  | .combine mode ts => by
      -- the members are canonical already, and sorting sorted members does nothing
      have hmembers : (sort (canonicalMembers ts)).map canonical =
          (sort (canonicalMembers ts)).map id :=
        List.map_congr_left fun t ht => canonical_of_mem_canonicalMembers ts t (mem_sort.mp ht)
      rw [canonical, canonical_combine, hmembers, List.map_id, sort_sort]

theorem canonical_of_mem_canonicalMembers : ∀ (ts : List Ty), ∀ t ∈ canonicalMembers ts,
    t.canonical = t
  | [], t, h => absurd h List.not_mem_nil
  | u :: us, t, h => by
      rcases List.mem_cons.mp h with rfl | h
      · exact canonical_canonical u
      · exact canonical_of_mem_canonicalMembers us t h
end

mutual
/-- What a type contributes to a union around it: a union its members, spliced in turn, and anything
else itself. -/
def alternatives : Ty → List Ty
  | .combine .union ts => memberAlternatives ts
  | t => [t]

/-- What members contribute to a union together. -/
def memberAlternatives : List Ty → List Ty
  | [] => []
  | t :: ts => t.alternatives ++ memberAlternatives ts
end

theorem memberAlternatives_eq_flatMap (ts : List Ty) :
    memberAlternatives ts = ts.flatMap alternatives := by
  induction ts with
  | nil => rfl
  | cons t ts ih => rw [memberAlternatives, ih, List.flatMap_cons]

/-- The type with unions inside unions at its root replaced by their members. -/
def splice : Ty → Ty
  | .combine .union ts => .combine .union (memberAlternatives ts)
  | t => t

/-! ### Combinations -/

mutual
/-- Every combination in a type, itself included: its mode and its members. -/
def combinations : Ty → List (Mode × List Ty)
  | .atom _ => []
  | .combine mode ts => (mode, ts) :: memberCombinations ts

/-- Every combination in a list of members. -/
def memberCombinations : List Ty → List (Mode × List Ty)
  | [] => []
  | t :: ts => t.combinations ++ memberCombinations ts
end

theorem mem_memberCombinations {c : Mode × List Ty} {ts : List Ty} :
    c ∈ memberCombinations ts ↔ ∃ t ∈ ts, c ∈ t.combinations := by
  induction ts with
  | nil => simp [memberCombinations]
  | cons t ts ih => simp [memberCombinations, ih]

mutual
/-- In a canonical form the members of every combination are in order. -/
theorem pairwise_of_mem_combinations_canonical : ∀ (t : Ty), ∀ c ∈ t.canonical.combinations,
    c.2.Pairwise fun s t => s.le t = true
  | .atom a, c, hc => absurd hc List.not_mem_nil
  | .combine mode ts, c, hc => by
      rw [canonical, combinations] at hc
      rcases List.mem_cons.mp hc with rfl | hc
      · exact pairwise_sort _
      · obtain ⟨u, hu, hc⟩ := mem_memberCombinations.mp hc
        exact pairwise_of_mem_canonicalMembers ts u (mem_sort.mp hu) c hc

theorem pairwise_of_mem_canonicalMembers : ∀ (ts : List Ty), ∀ u ∈ canonicalMembers ts,
    ∀ c ∈ u.combinations, c.2.Pairwise fun s t => s.le t = true
  | [], u, hu, c, hc => absurd hu List.not_mem_nil
  | t :: ts, u, hu, c, hc => by
      rcases List.mem_cons.mp hu with rfl | hu
      · exact pairwise_of_mem_combinations_canonical t c hc
      · exact pairwise_of_mem_canonicalMembers ts u hu c hc
end

/-! ### Leaves -/

theorem memberAtoms_eq_flatMap (ts : List Ty) : memberAtoms ts = ts.flatMap atoms := by
  induction ts with
  | nil => rfl
  | cons t ts ih => rw [memberAtoms, ih, List.flatMap_cons]

mutual
/-- The canonical form has the same leaves. -/
theorem atoms_canonical_perm : ∀ (t : Ty), t.canonical.atoms.Perm t.atoms
  | .atom a => .rfl
  | .combine mode ts => by
      have hsort : (memberAtoms (sort (canonicalMembers ts))).Perm
          (memberAtoms (canonicalMembers ts)) := by
        rw [memberAtoms_eq_flatMap, memberAtoms_eq_flatMap]
        exact (sort_perm _).flatMap_right atoms
      exact hsort.trans (memberAtoms_canonicalMembers_perm ts)

theorem memberAtoms_canonicalMembers_perm : ∀ (ts : List Ty),
    (memberAtoms (canonicalMembers ts)).Perm (memberAtoms ts)
  | [] => .rfl
  | t :: ts => (atoms_canonical_perm t).append (memberAtoms_canonicalMembers_perm ts)
end

/-! ### Groups -/

/-- An intersection of atoms. -/
def group (as : List Atom) : Ty := .combine .intersection (as.map .atom)

/-- Atoms in canonical order. -/
def sortAtoms (as : List Atom) : List Atom := atomicMembers (sort (as.map .atom))

theorem map_atom_atomicMembers {ts : List Ty} (h : ∀ t ∈ ts, ∃ a, t = .atom a) :
    (atomicMembers ts).map .atom = ts := by
  induction ts with
  | nil => rfl
  | cons t ts ih =>
      obtain ⟨a, rfl⟩ := h t (by simp)
      have hts := ih fun u hu => h u (List.mem_cons_of_mem _ hu)
      rw [atomicMembers, List.filterMap_cons]
      exact congrArg (Ty.atom a :: ·) hts

theorem sort_map_atom (as : List Atom) : sort (as.map .atom) = (sortAtoms as).map .atom := by
  refine (map_atom_atomicMembers fun t ht => ?_).symm
  obtain ⟨a, -, rfl⟩ := List.mem_map.mp (mem_sort.mp ht)
  exact ⟨a, rfl⟩

theorem sortAtoms_perm (as : List Atom) : (sortAtoms as).Perm as :=
  (atomicMembers_perm (sort_perm _)).trans (.of_eq (atomicMembers_map_atom as))

/-- The atoms among members in order are those among the members, in order. -/
theorem atomicMembers_sort (ts : List Ty) :
    atomicMembers (sort ts) = sortAtoms (atomicMembers ts) := by
  have hkey : ∀ (t : Ty) (a : Atom), t.atom? = some a → (Ty.atom a).sortKey = t.sortKey := by
    intro t a h
    cases t with
    | atom b => rw [Option.some.inj h]
    | combine mode us => cases h
  have hsorted : ∀ us, atomicMembers (sort us) =
      sortByKey (fun a => (Ty.atom a).sortKey) (atomicMembers us) := filterMap_sortByKey hkey
  rw [sortAtoms, hsorted, hsorted, atomicMembers_map_atom]

/-- The order of atoms is forgotten. -/
theorem sortAtoms_eq_of_perm {as bs : List Atom} (h : as.Perm bs) :
    sortAtoms as = sortAtoms bs := by
  refine congrArg atomicMembers (sort_eq_of_perm (h.map Ty.atom) fun s hs t ht hst => ?_)
  obtain ⟨a, -, rfl⟩ := List.mem_map.mp hs
  obtain ⟨b, -, rfl⟩ := List.mem_map.mp ht
  rw [sortKey_atom_inj.mp hst]

/-- The canonical form of a group is the group of its atoms in order. -/
theorem canonical_group (as : List Atom) : (group as).canonical = group (sortAtoms as) := by
  have hatoms : (as.map Ty.atom).map canonical = as.map Ty.atom := by
    rw [List.map_map]
    rfl
  rw [group, canonical_combine, hatoms, sort_map_atom, group]

theorem canonical_group_eq_of_perm {as bs : List Atom} (h : as.Perm bs) :
    (group as).canonical = (group bs).canonical := by
  rw [canonical_group, canonical_group, sortAtoms_eq_of_perm h]

theorem atoms_group (as : List Atom) : (group as).atoms = as := by
  have hatoms : (as.map Ty.atom).flatMap atoms = as := by
    rw [List.flatMap_map]
    exact List.flatMap_singleton' as
  exact (memberAtoms_eq_flatMap _).trans hatoms

theorem combinations_group (as : List Atom) :
    (group as).combinations = [(.intersection, as.map .atom)] := by
  have hatoms : memberCombinations (as.map .atom) = [] := by
    refine List.eq_nil_iff_forall_not_mem.mpr fun c hc => ?_
    obtain ⟨t, ht, hc⟩ := mem_memberCombinations.mp hc
    obtain ⟨a, -, rfl⟩ := List.mem_map.mp ht
    exact absurd hc List.not_mem_nil
  rw [group, combinations, hatoms]

end TypeExpr.Ty
