import TypeExpr.Proofs.Ty.Build

/-!
# `TypeExpr.Proofs.Ty.Reading`: what a text denotes

Reading a text has two halves. The first finds the tree that the text spells, with members in the
order of the text: this is the relation `Reads`, which says how the text is cut up and what its
leaves are read as. The second **finishes** that tree: from the leaves up it sorts the members of
every combination and lets the atoms among them answer to each other.

A parser does both (`build_of_reads`, `reads_of_build`), and finishing gives the canonical form of
the tree if every combination in it passes its checks, and else the verdict on one that does not
(`finish_eq_ok_iff`, `finish_eq_error`).
-/

namespace TypeExpr.Ty

/-! ### Finishing a tree -/

mutual
/-- The canonical form of a type, once the atoms of each combination have answered to each other. -/
def finish (rules : Rules) : Ty → Except Error Ty
  | .atom a => .ok (.atom a)
  | .combine mode ts => do
    let us ← finishMembers rules ts
    settle rules mode us

/-- The finished members of a combination. -/
def finishMembers (rules : Rules) : List Ty → Except Error (List Ty)
  | [] => .ok []
  | t :: ts => do
    let u ← finish rules t
    let us ← finishMembers rules ts
    return u :: us
end

theorem finishMembers_eq_mapM (rules : Rules) (ts : List Ty) :
    finishMembers rules ts = ts.mapM (finish rules) := by
  induction ts with
  | nil => rfl
  | cons t ts ih => rw [finishMembers, ih, List.mapM_cons]

theorem finish_combine (rules : Rules) (mode : Mode) (ts : List Ty) :
    finish rules (.combine mode ts) = ts.mapM (finish rules) >>= settle rules mode := by
  rw [finish, finishMembers_eq_mapM]

theorem finish_group (rules : Rules) (as : List Atom) :
    finish rules (group as) = settle rules .intersection (as.map .atom) := by
  have hatoms : (as.map Ty.atom).mapM (finish rules) = .ok (as.map Ty.atom) := by
    refine mapM_eq_ok_iff.mpr (List.forall₂_same.mpr fun t ht => ?_)
    obtain ⟨a, -, rfl⟩ := List.mem_map.mp ht
    rfl
  rw [group, finish_combine, hatoms]
  rfl

/-- Every combination in the type passes the checks on its atoms. -/
def Approved (rules : Rules) (t : Ty) : Prop :=
  ∀ c ∈ t.combinations, rules.verdict c.1 (atomicMembers c.2) = .ok ()

mutual
/-- Finishing succeeds just if every combination passes, and gives the canonical form. -/
theorem finish_eq_ok_iff {rules : Rules} : ∀ {d t : Ty},
    finish rules d = .ok t ↔ t = d.canonical ∧ t.Approved rules
  | .atom a, t => by
      rw [finish, canonical]
      constructor
      · intro h
        cases h
        exact ⟨rfl, fun c hc => absurd hc List.not_mem_nil⟩
      · intro h
        obtain ⟨rfl, -⟩ := h
        rfl
  | .combine mode ts, t => by
      rw [finish, bind_eq_ok_iff, canonical]
      -- by induction the members pass just if their own combinations do; this one has its verdict
      constructor
      · intro h
        obtain ⟨us, hus, h⟩ := h
        obtain ⟨rfl, hmembers⟩ := finishMembers_eq_ok_iff.mp hus
        obtain ⟨hverdict, rfl⟩ := settle_eq_ok_iff.mp h
        refine ⟨rfl, fun c hc => ?_⟩
        rcases List.mem_cons.mp hc with rfl | hc
        · exact hverdict
        · obtain ⟨u, hu, hc⟩ := mem_memberCombinations.mp hc
          exact hmembers u (mem_sort.mp hu) c hc
      · intro h
        obtain ⟨rfl, happroved⟩ := h
        refine ⟨canonicalMembers ts, finishMembers_eq_ok_iff.mpr ⟨rfl, fun u hu c hc => ?_⟩,
          settle_eq_ok_iff.mpr ⟨happroved _ (List.mem_cons_self ..), rfl⟩⟩
        exact happroved c (List.mem_cons_of_mem _
          (mem_memberCombinations.mpr ⟨u, mem_sort.mpr hu, hc⟩))

theorem finishMembers_eq_ok_iff {rules : Rules} : ∀ {ds ts : List Ty},
    finishMembers rules ds = .ok ts ↔ ts = canonicalMembers ds ∧ ∀ t ∈ ts, t.Approved rules
  | [], ts => by
      rw [finishMembers, canonicalMembers]
      constructor
      · intro h
        cases h
        exact ⟨rfl, by simp⟩
      · intro h
        obtain ⟨rfl, -⟩ := h
        rfl
  | d :: ds, ts => by
      rw [finishMembers, canonicalMembers, bind_eq_ok_iff]
      constructor
      · intro h
        obtain ⟨u, hu, h⟩ := h
        obtain ⟨us, hus, h⟩ := bind_eq_ok_iff.mp h
        obtain ⟨rfl, hd⟩ := finish_eq_ok_iff.mp hu
        obtain ⟨rfl, hds⟩ := finishMembers_eq_ok_iff.mp hus
        cases h
        exact ⟨rfl, List.forall_mem_cons.mpr ⟨hd, hds⟩⟩
      · intro h
        obtain ⟨rfl, h⟩ := h
        obtain ⟨hd, hds⟩ := List.forall_mem_cons.mp h
        refine ⟨d.canonical, finish_eq_ok_iff.mpr ⟨rfl, hd⟩, bind_eq_ok_iff.mpr ?_⟩
        exact ⟨canonicalMembers ds, finishMembers_eq_ok_iff.mpr ⟨rfl, hds⟩, rfl⟩
end

mutual
/-- Finishing fails with the verdict on some combination. -/
theorem finish_eq_error {rules : Rules} {e : Error} : ∀ {d : Ty}, finish rules d = .error e →
    ∃ c ∈ d.canonical.combinations, rules.verdict c.1 (atomicMembers c.2) = .error e
  | .atom a, h => by cases h
  | .combine mode ts, h => by
      rw [finish] at h
      rw [canonical, combinations]
      -- a member fails before the combination does
      rcases bind_eq_error_iff.mp h with h | ⟨us, hus, h⟩
      · obtain ⟨c, hc, hverdict⟩ := finishMembers_eq_error h
        obtain ⟨u, hu, hc⟩ := mem_memberCombinations.mp hc
        exact ⟨c, List.mem_cons_of_mem _ (mem_memberCombinations.mpr ⟨u, mem_sort.mpr hu, hc⟩),
          hverdict⟩
      · obtain ⟨rfl, -⟩ := finishMembers_eq_ok_iff.mp hus
        rcases bind_eq_error_iff.mp h with h | ⟨_, -, h⟩
        · exact ⟨_, List.mem_cons_self .., h⟩
        · cases h

theorem finishMembers_eq_error {rules : Rules} {e : Error} : ∀ {ds : List Ty},
    finishMembers rules ds = .error e →
    ∃ c ∈ memberCombinations (canonicalMembers ds),
      rules.verdict c.1 (atomicMembers c.2) = .error e
  | [], h => by cases h
  | d :: ds, h => by
      rw [finishMembers] at h
      rw [canonicalMembers, memberCombinations]
      rcases bind_eq_error_iff.mp h with h | ⟨u, -, h⟩
      · obtain ⟨c, hc, hverdict⟩ := finish_eq_error h
        exact ⟨c, List.mem_append_left _ hc, hverdict⟩
      · rcases bind_eq_error_iff.mp h with h | ⟨us, -, h⟩
        · obtain ⟨c, hc, hverdict⟩ := finishMembers_eq_error h
          exact ⟨c, List.mem_append_right _ hc, hverdict⟩
        · cases h
end

/-! ### The tree a text spells -/

/-- The parts of a group's text, its parentheses aside, are read as these atoms. -/
def ReadsGroup (rules : Rules) (t : Text) (as : List Atom) : Prop :=
  t.isUnclosed = false ∧ List.Forall₂ (fun s a => rules.readAtom s = .ok a) (t.unwrap.parts '&') as

/-- A segment of a union is read as an atom or, if it holds a `&`, as a group. -/
inductive ReadsMember (rules : Rules) : Text → Ty → Prop
  | atom {t : Text} {a : Atom} (hamp : '&' ∉ t) (h : rules.readAtom t = .ok a) :
      ReadsMember rules t (.atom a)
  | group {t : Text} {as : List Atom} (hamp : '&' ∈ t) (h : ReadsGroup rules t as) :
      ReadsMember rules t (group as)

/-- A text is read as a union of what its segments are read as or, without a `|`, as a group. -/
inductive Reads (rules : Rules) : Text → Ty → Prop
  | group {t : Text} {as : List Atom} (hbar : '|' ∉ t) (hamp : '&' ∈ t)
      (h : ReadsGroup rules t.trim as) : Reads rules t (group as)
  | union {t : Text} {ts : List Ty} (hbar : '|' ∈ t)
      (h : List.Forall₂ (ReadsMember rules) (t.parts '|') ts) : Reads rules t (.combine .union ts)

variable {rules : Rules} {t : Text}

/-- Without parentheses a group is read from the parts of its text. -/
theorem readsGroup_iff_of_not_mem (h : '(' ∉ t) {as : List Atom} :
    ReadsGroup rules t as ↔
      List.Forall₂ (fun s a => rules.readAtom s = .ok a) (t.parts '&') as := by
  rw [ReadsGroup, Text.isUnclosed_of_not_mem h, Text.unwrap_of_not_mem h]
  exact and_iff_right rfl

/-- In parentheses a group is read from the parts of the text between them. -/
theorem readsGroup_enclosed_iff {as : List Atom} :
    ReadsGroup rules ('(' :: (t ++ [')'])) as ↔
      List.Forall₂ (fun s a => rules.readAtom s = .ok a) (t.parts '&') as := by
  rw [ReadsGroup, Text.isUnclosed_enclosed, Text.unwrap_enclosed]
  exact and_iff_right rfl

theorem buildGroup_of_readsGroup {as : List Atom} (h : ReadsGroup rules t as) :
    buildGroup rules t = finish rules (group as) := by
  have hatoms : (t.unwrap.parts '&').mapM (fun s => (rules.readAtom s).map Ty.atom) =
      .ok (as.map .atom) := by
    rw [mapM_eq_ok_iff, List.forall₂_map_right_iff]
    exact h.2.imp fun s a ha => by rw [ha]; rfl
  rw [buildGroup, h.1, finish_group, hatoms]
  rfl

theorem readsGroup_of_buildGroup {u : Ty} (h : buildGroup rules t = .ok u) :
    ∃ as, ReadsGroup rules t as := by
  unfold buildGroup at h
  split at h
  · cases h
  · next hclosed =>
      obtain ⟨ts, hts, -⟩ := bind_eq_ok_iff.mp h
      obtain ⟨as, has⟩ := exists_forall₂_of_mapM (fun s u hu => (map_eq_ok_iff.mp hu).imp
        fun _ => And.left) hts
      exact ⟨as, eq_false_of_ne_true hclosed, has⟩

theorem buildMember_of_readsMember {d : Ty} (h : ReadsMember rules t d) :
    buildMember rules t = finish rules d := by
  cases h with
  | atom hamp ha =>
      rw [buildMember, if_neg (by simpa using hamp), ha]
      rfl
  | group hamp has =>
      rw [buildMember, if_pos (by simpa using hamp), buildGroup_of_readsGroup has]

theorem readsMember_of_buildMember {u : Ty} (h : buildMember rules t = .ok u) :
    ∃ d, ReadsMember rules t d := by
  unfold buildMember at h
  split at h
  · next hamp =>
      obtain ⟨as, has⟩ := readsGroup_of_buildGroup h
      exact ⟨_, .group (by simpa using hamp) has⟩
  · next hamp =>
      obtain ⟨a, ha, rfl⟩ := map_eq_ok_iff.mp h
      exact ⟨_, .atom (by simpa using hamp) ha⟩

theorem mapM_buildMember {ss : List Text} {ds : List Ty}
    (h : List.Forall₂ (ReadsMember rules) ss ds) :
    ss.mapM (buildMember rules) = ds.mapM (finish rules) := by
  induction h with
  | nil => rfl
  | cons hd _ ih => rw [List.mapM_cons, List.mapM_cons, ih, buildMember_of_readsMember hd]

/-- **What is read is finished.** -/
theorem build_of_reads {d : Ty} (h : Reads rules t d) : build rules t = finish rules d := by
  cases h with
  | @group as hbar hamp has =>
      have hcomposite : t.isComposite = true := Text.isComposite_iff.mpr (.inr hamp)
      rw [build, hcomposite, if_neg (by simp), if_neg (by simpa using hbar),
        buildGroup_of_readsGroup has]
  | @union ts hbar hts =>
      have hcomposite : t.isComposite = true := Text.isComposite_iff.mpr (.inl hbar)
      rw [build, hcomposite, if_neg (by simp), if_pos (by simpa using hbar), mapM_buildMember hts,
        finish_combine]

/-- **What is built was read.** -/
theorem reads_of_build {u : Ty} (h : build rules t = .ok u) : ∃ d, Reads rules t d := by
  unfold build at h
  split at h
  · cases h
  · next hcomposite =>
      split at h
      · next hbar =>
          obtain ⟨us, hus, -⟩ := bind_eq_ok_iff.mp h
          obtain ⟨ts, hts⟩ := exists_forall₂_of_mapM (fun _ _ => readsMember_of_buildMember) hus
          exact ⟨_, .union (by simpa using hbar) hts⟩
      · next hbar =>
          have hbar : '|' ∉ t := by simpa using hbar
          have hcomposite : t.isComposite = true := by simpa using hcomposite
          have hamp : '&' ∈ t := (Text.isComposite_iff.mp hcomposite).resolve_left hbar
          obtain ⟨as, has⟩ := readsGroup_of_buildGroup h
          exact ⟨_, .group hbar hamp has⟩

/-! ### Parsing -/

theorem parseWith_of_not_isComposite (h : t.isComposite = false) :
    parseWith rules t = .error ⟨.notComposite, t, some (Span.whole t.length)⟩ := by
  simp [parseWith, inquire, h]

theorem isComposite_of_parseWith {u : Ty} (h : parseWith rules t = .ok u) :
    t.isComposite = true := by
  by_contra hc
  rw [parseWith_of_not_isComposite (eq_false_of_ne_true hc)] at h
  cases h

/-- **Parsing** succeeds just if the text is read as some tree that passes every check, and gives
the canonical form of that tree. -/
theorem parseWith_eq_ok_iff {u : Ty} :
    parseWith rules t = .ok u ↔
      ∃ d, Reads rules t d ∧ u = d.canonical ∧ u.Approved rules := by
  rw [eq_ok_iff_of_unplaced_eq (unplaced_parseWith rules t)]
  constructor
  · intro h
    obtain ⟨d, hd⟩ := reads_of_build h
    rw [build_of_reads hd] at h
    exact ⟨d, hd, finish_eq_ok_iff.mp h⟩
  · intro h
    obtain ⟨d, hd, hu⟩ := h
    rw [build_of_reads hd]
    exact finish_eq_ok_iff.mpr hu

/-- Once a text is read as a tree, parsing can fail only with the verdict on one of its
combinations. -/
theorem parseWith_eq_error_of_reads {d : Ty} (hd : Reads rules t d) {e : Error}
    (h : parseWith rules t = .error e) :
    ∃ e', finish rules d = .error e' ∧ e'.fault = e.fault ∧ e'.text = e.text := by
  rw [← build_of_reads hd]
  exact exists_error_of_unplaced_eq (unplaced_parseWith rules t) h

end TypeExpr.Ty
