import TypeExpr.Proofs.Text.Parts

/-!
# `TypeExpr.Proofs.Text.Comparison`: comparing joined texts

Texts are compared character by character by code point, lists of texts text by text, and in both a
proper prefix comes first. The order of texts that sorting uses is this comparison
(`le_eq_isLE_compare`).

Joining does not change the outcome of a comparison if the separator comes before every character of
the joined texts (`compare_intercalate`): where one text ends and the other goes on, the separator,
like the end of a list, comes first.
-/

namespace TypeExpr.Text

/-- All characters of the text come after the separator. -/
def Above (sep : Char) (t : Text) : Prop := ∀ c ∈ t, sep < c

/-- Nothing, or a text that begins with the separator: what follows a text to which others are
joined. -/
def Joins (sep : Char) (t : Text) : Prop := ∀ c ∈ t.head?, c = sep

variable {sep : Char} {p q x y : Text}

/-- What is joined on comes before any text that goes on. -/
theorem Joins.compare_cons {c : Char} (hx : Joins sep x) (hc : sep < c) (rest : Text) :
    compare x (c :: rest) = .lt := by
  cases x with
  | nil => rfl
  | cons d x =>
      obtain rfl : d = sep := hx d rfl
      rw [List.compare_cons_cons, compare_char_of_lt hc]
      rfl

/-- Texts with something joined on compare like the texts, and if these are equal, like what is
joined on. -/
theorem compare_append (hp : Above sep p) (hq : Above sep q) (hx : Joins sep x) (hy : Joins sep y) :
    compare (p ++ x) (q ++ y) = (compare p q).then (compare x y) := by
  induction p generalizing q with
  | nil =>
      cases q with
      | nil => rfl
      | cons d q => exact hx.compare_cons (hq d List.mem_cons_self) (q ++ y)
  | cons c p ih =>
      cases q with
      | nil =>
          rw [Std.OrientedOrd.eq_swap, List.nil_append, List.cons_append,
            hy.compare_cons (hp c List.mem_cons_self) (p ++ x)]
          rfl
      | cons d q =>
          have hrest := ih (fun e he => hp e (List.mem_cons_of_mem c he))
            (fun e he => hq e (List.mem_cons_of_mem d he))
          rw [List.cons_append, List.cons_append, List.compare_cons_cons, List.compare_cons_cons,
            hrest, Ordering.then_assoc]

/-! ### Joined texts -/

theorem joins_flatMap (sep : Char) (ps : List Text) : Joins sep (ps.flatMap (sep :: ·)) := by
  cases ps <;> simp [Joins]

/-- Texts with a separator in front of each compare like the list of them. -/
theorem compare_flatMap {ps qs : List Text} (hps : ∀ p ∈ ps, Above sep p)
    (hqs : ∀ q ∈ qs, Above sep q) :
    compare (ps.flatMap (sep :: ·)) (qs.flatMap (sep :: ·)) = compare ps qs := by
  induction ps generalizing qs with
  | nil => cases qs <;> rfl
  | cons p ps ih =>
      cases qs with
      | nil => rfl
      | cons q qs =>
          obtain ⟨hp, hps⟩ := List.forall_mem_cons.mp hps
          obtain ⟨hq, hqs⟩ := List.forall_mem_cons.mp hqs
          rw [List.flatMap_cons, List.flatMap_cons, List.cons_append, List.cons_append,
            List.compare_cons_cons, Std.ReflOrd.compare_self, Ordering.eq_then,
            compare_append hp hq (joins_flatMap sep ps) (joins_flatMap sep qs), ih hps hqs,
            List.compare_cons_cons]

/-- **Joined texts compare like the lists of them**, if the separator comes before all their
characters. -/
theorem compare_intercalate {ps qs : List Text} (hps : ∀ p ∈ ps, Above sep p)
    (hqs : ∀ q ∈ qs, Above sep q) (hne : ps ≠ []) (hne' : qs ≠ []) :
    compare ([sep].intercalate ps) ([sep].intercalate qs) = compare ps qs := by
  rw [← compare_flatMap hps hqs, ← cons_intercalate sep hne, ← cons_intercalate sep hne',
    List.compare_cons_cons, Std.ReflOrd.compare_self, Ordering.eq_then]

/-- A character in front of each text changes nothing about comparing lists of them. -/
theorem compare_map_cons (c : Char) (ps qs : List Text) :
    compare (ps.map (c :: ·)) (qs.map (c :: ·)) = compare ps qs := by
  induction ps generalizing qs with
  | nil => cases qs <;> rfl
  | cons p ps ih =>
      cases qs with
      | nil => rfl
      | cons q qs =>
          rw [List.map_cons, List.map_cons, List.compare_cons_cons, List.compare_cons_cons, ih,
            List.compare_cons_cons, Std.ReflOrd.compare_self, Ordering.eq_then]

end TypeExpr.Text
