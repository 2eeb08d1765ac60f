import DialectBinder.Annotations

/-! Annotation tables as functions from expressions to marks. A table is determined by what it
answers, and marking joins flags at one expression, so the order of several marks does not show in
the table. -/

namespace DialectBinder

namespace Annotations

theorem union_comm (left right : Annotations) : left.union right = right.union left := by
  simp [union, Bool.or_comm]

theorem union_assoc (first second third : Annotations) :
    (first.union second).union third = first.union (second.union third) := by
  simp [union, Bool.or_assoc]

@[simp]
theorem union_empty (flags : Annotations) : flags.union {} = flags := by
  simp [union]

@[simp]
theorem empty_union (flags : Annotations) : union {} flags = flags := by
  simp [union]

@[simp]
theorem union_self (flags : Annotations) : flags.union flags = flags := by
  simp [union]

theorem includes_iff {flags part : Annotations} :
    flags.includes part = true ↔ flags.union part = flags :=
  beq_iff_eq

@[simp]
theorem includes_empty (flags : Annotations) : flags.includes {} = true :=
  includes_iff.mpr flags.union_empty

@[simp]
theorem empty_includes_iff {part : Annotations} : includes {} part = true ↔ part = {} := by
  rw [includes_iff, empty_union]

end Annotations

namespace AnnotationEntries

theorem lookup_cons_other {expr other : ExprId} (different : other ≠ expr) (flags : Annotations)
    (entries : List (ExprId × Annotations)) : ((expr, flags) :: entries).lookup other =
    entries.lookup other := by
  simp [List.lookup_cons, beq_eq_false_iff_ne.mpr different]

theorem lookup_join (expr other : ExprId) (flags : Annotations)
    {entries : List (ExprId × Annotations)}
    (ordered : entries.Pairwise fun left right => left.1.index < right.1.index) :
    ((join expr flags entries).lookup other).getD {} =
      if other = expr then ((entries.lookup other).getD {}).union flags
      else (entries.lookup other).getD {} := by
  induction entries with
  | nil =>
    by_cases same : other = expr
    · simp [join, same]
    · simp [join, same, lookup_cons_other]
  | cons head rest ih =>
    obtain ⟨first, held⟩ := head
    obtain ⟨after, orderedRest⟩ := List.pairwise_cons.mp ordered
    simp only [join]
    split
    · rename_i before
      by_cases same : other = expr
      · -- The expression comes before all entries, so it has none of its own.
        have absent : ((first, held) :: rest).lookup expr = none := by
          rw [List.lookup_eq_none_iff]
          intro entry member
          rw [bne_iff_ne]
          rintro rfl
          rcases List.mem_cons.mp member with rfl | later
          · exact Nat.lt_irrefl _ before
          · exact Nat.lt_asymm before (after entry later)
        simp [same, absent]
      · simp [same, lookup_cons_other]
    · split
      · rename_i equal
        subst equal
        by_cases same : other = expr
        · simp [same]
        · simp [same, lookup_cons_other]
      · rename_i different
        by_cases here : other = first
        · have apart : ¬first = expr := fun same => different same.symm
          simp [here, apart]
        · simpa [here, lookup_cons_other] using ih orderedRest

end AnnotationEntries

namespace AnnotationTable

def empty : AnnotationTable := {}

theorem get_mark (table : AnnotationTable) (expr other : ExprId) (flags : Annotations) :
    (table.mark expr flags).get other =
      if other = expr then (table.get other).union flags else table.get other := by
  unfold mark
  split
  · rename_i nothing
    simp [nothing]
  · exact AnnotationEntries.lookup_join expr other flags table.ordered

/-- An entry of a table says what the table answers, and the table answers nothing else. -/
theorem mem_entries_iff (table : AnnotationTable) {expr : ExprId} {flags : Annotations} :
    (expr, flags) ∈ table.entries ↔ flags ≠ {} ∧ table.get expr = flags := by
  constructor
  · intro member
    refine ⟨table.marked _ member, ?_⟩
    obtain ⟨before, after, split⟩ := List.append_of_mem member
    have earlier : ∀ entry ∈ before, (expr != entry.1) = true := by
      intro entry present
      have ordered := table.ordered
      rw [split] at ordered
      have smaller := (List.pairwise_append.mp ordered).2.2 entry present (expr, flags) (by simp)
      rw [bne_iff_ne]
      rintro rfl
      exact Nat.lt_irrefl _ smaller
    have found := List.lookup_eq_some_iff.mpr ⟨before, after, split, earlier⟩
    simp [get, found]
  · rintro ⟨marked, answered⟩
    cases found : table.entries.lookup expr with
    | none =>
      simp only [get, found, Option.getD_none] at answered
      exact absurd answered.symm marked
    | some held =>
      simp only [get, found, Option.getD_some] at answered
      obtain ⟨before, after, split, _⟩ := List.lookup_eq_some_iff.mp found
      rw [split, answered]
      simp

theorem eq_of_get_eq {left right : AnnotationTable}
    (same : ∀ expr, left.get expr = right.get expr) :
    left = right := by
  have members : ∀ entry, entry ∈ left.entries ↔ entry ∈ right.entries := by
    rintro ⟨expr, flags⟩
    rw [mem_entries_iff, mem_entries_iff, same]
  have distinct (table : AnnotationTable) : table.entries.Nodup := by
    apply table.ordered.imp
    rintro entry _ before rfl
    exact Nat.lt_irrefl _ before
  have permuted := (List.perm_ext_iff_of_nodup (distinct left) (distinct right)).mpr members
  have entries : left.entries = right.entries :=
    permuted.eq_of_pairwise (fun _ _ _ _ before after =>
      absurd after (Nat.lt_asymm before)) left.ordered
      right.ordered
  cases left
  cases right
  simpa using entries

theorem mark_comm (table : AnnotationTable) (expr other : ExprId) (flags more : Annotations) :
    (table.mark expr flags).mark other more = (table.mark other more).mark expr flags := by
  apply eq_of_get_eq
  intro asked
  simp only [get_mark]
  by_cases first : asked = expr
  · by_cases second : asked = other
    · rw [if_pos second, if_pos first, if_pos first, if_pos second, Annotations.union_assoc,
        Annotations.union_assoc, Annotations.union_comm flags more]
    · rw [if_neg second, if_pos first, if_pos first, if_neg second]
  · rw [if_neg first, if_neg first]

/-- Join several marks, each to its expression. -/
def markAll (table : AnnotationTable) (marks : List (ExprId × Annotations)) : AnnotationTable :=
  marks.foldl (fun marked mark => marked.mark mark.1 mark.2) table

@[simp]
theorem markAll_nil (table : AnnotationTable) : table.markAll [] = table := rfl

theorem markAll_cons (table : AnnotationTable) (mark : ExprId × Annotations)
    (marks : List (ExprId × Annotations)) :
    table.markAll (mark :: marks) = (table.mark mark.1 mark.2).markAll marks := rfl

theorem markAll_append (table : AnnotationTable) (marks more : List (ExprId × Annotations)) :
    table.markAll (marks ++ more) = (table.markAll marks).markAll more :=
  List.foldl_append

theorem markAll_perm (table : AnnotationTable) {marks more : List (ExprId × Annotations)}
    (reordered : marks.Perm more) :
    table.markAll marks = table.markAll more :=
  reordered.foldl_eq' (fun mark _ other _ marked =>
    marked.mark_comm mark.1 other.1 mark.2 other.2) table

/-- The flags that a list of marks has for an expression. -/
def flagsAt (expr : ExprId) (marks : List (ExprId × Annotations)) : Annotations :=
  marks.foldr (fun mark flags => if mark.1 = expr then mark.2.union flags else flags) {}

theorem get_markAll (table : AnnotationTable) (marks : List (ExprId × Annotations))
    (expr : ExprId) :
    (table.markAll marks).get expr = (table.get expr).union (flagsAt expr marks) := by
  induction marks generalizing table with
  | nil => simp [flagsAt]
  | cons mark rest ih =>
    rw [markAll_cons, ih, get_mark]
    by_cases same : mark.1 = expr
    · simp [flagsAt, same, Annotations.union_assoc]
    · have apart : ¬expr = mark.1 := fun equal => same equal.symm
      simp [flagsAt, same, apart]

theorem flagsAt_includes {marks : List (ExprId × Annotations)} {mark : ExprId × Annotations}
    (member : mark ∈ marks) :
    (flagsAt mark.1 marks).includes mark.2 = true := by
  rw [Annotations.includes_iff]
  induction marks with
  | nil => cases member
  | cons head rest ih =>
    rcases List.mem_cons.mp member with rfl | later
    · simp only [flagsAt, List.foldr_cons, ↓reduceIte]
      rw [Annotations.union_comm, ← Annotations.union_assoc, Annotations.union_self]
    · have held : (flagsAt mark.1 rest).union mark.2 = flagsAt mark.1 rest := ih later
      simp only [flagsAt, List.foldr_cons] at held ⊢
      split
      · rw [Annotations.union_assoc, held]
      · exact held

/-- Marking changes the table, unless all marks are there already. -/
theorem markAll_eq_self_iff {table : AnnotationTable} {marks : List (ExprId × Annotations)} :
    table.markAll marks = table ↔ ∀ mark ∈ marks, (table.get mark.1).includes mark.2 = true := by
  constructor
  · intro unchanged mark member
    have answer := table.get_markAll marks mark.1
    rw [unchanged] at answer
    have held := Annotations.includes_iff.mp (flagsAt_includes member)
    rw [Annotations.includes_iff, answer, Annotations.union_assoc, held]
  · intro held
    induction marks with
    | nil => rfl
    | cons head rest ih =>
      obtain ⟨here, later⟩ := List.forall_mem_cons.mp held
      have same : table.mark head.1 head.2 = table := by
        apply eq_of_get_eq
        intro expr
        rw [get_mark]
        split
        · rename_i equal
          rw [equal, Annotations.includes_iff.mp here]
        · rfl
      rw [markAll_cons, same, ih later]

theorem markAll_flatMap_filter {Position : Type} {marks : Position → List (ExprId × Annotations)}
    {matters : Position → Bool} (idle : ∀ position, matters position = false →
      ∀ mark ∈ marks position, mark.2 = {})
    (positions : List Position) (table : AnnotationTable) :
    table.markAll ((positions.filter matters).flatMap marks) =
      table.markAll (positions.flatMap marks) := by
  induction positions generalizing table with
  | nil => rfl
  | cons position rest ih =>
    cases matter : matters position with
    | true =>
      rw [List.filter_cons_of_pos matter, List.flatMap_cons, List.flatMap_cons, markAll_append,
        markAll_append, ih]
    | false =>
      have unchanged : table.markAll (marks position) = table := by
        apply markAll_eq_self_iff.mpr
        intro mark member
        rw [idle position matter mark member, Annotations.includes_empty]
      rw [List.filter_cons_of_neg (by simp [matter]), List.flatMap_cons,
        markAll_append, unchanged, ih]

theorem markAll_again (table : AnnotationTable) (marks : List (ExprId × Annotations)) :
    (table.markAll marks).markAll marks = table.markAll marks := by
  apply eq_of_get_eq
  intro expr
  simp only [get_markAll, Annotations.union_assoc, Annotations.union_self]

end AnnotationTable

end DialectBinder
