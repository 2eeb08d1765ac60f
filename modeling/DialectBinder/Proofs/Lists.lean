/-! Facts about lists and options that know nothing of what these hold. -/

namespace List

section Distinct

variable {α : Type} [BEq α] [LawfulBEq α]

theorem nodup_eraseDups (items : List α) : items.eraseDups.Nodup := by
  match items with
  | [] => simp
  | first :: rest =>
    rw [eraseDups_cons]
    refine nodup_cons.mpr ⟨?_, nodup_eraseDups (rest.filter fun item => !item == first)⟩
    intro again
    simpa using mem_eraseDups.mp again
termination_by items.length
decreasing_by exact Nat.lt_succ_of_le (length_filter_le _ _)

theorem eraseDups_of_nodup {items : List α} (distinct : items.Nodup) : items.eraseDups = items := by
  induction items with
  | nil => rfl
  | cons first rest ih =>
    obtain ⟨fresh, distinctRest⟩ := nodup_cons.mp distinct
    have others : rest.filter (fun item => !item == first) = rest := by
      apply filter_eq_self.mpr
      intro item member
      have apart : item ≠ first := fun same => fresh (same ▸ member)
      simpa using apart
    rw [eraseDups_cons, others, ih distinctRest]

/-- What is picked among the first occurrences are the first occurrences of what is picked. -/
theorem filter_eraseDups (test : α → Bool) (items : List α) :
    items.eraseDups.filter test = (items.filter test).eraseDups := by
  match items with
  | [] => rfl
  | first :: rest =>
    rw [eraseDups_cons, filter_cons,
      filter_eraseDups test (rest.filter fun item => !item == first), filter_filter]
    split
    · rename_i taken
      rw [filter_cons_of_pos taken, eraseDups_cons, filter_filter]
      simp only [Bool.and_comm]
    · rename_i passed
      rw [filter_cons_of_neg passed]
      congr 1
      apply filter_congr
      intro item _
      by_cases same : item = first
      · simp [same, passed]
      · simp [same]
termination_by items.length
decreasing_by exact Nat.lt_succ_of_le (length_filter_le _ _)

end Distinct

section Congruence

variable {α β : Type} {items : List α}

theorem all_congr_of_mem {first second : α → Bool}
    (same : ∀ item ∈ items, first item = second item) :
    items.all first = items.all second := by
  rw [Bool.eq_iff_iff, all_eq_true, all_eq_true]
  exact forall_congr' fun item => forall_congr' fun member => by rw [same item member]

theorem any_congr_of_mem {first second : α → Bool}
    (same : ∀ item ∈ items, first item = second item) :
    items.any first = items.any second := by
  rw [Bool.eq_iff_iff, any_eq_true, any_eq_true]
  exact exists_congr fun item => and_congr_right fun member => by rw [same item member]

theorem findSome?_congr {first second : α → Option β}
    (same : ∀ item ∈ items, first item = second item) :
    items.findSome? first = items.findSome? second := by
  induction items with
  | nil => rfl
  | cons item rest ih =>
    rw [findSome?_cons, findSome?_cons, same item mem_cons_self,
      ih fun other member => same other (mem_cons_of_mem item member)]

end Congruence

section Answers

variable {α β : Type} {ask : α → Option β} {answer : α → β} {items : List α}

theorem mapM_eq_some_map (asked : ∀ item ∈ items, ask item = some (answer item)) :
    items.mapM ask = some (items.map answer) := by
  induction items with
  | nil => rfl
  | cons first rest ih =>
    rw [mapM_cons, asked first mem_cons_self, ih fun item member =>
      asked item (mem_cons_of_mem first member)]
    rfl

end Answers

end List

theorem Option.beq_some_eq_any {α : Type} [BEq α] (value : Option α) (expected : α) :
    (value == some expected) = value.any (· == expected) := by
  cases value <;> rfl
