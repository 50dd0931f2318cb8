import Mathlib.Data.List.Basic

set_option autoImplicit false

-- Pending items that are taken out, or moved on in place, in any order.
namespace Queue

variable {α : Type}

theorem split_at (items : List α) (k : Nat) (taken : α) (here : items[k]? = some taken) :
    ∃ front back, items = front ++ taken :: back ∧ items.eraseIdx k = front ++ back ∧
      ∀ next, items.set k next = front ++ next :: back := by
  obtain ⟨bound, rfl⟩ := List.getElem?_eq_some_iff.mp here
  refine ⟨items.take k, items.drop (k + 1), ?_, List.eraseIdx_eq_take_drop_succ items k, fun next => ?_⟩
  · rw [List.getElem_cons_drop, List.take_append_drop]
  · rw [List.set_eq_take_append_cons_drop, if_pos bound]

theorem mem_of_rest (front back : List α) (taken item : α) (member : item ∈ front ++ back) :
    item ∈ front ++ taken :: back := by
  rcases List.mem_append.mp member with before | behind
  · exact List.mem_append_left _ before
  · exact List.mem_append_right _ (List.mem_cons_of_mem taken behind)

theorem mem_cases (front back : List α) (taken item : α) (member : item ∈ front ++ taken :: back) :
    item = taken ∨ item ∈ front ++ back := by
  rcases List.mem_append.mp member with before | rest
  · exact Or.inr (List.mem_append_left back before)
  · rcases List.mem_cons.mp rest with same | behind
    · exact Or.inl same
    · exact Or.inr (List.mem_append_right front behind)

theorem forall_behind (good : α → Prop) (items : List α) (last : α) (old : ∀ item ∈ items, good item) (new : good last) :
    ∀ item ∈ items ++ [last], good item := by
  intro item member
  rcases List.mem_append.mp member with before | behind
  · exact old item before
  · obtain rfl := List.mem_singleton.mp behind
    exact new

theorem forall_set (good : α → Prop) (items : List α) (k : Nat) (next : α) (old : ∀ item ∈ items, good item)
    (new : good next) : ∀ item ∈ items.set k next, good item := by
  intro item member
  rcases List.mem_or_eq_of_mem_set member with kept | rfl
  · exact old item kept
  · exact new

theorem mem_erase_other (items : List α) (k : Nat) (taken item : α) (here : items[k]? = some taken)
    (different : item ≠ taken) (member : item ∈ items) : item ∈ items.eraseIdx k := by
  obtain ⟨front, back, rfl, erased, _⟩ := split_at items k taken here
  rw [erased]
  exact (mem_cases front back taken item member).resolve_left different

theorem count_split [DecidableEq α] (front back : List α) (taken item : α) :
    (front ++ taken :: back).count item = (front ++ back).count item + if taken = item then 1 else 0 := by
  rw [List.count_append, List.count_append, List.count_cons]
  simp only [beq_iff_eq, Nat.add_assoc]

theorem count_behind [DecidableEq α] (items : List α) (last item : α) :
    (items ++ [last]).count item = items.count item + if last = item then 1 else 0 := by
  simp only [List.count_append, List.count_singleton, beq_iff_eq]

end Queue
