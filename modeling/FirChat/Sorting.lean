import Mathlib.Data.List.Sort

set_option autoImplicit false

-- Stable sorting by a key, the greatest first.
namespace Sorting

variable {α κ : Type} [LinearOrder κ] (key : α → κ)

def byKey (items : List α) : List α := items.insertionSort (fun a b => key b ≤ key a)

def ofKey (k : κ) (items : List α) : List α := items.filter (fun item => decide (key item = k))

theorem by_key_perm (items : List α) : (byKey key items).Perm items := List.perm_insertionSort _ items

theorem by_key_sorted (items : List α) : (byKey key items).Pairwise (fun a b => key b ≤ key a) := by
  have total : Std.Total (fun a b => key b ≤ key a) := ⟨fun a b => le_total (key b) (key a)⟩
  have transitive : IsTrans α (fun a b => key b ≤ key a) := ⟨fun _ _ _ first second => le_trans second first⟩
  exact List.pairwise_insertionSort (fun a b => key b ≤ key a) items

theorem mem_of_key (k : κ) (items : List α) (item : α) : item ∈ ofKey key k items ↔ item ∈ items ∧ key item = k := by
  simp [ofKey]

theorem of_key_cons_same (item : α) (rest : List α) :
    ofKey key (key item) (item :: rest) = item :: ofKey key (key item) rest := by
  simp [ofKey]

theorem of_key_cons_other (k : κ) (item : α) (rest : List α) (other : key item ≠ k) :
    ofKey key k (item :: rest) = ofKey key k rest := by
  simp [ofKey, other]

theorem by_key_of_key (k : κ) (items : List α) : ofKey key k (byKey key items) = ofKey key k items := by
  have equal : (ofKey key k items).Pairwise (fun a b => key b ≤ key a) := by
    refine List.pairwise_of_forall_mem_list (fun a inA b inB => ?_)
    rw [((mem_of_key key k items a).mp inA).2, ((mem_of_key key k items b).mp inB).2]
  have kept : (ofKey key k items).Sublist (byKey key items) :=
    List.sublist_insertionSort equal List.filter_sublist
  have within : (ofKey key k items).Sublist (ofKey key k (byKey key items)) := by
    simpa only [ofKey, List.filter_filter, Bool.and_self] using kept.filter (fun item => decide (key item = k))
  have sizes : (ofKey key k items).length = (ofKey key k (byKey key items)).length :=
    ((by_key_perm key items).filter _).length_eq.symm
  exact (within.eq_of_length sizes).symm

theorem head_greatest (a : α) (rest other : List α) (sorted : (a :: rest).Pairwise (fun a b => key b ≤ key a))
    (same : ∀ k, ofKey key k (a :: rest) = ofKey key k other) (b : α) (member : b ∈ other) : key b ≤ key a := by
  have here : b ∈ ofKey key (key b) (a :: rest) := by
    rw [same, mem_of_key]
    exact ⟨member, rfl⟩
  rcases List.mem_cons.mp ((mem_of_key key (key b) (a :: rest) b).mp here).1 with rfl | behind
  · exact le_refl _
  · exact (List.pairwise_cons.mp sorted).1 b behind

theorem sorted_eq_of_keys (first second : List α) (firstSorted : first.Pairwise (fun a b => key b ≤ key a))
    (secondSorted : second.Pairwise (fun a b => key b ≤ key a)) (same : ∀ k, ofKey key k first = ofKey key k second) :
    first = second := by
  induction first generalizing second with
  | nil =>
      cases second with
      | nil => rfl
      | cons b rest =>
          have absurdity := same (key b)
          rw [of_key_cons_same] at absurdity
          cases absurdity
  | cons a front ih =>
      cases second with
      | nil =>
          have absurdity := same (key a)
          rw [of_key_cons_same] at absurdity
          cases absurdity
      | cons b back =>
          have level : key a = key b := le_antisymm
            (head_greatest key b back (a :: front) secondSorted (fun k => (same k).symm) a (List.mem_cons_self ..))
            (head_greatest key a front (b :: back) firstSorted same b (List.mem_cons_self ..))
          have heads := same (key a)
          rw [of_key_cons_same, level, of_key_cons_same] at heads
          obtain ⟨rfl, _⟩ := List.cons.inj heads
          refine congrArg (a :: ·) (ih back firstSorted.of_cons secondSorted.of_cons (fun k => ?_))
          by_cases here : key a = k
          · subst k
            have tails := same (key a)
            rw [of_key_cons_same, of_key_cons_same] at tails
            exact (List.cons.inj tails).2
          · have rest := same k
            rwa [of_key_cons_other key k a front here, of_key_cons_other key k a back here] at rest

theorem by_key_eq_iff (first second : List α) :
    byKey key first = byKey key second ↔ ∀ k, ofKey key k first = ofKey key k second := by
  constructor
  · intro same k
    rw [← by_key_of_key key k first, same, by_key_of_key key k second]
  · intro same
    refine sorted_eq_of_keys key _ _ (by_key_sorted key first) (by_key_sorted key second) (fun k => ?_)
    rw [by_key_of_key, by_key_of_key, same]

theorem sorted_eq_of_injective (first second : List α) (firstSorted : first.Pairwise (fun a b => key b ≤ key a))
    (secondSorted : second.Pairwise (fun a b => key b ≤ key a)) (perm : first.Perm second)
    (injective : ∀ a ∈ second, ∀ b ∈ second, key a = key b → a = b) : first = second :=
  List.Perm.eq_of_pairwise (fun a b inFirst inSecond less more =>
    injective a (perm.mem_iff.mp inFirst) b inSecond (le_antisymm more less)) firstSorted secondSorted perm

theorem sorted_keys (first second : List α) (firstSorted : first.Pairwise (fun a b => key b ≤ key a))
    (secondSorted : second.Pairwise (fun a b => key b ≤ key a)) (perm : first.Perm second) :
    first.map key = second.map key :=
  List.Perm.eq_of_pairwise (fun _ _ _ _ less more => le_antisymm more less) (List.pairwise_map.mpr firstSorted)
    (List.pairwise_map.mpr secondSorted) (perm.map key)

theorem two_in_front (items : List α) (a b : α) (inA : a ∈ items) (inB : b ∈ items) (different : a ≠ b) :
    ∃ rest, items.Perm (a :: b :: rest) := by
  classical
  have behind : b ∈ items.erase a := (List.mem_erase_of_ne different.symm).mpr inB
  exact ⟨(items.erase a).erase b, (List.perm_cons_erase inA).trans ((List.perm_cons_erase behind).cons a)⟩

-- Every order of the same items is sorted alike exactly when no two share a key.
theorem by_key_function_iff (items : List α) :
    (∀ first second : List α, first.Perm items → second.Perm items → byKey key first = byKey key second) ↔
      ∀ a ∈ items, ∀ b ∈ items, key a = key b → a = b := by
  constructor
  · intro function a inA b inB level
    by_contra different
    obtain ⟨rest, perm⟩ := two_in_front items a b inA inB different
    have swapped : (b :: a :: rest).Perm items := (List.Perm.swap a b rest).trans perm.symm
    have same := (by_key_eq_iff key _ _).mp (function (a :: b :: rest) (b :: a :: rest) perm.symm swapped) (key a)
    have behind := of_key_cons_same key b (a :: rest)
    rw [← level] at behind
    rw [of_key_cons_same, behind] at same
    exact different (List.cons.inj same).1
  · intro injective first second firstPerm secondPerm
    refine sorted_eq_of_injective key _ _ (by_key_sorted key first) (by_key_sorted key second)
      (((by_key_perm key first).trans firstPerm).trans ((by_key_perm key second).trans secondPerm).symm) ?_
    intro a inA b inB
    have all := (by_key_perm key second).trans secondPerm
    exact injective a (all.mem_iff.mp inA) b (all.mem_iff.mp inB)

end Sorting
