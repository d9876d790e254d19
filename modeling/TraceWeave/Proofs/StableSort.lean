import Mathlib.Data.List.FinRange

/-! Sorting by a key keeps the order of elements with one key (`filter_mergeSort_byKey`), so
whatever holds along the list still holds along each run of equal keys
(`pairwise_mergeSort_of_pairwise`), and leaving elements out before the sort or after it comes to the
same (`filter_mergeSort`). Sorting the places of a list instead of its members shows where each
member goes (`exists_order_byKey`). -/

namespace TraceWeave.StableSort

variable {α : Type} {key : α → Int} {l l' : List α}

def byKey (key : α → Int) (a b : α) : Bool := decide (key a ≤ key b)

/-- Only the order of members matters. -/
theorem mergeSort_congr {r s : α → α → Bool} (agree : ∀ a ∈ l, ∀ b ∈ l, r a b = s a b) :
    l.mergeSort r = l.mergeSort s := by
  simpa using List.map_mergeSort (f := id) agree

theorem byKey_trans (a b c : α) (ab : byKey key a b) (bc : byKey key b c) : byKey key a c := by
  simp only [byKey, decide_eq_true_eq] at *
  omega

theorem byKey_total (a b : α) : byKey key a b || byKey key b a := by
  simp only [byKey, Bool.or_eq_true, decide_eq_true_eq]
  omega

theorem pairwise_mergeSort_byKey (l : List α) :
    (l.mergeSort (byKey key)).Pairwise fun a b => key a ≤ key b := by
  simpa [byKey] using List.pairwise_mergeSort byKey_trans byKey_total l

theorem filter_mergeSort_byKey (l : List α) (k : Int) :
    (l.mergeSort (byKey key)).filter (key · = k) = l.filter (key · = k) := by
  have same : (l.filter (key · = k)).Pairwise fun a b => byKey key a b := by
    refine List.pairwise_of_forall_mem_list fun a ha b hb => ?_
    simp only [List.mem_filter, decide_eq_true_eq] at ha hb
    simp [byKey, ha.2, hb.2]
  have kept := (List.sublist_mergeSort byKey_trans byKey_total same List.filter_sublist).filter
    (key · = k)
  rw [List.filter_filter] at kept
  have perm := (List.mergeSort_perm l (byKey key)).filter (key · = k)
  simp only [Bool.and_self] at kept
  exact (kept.eq_of_length perm.length_eq.symm).symm

theorem pairwise_mergeSort_of_pairwise {R : α → α → Prop} (h : l.Pairwise R) :
    (l.mergeSort (byKey key)).Pairwise fun a b => key a = key b → R a b := by
  rw [List.pairwise_iff_forall_sublist]
  intro a b sub eq
  have kept := sub.filter (key · = key b)
  simp only [List.filter_cons, eq, decide_true, if_true, List.filter_nil] at kept
  rw [filter_mergeSort_byKey] at kept
  exact List.pairwise_iff_forall_sublist.mp h (kept.trans List.filter_sublist)

theorem mem_iff_of_filter_eq (same : ∀ k, l.filter (key · = k) = l'.filter (key · = k)) (c : α) :
    c ∈ l ↔ c ∈ l' := by
  have kept := congrArg (c ∈ ·) (same (key c))
  simpa only [List.mem_filter, decide_eq_true_eq, and_true, eq_iff_iff] using kept

/-- A list in order of its keys is known from its elements of each key. -/
theorem eq_of_filter_eq (sorted : l.Pairwise fun a b => key a ≤ key b)
    (sorted' : l'.Pairwise fun a b => key a ≤ key b)
    (same : ∀ k, l.filter (key · = k) = l'.filter (key · = k)) : l = l' := by
  induction l generalizing l' with
  | nil => exact (List.eq_nil_iff_forall_not_mem.mpr fun c mem =>
      List.not_mem_nil ((mem_iff_of_filter_eq same c).mpr mem)).symm
  | cons a l ih =>
    have mem := mem_iff_of_filter_eq same
    cases l' with
    | nil => exact absurd ((mem a).mp List.mem_cons_self) List.not_mem_nil
    | cons b l' =>
      rw [List.pairwise_cons] at sorted sorted'
      -- each list has the first element of the other, so their first keys are one
      have above : key a ≤ key b := by
        rcases List.mem_cons.mp ((mem b).mpr List.mem_cons_self) with rfl | later
        · exact le_rfl
        · exact sorted.1 b later
      have below : key b ≤ key a := by
        rcases List.mem_cons.mp ((mem a).mp List.mem_cons_self) with rfl | later
        · exact le_rfl
        · exact sorted'.1 a later
      have heads := same (key a)
      simp only [List.filter_cons, le_antisymm below above, decide_true, if_true] at heads
      obtain rfl := (List.cons.inj heads).1
      refine congrArg (a :: ·) (ih sorted.2 sorted'.2 fun k => ?_)
      have rest := same k
      simp only [List.filter_cons] at rest
      split at rest
      · exact (List.cons.inj rest).2
      · exact rest

theorem filter_mergeSort (p : α → Bool) (l : List α) :
    (l.mergeSort (byKey key)).filter p = (l.filter p).mergeSort (byKey key) := by
  refine eq_of_filter_eq ((pairwise_mergeSort_byKey l).filter p) (pairwise_mergeSort_byKey _)
    fun k => ?_
  rw [filter_mergeSort_byKey, List.filter_comm, filter_mergeSort_byKey, List.filter_comm]

theorem exists_order_byKey (key : α → Int) (l : List α) :
    ∃ order : List (Fin l.length), order.Perm (List.finRange l.length) ∧
      l.mergeSort (byKey key) = order.map (l[·]) ∧
      (order.Pairwise fun i j => key l[i] ≤ key l[j]) ∧
      order.Pairwise fun i j => key l[i] = key l[j] → i < j := by
  let keyAt (i : Fin l.length) : Int := key l[i]
  refine ⟨(List.finRange l.length).mergeSort (byKey keyAt), List.mergeSort_perm _ _, ?_,
    pairwise_mergeSort_byKey _, pairwise_mergeSort_of_pairwise (List.pairwise_lt_finRange _)⟩
  have members : (List.finRange l.length).map (l[·]) = l := List.map_getElem_finRange l
  have sorted := List.map_mergeSort (r := byKey keyAt) (s := byKey key) (f := (l[·]))
    (l := List.finRange l.length) fun _ _ _ _ => rfl
  rw [members] at sorted
  exact sorted.symm

end TraceWeave.StableSort
