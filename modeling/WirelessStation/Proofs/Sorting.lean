import Mathlib.Data.List.Pairwise

/-! # Sorting by a key

Networks, access points and candidates are sorted by a key, highest first, and entries with one key
stay in their order.  These two properties fix the result: a list with both is the sorted one
(`eq_mergeSort_key`). -/

namespace WirelessStation

variable {α β : Type} [LE β] [DecidableLE β] [Std.IsLinearOrder β] (key : α → β) (l : List α)

theorem key_trans (a b c : α) (hab : decide (key b ≤ key a) = true)
    (hbc : decide (key c ≤ key b) = true) : decide (key c ≤ key a) = true := by
  rw [decide_eq_true_eq] at *
  exact Std.le_trans hbc hab

theorem key_total (a b : α) : (decide (key b ≤ key a) || decide (key a ≤ key b)) = true := by
  rw [Bool.or_eq_true, decide_eq_true_eq, decide_eq_true_eq]
  exact Std.le_total

/-- Sorted by a key, highest first. -/
theorem pairwise_mergeSort_key :
    (l.mergeSort fun a b => key b ≤ key a).Pairwise fun a b => key b ≤ key a := by
  have sorted := List.pairwise_mergeSort (key_trans key) (key_total key) l
  exact sorted.imp fun h => of_decide_eq_true h

variable {key l} in
omit [DecidableLE β] in
/-- Lists that are sorted by a key and have the same keys have them in the same places. -/
theorem map_key_eq_of_perm {m : List α} (hl : l.Pairwise fun a b => key b ≤ key a)
    (hm : m.Pairwise fun a b => key b ≤ key a) (perm : (l.map key).Perm (m.map key)) :
    l.map key = m.map key := by
  have hl : (l.map key).Pairwise fun a b => b ≤ a := List.pairwise_map.2 hl
  have hm : (m.map key).Pairwise fun a b => b ≤ a := List.pairwise_map.2 hm
  exact perm.eq_of_pairwise (fun a b _ _ below above => Std.le_antisymm above below) hl hm

variable [DecidableEq β]

/-- Sorting leaves the entries of one key in their order. -/
theorem filter_mergeSort_key (k : β) :
    ((l.mergeSort fun a b => key b ≤ key a).filter fun a => key a = k) =
      l.filter fun a => key a = k := by
  let group := l.filter fun a => key a = k
  have alike : group.Pairwise fun a b => decide (key b ≤ key a) = true := by
    refine List.pairwise_of_forall_mem_list fun a ha b hb => ?_
    have hk : key a = k := by simpa using (List.mem_filter.1 ha).2
    have hb : key b = k := by simpa using (List.mem_filter.1 hb).2
    simp [hk, hb, Std.le_refl]
  have kept := List.sublist_mergeSort (key_trans key) (key_total key) alike List.filter_sublist
  have among :
      group.Sublist ((l.mergeSort fun a b => key b ≤ key a).filter fun a => key a = k) := by
    have := kept.filter fun a => decide (key a = k)
    simpa only [group, List.filter_filter, Bool.and_self] using this
  have perm := (List.mergeSort_perm l fun a b => decide (key b ≤ key a)).filter
    fun a => decide (key a = k)
  exact (among.eq_of_length perm.length_eq.symm).symm

/-- Two entries of one key stand in the sorted list as they stood before. -/
theorem pair_sublist_mergeSort_key {a b : α} (same : key a = key b) :
    [a, b].Sublist (l.mergeSort fun a b => key b ≤ key a) ↔ [a, b].Sublist l := by
  have both : ([a, b].filter fun c => key c = key b) = [a, b] := by simp [same]
  constructor
  · intro sorted
    have among := sorted.filter fun c => decide (key c = key b)
    rw [both, filter_mergeSort_key] at among
    exact among.trans List.filter_sublist
  · intro here
    have among := here.filter fun c => decide (key c = key b)
    rw [both, ← filter_mergeSort_key] at among
    exact among.trans List.filter_sublist

variable {key l}

omit [LE β] [DecidableLE β] [Std.IsLinearOrder β] in
/-- An entry of one list is in another one that has the same entries of each key. -/
theorem mem_of_filter_key {m : List α}
    (same : ∀ k, (l.filter fun a => key a = k) = m.filter fun a => key a = k) {a : α}
    (h : a ∈ l) : a ∈ m := by
  have kept : a ∈ l.filter fun b => key b = key a := by simpa using h
  rw [same] at kept
  exact (List.mem_filter.1 kept).1

omit [DecidableLE β] in
/-- A list that is sorted by a key is fixed by what it has of each key, in order. -/
theorem eq_of_pairwise_key {m : List α} (hl : l.Pairwise fun a b => key b ≤ key a)
    (hm : m.Pairwise fun a b => key b ≤ key a)
    (same : ∀ k, (l.filter fun a => key a = k) = m.filter fun a => key a = k) : l = m := by
  induction l generalizing m with
  | nil =>
    refine (List.eq_nil_iff_forall_not_mem.2 fun b hb => ?_).symm
    exact List.not_mem_nil (mem_of_filter_key (fun k => (same k).symm) hb)
  | cons a rest ih =>
    obtain ⟨first, rest_sorted⟩ := List.pairwise_cons.1 hl
    cases m with
    | nil => exact absurd (mem_of_filter_key same (List.mem_cons_self ..)) (by simp)
    | cons b others =>
      obtain ⟨first', others_sorted⟩ := List.pairwise_cons.1 hm
      -- Each list starts with one of its entries of the largest key.
      have above : key a ≤ key b := by
        rcases List.mem_cons.1 (mem_of_filter_key same (List.mem_cons_self ..)) with rfl | there
        · exact Std.le_refl _
        · exact first' a there
      have below : key b ≤ key a := by
        have same' := fun k => (same k).symm
        rcases List.mem_cons.1 (mem_of_filter_key same' (List.mem_cons_self ..)) with rfl | there
        · exact Std.le_refl _
        · exact first b there
      have alike : key a = key b := Std.le_antisymm above below
      obtain rfl : a = b := by
        have heads := same (key b)
        rw [List.filter_cons_of_pos (by simp [alike]), List.filter_cons_of_pos (by simp)] at heads
        exact (List.cons.inj heads).1
      rw [ih rest_sorted others_sorted fun k => ?_]
      have tails := same k
      by_cases h : key a = k
      · rw [List.filter_cons_of_pos (by simp [h]), List.filter_cons_of_pos (by simp [h])] at tails
        exact (List.cons.inj tails).2
      · rwa [List.filter_cons_of_neg (by simp [h]), List.filter_cons_of_neg (by simp [h])] at tails

/-- What has the entries of a list, by key and each key's in order, is the list sorted. -/
theorem eq_mergeSort_key {m : List α} (hm : m.Pairwise fun a b => key b ≤ key a)
    (same : ∀ k, (m.filter fun a => key a = k) = l.filter fun a => key a = k) :
    m = l.mergeSort fun a b => key b ≤ key a :=
  eq_of_pairwise_key hm (pairwise_mergeSort_key key l) fun k =>
    (same k).trans (filter_mergeSort_key key l k).symm

end WirelessStation
