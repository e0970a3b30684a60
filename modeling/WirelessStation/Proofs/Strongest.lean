import Mathlib.Data.List.MinMax
import WirelessStation.Proofs.Placing

/-! # The observation that stands for an address

Of several observations of one address the earliest of those with the highest rank stays
(`strongest?`).  Taking observations in one after the other comes to this for each address, in the
order in which the addresses first appear (`dedup_eq`, `dedup_exact`), and what a scan places is
what of that can be placed (`heard_eq`). -/

namespace WirelessStation.Catalogue

/-- The earliest observation of an address among those with the highest rank. -/
def strongest? (a : Address) (l : List Observation) : Option Observation :=
  (l.filter fun o => o.address = a).argmax fun o => o.rank.toNat

/-- The addresses of some observations, in the order in which they first appear. -/
def addresses (l : List Observation) : List Address :=
  (l.map (·.address)).eraseDups

section Strongest

variable {a : Address} {l : List Observation} {o p : Observation}

theorem mem_of_strongest? (h : strongest? a l = some o) : o ∈ l ∧ o.address = a := by
  simpa using List.argmax_mem h

theorem strongest?_eq_none_iff : strongest? a l = none ↔ a ∉ l.map (·.address) := by
  simp [strongest?, List.argmax_eq_none]

theorem exists_strongest? (there : a ∈ l.map (·.address)) : ∃ o, strongest? a l = some o :=
  Option.ne_none_iff_exists'.1 fun none => strongest?_eq_none_iff.1 none there

theorem strongest?_concat_of_ne (other : o.address ≠ a) :
    strongest? a (l ++ [o]) = strongest? a l := by
  simp [strongest?, other]

theorem strongest?_concat_of_eq (same : o.address = a) :
    strongest? a (l ++ [o]) =
      match strongest? a l with
      | none => some o
      | some p => if p.rank < o.rank then some o else some p := by
  have more : ((l ++ [o]).filter fun o => o.address = a) =
      (l.filter fun o => o.address = a) ++ [o] := by
    simp [same]
  rw [strongest?, more, List.argmax_concat, ← strongest?]
  cases strongest? a l with
  | none => rfl
  | some p => simp only [UInt16.lt_iff_toNat_lt]

/-- It is stronger than what came before it, and nothing stronger comes after it. -/
theorem strongest?_eq_some_iff :
    strongest? a l = some o ↔
      ∃ before after, l = before ++ o :: after ∧ o.address = a ∧
        (∀ p ∈ before, p.address = a → p.rank < o.rank) ∧
        ∀ p ∈ after, p.address = a → p.rank ≤ o.rank := by
  constructor
  · induction l using List.reverseRecOn generalizing o with
    | nil =>
      intro h
      cases h
    | append_singleton l q ih =>
      intro h
      by_cases here : q.address = a
      · rw [strongest?_concat_of_eq here] at h
        cases earlier : strongest? a l with
        | none =>
          rw [earlier] at h
          obtain rfl := Option.some.inj h
          refine ⟨l, [], rfl, here, fun p hp same => ?_, by simp⟩
          rw [strongest?_eq_none_iff] at earlier
          exact absurd (List.mem_map.2 ⟨p, hp, same⟩) earlier
        | some r =>
          obtain ⟨before, after, rfl, own, below, behind⟩ := ih earlier
          rw [earlier] at h
          simp only at h
          split at h
          next weaker =>
            obtain rfl := Option.some.inj h
            refine ⟨before ++ r :: after, [], rfl, here, ?_, by simp⟩
            rw [List.forall_mem_append, List.forall_mem_cons]
            refine ⟨?_, fun _ => weaker, ?_⟩
            · exact fun p hp same => UInt16.lt_trans (below p hp same) weaker
            · exact fun p hp same => UInt16.lt_of_le_of_lt (behind p hp same) weaker
          next stronger =>
            obtain rfl := Option.some.inj h
            refine ⟨before, after ++ [q], by simp, own, below, ?_⟩
            rw [List.forall_mem_append, List.forall_mem_singleton]
            exact ⟨behind, fun _ => UInt16.not_lt.1 stronger⟩
      · rw [strongest?_concat_of_ne here] at h
        obtain ⟨before, after, rfl, own, below, behind⟩ := ih h
        refine ⟨before, after ++ [q], by simp, own, below, ?_⟩
        rw [List.forall_mem_append, List.forall_mem_singleton]
        exact ⟨behind, fun same => absurd same here⟩
  · rintro ⟨before, after, rfl, own, below, behind⟩
    induction after using List.reverseRecOn with
    | nil =>
      rw [strongest?_concat_of_eq own]
      cases earlier : strongest? a before with
      | none => rfl
      | some p =>
        obtain ⟨hp, same⟩ := mem_of_strongest? earlier
        exact if_pos (below p hp same)
    | append_singleton after q ih =>
      have strongest := ih fun p hp => behind p (List.mem_append_left _ hp)
      rw [← List.cons_append, ← List.append_assoc]
      by_cases here : q.address = a
      · rw [strongest?_concat_of_eq here, strongest]
        exact if_neg (UInt16.not_lt.2 (behind q (by simp) here))
      · rw [strongest?_concat_of_ne here, strongest]

/-- Nothing of an address is stronger than the strongest observation of it. -/
theorem rank_le_of_strongest? (strongest : strongest? a l = some o) (there : p ∈ l)
    (same : p.address = a) : p.rank ≤ o.rank := by
  obtain ⟨before, after, rfl, _, below, behind⟩ := strongest?_eq_some_iff.1 strongest
  rcases List.mem_append.1 there with early | late
  · exact UInt16.le_of_lt (below p early same)
  · rcases List.mem_cons.1 late with rfl | late
    · exact UInt16.le_refl _
    · exact behind p late same

end Strongest

/-! ### Taking observations in one after the other -/

/-- What is taken in replaces a weaker observation of its address. -/
theorem dedupInto_of_mem {o : Observation} {kept : List Observation}
    (distinct : (kept.map (·.address)).Nodup) (there : o.address ∈ kept.map (·.address)) :
    dedupInto o kept =
      kept.map fun p => if p.address = o.address ∧ p.rank < o.rank then o else p := by
  induction kept with
  | nil => cases there
  | cons p rest ih =>
    obtain ⟨first, distinct⟩ := List.nodup_cons.1 distinct
    rw [dedupInto, List.map_cons]
    by_cases same : p.address = o.address
    · have others : ∀ q ∈ rest, (if q.address = o.address ∧ q.rank < o.rank then o else q) = q := by
        intro q hq
        have other : q.address ≠ o.address := by
          rintro here
          exact first (List.mem_map.2 ⟨q, hq, here.trans same.symm⟩)
        exact if_neg fun h => other h.1
      rw [if_pos same, List.map_congr_left others, List.map_id']
      simp [same]
    · have later : o.address ∈ rest.map (·.address) := by
        rcases List.mem_cons.1 there with here | later
        · exact absurd here.symm same
        · exact later
      rw [if_neg same, ih distinct later, if_neg fun h => same h.1]

/-- What is taken in goes to the end if it is the first of its address. -/
theorem dedupInto_of_not_mem {o : Observation} {kept : List Observation}
    (fresh : o.address ∉ kept.map (·.address)) : dedupInto o kept = kept ++ [o] := by
  induction kept with
  | nil => rfl
  | cons p rest ih =>
    simp only [List.map_cons, List.mem_cons, not_or] at fresh
    rw [dedupInto, if_neg fun h => fresh.1 h.symm, ih fresh.2, List.cons_append]

theorem dedup_concat (l : List Observation) (o : Observation) :
    dedup (l ++ [o]) = dedupInto o (dedup l) :=
  List.foldl_concat ..

theorem mem_addresses {a : Address} {l : List Observation} :
    a ∈ addresses l ↔ a ∈ l.map (·.address) :=
  List.mem_eraseDups

theorem addresses_concat (l : List Observation) (o : Observation) :
    addresses (l ++ [o]) =
      addresses l ++ if o.address ∈ l.map (·.address) then [] else [o.address] := by
  rw [addresses, List.map_append, List.map_singleton, eraseDups_concat, ← addresses]

/-- The addresses stay in the order in which they first appear. -/
theorem addresses_dedup (l : List Observation) : (dedup l).map (·.address) = addresses l := by
  induction l using List.reverseRecOn with
  | nil => rfl
  | append_singleton l o ih =>
    rw [dedup_concat, addresses_dedupInto, ih, addresses_concat]
    simp only [mem_addresses]
    split
    next => rw [List.append_nil]
    next => rfl

/-- One observation stays for each address, in the order in which the addresses first appear: the
earliest of those with the highest rank. -/
theorem dedup_eq (l : List Observation) :
    dedup l = (addresses l).filterMap fun a => strongest? a l := by
  -- From the end, since observations are taken in one after the other.
  induction l using List.reverseRecOn with
  | nil => rfl
  | append_singleton l o ih =>
    rw [dedup_concat, addresses_concat]
    by_cases there : o.address ∈ l.map (·.address)
    · rw [if_pos there, List.append_nil, dedupInto_of_mem (nodup_dedup l), ih, List.map_filterMap]
      · refine List.filterMap_congr fun a ha => ?_
        obtain ⟨p, strongest⟩ := exists_strongest? (mem_addresses.1 ha)
        have own := (mem_of_strongest? strongest).2
        by_cases same : o.address = a
        · rw [strongest?_concat_of_eq same, strongest]
          by_cases weaker : p.rank < o.rank <;> simp [own, same, weaker]
        · have other : ¬(p.address = o.address ∧ p.rank < o.rank) := fun h =>
            same (h.1.symm.trans own)
          rw [strongest?_concat_of_ne same, strongest, Option.map_some, if_neg other]
      · rw [addresses_dedup]
        exact mem_addresses.2 there
    · have fresh : strongest? o.address l = none := strongest?_eq_none_iff.2 there
      have others : (addresses l).filterMap (fun a => strongest? a (l ++ [o])) =
          (addresses l).filterMap fun a => strongest? a l := by
        refine List.filterMap_congr fun a ha => strongest?_concat_of_ne ?_
        rintro rfl
        exact there (mem_addresses.1 ha)
      rw [if_neg there, List.filterMap_append, others, dedupInto_of_not_mem, ih]
      · simp [strongest?_concat_of_eq, fresh]
      · rwa [addresses_dedup, mem_addresses]

/-- Nothing is left out of observations of distinct addresses. -/
theorem dedup_of_nodup {l : List Observation} (distinct : (l.map (·.address)).Nodup) :
    dedup l = l := by
  induction l using List.reverseRecOn with
  | nil => rfl
  | append_singleton l o ih =>
    rw [List.map_append, List.map_singleton, ← List.concat_eq_append, List.nodup_concat] at distinct
    rw [dedup_concat, ih distinct.2, dedupInto_of_not_mem distinct.1]

theorem mem_dedup_iff {l : List Observation} {o : Observation} :
    o ∈ dedup l ↔ strongest? o.address l = some o := by
  rw [dedup_eq, List.mem_filterMap]
  constructor
  · rintro ⟨a, _, strongest⟩
    rwa [(mem_of_strongest? strongest).2]
  · intro strongest
    have there := List.mem_map_of_mem (f := (·.address)) (mem_of_strongest? strongest).1
    exact ⟨o.address, mem_addresses.2 there, strongest⟩

theorem dedup_dedup (l : List Observation) : dedup (dedup l) = dedup l :=
  dedup_of_nodup (nodup_dedup l)

/-- Observations may be taken in after a list of which duplicates were removed. -/
theorem dedup_append (l more : List Observation) : dedup (l ++ more) = dedup (dedup l ++ more) := by
  have split (l : List Observation) :
      dedup (l ++ more) = more.foldl (fun kept o => dedupInto o kept) (dedup l) :=
    List.foldl_append ..
  rw [split l, split (dedup l), dedup_dedup]

/-- One observation stays for each address, in the order in which the addresses first appear, and it
is the earliest of those that have the highest rank of the address: what came before it is weaker
and what came after it is not stronger.  So only lists with duplicates are changed, and it does not
matter when duplicates are removed. -/
theorem dedup_exact (l more : List Observation) :
    (dedup l).map (·.address) = (l.map (·.address)).eraseDups ∧
      (∀ o, o ∈ dedup l ↔ ∃ before after, l = before ++ o :: after ∧
        (∀ p ∈ before, p.address = o.address → p.rank < o.rank) ∧
        ∀ p ∈ after, p.address = o.address → p.rank ≤ o.rank) ∧
      (dedup l = l ↔ (l.map (·.address)).Nodup) ∧ dedup (dedup l) = dedup l ∧
      dedup (l ++ more) = dedup (dedup l ++ more) := by
  refine ⟨addresses_dedup l, fun o => ?_, ⟨fun same => ?_, dedup_of_nodup⟩, dedup_dedup l,
    dedup_append l more⟩
  · rw [mem_dedup_iff, strongest?_eq_some_iff]
    simp only [true_and]
  · rw [← same]
    exact nodup_dedup l

/-- Of ranks that rise, stay and fall the first highest one is kept. -/
example :
    let heard (last : UInt8) (rank : UInt16) (signal : Int) : Observation :=
      { Station.Sample.observation with address := ⟨#v[2, 0, 0, 0, 0, last]⟩, rank, signal }
    dedup [heard 1 5 0, heard 2 1 0, heard 1 7 1, heard 1 7 2, heard 1 6 3] =
      [heard 1 7 1, heard 2 1 0] := by
  decide

/-! ### What is placed -/

/-- What is placed of some observations for an address. -/
def placed? (a : Address) (l : List Observation) : Option Observation :=
  ((strongest? a l).filter Observation.isPlaceable).map Observation.marked

theorem heard_eq (l : List Observation) :
    heard l = (addresses l).filterMap fun a => placed? a l := by
  rw [heard, dedup_eq, List.filter_filterMap, List.map_filterMap]
  rfl

theorem address_marked (o : Observation) : o.marked.address = o.address := by
  unfold Observation.marked Observation.classified Observation.classify
  cases o.governingSuites <;> rfl

theorem address_of_placed? {a : Address} {l : List Observation} {o : Observation}
    (h : placed? a l = some o) : o.address = a := by
  obtain ⟨p, strongest, rfl⟩ := Option.map_eq_some_iff.1 h
  rw [address_marked]
  exact (mem_of_strongest? (Option.filter_eq_some_iff.1 strongest).1).2

/-- Something is placed for an address exactly if the strongest observation of it can be. -/
theorem mem_addresses_heard {a : Address} {l : List Observation} :
    a ∈ (heard l).map (·.address) ↔ (placed? a l).isSome = true := by
  rw [heard_eq, Option.isSome_iff_exists]
  simp only [List.mem_map, List.mem_filterMap]
  constructor
  · rintro ⟨o, ⟨b, _, placed⟩, rfl⟩
    obtain rfl := address_of_placed? placed
    exact ⟨o, placed⟩
  · rintro ⟨o, placed⟩
    refine ⟨o, ⟨a, ?_, placed⟩, address_of_placed? placed⟩
    obtain ⟨p, strongest, _⟩ := Option.map_eq_some_iff.1 placed
    obtain ⟨there, rfl⟩ := mem_of_strongest? (Option.filter_eq_some_iff.1 strongest).1
    exact mem_addresses.2 (List.mem_map_of_mem there)

/-- The addresses of what is placed, in the order in which the addresses first appear. -/
theorem addresses_heard (l : List Observation) :
    (heard l).map (·.address) = (addresses l).filter fun a => (placed? a l).isSome := by
  rw [heard_eq, List.map_filterMap, ← List.filterMap_eq_filter]
  refine List.filterMap_congr fun a _ => ?_
  cases placed : placed? a l with
  | none => simp [Option.guard, placed]
  | some o => simp [Option.guard, placed, address_of_placed? placed]

theorem nodup_heard (l : List Observation) : ((heard l).map (·.address)).Nodup := by
  rw [addresses_heard]
  exact (nodup_eraseDups _).filter _

end WirelessStation.Catalogue
