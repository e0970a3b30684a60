import Mathlib.Data.List.Induction
import Mathlib.Data.List.Nodup
import WirelessStation.Suite

/-! # Sets of suites and their members

A set of suites is an octet, seen here through the bits that it has (`Bits.has`).  Its members are
distinct and make it up (`Bits.Lister.nodup_members`, `Bits.Lister.union_members`), whatever lists
them and whatever the named suites are, as long as each of them is one bit.

Suites are listed by selectors.  The selectors of a set lead back to it, without repetition, exactly
if every bit of it belongs to a named suite (`Bits.reads_back_iff`). -/

namespace WirelessStation

namespace Bits

variable {s t : UInt8} {l named : List UInt8} {i : Nat}

/-- Whether a set has the bit with a number. -/
def has (s : UInt8) (i : Nat) : Bool :=
  s.toBitVec.getLsbD i

theorem eq_of_has (same : ∀ i, has s i = has t i) : s = t :=
  UInt8.toBitVec_inj.1 (BitVec.eq_of_getLsbD_eq fun i _ => same i)

theorem has_and (s t : UInt8) (i : Nat) : has (s &&& t) i = (has s i && has t i) := by
  simp [has]

theorem has_or (s t : UInt8) (i : Nat) : has (s ||| t) i = (has s i || has t i) := by
  simp [has]

theorem ne_zero_iff : s ≠ 0 ↔ ∃ i, has s i = true := by
  constructor
  · intro nonempty
    by_contra empty
    refine nonempty (eq_of_has fun i => ?_)
    have out : has s i = false := Bool.eq_false_iff.2 fun there => empty ⟨i, there⟩
    simpa [has] using out
  · rintro ⟨i, there⟩ rfl
    simp [has] at there

theorem contains_iff : contains s t = true ↔ ∀ i, has t i = true → has s i = true := by
  rw [contains, beq_iff_eq]
  constructor
  · intro inside i there
    rw [← inside, has_and, Bool.and_eq_true] at there
    exact there.1
  · intro inside
    refine eq_of_has fun i => ?_
    rw [has_and]
    cases there : has t i with
    | false => rw [Bool.and_false]
    | true => rw [inside i there, Bool.and_true]

theorem has_union : has (union l) i = true ↔ ∃ t ∈ l, has t i = true := by
  induction l using List.reverseRecOn with
  | nil => simp [union, has]
  | append_singleton l t ih =>
    have last : union (l ++ [t]) = union l ||| t := List.foldl_concat ..
    rw [last, has_or, Bool.or_eq_true, ih]
    simp only [List.mem_append, List.mem_singleton, or_and_right, exists_or, exists_eq_left]

/-- A set that has the bit of a flag contains the flag. -/
theorem contains_of_isFlag (flag : IsFlag t) (own : has t i = true) (there : has s i = true) :
    contains s t = true := by
  obtain ⟨k, one⟩ := flag
  have only (j : Nat) (h : has t j = true) : k.val = j := by
    rw [has, one, BitVec.getLsbD_twoPow] at h
    simpa using (Bool.and_eq_true_iff.1 h).2
  rw [contains_iff]
  intro j h
  rwa [← only j h, only i own]

theorem has_unnamed :
    has (unnamed named s) i = true ↔ has s i = true ∧ ∀ t ∈ named, has t i = false := by
  have others : has (union named) i = false ↔ ∀ t ∈ named, has t i = false := by
    rw [← Bool.not_eq_true, has_union]
    simp
  rw [← others]
  simp only [unnamed, has, UInt8.toBitVec_and, UInt8.toBitVec_not, BitVec.getLsbD_and,
    BitVec.getLsbD_not, Bool.and_eq_true, decide_eq_true_eq, Bool.not_eq_true']
  constructor
  · rintro ⟨there, _, other⟩
    exact ⟨there, other⟩
  · rintro ⟨there, other⟩
    exact ⟨there, BitVec.lt_of_getLsbD there, other⟩

/-- What is left is no named suite. -/
theorem unnamed_not_mem (nonempty : unnamed named s ≠ 0) : unnamed named s ∉ named := by
  intro known
  obtain ⟨i, there⟩ := ne_zero_iff.1 nonempty
  exact Bool.eq_false_iff.1 ((has_unnamed.1 there).2 _ known) there

theorem contains_union_union (known : ∀ t ∈ l, t ∈ named) :
    contains (union named) (union l) = true := by
  rw [contains_iff]
  intro i there
  obtain ⟨t, part, own⟩ := has_union.1 there
  exact has_union.2 ⟨t, known t part, own⟩

theorem IsFlag.ne_zero (flag : IsFlag t) : t ≠ 0 := by
  rintro rfl
  revert flag
  decide

namespace Lister

variable (lister : Lister) (flags : ∀ t ∈ named, IsFlag t)

include flags

/-- The members of a set make it up. -/
theorem union_members (s : UInt8) : union (lister.members named s) = s := by
  refine eq_of_has fun i => Bool.eq_iff_iff.2 ?_
  rw [has_union]
  constructor
  · rintro ⟨t, member, there⟩
    rcases (lister.mem_iff flags s t).1 member with ⟨_, inside⟩ | ⟨_, rfl⟩
    · exact contains_iff.1 inside i there
    · exact (has_unnamed.1 there).1
  · intro there
    -- A bit that some suite has brings the whole suite with it, since a suite has no other bit.
    by_cases known : ∃ t ∈ named, has t i = true
    · obtain ⟨t, suite, own⟩ := known
      have inside := contains_of_isFlag (flags t suite) own there
      exact ⟨t, (lister.mem_iff flags s t).2 (.inl ⟨suite, inside⟩), own⟩
    · have left : has (unnamed named s) i = true :=
        has_unnamed.2 ⟨there, fun t suite => Bool.eq_false_iff.2 fun own => known ⟨t, suite, own⟩⟩
      exact ⟨_, (lister.mem_iff flags s _).2 (.inr ⟨ne_zero_iff.2 ⟨i, left⟩, rfl⟩), left⟩

theorem nodup_members (distinct : named.Nodup) (s : UInt8) : (lister.members named s).Nodup := by
  refine (lister.sublist flags s).nodup (distinct.append (List.nodup_singleton _) ?_)
  intro t suite rest
  obtain rfl := List.mem_singleton.1 rest
  exact unnamed_not_mem (flags _ suite).ne_zero suite

/-- All members of a set are named suites if every bit of it belongs to one. -/
theorem mem_of_mem_members (known : contains (union named) s = true)
    (member : t ∈ lister.members named s) : t ∈ named := by
  rcases (lister.mem_iff flags s t).1 member with ⟨suite, _⟩ | ⟨nonempty, rfl⟩
  · exact suite
  · obtain ⟨i, there⟩ := ne_zero_iff.1 nonempty
    obtain ⟨own, others⟩ := has_unnamed.1 there
    obtain ⟨t, suite, both⟩ := has_union.1 (contains_iff.1 known i own)
    exact absurd both (Bool.eq_false_iff.1 (others t suite))

theorem length_members_le (s : UInt8) : (lister.members named s).length ≤ named.length + 1 := by
  simpa using (lister.sublist flags s).length_le

/-- A set that contains one named suite, and nothing else, has one member. -/
theorem members_eq_singleton (distinct : named.Nodup) (suite : s ∈ named)
    (only : ∀ t ∈ named, contains s t = true → t = s) : lister.members named s = [s] := by
  have whole : unnamed named s = 0 := by
    refine by_contra fun nonempty => ?_
    obtain ⟨i, there⟩ := ne_zero_iff.1 nonempty
    obtain ⟨own, others⟩ := has_unnamed.1 there
    exact Bool.eq_false_iff.1 (others s suite) own
  refine List.perm_singleton.1 ?_
  rw [List.perm_ext_iff_of_nodup (lister.nodup_members flags distinct s) (List.nodup_singleton s)]
  intro t
  rw [lister.mem_iff flags, List.mem_singleton]
  constructor
  · rintro (⟨known, inside⟩ | ⟨nonempty, _⟩)
    · exact only t known inside
    · exact absurd whole nonempty
  · rintro rfl
    exact .inl ⟨suite, contains_iff.2 fun _ there => there⟩

end Lister

end Bits

/-- A list can be mapped by a partial function if the function is there for each of its entries. -/
theorem mapM_eq_some_iff {α β : Type} {f : α → Option β} {l : List α} {m : List β} :
    l.mapM f = some m ↔ l.map f = m.map some := by
  induction l generalizing m with
  | nil => cases m <;> simp
  | cons a l ih =>
    cases m with
    | nil => simp [Option.bind_eq_some_iff]
    | cons b m => simp [Option.bind_eq_some_iff, ih]

/-- Suites of one kind are written as selectors, by a table that gives back each of the named ones
and nothing else.  The selectors of a set lead back to the set, without repetition, exactly if every
bit of it belongs to a named suite. -/
theorem Bits.reads_back_iff {σ τ : Type} {bits : σ → UInt8} {named members : List σ}
    {select : σ → τ} {suite? : τ → Option σ} {s : UInt8} (lister : Bits.Lister)
    (injective : Function.Injective bits) (distinct : named.Nodup)
    (flags : ∀ c ∈ named, IsFlag (bits c)) (back : ∀ c ∈ named, suite? (select c) = some c)
    (only : ∀ x c, suite? x = some c → c ∈ named)
    (parts : members.map bits = lister.members (named.map bits) s) :
    contains (union (named.map bits)) s = true ↔
      (members.map select).Nodup ∧
        ∃ m, (members.map select).mapM suite? = some m ∧ union (m.map bits) = s := by
  have flags : ∀ t ∈ named.map bits, IsFlag t := List.forall_mem_map.2 flags
  constructor
  · intro inside
    have known (c : σ) (member : c ∈ members) : c ∈ named := by
      have there := List.mem_map_of_mem (f := bits) member
      rw [parts] at there
      exact (List.mem_map_of_injective injective).1 (lister.mem_of_mem_members flags inside there)
    have whole : (members.map select).mapM suite? = some members := by
      rw [mapM_eq_some_iff, List.map_map]
      exact List.map_congr_left fun c member => back c (known c member)
    have apart : members.Nodup := by
      refine List.Nodup.of_map bits ?_
      rw [parts]
      exact lister.nodup_members flags (distinct.map injective) s
    refine ⟨apart.map_on fun c hc d hd same => ?_, members, whole, ?_⟩
    · have both := congrArg suite? same
      rw [back c (known c hc), back d (known d hd)] at both
      exact Option.some.inj both
    · rw [parts]
      exact lister.union_members flags s
  · rintro ⟨_, m, read, rfl⟩
    refine contains_union_union (List.forall_mem_map.2 fun c there => List.mem_map_of_mem ?_)
    have entry := List.mem_map_of_mem (f := some) there
    rw [← mapM_eq_some_iff.1 read] at entry
    obtain ⟨x, _, found⟩ := List.mem_map.1 entry
    exact only x c found

end WirelessStation
