import WirelessStation.Proofs.Grouping
import WirelessStation.Proofs.Strongest

/-! # Malformed observations

An observation that cannot be placed should be as good as not there.  It is not quite, since the
strongest observation of an address is chosen before it is looked at: a malformed one that is
stronger than every well-formed one of its address takes their place, and one that comes before them
moves their network to its own place in the order.

* `eraseDups_insert_iff`: when an element that comes in earlier leaves the order of first
  appearances as it was.
* `heard_insert_iff`: when a malformed observation leaves alone what a scan places (`Unaffected`).
* `malformed_isolated_iff`: when it leaves the catalogue and its changes alone. -/

namespace WirelessStation

/-! ### Orders of first appearance -/

section FirstAppearance

variable {α : Type} [DecidableEq α] {l r : List α} {a : α}

theorem filter_eraseDups (p : α → Bool) (l : List α) :
    l.eraseDups.filter p = (l.filter p).eraseDups := by
  induction l using List.reverseRecOn with
  | nil => rfl
  | append_singleton l a ih =>
    rw [Catalogue.eraseDups_concat, List.filter_append, List.filter_append, ih]
    cases kept : p a with
    | false =>
      by_cases there : a ∈ l <;> simp [there, kept]
    | true =>
      have one : [a].filter p = [a] := by simp [kept]
      rw [one, Catalogue.eraseDups_concat]
      by_cases there : a ∈ l <;> simp [there, kept]

theorem eraseDups_append_filter (l r : List α) :
    (l ++ r).eraseDups = l.eraseDups ++ (r.filter fun x => x ∉ l).eraseDups := by
  rw [List.eraseDups_append, List.removeAll]
  simp

/-- An element that comes in where it has not appeared yet, but will, leaves the order alone exactly
if nothing appears first in between. -/
theorem eraseDups_insert_iff (new : a ∉ l) (later : a ∈ r) :
    (l ++ a :: r).eraseDups = (l ++ r).eraseDups ↔ ∀ b ∈ r.takeWhile (· ≠ a), b ∈ l := by
  obtain ⟨u, v, rfl, first⟩ := List.eq_append_cons_of_mem later
  have between : (u ++ a :: v).takeWhile (· ≠ a) = u := by
    rw [List.takeWhile_append_of_pos, List.takeWhile_cons_of_neg, List.append_nil]
    · simp
    · intro b hb
      simpa using fun h : b = a => first (h ▸ hb)
  -- Behind `l` only what does not appear in `l` counts.
  let fresh : List α := u.filter fun x => x ∉ l
  let rest : List α := v.filter fun x => x ∉ l
  have with' : (l ++ a :: (u ++ a :: v)).eraseDups =
      l.eraseDups ++ (a :: (fresh ++ a :: rest)).eraseDups := by
    rw [eraseDups_append_filter]
    simp [new, fresh, rest]
  have without : (l ++ (u ++ a :: v)).eraseDups =
      l.eraseDups ++ (fresh ++ a :: rest).eraseDups := by
    rw [eraseDups_append_filter]
    simp [new, fresh, rest]
  rw [between, with', without, List.append_right_inj]
  have none : fresh = [] ↔ ∀ b ∈ u, b ∈ l := by simp [fresh, List.filter_eq_nil_iff]
  rw [← none]
  constructor
  · intro same
    cases h : fresh with
    | nil => rfl
    | cons b bs =>
      rw [h, List.eraseDups_cons, List.cons_append, List.eraseDups_cons] at same
      obtain rfl : a = b := (List.cons.inj same).1
      have there : a ∈ fresh := by simp [h]
      exact absurd (List.mem_of_mem_filter there) first
  · intro h
    rw [h, List.nil_append, List.eraseDups_cons, List.eraseDups_cons]
    simp

/-- The same among the elements that have a property. -/
theorem filter_eraseDups_insert_iff (p : α → Bool) (appears : p a = true → a ∈ l ∨ a ∈ r) :
    (l ++ a :: r).eraseDups.filter p = (l ++ r).eraseDups.filter p ↔
      (p a = true → a ∈ l ∨ ∀ b ∈ r.takeWhile (· ≠ a), p b = true → b ∈ l) := by
  rw [filter_eraseDups, filter_eraseDups, List.filter_append, List.filter_append]
  cases kept : p a with
  | false => simp [kept]
  | true =>
    rw [List.filter_cons_of_pos kept]
    by_cases before : a ∈ l
    · rw [eraseDups_append_filter, eraseDups_append_filter]
      simp [before, kept]
    · have later : a ∈ r := (appears kept).resolve_left before
      have stops : (fun x => !p x || decide (x ≠ a)) = fun x => decide (x ≠ a) := by
        funext x
        by_cases here : x = a
        · simp [here, kept]
        · simp [here]
      have between : (r.filter p).takeWhile (· ≠ a) = (r.takeWhile (· ≠ a)).filter p := by
        rw [List.takeWhile_filter, stops]
      rw [eraseDups_insert_iff (by simp [before]) (by simp [later, kept]), between]
      simp only [List.mem_filter, and_imp, before, false_or, forall_const]
      exact forall₃_congr fun b _ chosen => and_iff_left chosen

end FirstAppearance

/-- A member of two lists in a row is in the second or in the first. -/
theorem cut_of_append_eq {α : Type} {l r u v : List α} {x : α} (h : l ++ r = u ++ x :: v) :
    (∃ w, u = l ++ w ∧ r = w ++ x :: v) ∨ ∃ w, l = u ++ x :: w ∧ v = w ++ r := by
  rcases List.append_eq_append_iff.1 h with ⟨w, before, after⟩ | ⟨w, before, after⟩
  · exact .inl ⟨w, before, after⟩
  · cases w with
    | nil => exact .inl ⟨[], by simp [before], by simp [after]⟩
    | cons y w =>
      obtain ⟨rfl, rest⟩ := List.cons.inj after
      exact .inr ⟨w, before, rest⟩

namespace Catalogue

variable {xs ys : List Observation} {m : Observation}

/-! ### One more observation -/

/-- An observation between others has one of its address before it that is as strong, or one behind
it that is stronger. -/
def Outranked (xs : List Observation) (m : Observation) (ys : List Observation) : Prop :=
  (∃ p ∈ xs, p.address = m.address ∧ m.rank ≤ p.rank) ∨
    ∃ q ∈ ys, q.address = m.address ∧ m.rank < q.rank

theorem strongest?_insert_of_ne {a : Address} (other : m.address ≠ a) :
    strongest? a (xs ++ m :: ys) = strongest? a (xs ++ ys) := by
  simp [strongest?, other]

theorem strongest?_insert_of_not_outranked (strong : ¬Outranked xs m ys) :
    strongest? m.address (xs ++ m :: ys) = some m := by
  simp only [Outranked, not_or, not_exists, not_and] at strong
  refine strongest?_eq_some_iff.2 ⟨xs, ys, rfl, rfl, ?_, ?_⟩
  · exact fun p hp same => UInt16.not_le.1 (strong.1 p hp same)
  · exact fun q hq same => UInt16.not_lt.1 (strong.2 q hq same)

theorem strongest?_insert_of_outranked (weak : Outranked xs m ys) :
    strongest? m.address (xs ++ m :: ys) = strongest? m.address (xs ++ ys) := by
  have heard : m.address ∈ (xs ++ ys).map (·.address) := by
    rcases weak with ⟨p, hp, same, _⟩ | ⟨p, hp, same, _⟩
    · exact List.mem_map.2 ⟨p, List.mem_append_left _ hp, same⟩
    · exact List.mem_map.2 ⟨p, List.mem_append_right _ hp, same⟩
  obtain ⟨o, strongest⟩ := exists_strongest? heard
  have most (p : Observation) (hp : p ∈ xs ++ ys) (same : p.address = m.address) :
      p.rank ≤ o.rank := rank_le_of_strongest? strongest hp same
  rw [strongest]
  obtain ⟨before, after, parts, own, below, behind⟩ := strongest?_eq_some_iff.1 strongest
  rcases cut_of_append_eq parts with ⟨between, rfl, rfl⟩ | ⟨between, rfl, rfl⟩
  · -- The new one comes before the strongest.
    have weaker : m.rank < o.rank := by
      rcases weak with ⟨p, hp, same, higher⟩ | ⟨q, hq, same, higher⟩
      · exact UInt16.lt_of_le_of_lt higher (below p (List.mem_append_left _ hp) same)
      · exact UInt16.lt_of_lt_of_le higher (most q (List.mem_append_right _ hq) same)
    refine strongest?_eq_some_iff.2 ⟨xs ++ m :: between, after, by simp, own, ?_, behind⟩
    rw [List.forall_mem_append] at below
    rw [List.forall_mem_append, List.forall_mem_cons]
    exact ⟨below.1, fun _ => weaker, below.2⟩
  · -- The new one comes behind the strongest.
    have weaker : m.rank ≤ o.rank := by
      rcases weak with ⟨p, hp, same, higher⟩ | ⟨q, hq, same, higher⟩
      · exact UInt16.le_trans higher (most p (List.mem_append_left _ hp) same)
      · exact UInt16.le_trans (UInt16.le_of_lt higher) (most q (List.mem_append_right _ hq) same)
    refine strongest?_eq_some_iff.2 ⟨before, between ++ m :: ys, by simp, own, below, ?_⟩
    rw [List.forall_mem_append] at behind
    rw [List.forall_mem_append, List.forall_mem_cons]
    exact ⟨behind.1, fun _ => weaker, behind.2⟩

/-! ### What is placed -/

theorem placed?_insert_of_ne {a : Address} (other : m.address ≠ a) :
    placed? a (xs ++ m :: ys) = placed? a (xs ++ ys) := by
  rw [placed?, strongest?_insert_of_ne other, ← placed?]

theorem placed?_insert_of_outranked (weak : Outranked xs m ys) :
    placed? m.address (xs ++ m :: ys) = placed? m.address (xs ++ ys) := by
  rw [placed?, strongest?_insert_of_outranked weak, ← placed?]

/-- A malformed observation that is the strongest of its address stands in the way of the others. -/
theorem placed?_insert_of_not_outranked (malformed : m.isPlaceable = false)
    (strong : ¬Outranked xs m ys) : placed? m.address (xs ++ m :: ys) = none := by
  simp [placed?, strongest?_insert_of_not_outranked strong, malformed]

/-- An observation does not move its address to the front: another one of its address comes before
it, or nothing that is placed appears first between it and the next one of its address. -/
def InPlace (xs : List Observation) (m : Observation) (ys : List Observation) : Prop :=
  m.address ∈ xs.map (·.address) ∨
    ∀ q ∈ ys.takeWhile (·.address ≠ m.address),
      q.address ∈ (heard (xs ++ ys)).map (·.address) → q.address ∈ xs.map (·.address)

/-- What makes a malformed observation as good as not there: if others of its address are placed
without it, it is outranked and in place. -/
structure Unaffected (xs : List Observation) (m : Observation) (ys : List Observation) : Prop where
  outranked : m.address ∈ (heard (xs ++ ys)).map (·.address) → Outranked xs m ys
  in_place : m.address ∈ (heard (xs ++ ys)).map (·.address) → InPlace xs m ys

theorem filterMap_eq_of_filter_eq {α β : Type} {f : α → Option β} {l l' : List α}
    (same : (l.filter fun a => (f a).isSome) = l'.filter fun a => (f a).isSome) :
    l.filterMap f = l'.filterMap f := by
  have only (l : List α) : (l.filter fun a => (f a).isSome).filterMap f = l.filterMap f := by
    rw [List.filterMap_filter]
    refine List.filterMap_congr fun a _ => ?_
    cases h : f a <;> simp
  rw [← only l, ← only l', same]

/-- An observation leaves the order of the addresses that are placed without it alone exactly if it
is in place, should its address be one of them. -/
theorem addresses_insert_iff :
    ((addresses (xs ++ m :: ys)).filter fun a => (placed? a (xs ++ ys)).isSome) =
        ((addresses (xs ++ ys)).filter fun a => (placed? a (xs ++ ys)).isSome) ↔
      (m.address ∈ (heard (xs ++ ys)).map (·.address) → InPlace xs m ys) := by
  have appears : (placed? m.address (xs ++ ys)).isSome = true →
      m.address ∈ xs.map (·.address) ∨ m.address ∈ ys.map (·.address) := by
    intro placed
    have there : m.address ∈ addresses (xs ++ ys) := by
      have listed := mem_addresses_heard.2 placed
      rw [addresses_heard] at listed
      exact List.mem_of_mem_filter listed
    rwa [mem_addresses, List.map_append, List.mem_append] at there
  have order := filter_eraseDups_insert_iff (fun a => (placed? a (xs ++ ys)).isSome) appears
  have between : (ys.map (·.address)).takeWhile (· ≠ m.address) =
      (ys.takeWhile (·.address ≠ m.address)).map (·.address) := List.takeWhile_map ..
  rw [between, List.forall_mem_map] at order
  simp only [addresses, List.map_append, List.map_cons, InPlace, mem_addresses_heard]
  exact order

/-- A malformed observation leaves what is placed alone exactly if it is as good as not there. -/
theorem heard_insert_iff (malformed : m.isPlaceable = false) :
    heard (xs ++ m :: ys) = heard (xs ++ ys) ↔ Unaffected xs m ys := by
  have others (weak : m.address ∈ (heard (xs ++ ys)).map (·.address) → Outranked xs m ys) :
      (fun a => placed? a (xs ++ m :: ys)) = fun a => placed? a (xs ++ ys) := by
    funext a
    by_cases own : m.address = a
    · subst own
      by_cases outranked : Outranked xs m ys
      · exact placed?_insert_of_outranked outranked
      · have none := mt weak outranked
        rw [mem_addresses_heard, Option.not_isSome_iff_eq_none] at none
        rw [placed?_insert_of_not_outranked malformed outranked, none]
    · exact placed?_insert_of_ne own
  constructor
  · intro same
    have outranked : m.address ∈ (heard (xs ++ ys)).map (·.address) → Outranked xs m ys := by
      intro there
      by_contra strong
      rw [← same, mem_addresses_heard, placed?_insert_of_not_outranked malformed strong] at there
      cases there
    refine ⟨outranked, addresses_insert_iff.1 ?_⟩
    have order := congrArg (List.map (·.address)) same
    rw [addresses_heard, addresses_heard] at order
    simpa only [congrFun (others outranked)] using order
  · intro ⟨outranked, in_place⟩
    rw [heard_eq, heard_eq, others outranked]
    exact filterMap_eq_of_filter_eq (addresses_insert_iff.2 in_place)

/-! ### Scans with a malformed observation -/

/-- Let an observation be malformed: its SSID is no text or too long, or its governing element
cannot be read.  A scan with it leaves every catalogue of an interface as the scan without it does,
with the same changes, whatever access point is in use and whatever the store says, exactly if no
others of its address are placed without it, or else it is outranked by one of them and in place. -/
theorem malformed_isolated_iff {c : Catalogue} (h : c.Reachable) (malformed : m.isPlaceable = false)
    (xs ys : List Observation) :
    (∀ pin source now,
        (c.ingest (xs ++ m :: ys) pin source now).catalogue =
            (c.ingest (xs ++ ys) pin source now).catalogue ∧
          (c.ingest (xs ++ m :: ys) pin source now).changes =
            (c.ingest (xs ++ ys) pin source now).changes) ↔
      Unaffected xs m ys := by
  have named := h.settled.toFiled.named
  rw [← heard_insert_iff malformed]
  constructor
  · intro isolated
    have same := (isolated none ⟨fun _ _ => none, fun _ _ => none⟩ 0).1
    rw [ingest_eq named, ingest_eq named] at same
    have observations := congrArg Catalogue.observations same
    simpa [regrouped, current, carried] using observations
  · intro same pin source now
    rw [ingest_eq named, ingest_eq named]
    simp only [same, and_self]

/-- A malformed observation takes the place of a weaker well-formed one of its address, and is as
good as not there if its address is another one. -/
theorem malformed_isolated_iff_spoofed :
    let first := Station.Sample.observation
    let spoofed := { first with ssid := [0xff], rank := 6000 }
    let stray := { spoofed with address := Station.Sample.interface.address }
    let c : Catalogue := { device := "/net/connman/iwd/0/3" }
    (¬∀ pin source now,
      (c.ingest [first, spoofed] pin source now).catalogue =
          (c.ingest [first] pin source now).catalogue ∧
        (c.ingest [first, spoofed] pin source now).changes =
          (c.ingest [first] pin source now).changes) ∧
    ∀ pin source now,
      (c.ingest [first, stray] pin source now).catalogue =
          (c.ingest [first] pin source now).catalogue ∧
        (c.ingest [first, stray] pin source now).changes =
          (c.ingest [first] pin source now).changes := by
  intro first spoofed stray c
  have reachable : c.Reachable := .new _
  constructor
  · have malformed : spoofed.isPlaceable = false := by decide +kernel
    have affected : ¬Unaffected [first] spoofed [] := by
      intro unaffected
      have weak := unaffected.outranked (by decide +kernel)
      rcases weak with ⟨p, hp, _, higher⟩ | ⟨q, hq, _⟩
      · obtain rfl := List.mem_singleton.1 hp
        exact absurd higher (by decide +kernel)
      · cases hq
    exact mt (malformed_isolated_iff reachable malformed [first] []).1 affected
  · have malformed : stray.isPlaceable = false := by decide +kernel
    have alone : stray.address ∉ (heard ([first] ++ [])).map (·.address) := by decide +kernel
    refine (malformed_isolated_iff reachable malformed [first] []).2 ?_
    exact ⟨fun there => absurd there alone, fun there => absurd there alone⟩

/-- A malformed observation that is stronger than the only well-formed one of its address keeps the
network of that address from being listed. -/
theorem stronger_malformed_suppresses :
    let first := Station.Sample.observation
    let spoofed := { first with ssid := [0xff], rank := 6000 }
    let c : Catalogue := { device := "/net/connman/iwd/0/3" }
    let source : CredentialSource := ⟨fun _ _ => none, fun _ _ => none⟩
    c.Reachable ∧ spoofed.isPlaceable = false ∧
      (c.ingest [first, spoofed] none source 0).catalogue.networks.length = 0 ∧
      (c.ingest [first] none source 0).catalogue.networks.length = 1 := by
  intro first spoofed c source
  refine ⟨.new _, ?_, ?_, ?_⟩ <;> decide +kernel

end Catalogue

end WirelessStation
