import WirelessStation.Proofs.Orderly
import WirelessStation.Proofs.Run
import WirelessStation.Store.Known

/-! # Known networks above unknown ones

The rank of a known network is lifted by 65535, which is also the most that an unknown network can
reach.  So no unknown network ever outranks a known one (`rankFor_none_le`), but the two may draw:
if the access point of the unknown one has the largest rank that there is and the modifier leaves
nothing of the rank of the known one (`rankFor_eq_iff`).  Then the ranked view has them in the order
in which they were first heard, and the unknown one may come first.

* `knownFirst_iff`: after a scan the known networks come first in the ranked view, unless some
  unknown network draws with a known one that was heard after it. -/

namespace WirelessStation

namespace Network

theorem toNat_addSaturating (a b : UInt32) :
    (addSaturating a b).toNat = min (a.toNat + b.toNat) 4294967295 := by
  have ha : a.toNat < 4294967296 := a.toNat_lt
  have hb : b.toNat < 4294967296 := b.toNat_lt
  unfold addSaturating
  split
  next fits =>
    have fits : a.toNat + b.toNat < 4294967296 := fits
    rw [UInt32.toNat_add]
    omega
  next exceeds =>
    have exceeds : ¬a.toNat + b.toNat < 4294967296 := exceeds
    have largest : (0xFFFFFFFF : UInt32).toNat = 4294967295 := rfl
    omega

theorem toNat_rankFor_some (best : UInt16) (modifier : Float) :
    (rankFor best (some modifier)).toNat =
      min ((scaleRank best modifier).toNat + 65535) 4294967295 :=
  toNat_addSaturating (scaleRank best modifier) 65535

theorem toNat_rankFor_none (best : UInt16) : (rankFor best none).toNat = best.toNat :=
  UInt16.toNat_toUInt32 best

/-- An unknown network never outranks a known one. -/
theorem rankFor_none_le (unknown known : UInt16) (modifier : Float) :
    rankFor unknown none ≤ rankFor known (some modifier) := by
  have bound : unknown.toNat < 65536 := unknown.toNat_lt
  rw [UInt32.le_iff_toNat_le, toNat_rankFor_none, toNat_rankFor_some]
  omega

/-- The two draw if one has all that it can have and nothing is left of the other. -/
theorem rankFor_eq_iff (unknown known : UInt16) (modifier : Float) :
    rankFor unknown none = rankFor known (some modifier) ↔
      unknown = 65535 ∧ scaleRank known modifier = 0 := by
  have bound : unknown.toNat < 65536 := unknown.toNat_lt
  have scaled : (scaleRank known modifier).toNat < 4294967296 := (scaleRank known modifier).toNat_lt
  have most : (65535 : UInt16).toNat = 65535 := rfl
  have nothing : (0 : UInt32).toNat = 0 := rfl
  rw [← UInt32.toNat_inj, ← UInt16.toNat_inj, ← UInt32.toNat_inj, toNat_rankFor_none,
    toNat_rankFor_some, most, nothing]
  omega

/-- Whether a store knows a network. -/
def isKnownTo (source : CredentialSource) (n : Network) : Bool :=
  (n.modifierFrom source).isSome

/-- An unknown network that has all the rank it can have, and a known one whose modifier leaves
nothing of its rank. -/
def Draws (source : CredentialSource) (unknown known : Network) : Prop :=
  unknown.modifierFrom source = none ∧ unknown.bestRank = 65535 ∧
    ∃ modifier, known.modifierFrom source = some modifier ∧
      scaleRank known.bestRank modifier = 0

end Network

namespace Catalogue

/-- In the ranked view a network is known if any network behind it is. -/
def KnownFirst (source : CredentialSource) (c : Catalogue) : Prop :=
  c.ranked.Pairwise fun m n => n.isKnownTo source = true → m.isKnownTo source = true

/-- The networks have the ranks that go with what a store says of them. -/
def RankedBy (source : CredentialSource) (c : Catalogue) : Prop :=
  ∀ n ∈ c.networks, n.rank = Network.rankFor n.bestRank (n.modifierFrom source)

theorem rankedBy_settle (source : CredentialSource) (c : Catalogue) :
    (c.settle source).1.RankedBy source := by
  intro n' there
  obtain ⟨n, _, _, rfl⟩ := mem_networks_settle.1 there
  rfl

theorem rankedBy_ingest (observations : List Observation) (pin : Option Pin)
    (source : CredentialSource) (now : Moment) (c : Catalogue) :
    (c.ingest observations pin source now).catalogue.RankedBy source :=
  rankedBy_settle source _

/-- An unknown network stands before a known one in the ranked view exactly if the two draw and it
was heard before. -/
theorem RankedBy.before_iff {source : CredentialSource} {c : Catalogue} (h : c.RankedBy source)
    {u k : Network} (unknown : u.isKnownTo source = false) (known : k.isKnownTo source = true) :
    [u, k].Sublist c.ranked ↔ [u, k].Sublist c.networks ∧ Network.Draws source u k := by
  have none : u.modifierFrom source = none := by simpa [Network.isKnownTo] using unknown
  obtain ⟨modifier, some⟩ := Option.isSome_iff_exists.1 known
  -- Networks that draw stand in the ranked view as they stand in the catalogue.
  have draw (hu : u ∈ c.networks) (hk : k ∈ c.networks) :
      u.rank = k.rank ↔ Network.Draws source u k := by
    rw [h u hu, h k hk, none, some, Network.rankFor_eq_iff]
    constructor
    · rintro ⟨most, nothing⟩
      exact ⟨none, most, modifier, some, nothing⟩
    · rintro ⟨_, most, other, same, nothing⟩
      obtain rfl := Option.some.inj (some.symm.trans same)
      exact ⟨most, nothing⟩
  constructor
  · intro before
    have hu : u ∈ c.networks := List.mem_mergeSort.1 (before.subset (by simp))
    have hk : k ∈ c.networks := List.mem_mergeSort.1 (before.subset (by simp))
    have above : k.rank ≤ u.rank := by
      have sorted := (pairwise_mergeSort_key Network.rank c.networks).sublist before
      simpa using sorted
    have below : u.rank ≤ k.rank := by
      rw [h u hu, h k hk, none, some]
      exact Network.rankFor_none_le _ _ _
    have same : u.rank = k.rank := UInt32.le_antisymm below above
    exact ⟨(pair_sublist_mergeSort_key Network.rank c.networks same).1 before, (draw hu hk).1 same⟩
  · rintro ⟨before, draws⟩
    have same : u.rank = k.rank :=
      (draw (before.subset (by simp)) (before.subset (by simp))).2 draws
    exact (pair_sublist_mergeSort_key Network.rank c.networks same).2 before

/-- Whatever a catalogue holds, and whatever a scan hears and the store says: the known networks
come first in the ranked view afterwards, unless an unknown network whose best access point has the
largest rank that there is was heard before a known one of whose rank its modifier leaves nothing.
-/
theorem knownFirst_iff (c : Catalogue) (observations : List Observation) (pin : Option Pin)
    (source : CredentialSource) (now : Moment) :
    let after := (c.ingest observations pin source now).catalogue
    after.KnownFirst source ↔
      ¬∃ u k, [u, k].Sublist after.networks ∧ Network.Draws source u k := by
  intro after
  have ranked : after.RankedBy source := c.rankedBy_ingest observations pin source now
  rw [KnownFirst, List.pairwise_iff_forall_sublist]
  constructor
  · rintro first ⟨u, k, before, draws⟩
    have unknown : u.isKnownTo source = false := by simp [Network.isKnownTo, draws.1]
    have known : k.isKnownTo source = true := by
      obtain ⟨_, _, modifier, some, _⟩ := draws
      simp [Network.isKnownTo, some]
    have listed := (ranked.before_iff unknown known).2 ⟨before, draws⟩
    rw [first listed known] at unknown
    cases unknown
  · intro none u k before known
    cases unknown : u.isKnownTo source with
    | true => rfl
    | false => exact absurd ⟨u, k, (ranked.before_iff unknown known).1 before⟩ none

/-- The strongest access point that there can be comes first in a scan, and its network is unknown;
the weakest comes second, and its network is known and fully trusted.  They draw, and the unknown
one stays in front. -/
theorem unknown_first_on_draw :
    let strongest := { Station.Sample.observation with rank := 65535 }
    let weakest :=
      { Station.Sample.observation with
        address := Station.Sample.interface.address, ssid := [0x42], rank := 0 }
    let source := KnownNetworks.source ⟨[⟨"B", .unsecured, .unsecured⟩]⟩
    let c : Catalogue := { device := "/net/connman/iwd/0/3" }
    let after := (c.ingest [strongest, weakest] none source 0).catalogue
    after.ranked.map (fun n => (n.ssid, n.isKnownTo source)) = [("A", false), ("B", true)] ∧
      ¬after.KnownFirst source := by
  intro strongest weakest source c after
  have sorted : after.networks.Pairwise fun m n => n.rank ≤ m.rank := by decide +kernel
  have unchanged : after.ranked = after.networks := (eq_mergeSort_key sorted fun _ => rfl).symm
  rw [KnownFirst, unchanged]
  decide +kernel

end Catalogue

end WirelessStation
