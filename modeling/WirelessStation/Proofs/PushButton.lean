import Mathlib.Data.List.Basic
import WirelessStation.Enrollment

/-! # The search for a registrar, in closed form

The search goes through the observations of a scan one by one.  It keeps the registrar that it has
met on each band and stops at the first two on one band, so that it may never see the rest.  All the
same its answer is a judgement on everything that there is to meet (`selectFrom_eq`): it does not
depend on the order of the observations (`select_perm`), nor on those that are no invitation
(`select_filter`).

* `judge_eq_nobody_iff`, `judge_eq_overlap_iff`, `judge_eq_target_iff`: the three judgements.
* `select_exact`: the three answers in terms of the invitations of a scan. -/

namespace WirelessStation.Enrollment

/-! ### The judgement -/

/-- What all the registrars met on the two bands amount to. -/
def judge (twos fives : List Met) : Selection :=
  if 2 ≤ twos.length ∨ 2 ≤ fives.length then .overlap else verdict twos.head? fives.head?

/-- More than one registrar on a band, or registrars on the two bands that are not the same one. -/
def Clash (twos fives : List Met) : Prop :=
  2 ≤ twos.length ∨ 2 ≤ fives.length ∨ ∃ two ∈ twos, ∃ five ∈ fives, two.uuid ≠ five.uuid

section Judge

variable {twos fives : List Met}

theorem judge_eq_nobody_iff : judge twos fives = .nobody ↔ twos = [] ∧ fives = [] := by
  rcases twos with _ | ⟨two, _ | _⟩ <;> rcases fives with _ | ⟨five, _ | _⟩ <;>
    simp [judge, verdict]
  split <;> simp

theorem judge_eq_overlap_iff : judge twos fives = .overlap ↔ Clash twos fives := by
  rcases twos with _ | ⟨two, _ | _⟩ <;> rcases fives with _ | ⟨five, _ | _⟩ <;>
    simp [judge, verdict, Clash]

/-- A registrar that is met on 5 GHz comes first. -/
theorem judge_eq_target_iff {a : Address} :
    judge twos fives = .target a ↔
      ¬Clash twos fives ∧
        ((∃ five ∈ fives, five.address = a) ∨ fives = [] ∧ ∃ two ∈ twos, two.address = a) := by
  rcases twos with _ | ⟨two, _ | _⟩ <;> rcases fives with _ | ⟨five, _ | _⟩ <;>
    simp [judge, verdict, Clash]
  split <;> simp_all

theorem judge_perm {twos' fives' : List Met} (two : twos'.Perm twos) (five : fives'.Perm fives) :
    judge twos' fives' = judge twos fives := by
  unfold judge
  rw [two.length_eq, five.length_eq]
  split
  next => rfl
  next few =>
    -- Lists with one member at most have no order.
    have same {l l' : List Met} (h : l'.Perm l) (short : l.length < 2) : l' = l := by
      match l, short with
      | [], _ => exact h.eq_nil
      | [m], _ => exact h.eq_singleton
    rw [same two (by omega), same five (by omega)]

end Judge

/-! ### Everything that there is to meet -/

/-- What the search keeps of an access point on a band. -/
def meet? (band : Band) (o : Observation) : Option Met :=
  if Band.ofFrequency? o.frequency = some band then
    (inviting? o).map fun r => ⟨o.address, r.uuid⟩
  else none

/-- Every registrar that is met on a band. -/
def metOn (band : Band) (l : List Observation) : List Met :=
  l.filterMap (meet? band)

/-- The search judges all that it would meet if it went through to the end. -/
theorem selectFrom_eq (two five : Option Met) (l : List Observation) :
    selectFrom two five l =
      judge (two.toList ++ metOn .twoGhz l) (five.toList ++ metOn .fiveGhz l) := by
  induction l generalizing two five with
  | nil => cases two <;> cases five <;> simp [selectFrom, judge, metOn]
  | cons o rest ih =>
    unfold selectFrom
    cases invites : inviting? o with
    | none => simp [ih, metOn, meet?, invites]
    | some r =>
      cases band : Band.ofFrequency? o.frequency with
      | none => simp [ih, metOn, meet?, band]
      | some b =>
        cases b with
        | twoGhz => cases two <;> simp [ih, metOn, meet?, invites, band, judge]
        | fiveGhz => cases five <;> simp [ih, metOn, meet?, invites, band, judge]
        | sixGhz => simp [ih, metOn, meet?, band]

theorem select_eq (l : List Observation) :
    select l = judge (metOn .twoGhz l) (metOn .fiveGhz l) :=
  selectFrom_eq none none l

theorem select_perm {l l' : List Observation} (h : l'.Perm l) : select l' = select l := by
  rw [select_eq, select_eq]
  exact judge_perm (h.filterMap _) (h.filterMap _)

/-! ### Invitations -/

/-- An access point invites if its registrar takes enrollees now, by push button, on one of the two
bands that are looked at. -/
def isInvitation (o : Observation) : Bool :=
  (o.registrar.any fun r => r.selected && r.passwordId == pushButtonId) &&
    (Band.ofFrequency? o.frequency == some .twoGhz ||
      Band.ofFrequency? o.frequency == some .fiveGhz)

/-- The invitations among the observations of a scan. -/
def invitations (l : List Observation) : List Observation :=
  l.filter isInvitation

/-- The observations on a band. -/
def onBand (band : Band) (l : List Observation) : List Observation :=
  l.filter fun o => Band.ofFrequency? o.frequency == some band

/-- Two invitations on one band, or one on each from registrars with different identifiers. -/
def Overlap (invited : List Observation) : Prop :=
  2 ≤ (onBand .twoGhz invited).length ∨ 2 ≤ (onBand .fiveGhz invited).length ∨
    ∃ two ∈ onBand .twoGhz invited, ∃ five ∈ onBand .fiveGhz invited,
      two.registrar.map (·.uuid) ≠ five.registrar.map (·.uuid)

instance (invited : List Observation) : Decidable (Overlap invited) :=
  inferInstanceAs (Decidable (_ ∨ _ ∨ _))

theorem mem_onBand {band : Band} {o : Observation} {l : List Observation} :
    o ∈ onBand band l ↔ o ∈ l ∧ Band.ofFrequency? o.frequency = some band := by
  simp [onBand]

/-- What the search keeps of an access point that it has met. -/
def met? (o : Observation) : Option Met :=
  o.registrar.map fun r => ⟨o.address, r.uuid⟩

theorem met?_eq_some_iff {o : Observation} {m : Met} :
    met? o = some m ↔ o.address = m.address ∧ o.registrar.map (·.uuid) = some m.uuid := by
  cases m
  cases registrar : o.registrar <;> simp [met?, registrar]

/-- On the bands that are looked at, exactly those who invite are met. -/
theorem meet?_eq {band : Band} (looked : band = .twoGhz ∨ band = .fiveGhz) (o : Observation) :
    meet? band o =
      if isInvitation o ∧ Band.ofFrequency? o.frequency = some band then met? o else none := by
  by_cases here : Band.ofFrequency? o.frequency = some band
  · have on : band = .twoGhz ∨ band = .fiveGhz ↔ True := iff_true_intro looked
    cases registrar : o.registrar with
    | none => simp [meet?, inviting?, met?, registrar]
    | some r => simp [meet?, inviting?, met?, isInvitation, registrar, here, on, Option.filter]
  · simp [meet?, here]

theorem metOn_eq {band : Band} (looked : band = .twoGhz ∨ band = .fiveGhz) (l : List Observation) :
    metOn band l = (onBand band (invitations l)).filterMap met? := by
  unfold metOn onBand invitations
  rw [List.filter_filter, List.filterMap_filter]
  refine List.filterMap_congr fun o _ => ?_
  rw [meet?_eq looked]
  simp [and_comm]

section Looked

variable {band : Band} (looked : band = .twoGhz ∨ band = .fiveGhz) {l : List Observation}

theorem exists_met {o : Observation} (h : o ∈ onBand band (invitations l)) :
    ∃ m, met? o = some m := by
  have invites : isInvitation o = true := (List.mem_filter.1 (mem_onBand.1 h).1).2
  unfold isInvitation at invites
  cases registrar : o.registrar with
  | none => simp [registrar] at invites
  | some r => exact ⟨⟨o.address, r.uuid⟩, by simp [met?, registrar]⟩

include looked

/-- Whoever invites is met once. -/
theorem length_metOn : (metOn band l).length = (onBand band (invitations l)).length := by
  rw [metOn_eq looked]
  refine List.filterMap_length_eq_length.2 fun o ho => ?_
  obtain ⟨m, met⟩ := exists_met ho
  simp [met]

theorem metOn_eq_nil_iff : metOn band l = [] ↔ onBand band (invitations l) = [] := by
  rw [← List.length_eq_zero_iff, length_metOn looked, List.length_eq_zero_iff]

theorem exists_metOn_iff {p : Met → Prop} :
    (∃ m ∈ metOn band l, p m) ↔
      ∃ o ∈ onBand band (invitations l), ∃ m, met? o = some m ∧ p m := by
  rw [metOn_eq looked]
  simp only [List.mem_filterMap]
  constructor
  · rintro ⟨m, ⟨o, ho, met⟩, hm⟩
    exact ⟨o, ho, m, met, hm⟩
  · rintro ⟨o, ho, m, met, hm⟩
    exact ⟨m, ⟨o, ho, met⟩, hm⟩

theorem exists_metOn_address_iff {a : Address} :
    (∃ m ∈ metOn band l, m.address = a) ↔
      ∃ o ∈ onBand band (invitations l), o.address = a := by
  rw [exists_metOn_iff looked]
  refine exists_congr fun o => and_congr_right fun ho => ?_
  obtain ⟨m, met⟩ := exists_met ho
  simp [met, (met?_eq_some_iff.1 met).1]

end Looked

theorem clash_metOn_iff {l : List Observation} :
    Clash (metOn .twoGhz l) (metOn .fiveGhz l) ↔ Overlap (invitations l) := by
  have fives {p : Met → Prop} : (∃ m ∈ metOn .fiveGhz l, p m) ↔
      ∃ o ∈ onBand .fiveGhz (invitations l), ∃ m, met? o = some m ∧ p m :=
    exists_metOn_iff (.inr rfl)
  unfold Clash Overlap
  rw [length_metOn (.inl rfl), length_metOn (.inr rfl), exists_metOn_iff (.inl rfl)]
  simp only [fives]
  refine or_congr_right (or_congr_right (exists_congr fun two => and_congr_right fun htwo => ?_))
  obtain ⟨m, met⟩ := exists_met htwo
  simp only [met, (met?_eq_some_iff.1 met).2, Option.some.injEq, exists_eq_left']
  refine exists_congr fun five => and_congr_right fun hfive => ?_
  obtain ⟨m', met'⟩ := exists_met hfive
  simp [met', (met?_eq_some_iff.1 met').2]

theorem invitations_eq_nil_iff {l : List Observation} :
    invitations l = [] ↔
      onBand .twoGhz (invitations l) = [] ∧ onBand .fiveGhz (invitations l) = [] := by
  constructor
  · intro none
    simp [none, onBand]
  · rintro ⟨two, five⟩
    refine List.eq_nil_iff_forall_not_mem.2 fun o ho => ?_
    have on : Band.ofFrequency? o.frequency = some .twoGhz ∨
        Band.ofFrequency? o.frequency = some .fiveGhz := by
      have invites : isInvitation o = true := (List.mem_filter.1 ho).2
      simp only [isInvitation, Bool.and_eq_true, Bool.or_eq_true, beq_iff_eq] at invites
      exact invites.2
    rcases on with on | on
    · exact List.ne_nil_of_mem (mem_onBand.2 ⟨ho, on⟩) two
    · exact List.ne_nil_of_mem (mem_onBand.2 ⟨ho, on⟩) five

/-- Nothing is lost with observations that are no invitation. -/
theorem select_filter {l : List Observation} {keep : Observation → Bool}
    (kept : ∀ o ∈ invitations l, keep o = true) : select (l.filter keep) = select l := by
  have same {band : Band} (looked : band = .twoGhz ∨ band = .fiveGhz) :
      metOn band (l.filter keep) = metOn band l := by
    unfold metOn
    rw [List.filterMap_filter]
    refine List.filterMap_congr fun o ho => ?_
    split
    next => rfl
    next dropped =>
      rw [meet?_eq looked, if_neg]
      rintro ⟨invites, _⟩
      exact dropped (kept o (List.mem_filter.2 ⟨ho, invites⟩))
  rw [select_eq, select_eq, same (.inl rfl), same (.inr rfl)]

/-- An access point without a registrar is nothing to the search. -/
theorem select_registrars (l : List Observation) :
    select (l.filter fun o => o.registrar.isSome) = select l := by
  refine select_filter fun o ho => ?_
  obtain ⟨_, invites⟩ := List.mem_filter.1 ho
  unfold isInvitation at invites
  cases here : o.registrar with
  | none => simp [here] at invites
  | some r => rfl

/-- The search for a registrar answers exactly as the invitations of the scan say: nobody if there
are none; an overlap if two are on one band, or one is on each band and their registrars have
different identifiers; and otherwise the address of the invitation on 5 GHz, or of the one on
2.4 GHz where none is on 5 GHz.  So neither the order of the observations matters, nor which of
those are left out that are no invitation. -/
theorem select_exact (l : List Observation) :
    let invited := invitations l
    (select l = .nobody ↔ invited = []) ∧
    (select l = .overlap ↔ Overlap invited) ∧
    (∀ a, select l = .target a ↔
      ¬Overlap invited ∧
        ((∃ o ∈ onBand .fiveGhz invited, o.address = a) ∨
          onBand .fiveGhz invited = [] ∧ ∃ o ∈ onBand .twoGhz invited, o.address = a)) ∧
    (∀ l', l'.Perm l → select l' = select l) ∧
    (∀ keep : Observation → Bool, (∀ o ∈ invited, keep o = true) →
      select (l.filter keep) = select l) ∧
    select invited = select l := by
  intro invited
  refine ⟨?_, ?_, fun a => ?_, fun l' h => select_perm h, fun keep kept => select_filter kept, ?_⟩
  · rw [select_eq, judge_eq_nobody_iff, metOn_eq_nil_iff (.inl rfl), metOn_eq_nil_iff (.inr rfl)]
    exact invitations_eq_nil_iff.symm
  · rw [select_eq, judge_eq_overlap_iff]
    exact clash_metOn_iff
  · rw [select_eq, judge_eq_target_iff, clash_metOn_iff, metOn_eq_nil_iff (.inr rfl),
      exists_metOn_address_iff (.inl rfl), exists_metOn_address_iff (.inr rfl)]
  · exact select_filter fun o ho => (List.mem_filter.1 ho).2

/-- An access point whose registrar has had its button pushed; both go by one octet. -/
def Sample.pushed (octet : UInt8) (mhz : Nat) (registrar : UInt8) : Observation where
  address := ⟨.replicate 6 octet⟩
  ssid := [0x41]
  frequency := mhz
  signal := -5000
  registrar := some ⟨true, pushButtonId, ⟨.replicate 16 registrar⟩⟩

/-- A registrar on both bands is met on 5 GHz whichever band comes first, and another one on 6 GHz
is nothing to the search. -/
theorem select_exact_two_bands :
    let two := Sample.pushed 1 2412 7
    let five := Sample.pushed 2 5180 7
    let six := Sample.pushed 3 5955 8
    let l := [two, six, five]
    invitations l = [two, five] ∧ ¬Overlap [two, five] ∧
      select l = .target five.address ∧
      [five, six, two].Perm l ∧ select [five, six, two] = .target five.address ∧
      select (l.filter fun o => o != six) = .target five.address := by
  intro two five six l
  have invited : invitations l = [two, five] := by decide +kernel
  have apart : ¬Overlap [two, five] := by decide +kernel
  obtain ⟨_, _, target, perm, dropped, _⟩ := select_exact l
  rw [invited] at target dropped
  have there : ∃ o ∈ onBand .fiveGhz [two, five], o.address = five.address :=
    ⟨five, by decide +kernel, rfl⟩
  have found : select l = .target five.address := (target _).2 ⟨apart, .inl there⟩
  have turned : [five, six, two].Perm l := by decide +kernel
  exact ⟨invited, apart, found, turned, (perm _ turned).trans found,
    (dropped _ (by decide +kernel)).trans found⟩

end WirelessStation.Enrollment
