import Mathlib.Data.List.DropRight
import Mathlib.Data.List.Find
import WirelessStation.Simulation.Store

/-! # A map with an order by recency

The known networks are one list that serves for two things.  As a map it answers with what was last
written for a network since the network was last forgotten (`remembered`); what one command makes of
the answer is the same on both sides (`settings_perform`, `remembered_concat`).  As an order it has
each network once, and one command moves at most the network that it is about (`reordered`,
`listing_perform`).

* `records_after`: after any commands the list records what they said, and in which order. -/

namespace WirelessStation

namespace KnownNetwork

/-- What a store identifies a network by. -/
def key (k : KnownNetwork) : String × Security :=
  (k.ssid, k.security)

theorem isFor_eq (k : KnownNetwork) (ssid : String) (security : Security) :
    k.isFor ssid security = (k.key == (ssid, security)) := rfl

end KnownNetwork

namespace KnownNetworks

open Simulation.Store (Command perform)

/-! ### The list as a map -/

theorem listing_eq (s : KnownNetworks) : s.listing = s.entries.map KnownNetwork.key := rfl

theorem mem_listing_iff {s : KnownNetworks} {ssid : String} {security : Security} :
    (ssid, security) ∈ s.listing ↔ (s.settings ssid security).isSome = true := by
  simp [listing, settings, find?, KnownNetwork.isFor]

/-- What is found is the first entry for the network. -/
theorem find?_eq_some {s : KnownNetworks} {ssid : String} {security : Security} {k : KnownNetwork}
    (h : s.find? ssid security = some k) :
    k.key = (ssid, security) ∧ ∃ before after, s.entries = before ++ k :: after ∧
      ∀ e ∈ before, e.key ≠ (ssid, security) := by
  rw [find?, List.find?_eq_some_iff_append] at h
  obtain ⟨itself, before, after, list, first⟩ := h
  simp only [KnownNetwork.isFor_eq] at itself first
  exact ⟨beq_iff_eq.1 itself, before, after, list, by simpa using first⟩

/-- Every network has the security type of its settings. -/
def Consistent (s : KnownNetworks) : Prop :=
  ∀ k ∈ s.entries, k.settings.security = k.security

/-- The answers of a consistent store are for the security type that was asked for. -/
theorem Consistent.security_of_settings {s : KnownNetworks} (consistent : s.Consistent)
    {ssid : String} {security : Security} {settings : Settings}
    (h : s.settings ssid security = some settings) : settings.security = security := by
  obtain ⟨k, found, rfl⟩ := Option.map_eq_some_iff.1 h
  have type : k.security = security := congrArg Prod.snd (find?_eq_some found).1
  rw [consistent k (List.mem_of_find?_eq_some found), type]

/-- The modifier of a network is that of its place in the order. -/
theorem rankModifier_eq (s : KnownNetworks) (ssid : String) (security : Security) :
    s.rankModifier ssid security = (s.listing.idxOf? (ssid, security)).map modifierAt := by
  rw [rankModifier, place?, List.idxOf?, listing, List.findIdx?_map]
  rfl

theorem isSome_rankModifier (s : KnownNetworks) (ssid : String) (security : Security) :
    (s.rankModifier ssid security).isSome = (s.settings ssid security).isSome := by
  rw [rankModifier, settings, Option.isSome_map, Option.isSome_map, place?, List.findIdx?_isSome,
    Bool.eq_iff_iff, List.any_eq_true, find?, List.find?_isSome]

theorem settings_erase (s : KnownNetworks) (name : String) (type : Security) (ssid : String)
    (security : Security) :
    (s.erase name type).settings ssid security =
      if (name, type) = (ssid, security) then none else s.settings ssid security := by
  simp only [settings, find?, erase, KnownNetwork.isFor_eq]
  by_cases here : (name, type) = (ssid, security)
  · rw [if_pos here, here]
    simp
  · have kept : ∀ k ∈ s.entries,
        decide ((!k.key == (name, type)) = true ∧ (k.key == (ssid, security)) = true) =
          (k.key == (ssid, security)) := by
      intro k _
      by_cases there : k.key = (ssid, security)
      · simp [there, Ne.symm here]
      · simp [there]
    rw [if_neg here, List.find?_filter, List.find?_congr kept]

/-- A known network that came up moves to the front.  An unknown one gets there if it takes no
credentials, and stays unknown otherwise. -/
theorem markConnected_cases (s : KnownNetworks) (name : String) (type : Security) :
    (∃ k before after, k.key = (name, type) ∧ s.settings name type = some k.settings ∧
        s.entries = before ++ k :: after ∧ (∀ e ∈ before, e.key ≠ (name, type)) ∧
        s.markConnected name type = ⟨k :: (before ++ after)⟩) ∨
      (s.settings name type = none ∧ type = .unsecured ∧
        s.markConnected name type = ⟨⟨name, .unsecured, .unsecured⟩ :: s.entries⟩) ∨
      (s.settings name type = none ∧ type ≠ .unsecured ∧ s.markConnected name type = s) := by
  have answer : s.settings name type = (s.find? name type).map (·.settings) := rfl
  unfold markConnected
  split
  next k found =>
    obtain ⟨itself, before, after, list, first⟩ := find?_eq_some found
    rw [found] at answer
    refine .inl ⟨k, before, after, itself, answer, list, first, ?_⟩
    have others : ∀ e ∈ before, ¬e.isFor name type = true := by
      simpa [KnownNetwork.isFor_eq] using first
    have erased : (k :: after).eraseP (·.isFor name type) = after :=
      List.eraseP_cons_of_pos (by rw [KnownNetwork.isFor_eq, itself, beq_self_eq_true])
    rw [list, List.eraseP_append_right _ others, erased]
  next absent =>
    rw [absent] at answer
    refine .inr ?_
    split
    next => exact .inl ⟨answer, rfl, rfl⟩
    next secured => exact .inr ⟨answer, secured, rfl⟩

/-- An entry for the network in front is the answer. -/
theorem settings_cons {k : KnownNetwork} {ssid : String} {security : Security}
    (here : k.key = (ssid, security)) (entries : List KnownNetwork) :
    settings ⟨k :: entries⟩ ssid security = some k.settings := by
  simp [settings, find?, KnownNetwork.isFor_eq, here]

/-- An entry for another network may stand anywhere. -/
theorem settings_append_cons {k : KnownNetwork} {ssid : String} {security : Security}
    (other : k.key ≠ (ssid, security)) (before after : List KnownNetwork) :
    settings ⟨before ++ k :: after⟩ ssid security = settings ⟨before ++ after⟩ ssid security := by
  simp [settings, find?, KnownNetwork.isFor_eq, other]

theorem settings_markConnected (s : KnownNetworks) (name : String) (type : Security) (ssid : String)
    (security : Security) :
    (s.markConnected name type).settings ssid security =
      if (name, type) = (ssid, security) then
        (s.settings ssid security).or (if security = .unsecured then some .unsecured else none)
      else s.settings ssid security := by
  have fresh : (⟨name, .unsecured, .unsecured⟩ : KnownNetwork).key = (name, .unsecured) := rfl
  by_cases here : (name, type) = (ssid, security)
  · obtain ⟨rfl, rfl⟩ := Prod.mk.inj here
    rw [if_pos rfl]
    rcases s.markConnected_cases name type with
      ⟨k, before, after, itself, known, _, _, moved⟩ | ⟨unknown, rfl, added⟩ |
      ⟨unknown, secured, same⟩
    · rw [moved, settings_cons itself, known, Option.some_or]
    · rw [added, settings_cons fresh, unknown, if_pos rfl, Option.none_or]
    · rw [same, unknown, if_neg secured, Option.or_none]
  · rw [if_neg here]
    rcases s.markConnected_cases name type with
      ⟨k, before, after, itself, _, list, _, moved⟩ | ⟨_, rfl, added⟩ | ⟨_, _, same⟩
    · have other : k.key ≠ (ssid, security) := itself ▸ here
      have front := settings_append_cons other [] (before ++ after)
      have behind := settings_append_cons other before after
      rw [← list] at behind
      rw [moved]
      exact front.trans behind.symm
    · rw [added]
      exact settings_append_cons (k := ⟨name, .unsecured, .unsecured⟩) here [] s.entries
    · rw [same]

/-! ### Security types -/

theorem mem_insertEntry {k e : KnownNetwork} {entries : List KnownNetwork}
    (h : e ∈ insertEntry k entries) : e = k ∨ e ∈ entries := by
  induction entries with
  | nil => exact .inl (List.mem_singleton.1 h)
  | cons first rest ih =>
    unfold insertEntry at h
    split at h
    next => exact (List.mem_cons.1 h).imp_right (List.mem_cons_of_mem _)
    next =>
      rcases List.mem_cons.1 h with rfl | later
      · exact .inr (List.mem_cons_self ..)
      · exact (ih later).imp_right (List.mem_cons_of_mem _)

theorem Consistent.insert {s : KnownNetworks} (consistent : s.Consistent) (ssid : String)
    (settings : Settings) : (s.insert ssid settings).Consistent := by
  intro k hk
  rcases mem_insertEntry hk with rfl | old
  · rfl
  · exact consistent k old

theorem Consistent.markConnected {s : KnownNetworks} (consistent : s.Consistent) (ssid : String)
    (security : Security) : (s.markConnected ssid security).Consistent := by
  rcases s.markConnected_cases ssid security with
    ⟨k, before, after, _, _, list, _, moved⟩ | ⟨_, _, added⟩ | ⟨_, _, same⟩
  · have entries : (k :: (before ++ after)).Perm s.entries := by
      rw [list]
      exact List.perm_middle.symm
    rw [moved]
    exact fun e he => consistent e (entries.subset he)
  · rw [added]
    exact List.forall_mem_cons.2 ⟨rfl, consistent⟩
  · rwa [same]

theorem Consistent.perform {s : KnownNetworks} (consistent : s.Consistent) (c : Command) :
    (perform s c).2.Consistent := by
  cases c with
  | insert ssid settings => exact consistent.insert ssid settings
  | forget => exact fun k hk => consistent k (List.mem_filter.1 hk).1
  | modifier | settings => exact consistent
  | sync security ssid settings =>
    show (s.sync security ssid settings).Consistent
    unfold sync
    split
    next => exact consistent.insert ssid settings
    next => exact consistent
  | mark ssid security => exact consistent.markConnected ssid security

/-! ### The list as an order -/

theorem map_insertEntry (k : KnownNetwork) (entries : List KnownNetwork) :
    (insertEntry k entries).map KnownNetwork.key =
      if k.key ∈ entries.map KnownNetwork.key then entries.map KnownNetwork.key
      else entries.map KnownNetwork.key ++ [k.key] := by
  induction entries with
  | nil => simp [insertEntry]
  | cons e rest ih =>
    by_cases same : e.key = k.key
    · have here : e.isFor k.ssid k.security = true := by
        rw [KnownNetwork.isFor_eq, same]
        exact beq_self_eq_true k.key
      simp [insertEntry, here, same]
    · have other : ¬e.isFor k.ssid k.security = true := by
        rw [KnownNetwork.isFor_eq, beq_iff_eq]
        exact same
      rw [insertEntry, if_neg other, List.map_cons, ih]
      simp only [List.map_cons, List.mem_cons, Ne.symm same, false_or]
      split <;> rfl

theorem listing_insert (s : KnownNetworks) (ssid : String) (settings : Settings) :
    (s.insert ssid settings).listing =
      if (ssid, settings.security) ∈ s.listing then s.listing
      else s.listing ++ [(ssid, settings.security)] :=
  map_insertEntry ⟨ssid, settings.security, settings⟩ s.entries

theorem listing_erase (s : KnownNetworks) (ssid : String) (security : Security) :
    (s.erase ssid security).listing = s.listing.filter (· != (ssid, security)) := by
  rw [listing_eq, listing_eq, erase, List.filter_map]
  rfl

theorem listing_markConnected (s : KnownNetworks) (ssid : String) (security : Security) :
    (s.markConnected ssid security).listing =
      if (ssid, security) ∈ s.listing then (ssid, security) :: s.listing.erase (ssid, security)
      else if security = .unsecured then (ssid, security) :: s.listing
      else s.listing := by
  have listed_iff : (ssid, security) ∈ s.listing ↔ (s.settings ssid security).isSome = true :=
    mem_listing_iff
  rcases s.markConnected_cases ssid security with
    ⟨k, before, after, itself, known, list, first, moved⟩ | ⟨unknown, rfl, added⟩ |
    ⟨unknown, secured, same⟩
  · have listing : s.listing =
        before.map KnownNetwork.key ++ (ssid, security) :: after.map KnownNetwork.key := by
      simp [listing_eq, list, itself]
    have ahead : (ssid, security) ∉ before.map KnownNetwork.key := by simpa using first
    have there : (ssid, security) ∈ s.listing := by rw [listed_iff, known]; rfl
    rw [moved, if_pos there, listing, List.erase_append_right _ ahead, List.erase_cons_head]
    simp [listing_eq, itself]
  · have absent : ¬(ssid, Security.unsecured) ∈ s.listing := by simp [listed_iff, unknown]
    rw [added, if_neg absent, if_pos rfl]
    rfl
  · have absent : ¬(ssid, security) ∈ s.listing := by simp [listed_iff, unknown]
    rw [same, if_neg absent, if_neg secured]

/-! ### Commands -/

/-- The network that a command is about. -/
def subject : Command → String × Security
  | .insert ssid settings => (ssid, settings.security)
  | .forget ssid security | .modifier ssid security | .settings ssid security
  | .sync security ssid _ | .mark ssid security => (ssid, security)

/-- What a command writes for a network.  Credentials for another security type are not written. -/
def written? (key : String × Security) (c : Command) : Option Settings :=
  if subject c = key then
    match c with
    | .insert _ settings => some settings
    | .sync security _ settings => if settings.security = security then some settings else none
    | _ => none
  else none

/-- Whether a command forgets a network. -/
def forgets (key : String × Security) : Command → Bool
  | .forget ssid security => (ssid, security) == key
  | _ => false

/-- Whether a command says that the connection to a network came up. -/
def marks (key : String × Security) : Command → Bool
  | .mark ssid security => (ssid, security) == key
  | _ => false

/-- The commands since a network was last forgotten. -/
def sinceForgotten (key : String × Security) (commands : List Command) : List Command :=
  commands.rtakeWhile fun c => !forgets key c

/-- What commands say about a network: what was last written for it since it was last forgotten, and
else that it takes no credentials, if it takes none and the connection to it came up since then. -/
def remembered (key : String × Security) (commands : List Command) : Option Settings :=
  let since := sinceForgotten key commands
  ((since.filterMap (written? key)).getLast?).or
    (if key.2 = .unsecured ∧ since.any (marks key) = true then some .unsecured else none)

/-- What one more command makes of what is said about a network. -/
def revised (key : String × Security) (before : Option Settings) (c : Command) : Option Settings :=
  if forgets key c then none
  else
    ((written? key c).or before).or
      (if key.2 = .unsecured ∧ marks key c = true then some .unsecured else none)

theorem remembered_concat (key : String × Security) (commands : List Command) (c : Command) :
    remembered key (commands ++ [c]) = revised key (remembered key commands) c := by
  cases forgotten : forgets key c with
  | true =>
    have since : sinceForgotten key (commands ++ [c]) = [] :=
      List.rtakeWhile_concat_neg _ _ _ (by simp [forgotten])
    simp [remembered, revised, since, forgotten]
  | false =>
    have since : sinceForgotten key (commands ++ [c]) = sinceForgotten key commands ++ [c] :=
      List.rtakeWhile_concat_pos _ _ _ (by simp [forgotten])
    have written : ((sinceForgotten key commands ++ [c]).filterMap (written? key)).getLast? =
        (written? key c).or ((sinceForgotten key commands).filterMap (written? key)).getLast? := by
      cases new : written? key c <;> simp [new]
    have marked : (sinceForgotten key commands ++ [c]).any (marks key) =
        ((sinceForgotten key commands).any (marks key) || marks key c) := by simp
    rw [remembered, since, written, marked, revised, forgotten, if_neg Bool.false_ne_true,
      remembered]
    simp only [Option.or_assoc]
    refine congrArg (Option.or _) (congrArg (Option.or _) ?_)
    by_cases free : key.2 = .unsecured
    · cases (sinceForgotten key commands).any (marks key) <;> simp [free]
    · simp [free]

theorem settings_perform (s : KnownNetworks) (c : Command) (ssid : String) (security : Security) :
    (perform s c).2.settings ssid security =
      revised (ssid, security) (s.settings ssid security) c := by
  cases c with
  | insert name settings =>
    show (s.insert name settings).settings ssid security = _
    rw [settings_insert]
    simp only [revised, forgets, written?, marks, subject, Prod.mk.injEq]
    split <;> simp
  | forget name type =>
    show (s.erase name type).settings ssid security = _
    rw [settings_erase]
    simp only [revised, forgets, written?, marks, subject, beq_iff_eq]
    split <;> simp
  | modifier | settings => simp [perform, revised, forgets, written?, marks]
  | sync type name settings =>
    show (s.sync type name settings).settings ssid security = _
    rw [sync]
    simp only [revised, forgets, written?, marks, subject, Prod.mk.injEq]
    by_cases fits : settings.security = type
    · subst fits
      rw [if_pos rfl, settings_insert]
      split <;> simp
    · simp [fits]
  | mark name type =>
    show (s.markConnected name type).settings ssid security = _
    rw [settings_markConnected]
    simp only [revised, forgets, written?, marks, subject, beq_iff_eq]
    by_cases here : (name, type) = (ssid, security)
    · simp [here]
    · simp [here]

/-- What one more command makes of the order. -/
def reordered (listing : List (String × Security)) (c : Command) : List (String × Security) :=
  match c with
  | .insert _ _ =>
    if listing.contains (subject c) then listing else listing ++ [subject c]
  | .sync security _ settings =>
    if settings.security = security ∧ ¬listing.contains (subject c) then listing ++ [subject c]
    else listing
  | .mark _ security =>
    if listing.contains (subject c) then subject c :: listing.erase (subject c)
    else if security = .unsecured then subject c :: listing
    else listing
  | .forget _ _ => listing.erase (subject c)
  | .modifier _ _ | .settings _ _ => listing

theorem listing_perform {s : KnownNetworks} (nodup : s.listing.Nodup) (c : Command) :
    (perform s c).2.listing = reordered s.listing c := by
  cases c with
  | insert ssid settings =>
    simp only [reordered, List.contains_iff_mem]
    exact s.listing_insert ssid settings
  | forget ssid security =>
    show (s.erase ssid security).listing = s.listing.erase (ssid, security)
    rw [s.listing_erase ssid security, nodup.erase_eq_filter]
  | modifier | settings => rfl
  | sync security ssid settings =>
    show (s.sync security ssid settings).listing = _
    simp only [sync, reordered, subject, List.contains_iff_mem]
    by_cases fits : settings.security = security
    · subst fits
      rw [if_pos rfl, listing_insert]
      split <;> simp [*]
    · simp [fits]
  | mark ssid security =>
    simp only [reordered, List.contains_iff_mem]
    exact s.listing_markConnected ssid security

/-- A command leaves the order as it is, adds the network that it is about at either end, moves it
to the front or takes it out. -/
theorem reordered_cases (listing : List (String × Security)) (c : Command) :
    reordered listing c = listing ∨
      (subject c ∉ listing ∧
        (reordered listing c = listing ++ [subject c] ∨
          reordered listing c = subject c :: listing)) ∨
      reordered listing c = subject c :: listing.erase (subject c) ∨
      reordered listing c = listing.erase (subject c) := by
  cases c with
  | insert =>
    simp only [reordered, List.contains_iff_mem]
    split
    next => exact .inl rfl
    next new => exact .inr (.inl ⟨new, .inl rfl⟩)
  | forget => exact .inr (.inr (.inr rfl))
  | modifier | settings => exact .inl rfl
  | sync =>
    simp only [reordered, List.contains_iff_mem]
    split
    next new => exact .inr (.inl ⟨new.2, .inl rfl⟩)
    next => exact .inl rfl
  | mark =>
    simp only [reordered, List.contains_iff_mem]
    split
    next => exact .inr (.inr (.inl rfl))
    next new =>
      split
      next => exact .inr (.inl ⟨new, .inr rfl⟩)
      next => exact .inl rfl

theorem nodup_reordered {listing : List (String × Security)} (nodup : listing.Nodup) (c : Command) :
    (reordered listing c).Nodup := by
  rcases reordered_cases listing c with same | ⟨new, back | front⟩ | moved | gone
  · rwa [same]
  · rw [back, (List.perm_append_singleton (subject c) listing).nodup_iff]
    exact List.nodup_cons.2 ⟨new, nodup⟩
  · rw [front]
    exact List.nodup_cons.2 ⟨new, nodup⟩
  · rw [moved]
    exact List.nodup_cons.2 ⟨nodup.not_mem_erase, nodup.erase _⟩
  · rw [gone]
    exact nodup.erase _

/-- No command changes the order of the networks that it is not about. -/
theorem filter_reordered {listing : List (String × Security)} (nodup : listing.Nodup)
    (c : Command) :
    (reordered listing c).filter (· != subject c) = listing.filter (· != subject c) := by
  have others : (listing.erase (subject c)).filter (· != subject c) =
      listing.filter (· != subject c) := by
    rw [nodup.erase_eq_filter, List.filter_filter]
    simp
  rcases reordered_cases listing c with same | ⟨_, back | front⟩ | moved | gone
  · rw [same]
  · simp [back]
  · simp [front]
  · simp [moved, others]
  · rw [gone, others]

/-! ### Any commands -/

/-- The store after some commands, from nothing. -/
def after (commands : List Command) : KnownNetworks :=
  commands.foldl (fun s c => (perform s c).2) {}

theorem after_concat (commands : List Command) (c : Command) :
    after (commands ++ [c]) = (perform (after commands) c).2 := by
  rw [after, List.foldl_append]
  rfl

/-- A store answers and orders as commands said. -/
structure Records (commands : List Command) (s : KnownNetworks) : Prop where
  /-- No network is listed twice. -/
  nodup : s.listing.Nodup
  /-- Every network has the security type of its settings. -/
  consistent : s.Consistent
  /-- The answer for a network is what the commands say of it, -/
  settings_eq : ∀ ssid security, s.settings ssid security = remembered (ssid, security) commands
  /-- and is for the security type of the network. -/
  security_of_settings : ∀ ssid security settings, s.settings ssid security = some settings →
    settings.security = security
  /-- The networks with an answer are those that are listed, -/
  mem_listing_iff : ∀ ssid security,
    (ssid, security) ∈ s.listing ↔ (s.settings ssid security).isSome = true
  /-- and those that have a modifier. -/
  isSome_rankModifier : ∀ ssid security,
    (s.rankModifier ssid security).isSome = (s.settings ssid security).isSome
  /-- The modifier is that of the place in the list. -/
  rankModifier_eq : ∀ ssid security,
    s.rankModifier ssid security = (s.listing.idxOf? (ssid, security)).map modifierAt
  /-- One more command moves the network that it is about, as its kind wants it, -/
  listing_eq : ∀ c, (perform s c).2.listing = reordered s.listing c
  /-- and leaves the others in their order. -/
  others_eq : ∀ c, (perform s c).2.listing.filter (· != subject c) =
    s.listing.filter (· != subject c)
  /-- Credentials for another security type change nothing. -/
  sync_eq : ∀ ssid security settings, settings.security ≠ security →
    (perform s (.sync security ssid settings)).2 = s

theorem consistent_after (commands : List Command) : (after commands).Consistent := by
  induction commands using List.reverseRecOn with
  | nil => exact List.forall_mem_nil _
  | append_singleton commands c ih =>
    rw [after_concat]
    exact ih.perform c

theorem nodup_after (commands : List Command) : (after commands).listing.Nodup := by
  induction commands using List.reverseRecOn with
  | nil => exact List.nodup_nil
  | append_singleton commands c ih =>
    rw [after_concat, listing_perform ih]
    exact nodup_reordered ih c

theorem settings_after (commands : List Command) (ssid : String) (security : Security) :
    (after commands).settings ssid security = remembered (ssid, security) commands := by
  induction commands using List.reverseRecOn with
  | nil => simp [after, settings, find?, remembered, sinceForgotten]
  | append_singleton commands c ih =>
    rw [after_concat, settings_perform, ih, remembered_concat]

/-- After any commands, a store that began with nothing known answers for each network with what was
last written for it since it was last forgotten, or that it takes no credentials if only its
connection came up since then.  Its list has each of these networks once; each command moves the one
that it is about, to the front when its connection came up and to the back when it is new, and
leaves the others in their order. -/
theorem records_after (commands : List Command) : Records commands (after commands) := by
  have nodup := nodup_after commands
  have listed := listing_perform nodup
  exact
    { nodup
      consistent := consistent_after commands
      settings_eq := settings_after commands
      security_of_settings := fun _ _ _ answer =>
        (consistent_after commands).security_of_settings answer
      mem_listing_iff := fun _ _ => mem_listing_iff
      isSome_rankModifier := (after commands).isSome_rankModifier
      rankModifier_eq := (after commands).rankModifier_eq
      listing_eq := listed
      others_eq := fun c => by rw [listed c, filter_reordered nodup c]
      sync_eq := fun _ _ _ other => if_neg other }

end KnownNetworks

end WirelessStation
