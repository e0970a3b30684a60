import WirelessStation.Proofs.Negotiation

/-! # Security elements read back

A reader takes the front of some octets apart and leaves the rest.  `Listing.read?` takes a security
element apart by its layout, selector by selector, and `Listing.suites?` leads the selectors back to
suites, under the organisation of the element.

* `Reads.bind`: what two readers take apart one after the other is put together from what each of
  them takes.
* `read?_encode`: every element that is written has the right length and is read to its end.
* `elements_read_back`: its sets are recovered exactly if all their suites have names, and those of
  a context always are. -/

namespace WirelessStation

/-! ### Readers -/

/-- Takes a value from the front of some octets and leaves the rest, or fails. -/
abbrev Reader := StateT Bytes Option

namespace Reader

variable {α β : Type}

/-- The next octet. -/
def octet : Reader UInt8
  | [] => none
  | b :: rest => some (b, rest)

/-- Octets that have to be these. -/
def expect : Bytes → Reader Unit
  | [] => pure ()
  | b :: bs => do
    let c ← octet
    if c = b then expect bs else failure

/-- A number of two octets, the low one first. -/
def number : Reader Nat := do
  let low ← octet
  let high ← octet
  return low.toNat + 256 * high.toNat

/-- As many values as are asked for. -/
def times (r : Reader α) : Nat → Reader (List α)
  | 0 => return []
  | n + 1 => do
    let a ← r
    let more ← times r n
    return a :: more

/-- A count and that many values. -/
def counted (r : Reader α) : Reader (List α) := do
  let n ← number
  times r n

/-- A reader takes exactly these octets and gives a value, whatever stands behind them. -/
def Reads (r : Reader α) (bs : Bytes) (a : α) : Prop :=
  ∀ rest, r.run (bs ++ rest) = some (a, rest)

namespace Reads

theorem pure (a : α) : Reads (Pure.pure a) [] a :=
  fun _ => rfl

theorem octet (b : UInt8) : Reads octet [b] b :=
  fun _ => rfl

/-- The second reader goes on where the first one stops. -/
theorem bind {r : Reader α} {next : α → Reader β} {bs cs : Bytes} {a : α} {b : β}
    (first : Reads r bs a) (second : Reads (next a) cs b) : Reads (r >>= next) (bs ++ cs) b := by
  intro rest
  rw [StateT.run_bind, List.append_assoc, first]
  exact second rest

/-- A value that is made of the one that was read takes no octets of its own. -/
theorem map {r : Reader α} {bs : Bytes} {a : α} (f : α → β) (h : Reads r bs a) :
    Reads (do return f (← r)) bs (f a) := by
  have whole : Reads (do return f (← r)) (bs ++ []) (f a) := h.bind (pure (f a))
  rwa [List.append_nil] at whole

theorem expect (bs : Bytes) : Reads (expect bs) bs () := by
  induction bs with
  | nil => exact pure ()
  | cons b bs ih =>
    rw [← List.singleton_append]
    refine (octet b).bind ?_
    rwa [if_pos rfl]

theorem number {n : Nat} (small : n < 65536) : Reads number (Bytes.le16 n) n := by
  have value : (UInt8.ofNat n).toNat + 256 * (UInt8.ofNat (n / 256)).toNat = n := by
    simp only [UInt8.toNat_ofNat']
    omega
  have whole : Reads Reader.number (Bytes.le16 n) _ := (octet (.ofNat n)).bind ((octet _).map _)
  rwa [value] at whole

/-- Values that are written one after the other are read one after the other. -/
theorem times {r : Reader β} {write : α → Bytes} {f : α → β} {l : List α}
    (each : ∀ a ∈ l, Reads r (write a) (f a)) :
    Reads (times r l.length) (l.flatMap write) (l.map f) := by
  induction l with
  | nil => exact pure []
  | cons a l ih =>
    obtain ⟨first, later⟩ := List.forall_mem_cons.1 each
    exact first.bind ((ih later).map _)

theorem counted {r : Reader β} {write : α → Bytes} {f : α → β} {l : List α}
    (few : l.length < 65536) (each : ∀ a ∈ l, Reads r (write a) (f a)) :
    Reads (counted r) (Bytes.le16 l.length ++ l.flatMap write) (l.map f) :=
  (number few).bind (times each)

end Reads

end Reader

/-! ### The layout of an element -/

/-- A suite as an element lists it. -/
structure Selector where
  /-- Three octets. -/
  organisation : Bytes
  type : UInt8
deriving DecidableEq, Repr

/-- What an element lists. -/
structure Listing where
  group : Selector
  pairwise : List Selector
  akm : List Selector
deriving DecidableEq, Repr

namespace Reader

def selector : Reader Selector := do
  let a ← octet
  let b ← octet
  let c ← octet
  let type ← octet
  return ⟨[a, b, c], type⟩

/-- The part that both kinds of elements share: the version, a selector and two counted lists. -/
def listing : Reader Listing := do
  expect [1, 0]
  let group ← selector
  let pairwise ← counted selector
  let akm ← counted selector
  return ⟨group, pairwise, akm⟩

/-- What stands behind the length: a WPA element opens with a selector of its own, and an RSN
element closes with two octets of capabilities, all zero. -/
def content : ElementKind → Reader Listing
  | .rsn => do
    let l ← listing
    expect [0, 0]
    return l
  | .wpa => do
    expect [0x00, 0x50, 0xF2, 0x01]
    listing

end Reader

/-- Reads an element: its identifier, its length and its content, and nothing behind it. -/
def Listing.read? (kind : ElementKind) : Bytes → Option Listing
  | id :: length :: content =>
    if id = kind.id ∧ length.toNat = content.length then
      match (Reader.content kind).run content with
      | some (l, []) => some l
      | _ => none
    else none
  | _ => none

/-- The selectors of the suites of an element. -/
def Suites.listing (kind : ElementKind) (s : Suites) (lister : Bits.Lister) : Listing where
  group := ⟨kind.organisation, s.groupSelector lister⟩
  pairwise := (s.pairwise.members lister).map fun c => ⟨kind.organisation, c.selector⟩
  akm := (s.akm.members lister).map fun a => ⟨kind.organisation, a.selector⟩

/-! ### What is written is read -/

namespace Reader.Reads

theorem selector (kind : ElementKind) (type : UInt8) :
    Reads selector (kind.organisation ++ [type]) ⟨kind.organisation, type⟩ := by
  cases kind <;> exact fun _ => rfl

/-- A list of suites is read selector by selector. -/
theorem selectorList {σ : Type} (kind : ElementKind) (type : σ → UInt8) (members : List σ)
    (few : members.length < 65536) :
    Reads (Reader.counted Reader.selector)
      (Suites.selectorList kind.organisation (members.map type))
      (members.map fun c => ⟨kind.organisation, type c⟩) := by
  rw [Suites.selectorList, List.length_map, List.flatMap_map]
  exact counted few fun c _ => selector kind (type c)

end Reader.Reads

theorem CipherSet.length_members_le (s : CipherSet) (lister : Bits.Lister) :
    (s.members lister).length ≤ 6 := by
  rw [members, List.length_map]
  exact lister.length_members_le (by decide +kernel) s.bits

theorem AkmSet.length_members_le (s : AkmSet) (lister : Bits.Lister) :
    (s.members lister).length ≤ 7 := by
  rw [members, List.length_map]
  exact lister.length_members_le (by decide +kernel) s.bits

namespace Suites

variable (kind : ElementKind) (s : Suites) (lister : Bits.Lister)

theorem reads_body :
    Reader.Reads Reader.listing (s.body kind.organisation lister) (s.listing kind lister) := by
  have pairwise := Reader.Reads.selectorList kind CipherSet.selector (s.pairwise.members lister)
    (Nat.lt_of_le_of_lt (s.pairwise.length_members_le lister) (by decide))
  have akm := Reader.Reads.selectorList kind AkmSet.selector (s.akm.members lister)
    (Nat.lt_of_le_of_lt (s.akm.length_members_le lister) (by decide))
  have version : Bytes.le16 1 = [1, 0] := rfl
  rw [body, version, List.append_assoc, List.append_assoc]
  refine (Reader.Reads.expect [1, 0]).bind ?_
  exact (Reader.Reads.selector kind (s.groupSelector lister)).bind (pairwise.bind (akm.map _))

theorem reads_content :
    (Reader.content kind).Reads (s.content kind lister) (s.listing kind lister) := by
  have body := s.reads_body kind lister
  cases kind with
  | rsn =>
    exact body.bind ((Reader.Reads.expect [0, 0]).map _)
  | wpa =>
    rw [content, List.append_assoc]
    refine (Reader.Reads.expect [0x00, 0x50, 0xF2, 0x01]).bind ?_
    rwa [ElementKind.closing, List.append_nil]

theorem length_selectorList (types : List UInt8) :
    (selectorList kind.organisation types).length = 2 + 4 * types.length := by
  cases kind <;>
    simp [selectorList, Bytes.le16, ElementKind.organisation, List.length_flatMap] <;>
    omega

/-- One octet holds the length of an element of either kind. -/
theorem length_content_lt : (s.content kind lister).length < 256 := by
  have pairwise := s.pairwise.length_members_le lister
  have akm := s.akm.length_members_le lister
  have organisation : kind.organisation.length = 3 := by cases kind <;> rfl
  have ends : kind.opening.length + kind.closing.length ≤ 4 := by cases kind <;> decide
  have version : (Bytes.le16 1).length = 2 := rfl
  simp only [content, body, List.length_append, List.length_singleton, length_selectorList,
    List.length_map]
  omega

theorem toNat_length :
    (UInt8.ofNat (s.content kind lister).length).toNat = (s.content kind lister).length :=
  UInt8.toNat_ofNat_of_lt' (s.length_content_lt kind lister)

/-- Every element is read to its end. -/
theorem read?_encode :
    Listing.read? kind (s.encode kind lister) = some (s.listing kind lister) := by
  have whole := s.reads_content kind lister []
  rw [List.append_nil] at whole
  rw [encode, Listing.read?, if_pos ⟨rfl, s.toNat_length kind lister⟩, whole]

example :
    Listing.read? .wpa [221, 22, 0x00, 0x50, 0xF2, 1, 1, 0, 0x00, 0x50, 0xF2, 2,
      1, 0, 0x00, 0x50, 0xF2, 4, 1, 0, 0x00, 0x50, 0xF2, 2] =
        some ⟨⟨[0x00, 0x50, 0xF2], 2⟩, [⟨[0x00, 0x50, 0xF2], 4⟩], [⟨[0x00, 0x50, 0xF2], 2⟩]⟩ := by
  decide

end Suites

/-! ### Back to suites -/

/-- The ciphers by the octets that stand for them. -/
def CipherSet.types : List (UInt8 × CipherSet) :=
  [(1, wep40), (2, tkip), (4, ccmp), (5, wep104), (6, bip)]

/-- The key management suites by the octets that stand for them. -/
def AkmSet.types : List (UInt8 × AkmSet) :=
  [(1, ieee8021x), (2, psk), (3, ft8021x), (4, ftPsk), (5, ieee8021xSha256), (6, pskSha256)]

namespace Selector

variable {σ : Type} {kind : ElementKind}

/-- The suite of a selector, which has to be one of the organisation of an element. -/
def suite? (kind : ElementKind) (types : List (UInt8 × σ)) (x : Selector) : Option σ :=
  if x.organisation = kind.organisation then types.lookup x.type else none

def cipher? (kind : ElementKind) (x : Selector) : Option CipherSet :=
  x.suite? kind CipherSet.types

def akm? (kind : ElementKind) (x : Selector) : Option AkmSet :=
  x.suite? kind AkmSet.types

theorem suite?_own (types : List (UInt8 × σ)) (type : UInt8) :
    suite? kind types ⟨kind.organisation, type⟩ = types.lookup type :=
  if_pos rfl

theorem mem_of_suite? {types : List (UInt8 × σ)} {x : Selector} {c : σ}
    (h : x.suite? kind types = some c) : c ∈ types.map Prod.snd := by
  unfold suite? at h
  split at h
  next =>
    obtain ⟨before, after, rfl, _⟩ := List.lookup_eq_some_iff.1 h
    simp
  next => cases h

/-- The selectors of ciphers stand for the ciphers that have a name. -/
theorem mem_of_cipher? {x : Selector} {c : CipherSet} (h : x.cipher? kind = some c) :
    c ∈ CipherSet.names.map Prod.fst :=
  mem_of_suite? h

theorem mem_of_akm? {x : Selector} {a : AkmSet} (h : x.akm? kind = some a) : a ∈ AkmSet.named :=
  mem_of_suite? h

theorem cipher?_selector {c : CipherSet} (known : c ∈ CipherSet.names.map Prod.fst) :
    cipher? kind ⟨kind.organisation, c.selector⟩ = some c := by
  rw [cipher?, suite?_own]
  revert c
  decide

theorem akm?_selector {a : AkmSet} (known : a ∈ AkmSet.named) :
    akm? kind ⟨kind.organisation, a.selector⟩ = some a := by
  rw [akm?, suite?_own]
  revert a
  decide

end Selector

/-- The sets of suites that an element lists, if it lists named ones only. -/
def Listing.suites? (kind : ElementKind) (l : Listing) : Option Suites := do
  let group ← l.group.cipher? kind
  let pairwise ← l.pairwise.mapM (Selector.cipher? kind)
  let akm ← l.akm.mapM (Selector.akm? kind)
  return ⟨group, ⟨Bits.union (pairwise.map CipherSet.bits)⟩, ⟨Bits.union (akm.map AkmSet.bits)⟩⟩

theorem Listing.suites?_eq_some_iff {kind : ElementKind} {l : Listing} {s : Suites} :
    l.suites? kind = some s ↔
      l.group.cipher? kind = some s.group ∧
        (∃ m, l.pairwise.mapM (Selector.cipher? kind) = some m ∧
          Bits.union (m.map CipherSet.bits) = s.pairwise.bits) ∧
        ∃ m, l.akm.mapM (Selector.akm? kind) = some m ∧
          Bits.union (m.map AkmSet.bits) = s.akm.bits := by
  obtain ⟨group, ⟨pairwise⟩, ⟨akm⟩⟩ := s
  simp only [suites?, Option.bind_eq_bind, Option.bind_eq_some_iff, Option.pure_def,
    Option.some.injEq, Suites.mk.injEq, CipherSet.mk.injEq, AkmSet.mk.injEq]
  constructor
  · rintro ⟨g, read, p, ciphers, a, suites, rfl, rfl, rfl⟩
    exact ⟨read, ⟨p, ciphers, rfl⟩, a, suites, rfl⟩
  · rintro ⟨read, ⟨p, ciphers, rfl⟩, a, suites, rfl⟩
    exact ⟨group, read, p, ciphers, a, suites, rfl, rfl, rfl⟩

/-- Every cipher that has a name. -/
def CipherSet.all : CipherSet :=
  ⟨Bits.union ((names.map Prod.fst).map bits)⟩

/-- Every key management suite that has a name. -/
def AkmSet.all : AkmSet :=
  ⟨Bits.union (named.map bits)⟩

/-- The group cipher is one suite with a name, and the other sets are made of such suites. -/
structure Suites.Named (s : Suites) : Prop where
  group : s.group ∈ CipherSet.names.map Prod.fst
  pairwise : CipherSet.all.contains s.pairwise = true
  akm : AkmSet.all.contains s.akm = true

/-- A suite with a name is the only member of its set. -/
theorem CipherSet.members_eq_singleton {c : CipherSet} (known : c ∈ names.map Prod.fst)
    (lister : Bits.Lister) : c.members lister = [c] := by
  have suite : c.bits ∈ names.map (fun n => n.1.bits) ∧ ∀ t ∈ names.map (fun n => n.1.bits),
      Bits.contains c.bits t = true → t = c.bits := by
    revert c
    decide +kernel
  rw [members, lister.members_eq_singleton (by decide +kernel) (by decide +kernel) suite.1 suite.2]
  rfl

theorem AkmSet.members_eq_singleton {a : AkmSet} (known : a ∈ named) (lister : Bits.Lister) :
    a.members lister = [a] := by
  have suite : a.bits ∈ named.map bits ∧ ∀ t ∈ named.map bits,
      Bits.contains a.bits t = true → t = a.bits := by
    revert a
    decide +kernel
  rw [members, lister.members_eq_singleton (by decide +kernel) (by decide +kernel) suite.1 suite.2]
  rfl

namespace Suites

theorem groupSelector_of_named {s : Suites} (known : s.group ∈ CipherSet.names.map Prod.fst)
    (lister : Bits.Lister) : s.groupSelector lister = s.group.selector := by
  rw [groupSelector, CipherSet.members_eq_singleton known, List.headD_cons]

variable (kind : ElementKind) (s : Suites) (lister : Bits.Lister)

theorem group_reads_back_iff :
    s.group ∈ CipherSet.names.map Prod.fst ↔
      (s.listing kind lister).group.cipher? kind = some s.group := by
  constructor
  · intro known
    rw [listing, groupSelector_of_named known]
    exact Selector.cipher?_selector known
  · exact Selector.mem_of_cipher?

theorem pairwise_reads_back_iff :
    CipherSet.all.contains s.pairwise = true ↔
      (s.listing kind lister).pairwise.Nodup ∧
        ∃ m, (s.listing kind lister).pairwise.mapM (Selector.cipher? kind) = some m ∧
          Bits.union (m.map CipherSet.bits) = s.pairwise.bits := by
  refine Bits.reads_back_iff lister ?_ (by decide) (by decide) (fun c => Selector.cipher?_selector)
    (fun x c => Selector.mem_of_cipher?) ?_
  · rintro ⟨s⟩ ⟨t⟩ same
    exact congrArg CipherSet.mk same
  · rw [CipherSet.members, List.map_map, List.map_map]
    exact List.map_id _

theorem akm_reads_back_iff :
    AkmSet.all.contains s.akm = true ↔
      (s.listing kind lister).akm.Nodup ∧
        ∃ m, (s.listing kind lister).akm.mapM (Selector.akm? kind) = some m ∧
          Bits.union (m.map AkmSet.bits) = s.akm.bits := by
  refine Bits.reads_back_iff lister ?_ (by decide) (by decide) (fun a => Selector.akm?_selector)
    (fun x a => Selector.mem_of_akm?) ?_
  · rintro ⟨s⟩ ⟨t⟩ same
    exact congrArg AkmSet.mk same
  · rw [AkmSet.members, List.map_map]
    exact List.map_id _

/-- An element leads back to its sets, without repetition, exactly if all suites have names. -/
theorem named_iff :
    s.Named ↔ (s.listing kind lister).pairwise.Nodup ∧ (s.listing kind lister).akm.Nodup ∧
      (s.listing kind lister).suites? kind = some s := by
  rw [Listing.suites?_eq_some_iff]
  constructor
  · rintro ⟨group, pairwise, akm⟩
    obtain ⟨ciphers, pairwise⟩ := (s.pairwise_reads_back_iff kind lister).1 pairwise
    obtain ⟨suites, akm⟩ := (s.akm_reads_back_iff kind lister).1 akm
    exact ⟨ciphers, suites, (s.group_reads_back_iff kind lister).1 group, pairwise, akm⟩
  · rintro ⟨ciphers, suites, group, pairwise, akm⟩
    exact ⟨(s.group_reads_back_iff kind lister).2 group,
      (s.pairwise_reads_back_iff kind lister).2 ⟨ciphers, pairwise⟩,
      (s.akm_reads_back_iff kind lister).2 ⟨suites, akm⟩⟩

end Suites

/-! ### Contexts -/

/-- The suites of a context have names. -/
theorem Context.named_of_negotiate {o : Observation} {ssid : String} {security : Security}
    {settings : Option Settings} {own : Address} {ciphers : CipherSet} {lister : Bits.Lister}
    {x : Context} (h : negotiate o ssid security settings own ciphers lister = .ok (some x)) :
    x.ownElement = Suites.encode x.kind ⟨x.group, x.pairwise, x.akm⟩ lister ∧
      x.group ∈ CipherSet.names.map Prod.fst ∧ x.pairwise ∈ CipherSet.names.map Prod.fst ∧
      x.akm ∈ AkmSet.named := by
  rcases negotiate_eq_ok h with ⟨_, none⟩ | ⟨needs, _, _, y, _, _, made, same⟩
  · cases none
  obtain rfl : x = y := Option.some.inj same
  obtain ⟨pairwise, group, akm, _, written, _⟩ := secured_eq_ok made
  have known {c : CipherSet} (one : c = .ccmp ∨ c = .tkip) :
      c ∈ CipherSet.names.map Prod.fst := by
    rcases one with rfl | rfl <;> decide
  refine ⟨written, known (CipherSet.agreed_of_strongest? group).known,
    known (CipherSet.agreed_of_strongest? pairwise).known, ?_⟩
  rw [akm]
  exact (AkmSet.forSecurity_mem_family needs _).1

/-- The element of any sets is read by the layout of its kind: its second octet is the number of
octets behind it, and nothing is left over.  The selectors lead back to the sets, without
repetition, exactly if the group is one suite with a name and the others are made of such suites.
The element that goes with a context lists three suites, and they are the ones of the context.  All
of that holds whatever lists the members of sets. -/
theorem elements_read_back (lister : Bits.Lister) :
    (∀ (kind : ElementKind) (s : Suites), ∃ length content l,
      s.encode kind lister = kind.id :: length :: content ∧ length.toNat = content.length ∧
        Listing.read? kind (s.encode kind lister) = some l ∧
        (s.Named ↔ l.pairwise.Nodup ∧ l.akm.Nodup ∧ l.suites? kind = some s)) ∧
    ∀ (o : Observation) (ssid : String) (security : Security) (settings : Option Settings)
      (own : Address) (ciphers : CipherSet) (x : Context),
      Context.negotiate o ssid security settings own ciphers lister = .ok (some x) →
        ∃ group pairwise akm,
          Listing.read? x.kind x.ownElement = some ⟨group, [pairwise], [akm]⟩ ∧
          group.cipher? x.kind = some x.group ∧ pairwise.cipher? x.kind = some x.pairwise ∧
          akm.akm? x.kind = some x.akm := by
  constructor
  · intro kind s
    exact ⟨_, _, s.listing kind lister, rfl, s.toNat_length kind lister,
      s.read?_encode kind lister, s.named_iff kind lister⟩
  · intro o ssid security settings own ciphers x negotiated
    obtain ⟨written, group, pairwise, akm⟩ := Context.named_of_negotiate negotiated
    have read := Suites.read?_encode x.kind ⟨x.group, x.pairwise, x.akm⟩ lister
    rw [Suites.listing, Suites.groupSelector_of_named group,
      CipherSet.members_eq_singleton pairwise, AkmSet.members_eq_singleton akm] at read
    exact ⟨_, _, _, written ▸ read, Selector.cipher?_selector group,
      Selector.cipher?_selector pairwise, Selector.akm?_selector akm⟩

/-- An access point that offers every personal suite is answered with the strongest of them, and
both elements lead back to what they were written from. -/
theorem elements_read_back_personal :
    let offered : Suites := ⟨.tkip, .union .tkip .ccmp, .anyPersonal⟩
    let o : Observation :=
      { Station.Sample.secured with rsn := some (.ofSuites .rsn offered), sha256 := true }
    (offered.Named ∧ ∃ l, Listing.read? .rsn (offered.encode .rsn) = some l ∧
      l.akm.length = 3 ∧ l.suites? .rsn = some offered) ∧
    ∃ x, Context.negotiate o "A" .personal (some (Station.Sample.passphrase "first secret"))
        Station.Sample.interface.address (.union .tkip .ccmp) = .ok (some x) ∧
      ∃ group pairwise akm,
        Listing.read? x.kind x.ownElement = some ⟨group, [pairwise], [akm]⟩ ∧
        group.cipher? x.kind = some .tkip ∧ pairwise.cipher? x.kind = some .ccmp ∧
        akm.akm? x.kind = some .pskSha256 := by
  intro offered o
  constructor
  · have named : offered.Named := ⟨by decide, by decide, by decide⟩
    obtain ⟨_, _, l, _, _, read, back⟩ := (elements_read_back .standard).1 .rsn offered
    refine ⟨named, l, read, ?_, (back.1 named).2.2⟩
    rw [← Option.some.inj ((offered.read?_encode .rsn .standard).symm.trans read)]
    decide
  · have evaluated : (Context.negotiate o "A" .personal
        (some (Station.Sample.passphrase "first secret")) Station.Sample.interface.address
        (.union .tkip .ccmp)).map (Option.map fun x => (x.group, x.pairwise, x.akm)) =
          .ok (some (.tkip, .ccmp, .pskSha256)) := by decide +kernel
    obtain ⟨context, negotiated, there⟩ := map_eq_ok_iff.1 evaluated
    obtain ⟨x, rfl, suites⟩ := Option.map_eq_some_iff.1 there
    obtain ⟨group, pairwise, akm, read, g, p, a⟩ :=
      (elements_read_back .standard).2 _ _ _ _ _ _ x negotiated
    simp only [Prod.mk.injEq] at suites
    exact ⟨x, negotiated, group, pairwise, akm, read, suites.1 ▸ g, suites.2.1 ▸ p, suites.2.2 ▸ a⟩

end WirelessStation
