import WirelessStation.Proofs.Negotiation

/-! # Suites that the access point offers

A context is negotiated for the security type that an observation was classified as. Its ciphers are
ones that the governing element offers. Its key management suite is picked by the security type and
the SHA-256 mark alone: the element has offered some suite of that type, which may be the one for
fast transition, and then the suite of the context is not an offered one.

* `classify_eq_ok`: the type of an observation whose suites call for a key exchange, and its mark.
* `negotiated_suites_offered`: what of a context is offered, and exactly when the key management
  suite is. -/

namespace WirelessStation

namespace Observation

theorem governing_of_governingSuites {o : Observation} {offered : Suites}
    (h : o.governingSuites = .ok (some offered)) :
    ∃ element, o.governing = some element ∧ element.reading = .suites offered := by
  unfold governingSuites at h
  cases governing : o.governing with
  | none => simp [governing] at h
  | some element =>
    cases reading : element.reading with
    | malformed reason => simp [governing, reading] at h
    | suites s =>
      simp only [governing, reading, Except.ok.injEq, Option.some.injEq] at h
      exact ⟨element, rfl, h ▸ reading⟩

theorem offersSha256_eq {security : Security} (needs : security.needsHandshake = true)
    (offered : Suites) :
    offersSha256 security (some offered) =
      offered.akm.contains (AkmSet.forSecurity security true) := by
  cases security with
  | personal | enterprise => rfl
  | unsecured | wep => cases needs

/-- Only a suite that is offered asks for a key exchange: the privacy bit alone never does. -/
theorem intersects_of_needsHandshake {o : Observation} {suites : Option Suites}
    (needs : (o.securityOf suites).needsHandshake = true) :
    ∃ offered, suites = some offered ∧
      offered.akm.intersects (AkmSet.family (o.securityOf suites)) = true := by
  cases suites with
  | none =>
    simp only [securityOf] at needs
    cases privacy : o.hasPrivacy <;> simp [privacy, Security.needsHandshake] at needs
  | some offered =>
    refine ⟨offered, rfl, ?_⟩
    simp only [securityOf] at needs ⊢
    by_cases personal : offered.akm.intersects .anyPersonal = true
    · rw [if_pos personal]
      exact personal
    by_cases enterprise : offered.akm.intersects .anyEnterprise = true
    · rw [if_neg personal, if_pos enterprise]
      exact enterprise
    cases privacy : o.hasPrivacy <;>
      simp [personal, enterprise, privacy, Security.needsHandshake] at needs

/-- A type with a key exchange is that of a suite which is offered, and the mark says whether its
SHA-256 variant is. -/
theorem classify_eq_ok {o marked : Observation} {security : Security}
    (needs : security.needsHandshake = true) (h : o.classify = .ok (security, marked)) :
    ∃ offered, o.governingSuites = .ok (some offered) ∧
      offered.akm.intersects (AkmSet.family security) = true ∧
      marked = { o with sha256 := offered.akm.contains (AkmSet.forSecurity security true) } := by
  unfold classify at h
  cases read : o.governingSuites with
  | error e => simp [read] at h
  | ok suites =>
    simp only [read, Except.ok.injEq, Prod.mk.injEq] at h
    obtain ⟨rfl, mark⟩ := h
    obtain ⟨offered, rfl, offersOne⟩ := intersects_of_needsHandshake needs
    rw [offersSha256_eq needs] at mark
    exact ⟨offered, rfl, offersOne, mark.symm⟩

end Observation

namespace Context

/-- A context that is negotiated for an observation as it was classified has ciphers that the
governing element offers. The element offers a key management suite of the security type, and it
offers the suite of the context exactly if it offers the plain suite of that type or, in an RSN
element, the SHA-256 variant. -/
theorem negotiated_suites_offered {o marked : Observation} {security : Security} {ssid : String}
    {settings : Option Settings} {own : Address} {ciphers : CipherSet} {lister : Bits.Lister}
    {x : Context} (classified : o.classify = .ok (security, marked))
    (negotiated : negotiate marked ssid security settings own ciphers lister = .ok (some x)) :
    ∃ element offered, o.governing = some element ∧ element.reading = .suites offered ∧
      offered.pairwise.contains x.pairwise = true ∧ offered.group.contains x.group = true ∧
      offered.akm.intersects (AkmSet.family security) = true ∧
      (offered.akm.contains x.akm = true ↔
        offered.akm.contains (AkmSet.forSecurity security false) = true ∨
          o.rsn.isSome = true ∧
            offered.akm.contains (AkmSet.forSecurity security true) = true) := by
  rcases negotiate_eq_ok negotiated with ⟨_, none⟩ |
    ⟨needs, element, offered, y, governing, reading, made, same⟩
  · cases none
  obtain rfl : x = y := Option.some.inj same
  obtain ⟨suites, read, offersOne, rfl⟩ := Observation.classify_eq_ok needs classified
  obtain ⟨element', governing', reading'⟩ := Observation.governing_of_governingSuites read
  -- The mark changes neither element.
  obtain rfl : element' = element := Option.some.inj (governing'.symm.trans governing)
  obtain rfl : suites = offered := ElementReading.suites.inj (reading'.symm.trans reading)
  obtain ⟨pairwise, group, akm, _⟩ := secured_eq_ok made
  refine ⟨element', suites, governing', reading, (CipherSet.agreed_of_strongest? pairwise).there,
    (CipherSet.agreed_of_strongest? group).there, offersOne, ?_⟩
  rw [akm]
  cases rsn : o.rsn.isSome with
  | false => simp
  | true =>
    cases sha256 : suites.akm.contains (AkmSet.forSecurity security true) <;> simp [sha256]

/-- An access point that offers every personal suite is joined with the SHA-256 variant. -/
theorem negotiated_suites_offered_sha256 :
    let offered : Suites := ⟨.tkip, .union .tkip .ccmp, .anyPersonal⟩
    let o := { Station.Sample.secured with rsn := some (.ofSuites .rsn offered) }
    let marked := { o with sha256 := true }
    ∃ x, o.classify = .ok (.personal, marked) ∧
      negotiate marked "A" .personal (some (Station.Sample.passphrase "first secret"))
        Station.Sample.interface.address (.union .tkip .ccmp) = .ok (some x) ∧
      x.akm = .pskSha256 ∧ offered.pairwise.contains x.pairwise = true ∧
      offered.group.contains x.group = true ∧ offered.akm.contains x.akm = true := by
  intro offered o marked
  have classified : o.classify = .ok (.personal, marked) := by decide +kernel
  have evaluated : (negotiate marked "A" .personal
      (some (Station.Sample.passphrase "first secret")) Station.Sample.interface.address
      (.union .tkip .ccmp)).map (Option.map Context.akm) = .ok (some .pskSha256) := by
    decide +kernel
  obtain ⟨context, negotiated, there⟩ := map_eq_ok_iff.1 evaluated
  obtain ⟨x, rfl, akm⟩ := Option.map_eq_some_iff.1 there
  obtain ⟨element, suites, governing, reading, pairwise, group, _, offers⟩ :=
    negotiated_suites_offered classified negotiated
  obtain rfl : SecurityElement.ofSuites .rsn offered = element := Option.some.inj governing
  obtain rfl : offered = suites := ElementReading.suites.inj reading
  have plain : offered.akm.contains (AkmSet.forSecurity .personal false) = true := by
    decide +kernel
  exact ⟨x, classified, negotiated, akm, pairwise, group, offers.2 (.inl plain)⟩

/-- An access point that offers its pre-shared key with fast transition only is joined as if it
offered it without. -/
theorem unoffered_suite_negotiated :
    let offered : Suites := ⟨.ccmp, .ccmp, .ftPsk⟩
    let o := { Station.Sample.secured with rsn := some (.ofSuites .rsn offered) }
    o.governing = some (.ofSuites .rsn offered) ∧
      o.classify = .ok (.personal, o) ∧
      ∃ x, negotiate o "A" .personal (some (Station.Sample.passphrase "first secret"))
          Station.Sample.interface.address .ccmp = .ok (some x) ∧
        x.akm = .psk ∧ offered.akm.contains x.akm = false := by
  intro offered o
  have evaluated : (negotiate o "A" .personal (some (Station.Sample.passphrase "first secret"))
      Station.Sample.interface.address .ccmp).map (Option.map Context.akm) =
        .ok (some .psk) := by decide +kernel
  obtain ⟨context, negotiated, there⟩ := map_eq_ok_iff.1 evaluated
  obtain ⟨x, rfl, akm⟩ := Option.map_eq_some_iff.1 there
  refine ⟨rfl, by decide +kernel, x, negotiated, akm, ?_⟩
  rw [akm]
  decide +kernel

end Context

end WirelessStation
