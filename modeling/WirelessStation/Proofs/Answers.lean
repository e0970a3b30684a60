import Mathlib.Data.List.Nodup
import Mathlib.Data.List.Pairwise
import WirelessStation.Proofs.Refusal

/-! # Every request is answered once

A requester waits in a slot or as the one who asked for the enrollment (`waiting`), or has been
answered (`answered`).  For each requester the two counts together make its account.  The parts of a
turn move a requester from the first to the second and leave the account alone (`account_reply`,
`account_endEnrollment`); it grows only where a request is accepted, since each guard of a request
implies that the slot it goes to is empty (`account_perform`).  Over a run the account is therefore
the number of accepted requests (`Run.account`), which is one if no requester is used twice. -/

namespace WirelessStation

namespace Pending

/-- Everyone who waits in a slot. -/
def requesters (p : Pending) : List Requester :=
  p.scan.toList ++ p.connect.toList ++ p.disconnect.toList ++ p.power.toList

/-- What goes into a slot comes, and what was in it goes. -/
theorem count_requesters_set (p : Pending) (slot : Slot) (new : Option Requester) (r : Requester) :
    (p.set slot new).requesters.count r + (p.get slot).toList.count r =
      p.requesters.count r + new.toList.count r := by
  cases slot <;> simp only [requesters, set, get, List.count_append] <;> omega

end Pending

namespace Station

/-- Everyone who waits for an answer, once for each of the five places to wait in. -/
def waiting (s : Station) : List Requester :=
  s.pending.requesters ++ (s.enrollment.map (·.requester)).toList

/-- Picks out whom an effect answers. -/
def answered : Observer Requester where
  pick
    | _, .answer r _ => some r
    | _, _ => none

instance : answered.Overlooks where
  announce _ _ _ := rfl
  periodicScan _ _ := rfl

@[simp] theorem answered_answer (before : List Effect) (r : Requester) (result : Result) :
    answered.pick before (.answer r result) = some r := rfl

@[simp] theorem answered_link (before : List Effect) (c : LinkCall) :
    answered.pick before (.link c) = none := rfl

@[simp] theorem answered_store (before : List Effect) (c : StoreCall) :
    answered.pick before (.store c) = none := rfl

@[simp] theorem answered_drop (before : List Effect) (r : Requester) :
    answered.pick before (.drop r) = none := rfl

@[simp] theorem answered_cleanup (before : List Effect) (w : Subscriber) :
    answered.pick before (.cleanup w) = none := rfl

/-- The requester of an operation that was accepted. -/
def Operation.accepted? (op : Operation) : Result → Option Requester
  | .ok () => op.requester?
  | .error _ => none

namespace Turn

/-- How often a requester waits or has been answered. -/
def account (r : Requester) (t : Turn) : Nat :=
  t.station.waiting.count r + (t.picked answered).count r

variable (t : Turn) (r : Requester)

theorem account_reply (slot : Slot) (result : Result) :
    (t.reply slot result).account r = t.account r := by
  have moved := t.station.pending.count_requesters_set slot none r
  have single : ∀ o : Option Requester, o.toList.flatMap (fun r => [r]) = o.toList := by simp
  simp only [Option.toList_none, List.count_nil, Nat.add_zero] at moved
  simp only [account, waiting, station_reply, picked_reply, answered_answer, Option.toList_some,
    single, List.count_append]
  omega

theorem account_endEnrollment (result : Result) :
    (t.endEnrollment result).account r = t.account r := by
  cases h : t.station.enrollment with
  | none => simp [account, waiting, picked_endEnrollment, h]
  | some session =>
    simp only [account, waiting, station_endEnrollment, picked_endEnrollment, h, answered_answer,
      Option.map_none, Option.map_some, Option.toList_none, Option.toList_some, List.flatMap_cons,
      List.flatMap_nil, List.append_nil, List.count_append]
    omega

theorem account_abortRequests : t.abortRequests.account r = t.account r := by
  unfold abortRequests
  rw [account_reply, account_reply, account_reply]

theorem account_hold {slot : Slot} (free : t.station.pending.get slot = none)
    (new : Option Requester) :
    (t.hold slot new).account r = t.account r + new.toList.count r := by
  have moved := t.station.pending.count_requesters_set slot new r
  rw [free] at moved
  simp only [Option.toList_none, List.count_nil, Nat.add_zero] at moved
  rw [t.hold_of_empty free]
  simp only [account, waiting, station_update, picked_update, List.count_append]
  omega

theorem account_refused {env : Surroundings} {asking : Option Requester} {outcome : Result × Turn}
    (h : Refused env asking t outcome) : outcome.2.account r = t.account r := by
  have picks : outcome.2.picked answered = t.picked answered := by
    cases h <;> simp [refuse, picked_dropRequester]
  rw [account, account, picks, h.station_eq]

/-! ### Reports of the link layer -/

theorem account_handleUp : t.handleUp.account r = t.account r := by
  unfold handleUp
  split
  · rfl
  · simp [account, waiting]

theorem account_handleDown : t.handleDown.account r = t.account r := by
  unfold handleDown
  split
  · rfl
  · let aborted := (t.enter .off).abortRequests.endEnrollment (.error .aborted)
    calc ((aborted.dropCatalogue.setScanning false).announce (.propertyChanged .powered)).account r
      _ = aborted.account r := by simp [account, waiting]
      _ = (t.enter .off).account r := by rw [account_endEnrollment, account_abortRequests]
      _ = t.account r := by simp [account, waiting]

theorem account_handleRenamed (name : String) : (t.handleRenamed name).account r = t.account r := by
  unfold handleRenamed
  split
  · rfl
  · simp [account, waiting]

theorem account_handleScanTriggered (result : Result) :
    (t.handleScanTriggered result).account r = t.account r := by
  unfold handleScanTriggered
  split
  next =>
    rw [account_reply]
    simp [account, waiting]
  next e =>
    split
    · exact account_reply ..
    · split
      · exact account_endEnrollment ..
      · rfl

theorem account_handleRegistrars (env : Surroundings) (registrars : List Observation) :
    (t.handleRegistrars env registrars).account r = t.account r := by
  cases t.sought_handleRegistrars env registrars with
  | settled _ same => rw [same]
  | found enrolling _ _ outcome => simp [outcome, account, waiting, enrolling]
  | overlap _ _ _ outcome => rw [outcome, account_endEnrollment]
  | again enrolling _ _ _ outcome => simp [outcome, account, waiting, enrolling]
  | refused _ _ _ _ outcome =>
    rw [outcome, account_endEnrollment]
    simp [account, waiting]

theorem account_begin (free : t.station.pending.connect = none) (network : String) (a : Address)
    (asking : Option Requester) :
    (t.begin network a asking).account r = t.account r + asking.toList.count r := by
  let linked := t.update fun s => { s with connection := some ⟨network, a⟩ }
  have free : linked.station.pending.get .connect = none := free
  calc (t.begin network a asking).account r
    _ = (linked.hold .connect asking).account r := by simp [begin, linked, account, waiting]
    _ = linked.account r + asking.toList.count r := account_hold linked r free asking
    _ = t.account r + asking.toList.count r := by simp [linked, account, waiting]

theorem account_connect (env : Surroundings) (network : String) (a : Address)
    (asking : Option Requester) :
    Refused env asking t (t.connect env network a asking) ∨
      (t.connect env network a asking).1 = .ok () ∧
        (t.connect env network a asking).2.account r = t.account r + asking.toList.count r := by
  rcases t.connect_cases env network a asking with refused | ⟨o, context, _, idle, _, _, h⟩
  · exact .inl refused
  · let called := t.record (.link (.connect o context))
    have free : called.station.pending.connect = none := by
      simp only [isBusy, Bool.or_eq_false_iff, Option.isSome_eq_false_iff,
        Option.isNone_iff_eq_none] at idle
      exact idle.1.2
    refine .inr ⟨by rw [h], ?_⟩
    rw [h]
    calc (called.begin network a asking).account r
      _ = called.account r + asking.toList.count r := account_begin called r free network a asking
      _ = t.account r + asking.toList.count r := by simp [called, account]

/-- An attempt that nobody asked for concerns no account. -/
theorem account_connect_unasked (env : Surroundings) (network : String) (a : Address) :
    (t.connect env network a none).2.account r = t.account r := by
  rcases t.account_connect r env network a none with refused | ⟨_, h⟩
  · exact account_refused t r refused
  · simpa using h

theorem account_selectNext (env : Surroundings) : (t.selectNext env).account r = t.account r := by
  refine selectNext_induct (P := fun u => u.account r = t.account r) ?_ ?_ rfl
  · intro u rest same
    simpa [account, waiting] using same
  · intro u network a same
    rw [account_connect_unasked, same]

theorem account_handleScanResults (env : Surroundings) (observations : List Observation) :
    (t.handleScanResults env observations).account r = t.account r := by
  have taken : (t.takeScan env observations).account r = t.account r := by
    simp [account, waiting, Function.comp_def]
  rw [handleScanResults_eq]
  split
  · rfl
  · split
    · rw [account_handleRegistrars, taken]
    · split
      · rw [account_selectNext, ← taken]
        simp [account, waiting]
      · exact taken

theorem account_handleConnectResult (outcome : Outcome) :
    (t.handleConnectResult outcome).account r = t.account r := by
  unfold handleConnectResult
  simp only
  rw [← account_reply t r .connect outcome.result]
  generalize t.reply .connect outcome.result = t
  split
  · rfl
  · split
    next => rfl
    next c _ =>
      cases outcome with
      | success =>
        cases t.station.catalogue.network? c.network <;> simp [account, waiting]
      | aborted | handshakeFailed | linkFailed => simp [account, waiting]

theorem account_handleDisconnectResult (success : Bool) :
    (t.handleDisconnectResult success).account r = t.account r := by
  unfold handleDisconnectResult
  simp only
  rw [← account_reply t r .disconnect (if success then .ok () else .error .linkFailed)]
  generalize t.reply .disconnect (if success then .ok () else .error .linkFailed) = t
  split
  · rfl
  · simp [account, waiting]

theorem account_keepSecret (network : String) : (t.keepSecret network).account r = t.account r := by
  unfold keepSecret
  split
  · rfl
  · simp only [account, waiting, station_foldl_record]
    rw [picked_foldl_record]
    · rfl
    · exact fun c _ before => answered_store before c

theorem account_handleLinkEvent (event : LinkEvent) :
    (t.handleLinkEvent event).account r = t.account r := by
  unfold handleLinkEvent
  split
  next => rfl
  next c _ =>
    cases event with
    | authenticating | associating | handshaking => rfl
    | settingKeys => exact account_keepSecret ..
    | lostBeacon =>
      rw [← account_reply t r .connect (.error .linkFailed)]
      simp [account, waiting]
    | apDisconnect =>
      simp only
      split
      · rw [← account_reply t r .connect (.error .linkFailed)]
        simp [account, waiting]
      · simp [account, waiting]

/-- What the link layer reports moves requesters from waiting to answered and loses none. -/
theorem account_handle (env : Surroundings) (notification : Notification) :
    (t.handle env notification).account r = t.account r := by
  cases notification with
  | up => exact account_handleUp ..
  | down => exact account_handleDown ..
  | renamed name => exact account_handleRenamed ..
  | scanTriggered result => exact account_handleScanTriggered ..
  | scanResults observations => exact account_handleScanResults ..
  | connectResult outcome => exact account_handleConnectResult ..
  | disconnectResult success => exact account_handleDisconnectResult ..
  | event event => exact account_handleLinkEvent ..
  | powerResult result => exact account_reply ..

/-! ### Requests -/

theorem account_disconnect (env : Surroundings) (asking : Option Requester) :
    Refused env asking t (t.disconnect env asking) ∨
      (t.disconnect env asking).1 = .ok () ∧
        (t.disconnect env asking).2.account r = t.account r + asking.toList.count r := by
  rcases t.disconnect_cases env asking with refused | ⟨free, _, h⟩
  · exact .inl refused
  · let left := (t.record (.link .disconnect)).clearConnection.enter .disconnecting
    have free : left.station.pending.get .disconnect = none := by
      simpa [left, Pending.get] using free
    refine .inr ⟨by rw [h], ?_⟩
    rw [h]
    calc (left.hold .disconnect asking).account r
      _ = left.account r + asking.toList.count r := account_hold left r free asking
      _ = t.account r + asking.toList.count r := by simp [left, account, waiting]

theorem account_scan (env : Surroundings) (asking : Requester) :
    Refused env (some asking) t (t.scan env asking) ∨
      (t.scan env asking).1 = .ok () ∧
        (t.scan env asking).2.account r = t.account r + [asking].count r := by
  rcases t.scan_cases env asking with refused | ⟨⟨free, _⟩, h⟩
  · exact .inl refused
  · let called := t.record (.link (.scan .passive))
    have free : called.station.pending.get .scan = none := free
    refine .inr ⟨by rw [h], ?_⟩
    rw [h]
    calc (called.hold .scan (some asking)).account r
      _ = called.account r + [asking].count r := account_hold called r free (some asking)
      _ = t.account r + [asking].count r := by simp [called, account]

theorem account_setPowered (env : Surroundings) (on : Bool) (asking : Requester) :
    Refused env (some asking) t (t.setPowered env on asking) ∨
      (t.setPowered env on asking).1 = .ok () ∧
        (t.setPowered env on asking).2.account r = t.account r + [asking].count r := by
  rcases t.setPowered_cases env on asking with refused | h | ⟨free, h⟩
  · exact .inl refused
  · refine .inr ⟨by rw [h], ?_⟩
    rw [h]
    simp only [account, station_record, picked_record, answered_answer, Option.toList_some,
      List.count_append]
    omega
  · let called := t.record (.link (.power on))
    have free : called.station.pending.get .power = none := free
    refine .inr ⟨by rw [h], ?_⟩
    rw [h]
    calc (called.hold .power (some asking)).account r
      _ = called.account r + [asking].count r := account_hold called r free (some asking)
      _ = t.account r + [asking].count r := by simp [called, account]

theorem account_pushButton (env : Surroundings) (asking : Requester) :
    Refused env (some asking) t (t.pushButton env asking) ∨
      (t.pushButton env asking).1 = .ok () ∧
        (t.pushButton env asking).2.account r = t.account r + [asking].count r := by
  rcases t.pushButton_cases env asking with refused | ⟨⟨free, _⟩, probe, _, h⟩
  · exact .inl refused
  · refine .inr ⟨by rw [h], ?_⟩
    rw [h]
    simp only [account, waiting, station_update, station_record, picked_update, picked_record,
      answered_link, free, Option.map_none, Option.map_some, Option.toList_none, Option.toList_some,
      List.append_nil, List.count_append]
    omega

theorem account_completeEnrollment (env : Surroundings)
    (outcome : Except Error (List Enrollment.Credential)) :
    (t.completeEnrollment outcome).2.account r = t.account r := by
  rcases t.completeEnrollment_cases env outcome with refused | ⟨credentials, result, h⟩
  · exact account_refused t r refused
  · rw [h]
    simp only [account_endEnrollment, storeCredentials]
    rw [account, station_foldl_record, picked_foldl_record, account]
    exact fun c _ before => answered_store before _

theorem account_setAutoconnect (enabled : Bool) :
    (t.setAutoconnect enabled).account r = t.account r := by
  unfold setAutoconnect
  split
  · rfl
  · simp only
    split
    · simp [account, waiting]
    · split <;> simp [account, waiting]

theorem account_subscribe (watcher : Subscriber) (hasCleanup : Bool) :
    (t.subscribe watcher hasCleanup).account r = t.account r := by
  simp [subscribe, account, waiting]

theorem account_unsubscribe (id : Nat) : (t.unsubscribe id).2.account r = t.account r := by
  unfold unsubscribe
  simp only
  rw [account, station_foldl_record, picked_foldl_record]
  · rfl
  · exact fun w _ before => answered_cleanup before w

theorem account_shutdown : t.shutdown.account r = t.account r := by
  let resolved := (t.abortRequests.reply .power (.error .aborted)).endEnrollment
    (.error .notAvailable)
  have same : resolved.account r = t.account r := by
    rw [account_endEnrollment, account_reply, account_abortRequests]
  rw [← same, account, account]
  unfold shutdown
  simp only
  rw [station_foldl_record, picked_foldl_record]
  · simp [waiting, resolved]
  · exact fun w _ before => answered_cleanup before w

theorem account_of_cases (env : Surroundings) {op : Operation} {outcome : Result × Turn}
    (h : Refused env op.requester? t outcome ∨
      outcome.1 = .ok () ∧ outcome.2.account r = t.account r + op.requester?.toList.count r) :
    outcome.2.account r = t.account r + (op.accepted? outcome.1).toList.count r := by
  rcases h with refused | ⟨ok, h⟩
  · have none : op.accepted? outcome.1 = none := by cases refused <;> rfl
    rw [account_refused t r refused, none]
    rfl
  · rw [h, ok]
    rfl

/-- An operation adds its requester to the account if it is accepted, and nobody otherwise. -/
theorem account_perform (env : Surroundings) (op : Operation) :
    (t.perform env op).2.account r =
      t.account r + (op.accepted? (t.perform env op).1).toList.count r := by
  cases op with
  | notify notification => exact account_handle t r env notification
  | scan asking => exact account_of_cases t r env (account_scan t r env asking)
  | connect network a asking =>
    exact account_of_cases t r env (account_connect t r env network a asking)
  | connectNetwork network asking =>
    apply account_of_cases t r env
    rcases t.connectNetwork_cases env network asking with refused | ⟨a, h⟩
    · exact .inl refused
    · simp only [perform, h]
      exact account_connect t r env network a asking
  | disconnect asking => exact account_of_cases t r env (account_disconnect t r env asking)
  | setPowered on asking => exact account_of_cases t r env (account_setPowered t r env on asking)
  | pushButton asking => exact account_of_cases t r env (account_pushButton t r env asking)
  | cancelEnrollment =>
    apply account_of_cases t r env
    rcases t.cancelEnrollment_cases env with refused | h
    · exact .inl refused
    · refine .inr ⟨by simp [perform, h], ?_⟩
      simp [perform, h, account_endEnrollment, Operation.requester?]
  | completeEnrollment outcome =>
    apply account_of_cases t r env
    rcases t.completeEnrollment_cases env outcome with refused | ⟨credentials, result, h⟩
    · exact .inl refused
    · exact .inr ⟨by simp [perform, h], account_completeEnrollment t r env outcome⟩
  | setSecret network settings =>
    apply account_of_cases t r env
    rcases t.setSecret_cases env network settings with refused | h
    · exact .inl refused
    · refine .inr ⟨by simp [perform, h], ?_⟩
      simp [perform, h, account, waiting, Operation.requester?]
  | setAutoconnect enabled => exact account_setAutoconnect t r enabled
  | selectNext => exact account_selectNext t r env
  | subscribe watcher hasCleanup => exact account_subscribe t r watcher hasCleanup
  | unsubscribe id => exact account_unsubscribe t r id
  | shutdown => exact account_shutdown t r

theorem waiting_shutdown : t.shutdown.station.waiting = [] := by
  unfold shutdown
  simp only
  rw [station_foldl_record]
  simp [waiting, Pending.requesters, Pending.set]

end Turn

/-! ### Runs -/

/-- The requester of a move that was accepted. -/
def Move.accepted? (m : Move) : Option Requester :=
  m.op.accepted? m.result

/-- Everyone answered in the course of some moves, once for each answer. -/
def answers (moves : List Move) : List Requester :=
  moves.flatMap fun m => m.picked answered

theorem accepted?_eq {m : Move} (ok : m.result = .ok ()) : m.accepted? = m.op.requester? := by
  rw [Move.accepted?, ok]
  rfl

/-- At every moment of a run, those who wait and those who have been answered are together those
whose requests were accepted. -/
theorem Run.account {i : Interface} {config : Config} {moves : List Move} {s : Station}
    (run : Run (.new i config) moves s) (r : Requester) :
    s.waiting.count r + (answers moves).count r = (moves.filterMap Move.accepted?).count r := by
  induction run with
  | start => rfl
  | @move moves s run env op _ ih =>
    have step := Turn.account_perform { station := s } r env op
    simp only [Turn.account] at step
    let m : Move := ⟨s, env, op⟩
    have told : answers (moves ++ [m]) = answers moves ++ m.picked answered := by simp [answers]
    have taken : (moves ++ [m]).filterMap Move.accepted? =
        moves.filterMap Move.accepted? ++ m.accepted?.toList := by
      cases h : m.accepted? <;> simp [h]
    have quiet : Turn.picked answered { station := s } = [] := rfl
    rw [quiet, List.count_nil, Nat.add_zero] at step
    rw [told, taken, List.count_append, List.count_append, ← ih]
    simp only [m, Move.picked, Move.accepted?, Move.result, Station.step]
    omega

/-- Without repetitions, only one member of a list is mapped to a given value. -/
theorem eq_of_nodup_filterMap {α β : Type} {f : α → Option β} {l : List α} {a b : α} {c : β}
    (nodup : (l.filterMap f).Nodup) (ha : a ∈ l) (hb : b ∈ l) (hfa : f a = some c)
    (hfb : f b = some c) : a = b := by
  rw [List.Nodup, List.pairwise_filterMap] at nodup
  have symm : Std.Symm fun x y => ∀ d, f x = some d → ∀ e, f y = some e → d ≠ e :=
    ⟨fun x y h d hd e he => (h e he d hd).symm⟩
  by_contra differ
  exact nodup.forall ha hb differ c hfa c hfb rfl

theorem accepted_sublist (moves : List Move) :
    (moves.filterMap Move.accepted?).Sublist (moves.filterMap fun m => m.op.requester?) := by
  induction moves with
  | nil => simp
  | cons m rest ih =>
    cases result : m.result with
    | ok _ =>
      have same := accepted?_eq result
      cases asking : m.op.requester? with
      | none => simpa [same, asking] using ih
      | some r => simpa [same, asking] using ih
    | error e =>
      have none : m.accepted? = none := by rw [Move.accepted?, result]; rfl
      cases asking : m.op.requester? with
      | none => simpa [none, asking] using ih
      | some r => simpa [none, asking] using ih.cons r

section Once

variable {i : Interface} {config : Config} {moves : List Move} {s : Station}
  (run : Run (.new i config) moves s) (fresh : (moves.filterMap fun m => m.op.requester?).Nodup)
  {m : Move} (asked : m ∈ moves) {r : Requester} (asking : m.op.requester? = some r)

include run fresh asked asking

theorem account_of_accepted (ok : m.result = .ok ()) :
    s.waiting.count r + (answers moves).count r = 1 := by
  have taken : r ∈ moves.filterMap Move.accepted? :=
    List.mem_filterMap.2 ⟨m, asked, (accepted?_eq ok).trans asking⟩
  have nodup : (moves.filterMap Move.accepted?).Nodup := fresh.sublist (accepted_sublist moves)
  rw [run.account r]
  exact List.count_eq_one_of_mem nodup taken

theorem account_of_refused {e : Error} (failed : m.result = .error e) :
    s.waiting.count r + (answers moves).count r = 0 := by
  rw [run.account r, List.count_eq_zero]
  intro taken
  obtain ⟨other, there, accepted⟩ := List.mem_filterMap.1 taken
  cases result : other.result with
  | ok _ =>
    have same : other = m :=
      eq_of_nodup_filterMap fresh there asked ((accepted?_eq result).symm.trans accepted) asking
    rw [same, failed] at result
    cases result
  | error e' =>
    rw [Move.accepted?, result] at accepted
    cases accepted

/-- No request is lost or answered twice.  In a run in which no requester is used again, one whose
operation was accepted waits in exactly one place and has not been answered, or waits nowhere and
has been answered exactly once; one whose operation failed neither waits nor has been answered.
After a shutdown nobody waits, so that everyone accepted has been answered exactly once. -/
theorem accepted_request_answered_once :
    (m.result = .ok () →
      (s.waiting.count r = 1 ∧ (answers moves).count r = 0) ∨
        (s.waiting.count r = 0 ∧ (answers moves).count r = 1)) ∧
    (∀ e, m.result = .error e → s.waiting.count r = 0 ∧ (answers moves).count r = 0) ∧
    ∀ env,
      (s.step env .shutdown).2.station.waiting = [] ∧
      (m.result = .ok () →
        (answers moves ++ (s.step env .shutdown).2.picked answered).count r = 1) ∧
      ∀ e, m.result = .error e →
        (answers moves ++ (s.step env .shutdown).2.picked answered).count r = 0 := by
  refine ⟨?_, ?_, fun env => ?_⟩
  · intro ok
    have := account_of_accepted run fresh asked asking ok
    omega
  · intro e failed
    have := account_of_refused run fresh asked asking failed
    omega
  · have gone : (s.step env .shutdown).2.station.waiting = [] :=
      Turn.waiting_shutdown { station := s }
    have kept := Turn.account_shutdown { station := s } r
    have moved : ((s.step env .shutdown).2.picked answered).count r = s.waiting.count r := by
      have quiet : Turn.picked answered { station := s } = [] := rfl
      have nobody : (Turn.shutdown { station := s }).station.waiting = [] := gone
      show ((Turn.shutdown { station := s }).picked answered).count r = s.waiting.count r
      simpa [Turn.account, quiet, nobody] using kept
    refine ⟨gone, ?_, ?_⟩
    · intro ok
      have := account_of_accepted run fresh asked asking ok
      rw [List.count_append, moved]
      omega
    · intro e failed
      have := account_of_refused run fresh asked asking failed
      rw [List.count_append, moved]
      omega

end Once

/-- An attempt that somebody waits for, and is told of its end at the shutdown. -/
theorem accepted_request_answered_once_connecting :
    let moves := Sample.station.play Sample.connecting
    let s := Sample.station.played Sample.connecting
    let shut := (s.step (Sample.surroundings true) .shutdown).2
    s.waiting.count (.request 0) = 1 ∧ (answers moves).count (.request 0) = 0 ∧
      (answers moves ++ shut.picked answered).count (.request 0) = 1 := by
  intro moves s shut
  let m : Move := ⟨Sample.station.played Sample.hearing, Sample.surroundings true,
    .connect Sample.network Sample.accessPoint (some (.request 0))⟩
  have fresh : (moves.filterMap fun m => m.op.requester?).Nodup := by decide +kernel
  have asked : m ∈ moves := by
    simp [m, moves, Sample.connecting, Sample.hearing, play, played]
  have ok : m.result = .ok () := Sample.failure?_eq_none.1 (by decide +kernel)
  have unanswered : (answers moves).count (.request 0) = 0 := by decide +kernel
  obtain ⟨accepted, _, ended⟩ :=
    accepted_request_answered_once Sample.run_connecting fresh asked (r := .request 0) rfl
  have waits : s.waiting.count (.request 0) = 1 := by
    rcases accepted ok with ⟨waits, _⟩ | ⟨_, told⟩
    · exact waits
    · exact absurd (unanswered.symm.trans told) Nat.zero_ne_one
  exact ⟨waits, unanswered, (ended (Sample.surroundings true)).2.1 ok⟩

end Station

end WirelessStation
