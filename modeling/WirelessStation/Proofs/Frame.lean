import WirelessStation.Proofs.Refusal
import WirelessStation.Proofs.Reports

/-! # Operations that leave the connection alone

Scans, power, enrollment, watches and the name of the interface have nothing to do with the
connection.  Operations on these change neither the state nor the connection, the catalogue, the
candidates or whoever waits for a connection or its end (`station_aside`). -/

namespace WirelessStation.Station

/-- Operations that have nothing to do with the connection. -/
def Operation.isAside : Operation → Bool
  | .scan _ | .setPowered .. | .pushButton _ | .cancelEnrollment | .completeEnrollment _ => true
  | .subscribe .. | .unsubscribe _ => true
  | .notify (.renamed _) | .notify (.scanTriggered _) | .notify (.powerResult _) => true
  | _ => false

/-- Operations on the list of those who watch. -/
def Operation.isWatch : Operation → Bool
  | .subscribe .. | .unsubscribe _ | .shutdown => true
  | _ => false

namespace Turn

variable (t : Turn) (env : Surroundings)

theorem station_aside {op : Operation} (aside : op.isAside = true) :
    (t.perform env op).2.station =
      { t.station with
        name := (t.perform env op).2.station.name
        scanning := (t.perform env op).2.station.scanning
        pending :=
          { t.station.pending with
            scan := (t.perform env op).2.station.pending.scan
            power := (t.perform env op).2.station.pending.power }
        enrollment := (t.perform env op).2.station.enrollment
        watchers :=
          if op.isWatch then (t.perform env op).2.station.watchers else t.station.watchers } := by
  cases op with
  | notify notification =>
    cases notification with
    | renamed name =>
      rw [perform, handle, station_handleRenamed]
      rfl
    | scanTriggered result =>
      simp only [perform, handle, station_handleScanTriggered]
      cases result with
      | ok _ => rfl
      | error e =>
        simp only
        split
        · rfl
        · split <;> rfl
    | powerResult result => simp [perform, handle, handlePowerResult, Pending.set]
    | up | down | scanResults _ | connectResult _ | disconnectResult _ | event _ => cases aside
  | scan r =>
    rcases t.scan_cases env r with refused | ⟨_, h⟩
    · rw [perform, refused.station_eq]
      rfl
    · simp [perform, h, Pending.set]
  | setPowered on r =>
    rcases t.setPowered_cases env on r with refused | h | ⟨_, h⟩
    · rw [perform, refused.station_eq]
      rfl
    · simp [perform, h]
    · simp [perform, h, Pending.set]
  | pushButton r =>
    rcases t.pushButton_cases env r with refused | ⟨_, _, _, h⟩
    · rw [perform, refused.station_eq]
      rfl
    · simp [perform, h]
  | cancelEnrollment =>
    rcases t.cancelEnrollment_cases env with refused | h
    · rw [perform, refused.station_eq]
      rfl
    · simp [perform, h]
  | completeEnrollment outcome =>
    rcases t.completeEnrollment_cases env outcome with refused | ⟨credentials, result, h⟩
    · rw [perform, refused.station_eq]
      rfl
    · simp [perform, h, storeCredentials, station_foldl_record]
  | subscribe _ _ => rfl
  | unsubscribe id => simp [perform, unsubscribe, station_foldl_record, Operation.isWatch]
  | connect _ _ _ | connectNetwork _ _ | disconnect _ | setSecret _ _ => cases aside
  | setAutoconnect _ | selectNext | shutdown => cases aside

/-- Only watches that come and go change who watches. -/
theorem watchers_aside {op : Operation} (aside : op.isAside = true) (still : op.isWatch = false) :
    (t.perform env op).2.station.watchers = t.station.watchers := by
  rw [t.station_aside env aside]
  exact if_neg (by simp [still])

end Turn

end WirelessStation.Station
