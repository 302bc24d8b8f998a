import RdmaLink.Proofs.Connection.Runs
import RdmaLink.Proofs.QueuePair.Effects

/-!
# A connection and the regions it works on

A connection stores bytes in regions when a frame has arrived, and does nothing else with them:
none is moved, and none gets another size.

    Memory.Keeps s.memory (s.settle registrations).memory                     (Station.keeps_settle)
    Memory.Keeps s.memory (s.step event).memory                               (Session.keeps_step)

A connection keeps the registration that it was made with until it is closed
(`Session.registration_step`).
-/

namespace RdmaLink

namespace Station

variable (registrations : Registrations) (s : Station)

theorem keeps_readAnswered (header : Header) (payload : Option Bytes) :
    Memory.Keeps s.memory (s.readAnswered header payload).memory := by
  cases payload with
  | none => rw [memory_readAnswered_none]; exact .refl _
  | some payload =>
    by_cases success : Status.ofCode header.status = .success
    · rw [memory_readAnswered_some s payload success]
      exact Memory.keeps_stored _ _ _
    · have same : s.readAnswered header (some payload) = s.readAnswered header none := by
        unfold readAnswered
        dsimp only
        split
        · rfl
        · split
          · next h => exact absurd h success
          · rfl
      rw [same, memory_readAnswered_none]
      exact .refl _

theorem keeps_handle (arrival : Arrival) :
    Memory.Keeps s.memory (s.handle registrations arrival).memory := by
  unfold handle
  split
  · next disposal _ =>
    cases disposal with
    | store region offset =>
      simp only [takePayload]
      split
      · next written h => rw [memory_written]; exact Memory.keeps_write h
      · rw [memory_acknowledge]; exact .refl _
    | refuse => simp only [takePayload, memory_acknowledge]; exact .refl _
    | answer => exact s.keeps_readAnswered _ _
    | unwanted => exact s.keeps_readAnswered _ _
  · rw [memory_takeBare]; exact .refl _

theorem keeps_feed (byte : UInt8) :
    Memory.Keeps s.memory (s.feed registrations byte).memory := by
  cases arrived : s.arrival? registrations byte with
  | none => rw [feed_of_no_arrival arrived]; exact .refl _
  | some arrival =>
    rw [feed_of_arrival arrived]
    exact keeps_handle registrations (s.withIntake (some (.header []))) arrival

theorem keeps_receive (bytes : Bytes) :
    Memory.Keeps s.memory (s.receive registrations bytes).memory := by
  induction bytes generalizing s with
  | nil => exact .refl _
  | cons byte rest ih => exact (s.keeps_feed registrations byte).trans (ih _)

theorem keeps_settle : Memory.Keeps s.memory (s.settle registrations).memory := by
  unfold settle
  split
  · next stream _ _ =>
    have handled := keeps_receive registrations
      { s with queuePair := { s.queuePair with link := some { stream with waiting := [] } } }
      stream.waiting
    dsimp only
    split
    · rw [memory_endOfStream]; exact handled
    · exact handled
  · exact .refl _

end Station

namespace Session

variable {s : Session}

/-! ## Coming up -/

theorem memory_begin (s : Session) : s.begin.2.memory = s.memory := by
  unfold begin
  split <;> rfl

theorem memory_link (s : Session) (q : QueuePair) (peer : Record) (conditions : LinkConditions) :
    (s.link q peer conditions).session.memory = s.memory := by
  unfold link
  split
  · rfl
  · dsimp only
    split
    · rfl
    · split
      · rfl
      · split
        · rfl
        · split
          · rfl
          · split <;> rfl

theorem memory_bringUp (s : Session) (exchange : Exchange) (conditions : LinkConditions) :
    (s.bringUp exchange conditions).session.memory = s.memory := by
  unfold bringUp
  split
  · rfl
  · split
    · rfl
    · split
      · rfl
      · dsimp only
        split
        · exact memory_link _ _ _ _
        · split
          · rfl
          · split
            · rfl
            · exact memory_link _ _ _ _

theorem memory_activate (s : Session) (exchange : Exchange) (conditions : LinkConditions) :
    (s.activate exchange conditions).session.memory = s.memory := by
  unfold activate
  split
  · rfl
  · dsimp only
    split
    · exact memory_bringUp _ exchange conditions
    · exact memory_bringUp _ exchange conditions

/-! ## Working -/

theorem memory_postFailed (s : Session) (cause : DeviceError) :
    (s.postFailed cause).2.memory = s.memory := by
  unfold postFailed
  split
  · split <;> rfl
  · rfl

theorem memory_station {station : Station} (present : s.station? = some station) :
    station.memory = s.memory := by
  simp only [station?, Option.map_eq_some_iff] at present
  obtain ⟨q, -, rfl⟩ := present
  rfl

theorem memory_post (s : Session) (operation : SendOperation) (request : UInt64)
    (offset length peerOffset : Nat) :
    (s.post operation request offset length peerOffset).2.memory = s.memory := by
  unfold post
  split
  · rfl
  · split
    · rfl
    · next send _ =>
      split
      · rfl
      · next station present =>
        have same : (station.postSend s.device.registrations send).2.memory = s.memory :=
          (Station.memory_postSend _ station send).trans (memory_station present)
        split
        · exact memory_postFailed s _
        · split
          · next h => rw [h] at same; exact same
          · next h => rw [h] at same; exact (memory_postFailed _ _).trans same

theorem memory_postReceive (s : Session) (request : UInt64) :
    (s.postReceive request).2.memory = s.memory := by
  unfold postReceive
  split
  · rfl
  · split
    · rfl
    · next station present =>
      have same : (station.postReceive request).2.memory = s.memory :=
        (Station.memory_postReceive station request).trans (memory_station present)
      split
      · exact memory_postFailed s _
      · split
        · next h => rw [h] at same; exact same
        · next h => rw [h] at same; exact (memory_postFailed _ _).trans same

theorem keeps_settle (s : Session) : Memory.Keeps s.memory s.settle.memory := by
  unfold settle
  split
  · next station present =>
    rw [← memory_station present]
    exact Station.keeps_settle _ station
  · exact .refl _

theorem keeps_deliver (s : Session) (bytes : Bytes) (ended : Bool) :
    Memory.Keeps s.memory (s.deliver bytes ended).memory := by
  unfold deliver
  split
  · exact keeps_settle (s.withQueuePair _)
  · exact .refl _

theorem memory_close (s : Session) : s.close.2.memory = s.memory := by
  unfold close
  split
  · rfl
  · dsimp only
    split <;> rfl

/-- Whatever is done with a connection, the regions stay where they are. -/
theorem keeps_step (s : Session) {event : ConnectionEvent}
    (own : ∀ device memory, event ≠ .elsewhere device memory) :
    Memory.Keeps s.memory (s.step event).memory := by
  have same {t : Session} (h : t.memory = s.memory) : Memory.Keeps s.memory t.memory := by
    rw [h]; exact .refl _
  cases event with
  | begin => exact same (memory_begin s)
  | activate exchange conditions => exact same (memory_activate s exchange conditions)
  | post operation request offset length peerOffset => exact same (memory_post s _ _ _ _ _)
  | postReceive request => exact same (memory_postReceive s request)
  | deliver bytes ended => exact keeps_deliver s bytes ended
  | report completion => exact same rfl
  | drain => exact same rfl
  | close => exact same (memory_close s)
  | elsewhere device memory => exact absurd rfl (own device memory)

/-- A connection keeps its registration or gives it up. -/
theorem registration_step (s : Session) (event : ConnectionEvent) :
    (s.step event).connection.registration = s.connection.registration ∨
      (s.step event).connection.registration = none := by
  cases s.turn_step event with
  | stay _ papers _ => exact Or.inl (congrArg Prod.fst papers)
  | begun _ _ papers _ => exact Or.inl (congrArg Prod.fst papers)
  | ready _ _ papers _ => exact Or.inl (congrArg Prod.fst papers)
  | active _ _ _ papers _ => exact Or.inl (congrArg Prod.fst papers)
  | failed _ _ registration _ => exact Or.inl registration
  | closed _ _ registration _ => exact Or.inr registration

end Session

end RdmaLink
