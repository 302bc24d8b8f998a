import RdmaLink.Proofs.Connection.Loss
import RdmaLink.Proofs.Connection.Regions
import RdmaLink.Proofs.Device.Site
import RdmaLink.Proofs.QueuePair.Posts

/-!
# Posts that are refused, and posts that are not

A post of a connection passes the checks of the connection and those of the queue pair.  If one of
them refuses it, the session is as it was before, and a connection whose queue pair has failed is
marked as failed (`Session.Untouched`).  If none does, the send has the next number, which is not
given out again, or the receive has its place or a held write; what the link makes of a frame is a
matter of completions.

    (s.post …).1 = .error e → s.Untouched e (s.post …).2               (Session.untouched_post)
    Session.Carries s (s.step event)                                   (Session.carries_step)
-/

namespace RdmaLink

/-! ## Numbers of sends -/

/-- Only the sends in flight are numbered. -/
theorem Work.Numbered.of_outstanding {next : Nat} {work other : Work}
    (numbered : work.Numbered next) (same : other.outstanding = work.outstanding) :
    other.Numbered next :=
  numbered.sublist (same ▸ List.Sublist.refl _)

namespace Station

variable {s t : Station} {a : List Request}

theorem Move.numbered (move : Move s a t)
    (numbered : s.queuePair.work.Numbered s.queuePair.nextSequence) :
    t.queuePair.work.Numbered t.queuePair.nextSequence := by
  cases move with
  | quiet alike => rw [alike.work]; exact numbered.mono alike.numbering
  | finish status length posted => exact numbered.sublist List.filter_sublist
  | consume length immediate waiting => exact numbered.of_outstanding rfl
  | hold held nobody => exact numbered.of_outstanding rfl
  | fail =>
    unfold Station.fail
    split
    · exact numbered
    · exact Work.numbered_none _
  | post pending ready room isSend sink => exact numbered.posted isSend sink
  | await request alive room nobody => exact numbered.of_outstanding rfl
  | meet request alive room waiting => exact numbered.of_outstanding rfl

theorem Moves.numbered (moves : Moves s a t)
    (numbered : s.queuePair.work.Numbered s.queuePair.nextSequence) :
    t.queuePair.work.Numbered t.queuePair.nextSequence := by
  induction moves with
  | refl => exact numbered
  | step _ last ih => exact last.numbered ih

end Station

namespace Session

variable {s t : Session} {event : ConnectionEvent}

/-- The queue pair of one session is that of another, later on: numbers go up, and the sends in
flight have numbers that were given out if they had before. -/
def Carries (s t : Session) : Prop :=
  ∀ after, t.connection.queuePair = some after → ∃ before, s.connection.queuePair = some before ∧
    before.nextSequence ≤ after.nextSequence ∧
    (before.work.Numbered before.nextSequence → after.work.Numbered after.nextSequence)

theorem Carries.refl (s : Session) : Carries s s := fun q h => ⟨q, h, Nat.le_refl _, id⟩

theorem Carries.trans {u : Session} (h : Carries s t) (h' : Carries t u) : Carries s u := by
  intro last hlast
  obtain ⟨middle, hmiddle, le', numbered'⟩ := h' last hlast
  obtain ⟨first, hfirst, le, numbered⟩ := h middle hmiddle
  exact ⟨first, hfirst, Nat.le_trans le le', numbered' ∘ numbered⟩

theorem Carries.of_same (same : t.connection.queuePair = s.connection.queuePair) : Carries s t :=
  fun q h => ⟨q, same ▸ h, Nat.le_refl _, id⟩

theorem Carries.of_none (released : t.connection.queuePair = none) : Carries s t := by
  intro q h
  rw [released] at h
  cases h

/-- What was posted stays while a queue pair is brought up. -/
theorem Carries.of_posts {q : QueuePair} (present : s.connection.queuePair = some q)
    (work : ∀ after, t.connection.queuePair = some after →
      after.work = q.work ∧ after.nextSequence = q.nextSequence) : Carries s t := by
  intro after h
  obtain ⟨work, number⟩ := work after h
  exact ⟨q, present, Nat.le_of_eq number.symm, fun numbered => by rw [work, number]; exact numbered⟩

theorem Works.carries (works : Works s t) : Carries s t := by
  intro after h
  cases hs : s.station? with
  | none =>
    cases works with
    | still => exact ⟨after, h, Nat.le_refl _, id⟩
    | moved present _ => rw [present] at hs; cases hs
    | refused _ present _ _ => rw [present] at hs; cases hs
  | some here =>
    obtain ⟨requests, there, hthere, moves⟩ := works.station hs
    obtain ⟨q, hq, rfl⟩ := Option.map_eq_some_iff.mp hs
    obtain ⟨after', hafter', rfl⟩ := Option.map_eq_some_iff.mp hthere
    cases h.symm.trans hafter'
    exact ⟨q, hq, moves.ages.numbering, moves.numbered⟩

/-! ### Coming up -/

theorem carries_link {q : QueuePair} (present : s.connection.queuePair = some q) (peer : Record)
    (conditions : LinkConditions) : Carries s (s.link q peer conditions).session := by
  unfold link
  split
  · exact .refl s
  · next connection applied =>
    have same := (Connection.kept_of_apply applied).2.2
    have linked : (q.toReadyToReceive peer.queuePair (peerIp peer) conditions).queuePair.work =
        q.work ∧ (q.toReadyToReceive peer.queuePair (peerIp peer)
          conditions).queuePair.nextSequence = q.nextSequence := by
      rcases q.setUp_toReadyToReceive peer.queuePair (peerIp peer) conditions with h | set
      · rw [h]; exact ⟨rfl, rfl⟩
      · exact ⟨set.work, set.numbering⟩
    dsimp only
    split
    · exact .of_same same
    · generalize q.toReadyToReceive peer.queuePair (peerIp peer) conditions = attempt at linked
      have tried : Carries s ((s.withConnection connection).withQueuePair attempt.queuePair) :=
        .of_posts present fun after h => by cases h; exact linked
      split
      · exact tried
      · split
        · exact tried
        · split
          · exact tried
          · next ready started =>
            have set := QueuePair.setUp_toReadyToSend started
            have raised (t : Session) (same : t.connection.queuePair = some ready) : Carries s t :=
              .of_posts present fun after h => by
                cases same.symm.trans h
                exact ⟨set.work.trans linked.1, set.numbering.trans linked.2⟩
            split
            · exact raised _ rfl
            · next active applied' =>
              exact raised _ (Connection.kept_of_apply applied').2.2

theorem carries_bringUp (s : Session) (exchange : Exchange) (conditions : LinkConditions) :
    Carries s (s.bringUp exchange conditions).session := by
  unfold bringUp
  split
  · exact .refl s
  · next q present =>
    split
    · exact .refl s
    · split
      · exact .refl s
      · next ready initialized =>
        have set := QueuePair.setUp_toInit initialized
        have begun : Carries s (s.withQueuePair ready) :=
          .of_posts present fun after h => by cases h; exact ⟨set.work, set.numbering⟩
        dsimp only
        split
        · exact begun.trans (carries_link rfl _ _)
        · split
          · exact begun
          · split
            · exact begun
            · next attached attaching =>
              have set' := QueuePair.setUp_attach attaching
              have held : Carries (s.withQueuePair ready)
                  ((s.withQueuePair ready).withQueuePair attached) :=
                .of_posts rfl fun after h => by cases h; exact ⟨set'.work, set'.numbering⟩
              exact (begun.trans held).trans (carries_link rfl _ _)

theorem carries_activate (s : Session) (exchange : Exchange) (conditions : LinkConditions) :
    Carries s (s.activate exchange conditions).session := by
  unfold activate
  split
  · exact .refl s
  · next connection applied =>
    have informed : Carries s (s.withConnection
        { connection with ownRecord := some exchange.own, peerRecord := some exchange.peer }) :=
      .of_same (Connection.kept_of_apply applied).2.2
    have raised := informed.trans (carries_bringUp _ exchange conditions)
    dsimp only
    split
    · exact raised
    · exact raised.trans (.of_same rfl)

/-! ### Events -/

/-- One event. -/
theorem carries_step (s : Session) (event : ConnectionEvent) : Carries s (s.step event) := by
  by_cases comesUp : ∃ exchange conditions, event = .activate exchange conditions
  · obtain ⟨exchange, conditions, rfl⟩ := comesUp
    exact carries_activate s exchange conditions
  · have other : ∀ exchange conditions, event ≠ .activate exchange conditions :=
      fun exchange conditions h => comesUp ⟨exchange, conditions, h⟩
    rcases works_or_kept s other with works | same | ⟨-, released⟩
    · exact works.carries
    · exact .of_same same
    · exact .of_none released

/-- Every run. -/
theorem carries_run (s : Session) (events : List ConnectionEvent) : Carries s (s.run events) :=
  run_induction (P := Carries s) (.refl s) (fun t event h => h.trans (t.carries_step event)) events

/-! ## What posts rely on -/

/-- The device tells of regions that are there, and the sends in flight have numbers that were
given out. -/
structure Sound (s : Session) : Prop where
  describes : s.device.registrations.Describes s.memory
  numbered : ∀ q, s.connection.queuePair = some q → q.work.Numbered q.nextSequence

/-- The device after an event of the connection's own tells of what it told of before. -/
theorem describes_step (describes : s.device.registrations.Describes s.memory)
    (own : ∀ device memory, event ≠ .elsewhere device memory) :
    (s.step event).device.registrations.Describes (s.step event).memory := by
  refine Registrations.Describes.keeps ?_ (s.keeps_step own)
  have steady {t : Session} (h : Steady s t) : t.device.registrations.Describes s.memory := by
    rw [h.device]
    exact describes
  cases event with
  | begin => exact steady (steady_begin s)
  | activate exchange conditions => exact steady (steady_activate s exchange conditions)
  | post operation request offset length peerOffset => exact steady (steady_post s _ _ _ _ _)
  | postReceive request => exact steady (steady_postReceive s request)
  | deliver bytes ended => exact steady (steady_deliver s bytes ended)
  | report completion => exact describes
  | drain => exact describes
  | close =>
    show s.close.2.device.registrations.Describes s.memory
    by_cases shut : s.connection.state = .closed
    · rw [close_closed (Connection.not_isOpen_iff.mpr shut)]
      exact describes
    · rw [close_of_open shut]
      show s.release.device.registrations.Describes s.memory
      unfold release
      dsimp only
      split
      · refine Device.describes_deregister ?_ _
        split <;> exact describes
      · split <;> exact describes
  | elsewhere device memory => exact absurd rfl (own device memory)

theorem Sound.step (sound : s.Sound)
    (elsewhere : ∀ device memory, event = .elsewhere device memory →
      device.registrations.Describes memory) : (s.step event).Sound := by
  refine ⟨?_, ?_⟩
  · by_cases others : ∃ device memory, event = .elsewhere device memory
    · obtain ⟨device, memory, rfl⟩ := others
      exact elsewhere device memory rfl
    · exact describes_step sound.describes fun device memory h => others ⟨device, memory, h⟩
  · intro after h
    obtain ⟨before, present, -, numbered⟩ := s.carries_step event after h
    exact numbered (sound.numbered before present)

theorem Sound.run (sound : s.Sound) (events : List ConnectionEvent)
    (elsewhere : ∀ device memory, .elsewhere device memory ∈ events →
      device.registrations.Describes memory) : (s.run events).Sound := by
  induction events generalizing s with
  | nil => exact sound
  | cons event rest ih =>
    refine ih (sound.step fun device memory h => elsewhere device memory ?_)
      fun device memory member => elsewhere device memory (List.mem_cons_of_mem _ member)
    rw [h]
    exact List.mem_cons_self

/-- A connection is created soundly over a region that is there. -/
theorem sound_create {id : Nat} {role : Role} {transport : Transport} {device after : Device}
    {memory : Memory} {regionId : RegionId} {region : Region} {settings : ConnectionSettings}
    {lot : ConnectionLot} {connection : Connection}
    (created : Connection.create id role transport device regionId region settings lot =
      (.ok connection, after))
    (described : device.registrations.Describes memory)
    (known : memory.region? regionId = some region) : Sound ⟨connection, after, memory⟩ := by
  obtain ⟨-, -, rfl, address, rfl⟩ := Connection.create_eq_ok created
  refine ⟨described.insert known Access.all lot.keys, fun q present => ?_⟩
  cases present
  exact Work.numbered_none _

/-! ## Refusals -/

/-- A call that was refused with `e` has left the session as it was; only, a connection that takes
posts and whose queue pair has failed is now marked as failed. -/
def Untouched (s : Session) (e : EndpointError) (t : Session) : Prop :=
  t = s ∨ (s.connection.state.canPost = true ∧ s.connection.pairState = some .error ∧
    e = .connectionFailed s.connection.id ∧ t = s.withConnection s.connection.faulted ∧
    t.connection.state = .error)

theorem untouched_postFailed (able : s.connection.state.canPost = true) (cause : DeviceError) :
    s.Untouched (s.postFailed cause).1 (s.postFailed cause).2 := by
  by_cases lost : s.connection.pairState = some .error
  · rw [postFailed_of_lost lost]
    exact Or.inr ⟨able, lost, rfl, rfl, Connection.state_faulted (open_of_postable able)⟩
  · refine Or.inl ?_
    unfold postFailed
    split
    · next q present =>
      rw [if_neg fun failed => lost (by rw [Connection.pairState, present, ← failed]; rfl)]
    · rfl

/-- The session of a refused post, whatever its station would not do. -/
theorem untouched_of_station (able : s.connection.state.canPost = true) {station : Station}
    (present : s.station? = some station) {cause : DeviceError} {after : Station}
    (same : after = station) :
    s.Untouched ((s.withStation after).postFailed cause).1
      ((s.withStation after).postFailed cause).2 := by
  rw [same, withStation_station present]
  exact untouched_postFailed able cause

/-- A send that a connection refuses leaves no trace. -/
theorem untouched_post (sound : s.Sound) {operation : SendOperation} {request : UInt64}
    {offset length peerOffset : Nat} {e : EndpointError}
    (refused : s.post operation request offset length peerOffset = (.error e, t)) :
    s.Untouched e t := by
  unfold post at refused
  split at refused
  · cases refused
    exact Or.inl rfl
  · next checked =>
    have able := postable_of_check checked
    split at refused
    · cases refused
      exact Or.inl rfl
    · next send _ =>
      split at refused
      · cases refused
        exact Or.inl rfl
      · next station present =>
        have described : s.device.registrations.Describes station.memory := by
          rw [memory_station present]
          exact sound.describes
        split at refused
        · cases refused
          exact untouched_postFailed able _
        · split at refused
          · cases refused
          · next posted =>
            cases refused
            exact untouched_of_station able present (Station.postSend_eq_error described posted)

/-- A receive that a connection refuses leaves no trace. -/
theorem untouched_postReceive {request : UInt64} {e : EndpointError}
    (refused : s.postReceive request = (.error e, t)) : s.Untouched e t := by
  unfold postReceive at refused
  split at refused
  · cases refused
    exact Or.inl rfl
  · next checked =>
    have able := postable_of_check checked
    split at refused
    · cases refused
      exact Or.inl rfl
    · next station present =>
      split at refused
      · cases refused
        exact untouched_postFailed able _
      · split at refused
        · cases refused
        · next posted =>
          cases refused
          exact untouched_of_station able present (Station.postReceive_eq_error posted)

/-! ## Posts that are taken on -/

/-- A send request has the number and the operation of its post. -/
theorem request_of_sendRequest {operation : SendOperation} {name : String} {request : UInt64}
    {offset length peerOffset : Nat} {send : SendRequest}
    (checked : s.sendRequest operation name request offset length peerOffset = .ok send) :
    send.request = request ∧ send.operation = operation := by
  unfold sendRequest at checked
  split at checked
  · split at checked
    · cases checked
    · split at checked
      · cases checked
      · split at checked
        · cases checked
        · cases checked
          exact ⟨rfl, rfl⟩
  · cases checked

/-- A send that is not refused is taken on by the queue pair. -/
theorem taken_post (sound : s.Sound) {operation : SendOperation} {request : UInt64}
    {offset length peerOffset : Nat}
    (taken : s.post operation request offset length peerOffset = (.ok (), t)) :
    ∃ station after pending frame, s.station? = some station ∧ t = s.withStation after ∧
      pending.request = request ∧ pending.operation = operation.operation ∧
      station.TakesSend pending frame after := by
  unfold post at taken
  split at taken
  · cases taken
  · split at taken
    · cases taken
    · next send checked =>
      split at taken
      · cases taken
      · next station present =>
        have numbered : station.queuePair.work.Numbered station.queuePair.nextSequence := by
          obtain ⟨q, hq, rfl⟩ := Option.map_eq_some_iff.mp present
          exact sound.numbered q hq
        split at taken
        · cases taken
        · split at taken
          · next after posted =>
            cases taken
            obtain ⟨pending, frame, hrequest, hoperation, takes⟩ :=
              Station.takes_postSend numbered posted
            obtain ⟨sent, op⟩ := request_of_sendRequest checked
            exact ⟨station, after, pending, frame, present, rfl, hrequest.trans sent,
              hoperation.trans (congrArg _ op), takes⟩
          · cases taken

/-- A receive that is not refused is taken on by the queue pair. -/
theorem taken_postReceive {request : UInt64} (taken : s.postReceive request = (.ok (), t)) :
    ∃ station after, s.station? = some station ∧ t = s.withStation after ∧
      station.TakesReceive request after := by
  unfold postReceive at taken
  split at taken
  · cases taken
  · split at taken
    · cases taken
    · next station present =>
      split at taken
      · cases taken
      · split at taken
        · next after posted =>
          cases taken
          exact ⟨station, after, present, rfl, Station.takes_postReceive posted⟩
        · cases taken

/-- **A post is refused without a trace or taken on.**  Take a connection that was made over a
region that is there, at any time, while whatever others do with the device leaves it telling of
regions that are there.  A post that is refused leaves everything as it was, but for a connection
that is marked as failed because its queue pair had failed.  A send that is not refused has taken
the next number, which comes to no other send later on; a receive that is not refused has taken a
place or a held write.  Whether the link took a frame does not matter. -/
theorem posts_refused_or_taken {id : Nat} {role : Role} {transport : Transport}
    {device after : Device} {memory : Memory} {regionId : RegionId} {region : Region}
    {settings : ConnectionSettings} {lot : ConnectionLot} {connection : Connection}
    (created : Connection.create id role transport device regionId region settings lot =
      (.ok connection, after))
    (described : device.registrations.Describes memory)
    (known : memory.region? regionId = some region) (events : List ConnectionEvent)
    (elsewhere : ∀ device memory, .elsewhere device memory ∈ events →
      device.registrations.Describes memory) :
    let s := Session.run ⟨connection, after, memory⟩ events
    (∀ operation request offset length peerOffset e t,
      s.post operation request offset length peerOffset = (.error e, t) → s.Untouched e t) ∧
    (∀ request e t, s.postReceive request = (.error e, t) → s.Untouched e t) ∧
    (∀ operation request offset length peerOffset t,
      s.post operation request offset length peerOffset = (.ok (), t) →
      ∃ station after pending frame, s.station? = some station ∧ t = s.withStation after ∧
        pending.request = request ∧ pending.operation = operation.operation ∧
        station.TakesSend pending frame after ∧
        ∀ later q, (t.run later).connection.queuePair = some q →
          station.queuePair.nextSequence < q.nextSequence) ∧
    (∀ request t, s.postReceive request = (.ok (), t) →
      ∃ station after, s.station? = some station ∧ t = s.withStation after ∧
        station.TakesReceive request after) := by
  intro s
  have sound : s.Sound := (sound_create created described known).run events elsewhere
  refine ⟨fun _ _ _ _ _ _ _ refused => untouched_post sound refused,
    fun _ _ _ refused => untouched_postReceive refused, ?_,
    fun _ _ taken => taken_postReceive taken⟩
  intro operation request offset length peerOffset t taken
  obtain ⟨station, after, pending, frame, present, rfl, hrequest, hoperation, takes⟩ :=
    taken_post sound taken
  refine ⟨station, after, pending, frame, present, rfl, hrequest, hoperation, takes, ?_⟩
  intro later q hq
  obtain ⟨before, hbefore, le, -⟩ := carries_run (s.withStation after) later q hq
  cases hbefore
  have number := takes.numbering
  omega

/-! ## A region of four bytes -/

theorem fourBytes_fits : (4096 : UInt64).toNat + 4 < UInt64.size := by decide

/-- Four zeros at the address 4096. -/
def fourBytes : Region := ⟨"four", 4096, 4, fun _ => 0, fourBytes_fits⟩

/-- A connection over the four bytes, at the start. -/
def overFourBytes : Session :=
  let registration := (Device.soft.registrations.insert ⟨0⟩ fourBytes Access.all [7]).1
  ⟨.opened 1 .listener .socket ⟨1, 0, ⟨1000⟩, 8⟩ registration
      ⟨1, 0, 1, Gid.ofIpv4 Ipv4.unspecified⟩,
    Device.soft.charged registration, ⟨[fourBytes]⟩⟩

theorem create_overFourBytes :
    Connection.create 1 .listener .socket Device.soft ⟨0⟩ fourBytes ⟨1, 0, ⟨1000⟩, 8⟩
      ⟨[7], 1, 0, .ok 1⟩ = (.ok overFourBytes.connection, overFourBytes.device) := rfl

/-- Once it has come up, five bytes are too many for it, and four are not. -/
theorem overFourBytes_posts :
    let s := overFourBytes.run filled
    let long := s.post .write 9 0 5 0
    let short := s.post .write 9 0 4 0
    (long.1 = .error (.outOfBounds ⟨0, 5, 4⟩) ∧ s.Untouched (.outOfBounds ⟨0, 5, 4⟩) long.2) ∧
    short.1 = .ok () ∧ ∃ station after pending frame, s.station? = some station ∧
      short.2 = s.withStation after ∧ station.TakesSend pending frame after := by
  intro s long short
  have refused : long.1 = .error (.outOfBounds ⟨0, 5, 4⟩) := by decide +kernel
  have taken : short.1 = .ok () := by decide +kernel
  have nobody : ∀ device memory, ConnectionEvent.elsewhere device memory ∈ filled →
      device.registrations.Describes memory := by
    intro device memory member
    simp [filled] at member
  have described : Device.soft.registrations.Describes overFourBytes.memory :=
    Registrations.describes_empty _
  obtain ⟨refusals, -, sends, -⟩ := posts_refused_or_taken create_overFourBytes described rfl
    filled nobody
  obtain ⟨station, after, pending, frame, present, left, -, -, takes, -⟩ :=
    sends .write 9 0 4 0 short.2 (Prod.ext taken rfl)
  exact ⟨⟨refused, refusals .write 9 0 5 0 _ long.2 (Prod.ext refused rfl)⟩, taken, station, after,
    pending, frame, present, left, takes⟩

end Session

end RdmaLink
