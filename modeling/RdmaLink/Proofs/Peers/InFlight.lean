import RdmaLink.Proofs.Peers.Basic
import RdmaLink.Proofs.QueuePair.Framing

/-!
# Frames in flight

The bytes on their way to a queue pair, with what has arrived of the next frame before them, are
frames in full (`Carried`).  A frame that is sent comes last; the frame that a byte completes was
first.

    Carried t f ahead flight → Carried t f (ahead ++ [frame]) (flight ++ frame.toBytes)
                                                                        (Carried.sent)
    Carried t s.face ahead (byte :: rest), s.arrival? t byte = some arrival →
      ∃ later, ahead = arrival.frame :: later                           (Carried.arrival)

What becomes of the payload of a write was settled when its header was complete, and says whether
the registrations admit the write (`Disposal.Settled`).
-/

namespace RdmaLink

def Arrival.Settled (table : Registrations) (arrival : Arrival) : Prop :=
  ∀ disposal, arrival.disposal = some disposal → disposal.Settled table arrival.header

def Intake.Settled (table : Registrations) : Intake → Prop
  | .header _ => True
  | .payload front disposal _ _ => disposal.Settled table front

namespace Station

/-- Bytes that complete no frame leave it settled what becomes of the payload. -/
theorem extended_settled {table : Registrations} {s : Station} {byte : UInt8}
    {intake longer : Intake} (hi : s.queuePair.intake = some intake)
    (settled : intake.Settled table) (h : s.extended table byte = some longer) :
    longer.Settled table := by
  unfold extended at h
  rw [hi] at h
  cases intake with
  | header received =>
    simp only at h
    split at h
    · cases h; exact trivial
    · split at h
      · next hd => cases h; exact settled_of_disposal hd
      · cases h
  | payload front disposal reversed missing => cases h; exact settled

theorem arrival_settled {table : Registrations} {s : Station} {byte : UInt8} {intake : Intake}
    {arrival : Arrival} (hi : s.queuePair.intake = some intake)
    (settled : intake.Settled table) (h : s.arrival? table byte = some arrival) :
    arrival.Settled table := by
  unfold arrival? at h
  rw [hi] at h
  cases intake with
  | header received =>
    simp only at h
    split at h
    · cases h
    · split at h
      · cases h
      · cases h; exact fun disposal hd => settled_of_disposal hd
  | payload front disposal reversed missing =>
    simp only at h
    split at h
    · cases h
      intro d hd
      cases hd
      exact settled
    · cases h

end Station

/-- What is known of the bytes on their way to a queue pair: with what has arrived before them
they are the requests and answers ahead of it.  A queue pair that does not receive has failed. -/
structure Carried (table : Registrations) (f : Face) (ahead : List Frame) (flight : Bytes) :
    Prop where
  whole : ∀ frame ∈ ahead, frame.Whole
  kinds : ∀ frame ∈ ahead, frame.isRequest = true ∨ frame.isAnswer = true
  framed : ∀ intake, f.intake = some intake → intake.Sound ∧ intake.Settled table ∧
    ahead.flatMap Frame.toBytes = intake.bytes ++ flight
  stopped : f.intake = none → f.state = .error

namespace Carried

variable {table : Registrations} {f g : Face} {ahead : List Frame} {flight : Bytes}

/-- A frame that is sent comes last. -/
theorem sent (h : Carried table f ahead flight) {frame : Frame} (whole : frame.Whole)
    (kind : frame.isRequest = true ∨ frame.isAnswer = true) :
    Carried table f (ahead ++ [frame]) (flight ++ frame.toBytes) := by
  refine ⟨?_, ?_, ?_, h.stopped⟩
  · intro x hx
    rcases List.mem_append.mp hx with hx | hx
    · exact h.whole x hx
    · rw [List.mem_singleton.mp hx]; exact whole
  · intro x hx
    rcases List.mem_append.mp hx with hx | hx
    · exact h.kinds x hx
    · rw [List.mem_singleton.mp hx]; exact kind
  · intro intake hi
    obtain ⟨sound, settled, cut⟩ := h.framed intake hi
    refine ⟨sound, settled, ?_⟩
    rw [List.flatMap_append, cut, List.flatMap_singleton, List.append_assoc]

theorem append (h : Carried table f ahead flight) (frames : List Frame)
    (whole : ∀ frame ∈ frames, frame.Whole)
    (kinds : ∀ frame ∈ frames, frame.isRequest = true ∨ frame.isAnswer = true) :
    Carried table f (ahead ++ frames) (flight ++ frames.flatMap Frame.toBytes) := by
  induction frames generalizing ahead flight with
  | nil => simpa using h
  | cons frame rest ih =>
    have := ih (h.sent (whole frame List.mem_cons_self) (kinds frame List.mem_cons_self))
      (fun x hx => whole x (List.mem_cons_of_mem _ hx))
      (fun x hx => kinds x (List.mem_cons_of_mem _ hx))
    simpa using this

/-- The frames stay while the queue pair goes on receiving, or fails. -/
theorem receiver (h : Carried table f ahead flight)
    (state : g.state = f.state ∨ g.state = .error)
    (intake : g.intake = f.intake ∨ (g.intake = none ∧ g.state = .error)) :
    Carried table g ahead flight := by
  refine ⟨h.whole, h.kinds, ?_, ?_⟩
  · intro i hi
    rcases intake with he | ⟨he, -⟩
    · exact h.framed i (he.symm.trans hi)
    · cases he.symm.trans hi
  · intro hn
    rcases intake with he | ⟨-, he⟩
    · rcases state with hs | hs
      · exact hs.trans (h.stopped (he.symm.trans hn))
      · exact hs
    · exact he

theorem calm (h : Carried table f ahead flight) (calm : Calm f g) :
    Carried table g ahead flight := h.receiver calm.state calm.intake

/-- A byte that completes no frame leaves the frames as they are. -/
theorem byte {s : Station} {b : UInt8} {rest : Bytes}
    (h : Carried table s.face ahead (b :: rest)) (none : s.arrival? table b = none) :
    (s.feed table b).face = { s.face with intake := s.extended table b } ∧
      Carried table (s.feed table b).face ahead rest := by
  have hface : (s.feed table b).face = { s.face with intake := s.extended table b } := by
    rw [Station.feed_of_no_arrival none]; rfl
  refine ⟨hface, ?_⟩
  rw [hface]
  cases hi : s.queuePair.intake with
  | none =>
    have hext : s.extended table b = Option.none := by
      unfold Station.extended
      rw [hi]
    refine ⟨h.whole, h.kinds, ?_, fun _ => h.stopped hi⟩
    intro i he
    cases hext.symm.trans he
  | some intake =>
    obtain ⟨sound, settled, cut⟩ := h.framed intake hi
    obtain ⟨longer, hext, hsound, hbytes⟩ := Station.extended_sound hi sound none
    refine ⟨h.whole, h.kinds, ?_, ?_⟩
    · intro i he
      cases hext.symm.trans he
      refine ⟨hsound, Station.extended_settled hi settled hext, ?_⟩
      rw [cut, hbytes, List.append_assoc]
      rfl
    · intro he
      cases hext.symm.trans he

/-- The frame that a byte completes was the first of those ahead. -/
theorem arrival {s : Station} {b : UInt8} {rest : Bytes} {arrival : Arrival}
    (h : Carried table s.face ahead (b :: rest)) (arrived : s.arrival? table b = some arrival) :
    arrival.Sound ∧ arrival.Settled table ∧ ∃ later, ahead = arrival.frame :: later ∧
      Carried table (s.withIntake (some (.header []))).face later rest := by
  cases hi : s.queuePair.intake with
  | none => exact absurd hi (Station.receiving_of_arrival arrived)
  | some intake =>
    obtain ⟨sound, settled, cut⟩ := h.framed intake hi
    obtain ⟨hbytes, hsound⟩ := Station.arrival_sound hi sound arrived
    refine ⟨hsound, Station.arrival_settled hi settled arrived, ?_⟩
    -- the frame ahead and the frame that arrived begin the same bytes
    have hcut : ahead.flatMap Frame.toBytes = arrival.frame.toBytes ++ rest := by
      rw [cut, hbytes, List.append_assoc]
      rfl
    cases ahead with
    | nil =>
      exact absurd (List.append_eq_nil_iff.mp hcut.symm).1 (Frame.toBytes_ne_nil _)
    | cons first later =>
      rw [List.flatMap_cons] at hcut
      have heq : first = arrival.frame :=
        (h.whole first List.mem_cons_self).eq_of_append hsound.whole hcut
      subst heq
      refine ⟨later, rfl, fun x hx => h.whole x (List.mem_cons_of_mem _ hx),
        fun x hx => h.kinds x (List.mem_cons_of_mem _ hx), ?_, fun he => by cases he⟩
      intro i he
      cases he
      exact ⟨(by decide : 0 < Header.size), trivial, List.append_cancel_left hcut⟩

end Carried

end RdmaLink
