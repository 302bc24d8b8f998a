import RdmaLink.QueuePair.Posting

/-!
# Frames as the receive path sees them

The receive path takes bytes one at a time.  Almost every byte only extends what has arrived of
the next frame; the last byte of a frame makes an `Arrival`, and the frame is handled as a whole.

    s.arrival? r b = none → s.feed r b = s.withIntake (s.extended b)
                                                          (Station.feed_of_no_arrival)
    s.arrival? r b = some a → s.feed r b = (s.withIntake (some (.header []))).handle r a
                                                          (Station.feed_of_arrival)

How many payload bytes follow a header is in the header alone (`Header.payloadLength`), so what
becomes of a frame never moves the place where the next one starts.
-/

namespace RdmaLink

theorem Status.ofCode_eq_success {code : UInt8} : Status.ofCode code = .success ↔ code = 0 := by
  constructor
  · intro h
    unfold Status.ofCode at h
    split at h <;> first | rfl | cases h
  · intro h
    rw [h]; rfl

/-- Whether a payload follows a header. -/
def Header.HasPayload (header : Header) : Prop :=
  header.opcode = Opcode.write ∨ header.opcode = Opcode.writeWithImmediate ∨
    (header.opcode = Opcode.readResponse ∧ Status.ofCode header.status = .success)

instance (header : Header) : Decidable header.HasPayload := inferInstanceAs (Decidable (_ ∨ _))

/-- Bytes of payload behind a header. -/
def Header.payloadLength (header : Header) : Nat :=
  if header.HasPayload then header.length.toNat else 0

/-- Whether a disposal is one that a header can have. -/
def Disposal.Suits (header : Header) : Disposal → Prop
  | .store _ _ => header.opcode = Opcode.write ∨ header.opcode = Opcode.writeWithImmediate
  | .refuse => header.opcode = Opcode.write ∨ header.opcode = Opcode.writeWithImmediate
  | .answer => header.opcode = Opcode.readResponse ∧ Status.ofCode header.status = .success
  | .unwanted => header.opcode = Opcode.readResponse ∧ Status.ofCode header.status = .success

theorem Disposal.Suits.hasPayload {header : Header} {disposal : Disposal}
    (h : disposal.Suits header) : header.HasPayload := by
  cases disposal with
  | store region offset =>
    rcases h with h | h
    · exact Or.inl h
    · exact Or.inr (Or.inl h)
  | refuse =>
    rcases h with h | h
    · exact Or.inl h
    · exact Or.inr (Or.inl h)
  | answer => exact Or.inr (Or.inr h)
  | unwanted => exact Or.inr (Or.inr h)

theorem Disposal.Suits.payloadLength {header : Header} {disposal : Disposal}
    (h : disposal.Suits header) : header.payloadLength = header.length.toNat :=
  if_pos h.hasPayload

/-- What becomes of the payload of a write is what its header and the registrations say. -/
def Disposal.Settled (table : Registrations) (header : Header) : Disposal → Prop
  | .store region offset =>
    table.target? header.key header.address header.length ⟨false, true, false⟩ =
      some (region, offset)
  | .refuse =>
    table.target? header.key header.address header.length ⟨false, true, false⟩ = none
  | _ => True

/-- A frame that has arrived in full.  The disposal of its payload, if it has one, was settled
when its header was complete. -/
structure Arrival where
  header : Header
  disposal : Option Disposal
  payload : Bytes
deriving DecidableEq, Repr, Inhabited

/-- The frame without what became of it. -/
def Arrival.frame (arrival : Arrival) : Frame := ⟨arrival.header, arrival.payload⟩

/-- What holds of a frame in full: its payload is as long as its header says, and something
becomes of it exactly if a payload follows the header. -/
structure Arrival.Sound (arrival : Arrival) : Prop where
  length : arrival.payload.length = arrival.header.payloadLength
  suits : ∀ disposal, arrival.disposal = some disposal → disposal.Suits arrival.header
  bare : arrival.disposal = none → ¬ arrival.header.HasPayload

/-- As many bytes as a header has are a header. -/
theorem Header.ofBytes?_isSome (bytes : Bytes) (h : bytes.length = Header.size) :
    ∃ header, Header.ofBytes? bytes = some header := by
  unfold Header.ofBytes?
  rw [if_pos h]
  exact ⟨_, rfl⟩

namespace Intake

/-- The bytes of the next frame that have arrived. -/
def bytes : Intake → Bytes
  | .header received => received
  | .payload front _ reversed _ => front.toBytes ++ reversed.reverse

/-- What holds of a frame in arrival: a header is not complete, a payload is not complete, and
a payload belongs behind its header. -/
def Sound : Intake → Prop
  | .header received => received.length < Header.size
  | .payload front disposal reversed missing =>
    0 < missing ∧ reversed.length + missing = front.length.toNat ∧ disposal.Suits front

end Intake

namespace Station

/-- What becomes of the payload behind a header, if a payload follows it. -/
def disposal? (registrations : Registrations) (station : Station) (header : Header) :
    Option Disposal :=
  if header.opcode = Opcode.write ∨ header.opcode = Opcode.writeWithImmediate then
    match registrations.target? header.key header.address header.length ⟨false, true, false⟩ with
    | some (region, offset) => some (.store region offset)
    | none => some .refuse
  else if header.opcode = Opcode.readResponse ∧ Status.ofCode header.status = .success then
    let wanted := (station.queuePair.work.send? header.sequence.toNat).map PendingSend.length
    if wanted = some header.length then some .answer else some .unwanted
  else none

/-- Handles a frame that has no payload. -/
def takeBare (registrations : Registrations) (station : Station) (header : Header) : Station :=
  if header.opcode = Opcode.readRequest then station.answerRead registrations header
  else if header.opcode = Opcode.readResponse then station.readAnswered header none
  else if header.opcode = Opcode.acknowledgement then station.acknowledged header
  else station.breakOff

/-- Handles a frame. -/
def handle (registrations : Registrations) (station : Station) (arrival : Arrival) : Station :=
  match arrival.disposal with
  | some disposal => station.takePayload arrival.header disposal arrival.payload
  | none => station.takeBare registrations arrival.header

/-- The frame that a byte completes, if it completes one. -/
def arrival? (registrations : Registrations) (station : Station) (byte : UInt8) :
    Option Arrival :=
  match station.queuePair.intake with
  | none => none
  | some (.header received) =>
    match Header.ofBytes? (received ++ [byte]) with
    | none => none
    | some header =>
      let disposal := station.disposal? registrations header
      if disposal.isSome ∧ header.length ≠ 0 then none else some ⟨header, disposal, []⟩
  | some (.payload header disposal reversed missing) =>
    if missing ≤ 1 then some ⟨header, some disposal, (byte :: reversed).reverse⟩ else none

/-- What has arrived of the next frame after a byte that does not complete it. -/
def extended (registrations : Registrations) (station : Station) (byte : UInt8) :
    Option Intake :=
  match station.queuePair.intake with
  | none => none
  | some (.header received) =>
    match Header.ofBytes? (received ++ [byte]) with
    | none => some (.header (received ++ [byte]))
    | some header =>
      match station.disposal? registrations header with
      | some disposal => some (.payload header disposal [] header.length.toNat)
      | none => none
  | some (.payload header disposal reversed missing) =>
    some (.payload header disposal (byte :: reversed) (missing - 1))

/-! ## Headers -/

theorem takeHeader_eq (registrations : Registrations) (station : Station) (header : Header) :
    station.takeHeader registrations header =
      match station.disposal? registrations header with
      | some disposal => station.expectPayload header disposal
      | none => station.takeBare registrations header := by
  unfold takeHeader disposal? takeBare
  by_cases hw : header.opcode = Opcode.write ∨ header.opcode = Opcode.writeWithImmediate
  · rw [if_pos hw, if_pos hw]
    cases registrations.target? header.key header.address header.length ⟨false, true, false⟩ <;> rfl
  · rw [if_neg hw, if_neg hw]
    by_cases hq : header.opcode = Opcode.readRequest
    · have hr : header.opcode ≠ Opcode.readResponse := by rw [hq]; decide
      simp only [hq, if_true]
      rw [if_neg (fun h => hr (hq.trans h.1))]
    · rw [if_neg hq, if_neg hq]
      by_cases hr : header.opcode = Opcode.readResponse
      · by_cases hs : Status.ofCode header.status = .success
        · simp only [hr, hs, if_true, and_self]
          split <;> rfl
        · simp only [hr, hs, if_true, if_false, and_false]
      · simp only [hr, if_false, false_and]

theorem suits_of_disposal {registrations : Registrations} {station : Station} {header : Header}
    {disposal : Disposal} (h : station.disposal? registrations header = some disposal) :
    disposal.Suits header := by
  unfold disposal? at h
  split at h
  · next hw => split at h <;> (cases h; exact hw)
  · split at h
    · next hr => simp only at h; split at h <;> (cases h; exact hr)
    · cases h

theorem settled_of_disposal {table : Registrations} {s : Station} {header : Header}
    {disposal : Disposal} (h : s.disposal? table header = some disposal) :
    disposal.Settled table header := by
  unfold disposal? at h
  split at h
  · split at h
    · next ht => cases h; exact ht
    · next ht => cases h; exact ht
  · split at h
    · simp only at h
      split at h
      · cases h; exact trivial
      · cases h; exact trivial
    · cases h

/-- Where nothing becomes of a payload, none follows. -/
theorem no_payload_of_no_disposal {registrations : Registrations} {station : Station}
    {header : Header} (h : station.disposal? registrations header = none) :
    ¬ header.HasPayload := by
  unfold disposal? at h
  split at h
  · split at h <;> cases h
  · next hw =>
    split at h
    · simp only at h; split at h <;> cases h
    · next hr =>
      rintro (h1 | h1 | h1)
      · exact hw (Or.inl h1)
      · exact hw (Or.inr h1)
      · exact hr h1

/-! ## Bytes -/

theorem withIntake_self {station : Station} {intake : Option Intake}
    (h : station.queuePair.intake = intake) : station.withIntake intake = station := by
  subst h; rfl

/-- The disposal is settled from the work and the registrations alone. -/
theorem disposal?_withIntake (registrations : Registrations) (station : Station)
    (intake : Option Intake) (header : Header) :
    (station.withIntake intake).disposal? registrations header =
      station.disposal? registrations header := rfl

theorem feed_of_arrival {registrations : Registrations} {station : Station} {byte : UInt8}
    {arrival : Arrival} (h : station.arrival? registrations byte = some arrival) :
    station.feed registrations byte =
      (station.withIntake (some (.header []))).handle registrations arrival := by
  unfold arrival? at h
  unfold feed
  cases hi : station.queuePair.intake with
  | none => rw [hi] at h; cases h
  | some intake =>
    rw [hi] at h
    cases intake with
    | header received =>
      cases hh : Header.ofBytes? (received ++ [byte]) with
      | none => simp only [hh] at h; cases h
      | some header =>
        simp only [hh] at h ⊢
        rw [takeHeader_eq, disposal?_withIntake]
        split at h
        · cases h
        · next hd =>
          cases h
          cases hdis : station.disposal? registrations header with
          | none => rfl
          | some disposal =>
            rw [hdis] at hd
            have hz : header.length = 0 := by simpa using hd
            simp [handle, expectPayload, hz]
    | payload header disposal reversed missing =>
      simp only at h ⊢
      split at h
      · next hm => cases h; rw [if_pos hm]; rfl
      · cases h

theorem feed_of_no_arrival {registrations : Registrations} {station : Station} {byte : UInt8}
    (h : station.arrival? registrations byte = none) :
    station.feed registrations byte =
      station.withIntake (station.extended registrations byte) := by
  unfold arrival? at h
  unfold feed extended
  cases hi : station.queuePair.intake with
  | none => exact (withIntake_self hi).symm
  | some intake =>
    rw [hi] at h
    cases intake with
    | header received =>
      cases hh : Header.ofBytes? (received ++ [byte]) with
      | none => simp only [hh]
      | some header =>
        simp only [hh] at h ⊢
        rw [takeHeader_eq, disposal?_withIntake]
        split at h
        · next hd =>
          cases hdis : station.disposal? registrations header with
          | none => rw [hdis] at hd; simp at hd
          | some disposal => simp [expectPayload, hd.2, withIntake]
        · cases h
    | payload header disposal reversed missing =>
      simp only at h ⊢
      split at h
      · cases h
      · next hm => rw [if_neg hm]

/-- Frames arrive only while the queue pair receives. -/
theorem receiving_of_arrival {registrations : Registrations} {station : Station} {byte : UInt8}
    {arrival : Arrival} (h : station.arrival? registrations byte = some arrival) :
    station.queuePair.intake ≠ none := by
  intro hi
  unfold arrival? at h
  rw [hi] at h
  cases h

/-- A byte that completes no frame is one byte more of the next one. -/
theorem extended_sound {registrations : Registrations} {station : Station} {byte : UInt8}
    {intake : Intake} (hi : station.queuePair.intake = some intake) (hs : intake.Sound)
    (h : station.arrival? registrations byte = none) :
    ∃ longer, station.extended registrations byte = some longer ∧ longer.Sound ∧
      longer.bytes = intake.bytes ++ [byte] := by
  unfold arrival? at h
  unfold extended
  rw [hi] at h ⊢
  cases intake with
  | header received =>
    simp only [Intake.Sound] at hs
    cases hh : Header.ofBytes? (received ++ [byte]) with
    | none =>
      refine ⟨.header (received ++ [byte]), by simp only [hh], ?_, rfl⟩
      -- a byte string of full length is a header
      rcases Nat.lt_or_ge (received.length + 1) Header.size with hlt | hge
      · simpa [Intake.Sound] using hlt
      · obtain ⟨header, hread⟩ := Header.ofBytes?_isSome (received ++ [byte])
          (by simp only [List.length_append, List.length_singleton]; omega)
        rw [hh] at hread
        cases hread
    | some header =>
      simp only [hh] at h ⊢
      split at h
      · next hd =>
        obtain ⟨disposal, hdis⟩ := Option.isSome_iff_exists.mp hd.1
        refine ⟨.payload header disposal [] header.length.toNat, by rw [hdis],
          ⟨?_, by simp, suits_of_disposal hdis⟩, ?_⟩
        · rcases Nat.eq_zero_or_pos header.length.toNat with h0 | hpos
          · exact absurd (UInt32.toNat_inj.mp h0) hd.2
          · exact hpos
        · simpa [Intake.bytes] using Header.toBytes_of_ofBytes? hh
      · cases h
  | payload header disposal reversed missing =>
    obtain ⟨hpos, hlen, hpay⟩ := hs
    simp only at h
    split at h
    · cases h
    · refine ⟨.payload header disposal (byte :: reversed) (missing - 1), rfl,
        ⟨by omega, by simp only [List.length_cons]; omega, hpay⟩, ?_⟩
      simp [Intake.bytes]

/-- A byte that completes a frame is its last byte, and the frame has arrived in full. -/
theorem arrival_sound {registrations : Registrations} {station : Station} {byte : UInt8}
    {intake : Intake} {arrival : Arrival} (hi : station.queuePair.intake = some intake)
    (hs : intake.Sound) (h : station.arrival? registrations byte = some arrival) :
    arrival.frame.toBytes = intake.bytes ++ [byte] ∧ arrival.Sound := by
  unfold arrival? at h
  rw [hi] at h
  cases intake with
  | header received =>
    simp only at h
    split at h
    · cases h
    · next header hh =>
      split at h
      · cases h
      · next hd =>
        cases h
        refine ⟨by simpa [Intake.bytes, Frame.toBytes, Arrival.frame] using
          Header.toBytes_of_ofBytes? hh, ?_, fun _ => suits_of_disposal, no_payload_of_no_disposal⟩
        cases hdis : station.disposal? registrations header with
        | none => exact (if_neg (no_payload_of_no_disposal hdis)).symm
        | some disposal =>
          rw [hdis] at hd
          have hz : header.length = 0 := by simpa using hd
          rw [(suits_of_disposal hdis).payloadLength, hz]
          rfl
  | payload header disposal reversed missing =>
    obtain ⟨hpos, hlen, hsuits⟩ := hs
    simp only at h
    split at h
    · cases h
      refine ⟨by simp [Intake.bytes, Frame.toBytes, Arrival.frame], ?_, ?_, ?_⟩
      · rw [Disposal.Suits.payloadLength hsuits]
        simp only [List.length_reverse, List.length_cons]
        omega
      · intro d hd
        cases hd
        exact hsuits
      · intro hn
        cases hn
    · cases h

/-- A payload that is there arrived behind its header. -/
theorem intake_of_arrival {registrations : Registrations} {station : Station} {byte : UInt8}
    {arrival : Arrival} (h : station.arrival? registrations byte = some arrival)
    (nonempty : arrival.payload ≠ []) :
    ∃ disposal reversed missing, station.queuePair.intake =
        some (.payload arrival.header disposal reversed missing) ∧
      arrival.disposal = some disposal ∧ arrival.payload = (byte :: reversed).reverse := by
  unfold arrival? at h
  split at h
  · cases h
  · split at h
    · cases h
    · simp only at h
      split at h
      · cases h
      · cases h
        exact absurd rfl nonempty
  · next header disposal reversed missing hi =>
    split at h
    · cases h
      exact ⟨disposal, reversed, missing, hi, rfl, rfl⟩
    · cases h

end Station

end RdmaLink
