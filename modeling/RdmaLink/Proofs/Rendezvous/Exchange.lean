import RdmaLink.Rendezvous.Meeting

/-!
# Records that cross

What one end of a stream writes arrives at the other end in order, in pieces of any size, and with
whatever is written later behind it.  A record that is read there is the one that was written, and
so each side of a finished exchange has the record that the other one sent.

    readFramed (framed body ++ later) = .ok (body, later)            (Record.readFramed_framed)
    InOrder arrived (framed body) → readFramed arrived = .ok (read, rest) → read = body
                                                                     (Record.eq_of_readFramed)
    near.Exchanged … here → far.Exchanged … there → here.peer = there.own ∧ there.peer = here.own
                                                                     (Meeting.Exchanged.cross)
-/

namespace RdmaLink

/-- What has arrived at one end of a stream is the beginning of what was written at the other end
and is written there later. -/
def InOrder (arrived written : Bytes) : Prop := ∃ later, arrived <+: written ++ later

namespace Record

/-! ## Bodies behind their length -/

theorem length_framed (body : Bytes) : (framed body).length = 2 + body.length := by
  rw [framed, List.length_append, BigEndian.length_encode]

/-- More bytes behind a body that can be read already change nothing but what is left. -/
theorem readFramed_append {arrived body rest : Bytes}
    (read : readFramed arrived = .ok (body, rest)) (more : Bytes) :
    readFramed (arrived ++ more) = .ok (body, rest ++ more) := by
  unfold readFramed at read ⊢
  split at read
  · cases read
  · next two =>
    have long : ¬ (arrived ++ more).length < 2 := by rw [List.length_append]; omega
    have first : (arrived ++ more).take 2 = arrived.take 2 :=
      List.take_append_of_le_length (by omega)
    have second : (arrived ++ more).drop 2 = arrived.drop 2 ++ more :=
      List.drop_append_of_le_length (by omega)
    rw [if_neg long]
    dsimp only at read ⊢
    rw [first, second]
    split at read
    · cases read
    · next whole =>
      cases read
      rw [if_neg (by rw [List.length_append]; omega),
        List.take_append_of_le_length (by omega), List.drop_append_of_le_length (by omega)]

theorem readFramed_framed {body : Bytes} (short : body.length < BigEndian.capacity 2)
    (later : Bytes) : readFramed (framed body ++ later) = .ok (body, later) := by
  have width := BigEndian.length_encode 2 body.length
  unfold readFramed framed
  rw [List.append_assoc, if_neg (by rw [List.length_append, width]; omega)]
  dsimp only
  rw [List.take_left' width, List.drop_left' width, BigEndian.decode_encode short,
    if_neg (by rw [List.length_append]; omega), List.take_left, List.drop_left]

/-- A body that is read is the one that was written. -/
theorem eq_of_readFramed {arrived body read rest : Bytes}
    (short : body.length < BigEndian.capacity 2) (inOrder : InOrder arrived (framed body))
    (h : readFramed arrived = .ok (read, rest)) : read = body := by
  obtain ⟨later, more, whole⟩ := inOrder
  have behind := readFramed_append h more
  rw [whole, readFramed_framed short] at behind
  cases behind
  rfl

end Record

namespace Meeting

/-! ## One end of an exchange -/

/-- What is read of a record that was written is that record. -/
theorem readRecord_eq_ok {stream rest : Stream} {broken : IoError → EndpointError}
    {record : Record} (h : readRecord stream broken = .ok (record, rest)) :
    rest.sent = stream.sent ∧
      ∀ written : Record, InOrder stream.waiting (Record.framed written.toBytes) →
        record = written := by
  unfold readRecord at h
  split at h
  · cases h
  · next body left read =>
    split at h
    · cases h
    · next found decoded =>
      cases h
      unfold Stream.readBody at read
      split at read
      · next behind framed =>
        cases read
        refine ⟨rfl, fun written inOrder => ?_⟩
        have same : body = written.toBytes :=
          Record.eq_of_readFramed (by rw [Record.length_toBytes]; decide) inOrder framed
        rw [same, Record.ofBytes_toBytes] at decoded
        cases decoded
        rfl
      · cases read

/-- What a finished exchange comes to at one end of a stream, for a connection that describes
itself by a record: that record is sent with this end of the stream in it, and what is read is
what the other end wrote. -/
structure Exchanged (meeting : Meeting) (record : Record) (exchange : Exchange) : Prop where
  address : meeting.ownIpv4 = .ok (exchange.own.ip, exchange.own.port)
  own : exchange.own = { record with ip := exchange.own.ip, port := exchange.own.port }
  sent : exchange.stream.sent = meeting.stream.sent ++ [Record.framed exchange.own.toBytes]
  heard : ∀ written : Record, InOrder meeting.stream.waiting (Record.framed written.toBytes) →
    exchange.peer = written

section Halves

variable {meeting : Meeting} {record stamped : Record} {exchange : Exchange} {stream : Stream}

theorem sendRecord_eq_ok {broken : IoError → EndpointError}
    (h : meeting.sendRecord record broken = (.ok stamped, stream)) :
    meeting.ownIpv4 = .ok (stamped.ip, stamped.port) ∧
      stamped = { record with ip := stamped.ip, port := stamped.port } ∧
      stream.sent = meeting.stream.sent ++ [Record.framed stamped.toBytes] ∧
      stream.waiting = meeting.stream.waiting := by
  unfold sendRecord at h
  split at h
  · cases h
  · next ip port address =>
    dsimp only at h
    split at h
    · cases h
    · next written =>
      cases h
      unfold Stream.send at written
      repeat' split at written
      all_goals cases written
      exact ⟨address, rfl, rfl, rfl⟩

/-- The listener has read the other record before it answers. -/
theorem exchanged_answer {peer : Record} {rest : Stream} {broken : IoError → EndpointError}
    (read : readRecord meeting.stream broken = .ok (peer, rest))
    (h : ({ meeting with stream := rest } : Meeting).answer peer record = (.ok exchange, stream)) :
    stream = exchange.stream ∧ exchange.peer = peer ∧ meeting.Exchanged record exchange := by
  obtain ⟨silent, heard⟩ := readRecord_eq_ok read
  unfold answer at h
  split at h
  · cases h
  · next own written sending =>
    cases h
    obtain ⟨address, stamped, sent, -⟩ := sendRecord_eq_ok sending
    exact ⟨rfl, rfl, address, stamped, by rw [sent, silent], heard⟩

theorem exchanged_introduce {address : SocketAddress}
    (h : meeting.introduce address record = (.ok exchange, stream)) :
    stream = exchange.stream ∧ meeting.Exchanged record exchange := by
  unfold introduce at h
  dsimp only at h
  split at h
  · cases h
  · next own written sending =>
    obtain ⟨ownEnd, stamped, sent, waiting⟩ := sendRecord_eq_ok sending
    split at h
    · cases h
    · next peer rest read =>
      cases h
      obtain ⟨silent, heard⟩ := readRecord_eq_ok read
      rw [waiting] at heard
      exact ⟨rfl, ownEnd, stamped, by rw [silent, sent], heard⟩

end Halves

/-! ## Both ends -/

/-- Over a stream on which nothing else was written before, each side has the record that the
other one sent. -/
theorem Exchanged.cross {near far : Meeting} {listening connecting : Record}
    {here there : Exchange} (atNear : near.Exchanged listening here)
    (atFar : far.Exchanged connecting there)
    (fresh : near.stream.sent = [] ∧ far.stream.sent = [])
    (heard : InOrder near.stream.waiting there.stream.sent.flatten)
    (answered : InOrder far.stream.waiting here.stream.sent.flatten) :
    here.peer = there.own ∧ there.peer = here.own := by
  rw [atFar.sent, fresh.2, List.nil_append, List.flatten_singleton] at heard
  rw [atNear.sent, fresh.1, List.nil_append, List.flatten_singleton] at answered
  exact ⟨atNear.heard _ heard, atFar.heard _ answered⟩

end Meeting

end RdmaLink
