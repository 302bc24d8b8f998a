import RdmaLink.Connection.Basic

/-!
# Meetings

Two sides meet over a stream: the connector sends its record and reads the listener's, the
listener reads first and answers.  Each puts its own end of the stream into its record.
-/

namespace RdmaLink

/-- A connected stream and the address of its near end. -/
structure Meeting where
  stream : Stream
  ownEnd : Except IoError SocketAddress

namespace Meeting

/-- The near end as a record holds it. -/
def ownIpv4 (meeting : Meeting) : Except EndpointError (Ipv4 × UInt16) :=
  match meeting.ownEnd with
  | .error e => .error (.io e)
  | .ok (.v4 ip port) => .ok (ip, port)
  | .ok (.v6 ip port scope) =>
    match ip.toIpv4? with
    | some v4 => .ok (v4, port)
    | none => .error (.protocol (.notIpv4 (.v6 ip port scope)))

/-- Reads the peer's record; `broken` is the error of a stream that does not give one. -/
def readRecord (stream : Stream) (broken : IoError → EndpointError) :
    Except EndpointError (Record × Stream) :=
  match stream.readBody with
  | .error e => .error (broken e)
  | .ok (body, rest) =>
    match Record.ofBytes body with
    | .error fault => .error (.protocol (.record fault))
    | .ok record => .ok (record, rest)

/-- A record with the near end of the stream in it, sent; and the stream after that. -/
def sendRecord (meeting : Meeting) (record : Record) (broken : IoError → EndpointError) :
    Except EndpointError Record × Stream :=
  match meeting.ownIpv4 with
  | .error e => (.error e, meeting.stream)
  | .ok (ip, port) =>
    let stamped := { record with ip := ip, port := port }
    match meeting.stream.send (Record.framed stamped.toBytes) with
    | (.error e, tried) => (.error (broken e), tried)
    | (.ok (), sent) => (.ok stamped, sent)

/-- The listener's answer to a record that it has read. -/
def answer (meeting : Meeting) (peer own : Record) : Except EndpointError Exchange × Stream :=
  match meeting.sendRecord own fun e => .accept (.io e) with
  | (.error e, stream) => (.error e, stream)
  | (.ok own, stream) => (.ok ⟨stream, own, peer⟩, stream)

/-- The connector's side: it sends its record and reads the listener's. -/
def introduce (meeting : Meeting) (address : SocketAddress) (own : Record) :
    Except EndpointError Exchange × Stream :=
  let broken := fun e => EndpointError.connect address (.io e)
  match meeting.sendRecord own broken with
  | (.error e, stream) => (.error e, stream)
  | (.ok own, stream) =>
    match readRecord stream broken with
    | .error e => (.error e, stream)
    | .ok (peer, rest) => (.ok ⟨rest, own, peer⟩, rest)

end Meeting

end RdmaLink
