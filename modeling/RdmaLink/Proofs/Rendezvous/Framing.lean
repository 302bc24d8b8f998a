import RdmaLink.Proofs.Rendezvous.Exchange

/-!
# Streams of records

In a stream the bodies stand one after the other, each behind its length in two bytes.  Where a
body begins is known from the lengths before it alone.  Of a stream whose beginning has arrived, a
reader gets the bodies that have arrived whole, in order; the read after them fails and uses up what
there is of one more body.

    arrived <+: stream bodies → arrived = stream (bodies.take count) ++ piece    (Record.parted)
    readAll (front.length + most) (stream front ++ behind) =
      (front.map .ok ++ (readAll most behind).1, (readAll most behind).2)   (Record.readAll_stream)
    short → arrived <+: stream bodies → Gives …                              (Record.framing_exact)

What a body decodes to is of no account for the bodies behind it (`Record.readRecords_stream`).
-/

namespace RdmaLink.Record

/-! ## Reading exactly so many bytes -/

/-- Takes exactly `count` bytes from the front; if there are fewer, they are used up. -/
def takeExactly (count : Nat) (bytes : Bytes) : Except IoError Bytes × Bytes :=
  if bytes.length < count then (.error .unexpectedEnd, [])
  else (.ok (bytes.take count), bytes.drop count)

/-- Takes two bytes, and then as many as they say. -/
def takeBody (bytes : Bytes) : Except IoError Bytes × Bytes :=
  match takeExactly 2 bytes with
  | (.error e, rest) => (.error e, rest)
  | (.ok length, rest) => takeExactly (BigEndian.decode length) rest

theorem takeBody_eq (bytes : Bytes) :
    takeBody bytes =
      match readFramed bytes with
      | .error e => (.error e, [])
      | .ok (body, rest) => (.ok body, rest) := by
  unfold takeBody takeExactly readFramed
  by_cases two : bytes.length < 2
  · rw [if_pos two, if_pos two]
  · rw [if_neg two, if_neg two]
    dsimp only
    split <;> rfl

/-- Reading goes on behind a body that was there whole, and ends at the first one that was not. -/
theorem readAll_succ (most : Nat) (bytes : Bytes) :
    readAll (most + 1) bytes =
      match takeBody bytes with
      | (.error e, rest) => ([.error e], rest)
      | (.ok body, rest) => (.ok body :: (readAll most rest).1, (readAll most rest).2) := by
  rw [takeBody_eq, readAll]
  cases readFramed bytes <;> rfl

/-! ## Streams -/

/-- Bodies one after the other, each behind its length. -/
def stream (bodies : List Bytes) : Bytes := bodies.flatMap framed

/-- The length of every body can be written in two bytes. -/
def Short (bodies : List Bytes) : Prop := ∀ body ∈ bodies, body.length < 65536

/-- What there may be of the next body when its end has not arrived. -/
def Begun : Option Bytes → Bytes → Prop
  | none, piece => piece = []
  | some body, piece => piece <+: framed body ∧ piece ≠ framed body

variable {bodies front : List Bytes} {body piece arrived : Bytes} {count : Nat}

@[simp] theorem stream_nil : stream [] = [] := rfl

@[simp] theorem stream_cons (body : Bytes) (rest : List Bytes) :
    stream (body :: rest) = framed body ++ stream rest := rfl

theorem stream_append (front rest : List Bytes) :
    stream (front ++ rest) = stream front ++ stream rest := List.flatMap_append

theorem stream_take_prefix (bodies : List Bytes) (count : Nat) :
    stream (bodies.take count) <+: stream bodies := by
  conv => rhs; rw [← List.take_append_drop count bodies, stream_append]
  exact List.prefix_append _ _

theorem Short.take (short : Short bodies) (count : Nat) : Short (bodies.take count) :=
  fun body listed => short body (List.mem_of_mem_take listed)

theorem Begun.length_lt (begun : Begun (some body) piece) :
    piece.length < (framed body).length :=
  Nat.lt_of_le_of_ne begun.1.length_le fun same => begun.2 (begun.1.eq_of_length same)

/-- Whatever has arrived of a stream is some whole bodies and the beginning of one more. -/
theorem parted (came : arrived <+: stream bodies) :
    ∃ count piece, count ≤ bodies.length ∧ arrived = stream (bodies.take count) ++ piece ∧
      Begun bodies[count]? piece := by
  induction bodies generalizing arrived with
  | nil => exact ⟨0, [], Nat.le_refl _, List.prefix_nil.mp came, rfl⟩
  | cons first rest ih =>
    rw [stream_cons] at came
    rcases List.prefix_or_prefix_of_prefix came (List.prefix_append (framed first) _) with
      inside | past
    · by_cases whole : arrived = framed first
      · obtain ⟨count, piece, within, split, begun⟩ := ih (List.nil_prefix (l := stream rest))
        refine ⟨count + 1, piece, Nat.succ_le_succ within, ?_, begun⟩
        rw [List.take_succ_cons, stream_cons, List.append_assoc, ← split, whole, List.append_nil]
      · exact ⟨0, arrived, Nat.zero_le _, rfl, inside, whole⟩
    · obtain ⟨behind, rfl⟩ := past
      obtain ⟨count, piece, within, split, begun⟩ := ih ((List.prefix_append_right_inj _).mp came)
      refine ⟨count + 1, piece, Nat.succ_le_succ within, ?_, begun⟩
      rw [List.take_succ_cons, stream_cons, List.append_assoc, ← split]

/-! ## Reading from a stream -/

theorem takeBody_framed (short : body.length < 65536) (behind : Bytes) :
    takeBody (framed body ++ behind) = (.ok body, behind) := by
  rw [takeBody_eq, readFramed_framed short]

/-- A body whose end has not arrived cannot be read, and what there is of it is used up. -/
theorem takeBody_begun {next : Option Bytes} (short : ∀ body ∈ next, body.length < 65536)
    (begun : Begun next piece) : takeBody piece = (.error .unexpectedEnd, []) := by
  cases next with
  | none =>
    rw [show piece = [] from begun]
    rfl
  | some body =>
    have torn := begun.length_lt
    obtain ⟨missing, whole⟩ := begun.1
    unfold takeBody takeExactly
    by_cases two : piece.length < 2
    · rw [if_pos two]
    · -- the length has arrived, and it is more than what stands behind it
      have early : (piece ++ missing).take 2 = piece.take 2 :=
        List.take_append_of_le_length (Nat.le_of_not_lt two)
      have head : piece.take 2 = BigEndian.encode 2 body.length := by
        rw [← early, whole, framed, List.take_left' (BigEndian.length_encode 2 _)]
      rw [if_neg two]
      dsimp only
      rw [head, BigEndian.decode_encode (short body rfl), if_pos]
      rw [length_framed] at torn
      rw [List.length_drop]
      omega

/-- Reading gives the bodies at the front of a stream and goes on with what stands behind them. -/
theorem readAll_stream (short : Short front) (most : Nat) (behind : Bytes) :
    readAll (front.length + most) (stream front ++ behind) =
      (front.map .ok ++ (readAll most behind).1, (readAll most behind).2) := by
  induction front with
  | nil => rw [List.length_nil, Nat.zero_add]; rfl
  | cons first rest ih =>
    have later := ih fun body listed => short body (List.mem_cons_of_mem _ listed)
    rw [List.length_cons, Nat.add_right_comm, readAll_succ, stream_cons, List.append_assoc,
      takeBody_framed (short first List.mem_cons_self)]
    dsimp only
    rw [later]
    rfl

theorem readAll_begun {next : Option Bytes} (short : ∀ body ∈ next, body.length < 65536)
    (begun : Begun next piece) (most : Nat) :
    readAll (most + 1) piece = ([.error .unexpectedEnd], []) := by
  rw [readAll_succ, takeBody_begun short begun]

/-! ## Bodies that have arrived -/

/-- All bytes of the body with a number have arrived, and so have all before them. -/
def Arrived (bodies : List Bytes) (arrived : Bytes) (i : Nat) : Prop :=
  i < bodies.length ∧ stream (bodies.take (i + 1)) <+: arrived

instance (bodies : List Bytes) (arrived : Bytes) (i : Nat) :
    Decidable (Arrived bodies arrived i) := inferInstanceAs (Decidable (_ ∧ _))

theorem arrived_iff (within : count ≤ bodies.length) (begun : Begun bodies[count]? piece)
    (i : Nat) : Arrived bodies (stream (bodies.take count) ++ piece) i ↔ i < count := by
  have nested {a b : Nat} (le : a ≤ b) : stream (bodies.take a) <+: stream (bodies.take b) := by
    rw [← Nat.min_eq_left le, ← List.take_take]
    exact stream_take_prefix _ _
  constructor
  · rintro ⟨inside, there⟩
    -- otherwise the body that has only begun is among what has arrived
    refine Nat.lt_of_not_le fun late => ?_
    have next : count < bodies.length := Nat.lt_of_le_of_lt late inside
    rw [List.getElem?_eq_getElem next] at begun
    have torn := begun.length_lt
    have fits := ((nested (Nat.succ_le_succ late)).trans there).length_le
    rw [List.take_succ_eq_append_getElem next, stream_append, stream_cons, stream_nil,
      List.append_nil, List.length_append, List.length_append] at fits
    omega
  · intro before
    exact ⟨Nat.lt_of_lt_of_le before within, (nested before).trans (List.prefix_append _ _)⟩

/-- What comes of reading where `count` bodies are there whole: as many reads give them, one after
the other, and one more read fails and leaves nothing. -/
structure Gives (bodies : List Bytes) (arrived : Bytes) (count : Nat) : Prop where
  whole : ∀ most ≤ count, readAll most arrived =
    ((bodies.take most).map .ok, arrived.drop (stream (bodies.take most)).length)
  torn : ∀ most, count < most → readAll most arrived =
    ((bodies.take count).map .ok ++ [.error .unexpectedEnd], [])

theorem gives_parted (short : Short bodies) (within : count ≤ bodies.length)
    (begun : Begun bodies[count]? piece) :
    Gives bodies (stream (bodies.take count) ++ piece) count := by
  have length {most : Nat} (le : most ≤ count) : (bodies.take most).length = most :=
    List.length_take_of_le (Nat.le_trans le within)
  constructor
  · intro most le
    have split : stream (bodies.take count) =
        stream (bodies.take most) ++ stream ((bodies.take count).drop most) := by
      conv => lhs; rw [← List.take_append_drop most (bodies.take count), stream_append]
      rw [List.take_take, Nat.min_eq_left le]
    have read := readAll_stream (short.take most) 0
      (stream ((bodies.take count).drop most) ++ piece)
    rw [length le, Nat.add_zero] at read
    rw [split, List.append_assoc, read, List.drop_left, readAll, List.append_nil]
  · intro most more
    obtain ⟨spare, rfl⟩ := Nat.exists_eq_add_of_lt more
    have next : ∀ body ∈ bodies[count]?, body.length < 65536 :=
      fun body found => short body (List.mem_of_getElem? found)
    have read := readAll_stream (short.take count) (spare + 1) piece
    rwa [length (Nat.le_refl _), readAll_begun next begun] at read

/-! ## Records -/

/-- What a reader makes of a stream: the bodies that it reads, each decoded. -/
def readRecords (most : Nat) (bytes : Bytes) :
    List (Except IoError (Except RecordFault Record)) × Bytes :=
  ((readAll most bytes).1.map (·.map ofBytes), (readAll most bytes).2)

/-- A body is decoded as it would be alone, whatever stands before it in the stream. -/
theorem readRecords_stream (short : Short bodies) :
    readRecords bodies.length (stream bodies) =
      (bodies.map fun body => .ok (ofBytes body), []) := by
  have read := readAll_stream short 0 []
  rw [Nat.add_zero, List.append_nil] at read
  rw [readRecords, read, readAll, List.append_nil, List.map_map]
  rfl

theorem short_records (records : List Record) : Short (records.map toBytes) := by
  intro body listed
  obtain ⟨record, -, rfl⟩ := List.mem_map.mp listed
  rw [length_toBytes]
  decide

/-- The framing of a stream of bodies is exact.  Of a stream that is cut off anywhere a reader gets
the bodies that have arrived whole, in order; then it finds the end too early, and nothing is left.
Of the whole stream it gets all of them and stops at the end.  A list of records that was written
is read back, and a body that is no record is of no account for the records behind it. -/
theorem framing_exact (bodies : List Bytes) (short : ∀ body ∈ bodies, body.length < 65536) :
    (∀ arrived, arrived <+: stream bodies → arrived ≠ stream bodies →
      ∃ count < bodies.length, (∀ i, Arrived bodies arrived i ↔ i < count) ∧
        Gives bodies arrived count) ∧
    readAll bodies.length (stream bodies) = (bodies.map .ok, []) ∧
    Gives bodies (stream bodies) bodies.length ∧
    (∀ records : List Record,
      readRecords records.length (stream (records.map toBytes)) =
        (records.map fun record => .ok (.ok record), [])) ∧
    readRecords bodies.length (stream bodies) =
      (bodies.map fun body => .ok (ofBytes body), []) ∧
    (∀ (i : Nat) (record : Record), bodies[i]? = some record.toBytes →
      (readRecords bodies.length (stream bodies)).1[i]? = some (.ok (.ok record))) := by
  have all : Gives bodies (stream bodies) bodies.length := by
    have none : Begun bodies[bodies.length]? [] := by
      rw [List.getElem?_eq_none (Nat.le_refl _)]
      rfl
    have gives := gives_parted short (Nat.le_refl _) none
    rwa [List.take_length, List.append_nil] at gives
  have decoded := readRecords_stream short
  refine ⟨fun arrived came proper => ?_, ?_, all, fun records => ?_, decoded,
    fun i record found => ?_⟩
  · obtain ⟨count, piece, within, rfl, begun⟩ := parted came
    refine ⟨count, Nat.lt_of_le_of_ne within fun last => proper ?_, arrived_iff within begun,
      gives_parted short within begun⟩
    rw [last, List.getElem?_eq_none (Nat.le_refl _)] at begun
    rw [last, List.take_length, show piece = [] from begun, List.append_nil]
  · have read := all.whole bodies.length (Nat.le_refl _)
    rwa [List.take_length, List.drop_length] at read
  · have back := readRecords_stream (short_records records)
    rw [List.length_map, List.map_map] at back
    simpa only [Function.comp_def, ofBytes_toBytes] using back
  · rw [decoded, List.getElem?_map, found, Option.map_some, ofBytes_toBytes]

/-- Of a stream of three bodies the last byte is missing: the reader gets the empty one and the one
behind it, and nothing is left of the third. -/
theorem last_byte_missing :
    let bodies : List Bytes := [[], [1, 2, 3], [4, 5]]
    let arrived : Bytes := [0, 0, 0, 3, 1, 2, 3, 0, 2, 4]
    (∀ body ∈ bodies, body.length < 65536) ∧ arrived <+: stream bodies ∧
      arrived ≠ stream bodies ∧
      readAll 8 arrived = ([.ok [], .ok [1, 2, 3], .error .unexpectedEnd], []) := by
  intro bodies arrived
  have short : ∀ body ∈ bodies, body.length < 65536 := by decide
  have came : arrived <+: stream bodies := by decide
  have proper : arrived ≠ stream bodies := by decide
  refine ⟨short, came, proper, ?_⟩
  obtain ⟨count, -, there, gives⟩ := (framing_exact bodies short).1 arrived came proper
  have two : 1 < count := (there 1).mp (by decide)
  have third : ¬ 2 < count := fun past => absurd ((there 2).mpr past) (by decide)
  obtain rfl : count = 2 := by omega
  exact gives.torn 8 (by decide)

end RdmaLink.Record
