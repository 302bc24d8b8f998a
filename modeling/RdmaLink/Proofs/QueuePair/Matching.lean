import RdmaLink.Proofs.QueuePair.Accounting
import RdmaLink.Proofs.QueuePair.Exchange
import RdmaLink.Proofs.QueuePair.Framing

/-!
# Receives and writes with immediate

A receive that was posted and a write with immediate that was allowed make a pair, in the order in
which each came.  Whichever comes first waits for the other: a receive in the queue of receives, a
write among those whose acknowledgement is held back.

    waiting receives = receives.drop (number of writes)
    held writes      = writes.drop (number of receives)
    completed pairs  = zipWith receives writes
    acknowledgements = those that are due at once, and one for each completed pair
                                                             (History.Matched)

Both lists grow at their ends only, and what one event adds to the pairs is what two lists
longer by that much have more in common (`zipWith_append_drop`).  So one relation, `Matching`, says
of every event what it does, whether it posts a receive, takes a frame or does neither.
-/

namespace RdmaLink

/-! ## Two lists that grow -/

section Lists

variable {α β γ : Type} (f : α → β → γ) (a a' : List α) (b b' : List β)

theorem zipWith_append_drop :
    List.zipWith f (a ++ a') (b ++ b') =
      List.zipWith f a b ++
        List.zipWith f (a.drop b.length ++ a') (b.drop a.length ++ b') := by
  induction a generalizing b with
  | nil => simp
  | cons x xs ih =>
    cases b with
    | nil => simp
    | cons y ys => simpa using ih ys

theorem drop_append_drop :
    (a ++ a').drop (b ++ b').length =
      (a.drop b.length ++ a').drop (b.drop a.length ++ b').length := by
  induction a generalizing b with
  | nil => simp
  | cons x xs ih =>
    cases b with
    | nil => simp
    | cons y ys => simpa using ih ys

theorem take_append_take :
    (a ++ a').take (b ++ b').length =
      a.take b.length ++ (a.drop b.length ++ a').take (b.drop a.length ++ b').length := by
  induction a generalizing b with
  | nil => simp
  | cons x xs ih =>
    cases b with
    | nil => simp
    | cons y ys => simpa using ih ys

theorem filterMap_singleton (g : α → Option β) (x : α) : [x].filterMap g = (g x).toList := by
  cases h : g x with
  | none => simp [h]
  | some _ => simp [h]

end Lists

/-! ## What is matched -/

/-- What the completion of a consumed receive tells. -/
structure Consumption where
  request : UInt64
  status : Status
  length : UInt32
  immediate : Option UInt32
deriving DecidableEq, Repr, Inhabited

/-- A receive consumed by a write. -/
def Consumption.of (request : UInt64) (held : HeldImmediate) : Consumption :=
  ⟨request, .success, held.length, some held.immediate⟩

/-- What a completion tells of a receive that a write consumed. -/
def Completion.consumption? (completion : Completion) : Option Consumption :=
  if completion.operation = .receiveWithImmediate then
    some ⟨completion.request, completion.status, completion.length, completion.immediate⟩
  else none

/-- The acknowledgement of a write with immediate that was applied. -/
def HeldImmediate.success (held : HeldImmediate) : UInt64 × UInt8 :=
  (held.sequence, Status.success.code)

namespace Arrival

/-- The write with immediate that a frame is, if it was allowed. -/
def granted? (arrival : Arrival) : Option HeldImmediate :=
  match arrival.disposal with
  | some (.store _ _) =>
    if arrival.header.opcode = Opcode.writeWithImmediate then
      some ⟨arrival.header.sequence, arrival.header.immediate, arrival.header.length⟩
    else none
  | _ => none

/-- The acknowledgement that a frame gets at once. -/
def prompt? (arrival : Arrival) : Option (UInt64 × UInt8) :=
  match arrival.disposal with
  | some (.store _ _) =>
    if arrival.header.opcode = Opcode.write then
      some (arrival.header.sequence, Status.success.code)
    else none
  | some .refuse => some (arrival.header.sequence, Status.remoteAccess.code)
  | _ => none

end Arrival

/-- The sequence number and the status of the acknowledgement that a message is. -/
def acknowledgement? (message : Bytes) : Option (UInt64 × UInt8) :=
  match Header.ofBytes? (message.take Header.size) with
  | some header =>
    if header.opcode = Opcode.acknowledgement then some (header.sequence, header.status) else none
  | none => none

theorem acknowledgement?_toBytes (header : Header) (payload : Bytes) :
    acknowledgement? (header.toBytes ++ payload) =
      if header.opcode = Opcode.acknowledgement then some (header.sequence, header.status)
      else none := by
  have front : (header.toBytes ++ payload).take Header.size = header.toBytes := by
    rw [← header.length_toBytes, List.take_left]
  rw [acknowledgement?, front, Header.ofBytes?_toBytes]

@[simp] theorem acknowledgement?_acknowledgement (sequence : UInt64) (status : UInt8) :
    acknowledgement? (Header.acknowledgement sequence status).toBytes =
      some (sequence, status) := by
  have read := acknowledgement?_toBytes (Header.acknowledgement sequence status) []
  rw [List.append_nil] at read
  exact read

namespace CompletionQueue

theorem overruns_le_push (queue : CompletionQueue) (completion : Completion) :
    queue.overruns ≤ (queue.push completion).overruns := by
  unfold push
  split
  · exact Nat.le_succ _
  · exact Nat.le_refl _

theorem overruns_le_foldl_push (completions : List Completion) (queue : CompletionQueue) :
    queue.overruns ≤ (completions.foldl push queue).overruns := by
  induction completions generalizing queue with
  | nil => exact Nat.le_refl _
  | cons c rest ih => exact Nat.le_trans (overruns_le_push queue c) (ih _)

/-- A queue that has dropped nothing has taken all that was pushed. -/
theorem toList_foldl_push_of_overruns (completions : List Completion) {queue : CompletionQueue}
    (same : (completions.foldl push queue).overruns = queue.overruns) :
    (completions.foldl push queue).toList = queue.toList ++ completions := by
  induction completions generalizing queue with
  | nil => simp
  | cons c rest ih =>
    have first := overruns_le_push queue c
    have later := overruns_le_foldl_push rest (queue.push c)
    rw [List.foldl_cons] at same ⊢
    have room : queue.size < queue.depth := by
      by_contra full
      have full : queue.depth ≤ queue.size := by omega
      have dropped : (queue.push c).overruns = queue.overruns + 1 := overruns_push_of_full full
      omega
    rw [ih (by omega), toList_push_of_room room, List.append_assoc]
    rfl

end CompletionQueue

namespace Station

/-- The messages written to the link. -/
def messages (s : Station) : List Bytes :=
  match s.queuePair.link with
  | some stream => stream.sent
  | none => []

/-- The messages that one station has written more than another, once there is a link. -/
def newMessages (s t : Station) : List Bytes :=
  if s.queuePair.link.isSome then t.messages.drop s.messages.length else []

/-- No receive waits while a write is held back. -/
def Apart (s : Station) : Prop :=
  s.queuePair.work.receives = [] ∨ s.queuePair.work.held = []

/-- From one station to another `posted` receives and `granted` writes come to those that wait;
pairs are completed and acknowledged, and `prompt` is acknowledged beside them. -/
structure Matching (s : Station) (posted : List UInt64) (granted : List HeldImmediate)
    (prompt : List (UInt64 × UInt8)) (t : Station) : Prop where
  receives : t.queuePair.work.receives =
    (s.queuePair.work.receives ++ posted).drop (s.queuePair.work.held ++ granted).length
  held : t.queuePair.work.held =
    (s.queuePair.work.held ++ granted).drop (s.queuePair.work.receives ++ posted).length
  completed : ∃ completed : List Completion,
    t.completions = completed.foldl CompletionQueue.push s.completions ∧
    completed.filterMap Completion.consumption? =
      List.zipWith Consumption.of (s.queuePair.work.receives ++ posted)
        (s.queuePair.work.held ++ granted)
  acknowledged : (newMessages s t).filterMap acknowledgement? =
    prompt ++ ((s.queuePair.work.held ++ granted).take
      (s.queuePair.work.receives ++ posted).length).map HeldImmediate.success

/-- A message is written, and nothing else changes. -/
structure Wrote (s t : Station) (message : Bytes) : Prop where
  work : t.queuePair.work = s.queuePair.work
  completions : t.completions = s.completions
  message : newMessages s t = [message]

variable {s t : Station}

/-! ## Messages -/

/-- Which messages are new depends on the links alone. -/
theorem newMessages_congr {s' t' : Station} (before : s'.queuePair.link = s.queuePair.link)
    (after : t'.queuePair.link = t.queuePair.link) : newMessages s' t' = newMessages s t := by
  simp only [newMessages, messages, before, after]

theorem newMessages_of_same (same : t.queuePair.link = s.queuePair.link) :
    newMessages s t = [] := by
  simp only [newMessages, messages, same, List.drop_length, ite_self]

theorem newMessages_of_none (unlinked : s.queuePair.link = none) : newMessages s t = [] := by
  simp [newMessages, unlinked]

/-- A message is written to the link, or the link does not take it. -/
theorem transmit_wrote (s : Station) (header : Header) (payload : Bytes) :
    (∃ t, s.transmit header payload = (.ok (), t) ∧ Wrote s t (header.toBytes ++ payload)) ∨
      ∃ e t, s.transmit header payload = (.error e, t) := by
  rcases s.transmit_cases header payload with ⟨stream, hl, h⟩ | ⟨e, stream, part, -, h⟩ | ⟨e, -, h⟩
  · refine Or.inl ⟨_, h, rfl, rfl, ?_⟩
    simp [newMessages, messages, withLink, hl]
  · exact Or.inr ⟨e, _, h⟩
  · exact Or.inr ⟨e, _, h⟩

/-- A queue pair that answers a frame and goes on has written the answer. -/
theorem respond_wrote {header : Header} {payload : Bytes}
    (alive : (s.respond header payload).queuePair.state ≠ .error) :
    Wrote s (s.respond header payload) (header.toBytes ++ payload) := by
  unfold respond at alive ⊢
  rcases s.transmit_wrote header payload with ⟨t, h, wrote⟩ | ⟨e, t, h⟩
  · rw [h]
    exact wrote
  · rw [h] at alive
    exact absurd t.state_fail alive

theorem confirm_wrote {sequence : UInt64}
    (alive : (s.confirm sequence).queuePair.state ≠ .error) :
    Wrote s (s.confirm sequence)
      (Header.acknowledgement sequence Status.success.code).toBytes := by
  unfold confirm at alive ⊢
  rcases s.transmit_wrote (Header.acknowledgement sequence Status.success.code) [] with
    ⟨t, h, wrote⟩ | ⟨e, t, h⟩
  · rw [h]
    rw [List.append_nil] at wrote
    exact wrote
  · rw [h] at alive
    exact absurd t.state_fail alive

/-- A queue pair that acknowledges a frame and goes on has written the acknowledgement. -/
theorem acknowledge_wrote {sequence : UInt64} {status : Status}
    (alive : (s.acknowledge sequence status).queuePair.state ≠ .error) :
    Wrote s (s.acknowledge sequence status)
      (Header.acknowledgement sequence status.code).toBytes := by
  have wrote := respond_wrote alive
  rw [List.append_nil] at wrote
  exact wrote

theorem launch_wrote {frame : Frame} {sequence : Nat}
    (alive : (s.launch frame sequence).queuePair.state ≠ .error) :
    Wrote s (s.launch frame sequence) frame.toBytes := by
  unfold launch at alive ⊢
  rcases s.transmit_wrote frame.header frame.payload with ⟨t, h, wrote⟩ | ⟨e, t, h⟩
  · rw [h]
    exact wrote
  · rw [h] at alive
    exact absurd (state_fail _) alive

/-! ## Nothing is matched -/

/-- Where the receives and the held writes stay, no pair is made. -/
theorem Matching.of_same {prompt : List (UInt64 × UInt8)} (apart : Apart s)
    (receives : t.queuePair.work.receives = s.queuePair.work.receives)
    (held : t.queuePair.work.held = s.queuePair.work.held)
    (completed : ∃ completed : List Completion,
      t.completions = completed.foldl CompletionQueue.push s.completions ∧
      completed.filterMap Completion.consumption? = [])
    (acknowledged : (newMessages s t).filterMap acknowledgement? = prompt) :
    Matching s [] [] prompt t := by
  obtain ⟨completed, pushed, none⟩ := completed
  rcases apart with empty | empty
  · refine ⟨?_, ?_, ⟨completed, pushed, ?_⟩, ?_⟩
    · rw [receives, empty]; simp
    · rw [held, empty]; simp
    · rw [none, empty]; simp
    · rw [acknowledged, empty]; simp
  · refine ⟨?_, ?_, ⟨completed, pushed, ?_⟩, ?_⟩
    · rw [receives, empty]; simp
    · rw [held, empty]; simp
    · rw [none, empty]; simp
    · rw [acknowledged, empty]; simp

theorem Matching.of_quiet (apart : Apart s) (work : t.queuePair.work = s.queuePair.work)
    (completions : t.completions = s.completions) (messages : newMessages s t = []) :
    Matching s [] [] [] t :=
  .of_same apart (by rw [work]) (by rw [work]) ⟨[], completions, rfl⟩ (by rw [messages]; rfl)

theorem Matching.of_wrote (apart : Apart s) {message : Bytes} (wrote : Wrote s t message) :
    Matching s [] [] (acknowledgement? message).toList t := by
  refine .of_same apart (by rw [wrote.work]) (by rw [wrote.work]) ⟨[], wrote.completions, rfl⟩ ?_
  rw [wrote.message, filterMap_singleton]

/-- The completion of a send is not that of a receive. -/
theorem consumption?_of_isSend {completion : Completion}
    (isSend : completion.operation.isSend = true) : completion.consumption? = none := by
  unfold Completion.consumption?
  rw [if_neg]
  intro h
  rw [h] at isSend
  cases isSend

/-! ## Frames -/

variable {arrival : Arrival}

/-- A write that was applied is acknowledged at once, makes a pair with a receive, or waits for
one. -/
theorem matching_written {header : Header} (granted : List HeldImmediate)
    (prompt : List (UInt64 × UInt8)) (apart : Apart s)
    (plain : header.opcode = Opcode.write →
      granted = [] ∧ prompt = [(header.sequence, Status.success.code)])
    (pairs : header.opcode ≠ Opcode.write →
      granted = [⟨header.sequence, header.immediate, header.length⟩] ∧ prompt = [])
    (alive : (s.written header).queuePair.state ≠ .error) :
    Matching s [] granted prompt (s.written header) := by
  unfold written at alive ⊢
  split at alive
  · next hw =>
    obtain ⟨rfl, rfl⟩ := plain hw
    rw [if_pos hw]
    have quiet := Matching.of_wrote apart (acknowledge_wrote alive)
    rwa [acknowledgement?_acknowledgement] at quiet
  · next hw =>
    obtain ⟨rfl, rfl⟩ := pairs hw
    rw [if_neg hw]
    simp only at alive ⊢
    split at alive
    · next request later hr =>
      have wrote := acknowledge_wrote alive
      have none : s.queuePair.work.held = [] := by
        rcases apart with h | h
        · rw [h] at hr; cases hr
        · exact h
      refine ⟨?_, ?_, ⟨[s.report request .receiveWithImmediate .success header.length
        (some header.immediate)], wrote.completions, ?_⟩, ?_⟩
      · rw [wrote.work, hr, none]
        simp [withWork, complete]
      · rw [wrote.work, hr, none]
        simp [withWork, complete]
      · rw [hr, none]
        simp [Completion.consumption?, Consumption.of, report]
      · have message : newMessages s _ = _ := wrote.message
        rw [message, hr, none]
        simp [HeldImmediate.success]
    · next hr =>
      have quiet (work : Work) : newMessages s (s.withWork work) = [] := newMessages_of_same rfl
      refine ⟨?_, ?_, ⟨[], rfl, ?_⟩, ?_⟩
      · simp [withWork, hr]
      · simp [withWork, hr]
      · rw [hr]; simp
      · rw [quiet, hr]; simp

theorem matching_answerRead {registrations : Registrations} {header : Header} (apart : Apart s)
    (alive : (s.answerRead registrations header).queuePair.state ≠ .error) :
    Matching s [] [] [] (s.answerRead registrations header) := by
  unfold answerRead at alive ⊢
  simp only at alive ⊢
  split
  · next bytes hd =>
    rw [hd] at alive
    have quiet := Matching.of_wrote apart (respond_wrote alive)
    rwa [acknowledgement?_toBytes] at quiet
  · next hd =>
    rw [hd] at alive
    have quiet := Matching.of_wrote apart (respond_wrote alive)
    rwa [acknowledgement?_toBytes] at quiet

/-- The completion of a send makes no pair. -/
theorem matching_finish {sequence : Nat} {send : PendingSend} {status : Status} {length : UInt32}
    (apart : Apart s) (isSend : send.operation.isSend = true)
    (work : t.queuePair.work = s.queuePair.work.withoutSend sequence)
    (link : t.queuePair.link = s.queuePair.link)
    (completions : t.completions =
      s.completions.push (s.report send.request send.operation status length none)) :
    Matching s [] [] [] t := by
  refine .of_same apart (by rw [work]; rfl) (by rw [work]; rfl)
    ⟨[s.report send.request send.operation status length none], completions, ?_⟩ ?_
  · rw [List.filterMap_cons, consumption?_of_isSend isSend, List.filterMap_nil]
  · rw [newMessages_of_same link, List.filterMap_nil]

/-- A send that waits is one. -/
theorem isSend_of_send? {work : Work} {next sequence : Nat} {send : PendingSend}
    (numbered : work.Numbered next) (posted : work.send? sequence = some send) :
    send.operation.isSend = true := by
  obtain ⟨a, b, hab, -⟩ := numbered.split posted
  exact numbered.sends (sequence, send) (by rw [hab]; simp)

theorem matching_readAnswered {next : Nat} {header : Header} {payload : Option Bytes}
    (apart : Apart s) (numbered : s.queuePair.work.Numbered next) :
    Matching s [] [] [] (s.readAnswered header payload) := by
  unfold readAnswered
  simp only
  split
  · exact .of_quiet apart rfl rfl (newMessages_of_same rfl)
  · next send posted =>
    have isSend := isSend_of_send? numbered posted
    split
    · split
      · split
        · exact matching_finish apart isSend rfl rfl rfl
        · exact matching_finish apart isSend rfl rfl rfl
      · exact matching_finish apart isSend rfl rfl rfl
    · exact matching_finish apart isSend rfl rfl rfl

theorem matching_acknowledged {next : Nat} {header : Header} (apart : Apart s)
    (numbered : s.queuePair.work.Numbered next) :
    Matching s [] [] [] (s.acknowledged header) := by
  unfold acknowledged
  simp only
  split
  · exact .of_quiet apart rfl rfl (newMessages_of_same rfl)
  · next send posted => exact matching_finish apart (isSend_of_send? numbered posted) rfl rfl rfl

/-- A frame that a queue pair handles and survives: a write with immediate that was allowed joins
those that wait for receives, and whatever else is acknowledged is so at once. -/
theorem matching_handle {registrations : Registrations} {next : Nat} (apart : Apart s)
    (numbered : s.queuePair.work.Numbered next) (sound : arrival.Sound)
    (stored : ∀ region offset, arrival.disposal = some (.store region offset) →
      ∃ memory, s.memory.write region offset arrival.payload = .ok memory)
    (alive : (s.handle registrations arrival).queuePair.state ≠ .error) :
    Matching s [] arrival.granted?.toList arrival.prompt?.toList
      (s.handle registrations arrival) := by
  unfold handle Arrival.granted? Arrival.prompt? at *
  cases hd : arrival.disposal with
  | none =>
    rw [hd] at alive
    simp only [takeBare] at alive ⊢
    split at alive
    · next hop => rw [if_pos hop]; exact matching_answerRead apart alive
    · next hop =>
      rw [if_neg hop]
      split at alive
      · next hop => rw [if_pos hop]; exact matching_readAnswered apart numbered
      · next hop =>
        rw [if_neg hop]
        split at alive
        · next hop => rw [if_pos hop]; exact matching_acknowledged apart numbered
        · exact absurd s.state_fail alive
  | some disposal =>
    rw [hd] at alive
    cases disposal with
    | store region offset =>
      obtain ⟨memory, hm⟩ := stored region offset hd
      have suits : arrival.header.opcode = Opcode.write ∨
        arrival.header.opcode = Opcode.writeWithImmediate := sound.suits _ hd
      simp only [takePayload, hm] at alive ⊢
      have kept : Apart { s with memory := memory } := apart
      have matching := matching_written
        (if arrival.header.opcode = Opcode.writeWithImmediate then
          some ⟨arrival.header.sequence, arrival.header.immediate, arrival.header.length⟩
          else none).toList
        (if arrival.header.opcode = Opcode.write then
          some (arrival.header.sequence, Status.success.code) else none).toList kept ?_ ?_ alive
      · exact ⟨matching.receives, matching.held, matching.completed, matching.acknowledged⟩
      · intro hw
        rw [if_pos hw, hw, if_neg (by decide)]
        exact ⟨rfl, rfl⟩
      · intro hw
        rw [if_neg hw, if_pos (suits.resolve_left hw)]
        exact ⟨rfl, rfl⟩
    | refuse =>
      simp only [takePayload] at alive ⊢
      have quiet := Matching.of_wrote apart (acknowledge_wrote alive)
      rwa [acknowledgement?_acknowledgement] at quiet
    | answer => exact matching_readAnswered apart numbered
    | unwanted => exact matching_readAnswered apart numbered

/-! ## Posts -/

/-- The frame of a send is no acknowledgement. -/
theorem acknowledgement?_of_sendFrame {send : SendRequest} {region : RegionId} {offset : Nat}
    {frame : Frame} {pending : PendingSend}
    (h : s.sendFrame send region offset = .ok (frame, pending)) :
    acknowledgement? frame.toBytes = none := by
  have other : frame.header.opcode ≠ Opcode.acknowledgement := by
    unfold sendFrame at h
    simp only at h
    split at h
    · cases h
      simp only [Header.readRequest, Header.ofOpcode]
      decide
    · cases hm : s.memory.read region offset send.length.toNat with
      | error e => rw [hm] at h; cases h
      | ok payload =>
        rw [hm] at h
        cases h
        simp only [Header.write, Header.ofOpcode]
        split
        · decide
        · decide
  rw [Frame.toBytes, acknowledgement?_toBytes, if_neg other]

theorem matching_postSend {registrations : Registrations} {send : SendRequest} (apart : Apart s)
    (alive : (s.postSend registrations send).2.queuePair.state ≠ .error) :
    Matching s [] [] [] (s.postSend registrations send).2 := by
  rcases s.postSend_cases registrations send with ⟨e, h⟩ | ⟨e, h⟩ |
    ⟨registration, offset, frame, pending, -, -, -, -, hframe, h⟩
  · rw [h]
    exact .of_quiet apart rfl rfl (newMessages_of_same rfl)
  · rw [h]
    exact .of_quiet apart rfl rfl (newMessages_of_same rfl)
  · rw [h] at alive ⊢
    have wrote := launch_wrote alive
    have message : newMessages s _ = _ := wrote.message
    refine .of_same apart ?_ ?_ ⟨[], wrote.completions, rfl⟩ ?_
    · rw [wrote.work]; rfl
    · rw [wrote.work]; rfl
    · rw [message, List.filterMap_cons, acknowledgement?_of_sendFrame hframe, List.filterMap_nil]

/-- A receive that is taken on waits, or makes a pair with the write that was held back first. -/
theorem matching_postReceive {request : UInt64} (apart : Apart s)
    (alive : (s.postReceive request).2.queuePair.state ≠ .error) :
    Matching s ((Request.ofReceive (s.postReceive request).1 request).filterMap
      Request.asReceive?) [] [] (s.postReceive request).2 := by
  rcases s.postReceive_cases request with ⟨e, h⟩ | ⟨-, -, none, h⟩ |
    ⟨held, later, -, -, waiting, h⟩
  · rw [h]
    exact .of_quiet apart rfl rfl (newMessages_of_same rfl)
  · rw [h]
    have quiet (work : Work) : newMessages s (s.withWork work) = [] := newMessages_of_same rfl
    refine ⟨?_, ?_, ⟨[], rfl, ?_⟩, ?_⟩
    · simp [withWork, none, Request.ofReceive, Request.asReceive?]
    · simp [withWork, none]
    · rw [none]; simp
    · rw [quiet, none]; simp
  · rw [h] at alive ⊢
    have wrote := confirm_wrote alive
    have empty : s.queuePair.work.receives = [] := by
      rcases apart with h | h
      · exact h
      · rw [h] at waiting; cases waiting
    refine ⟨?_, ?_, ⟨[s.report request .receiveWithImmediate .success held.length
      (some held.immediate)], wrote.completions, ?_⟩, ?_⟩
    · rw [wrote.work, empty, waiting]
      simp [withWork, complete, empty, Request.ofReceive, Request.asReceive?]
    · rw [wrote.work, empty, waiting]
      simp [withWork, complete, Request.ofReceive, Request.asReceive?]
    · rw [empty, waiting]
      simp [Completion.consumption?, Consumption.of, report, Request.ofReceive,
        Request.asReceive?]
    · have message : newMessages s _ = _ := wrote.message
      rw [message, empty, waiting]
      simp [HeldImmediate.success, Request.ofReceive, Request.asReceive?]

end Station

/-! ## Histories -/

/-- The station after an event has taken completions out of the queue. -/
def Station.relieved (s : Station) : QueuePairEvent → Station
  | .poll most => { s with completions := (s.completions.poll most).2 }
  | _ => s

namespace History

/-- What has been matched so far, where `arrivals` have been handled and `acknowledgements`
written. -/
structure Matched (h : History) (arrivals : List Arrival)
    (acknowledgements : List (UInt64 × UInt8)) : Prop where
  receives : h.station.queuePair.work.receives =
    (h.accepted.filterMap Request.asReceive?).drop (arrivals.filterMap Arrival.granted?).length
  held : h.station.queuePair.work.held =
    (arrivals.filterMap Arrival.granted?).drop (h.accepted.filterMap Request.asReceive?).length
  completed : h.log.filterMap Completion.consumption? =
    List.zipWith Consumption.of (h.accepted.filterMap Request.asReceive?)
      (arrivals.filterMap Arrival.granted?)
  acknowledged : acknowledgements.Perm (arrivals.filterMap Arrival.prompt? ++
    ((arrivals.filterMap Arrival.granted?).take
      (h.accepted.filterMap Request.asReceive?).length).map HeldImmediate.success)

variable {h : History} {arrivals : List Arrival} {acknowledgements : List (UInt64 × UInt8)}

/-- Of two lists one is not longer than the other. -/
theorem Matched.apart (m : Matched h arrivals acknowledgements) : h.station.Apart := by
  rcases Nat.le_total (h.accepted.filterMap Request.asReceive?).length
    (arrivals.filterMap Arrival.granted?).length with fewer | fewer
  · refine Or.inl ?_
    rw [m.receives]
    exact List.drop_eq_nil_of_le fewer
  · refine Or.inr ?_
    rw [m.held]
    exact List.drop_eq_nil_of_le fewer

theorem matched_fresh (address : QueuePairAddress) (linkTimeout : Milliseconds) (depth : Nat)
    (memory : Memory) : Matched (fresh address linkTimeout depth memory) [] [] :=
  ⟨rfl, rfl, rfl, List.Perm.refl _⟩

/-- A call that sets the queue pair up matches nothing. -/
theorem matching_setUp {s : Station} (apart : s.Apart) {queuePair : QueuePair}
    (work : queuePair.work = s.queuePair.work)
    (link : queuePair.link = s.queuePair.link ∨ s.queuePair.link = none) :
    Station.Matching s [] [] [] { s with queuePair := queuePair } := by
  refine .of_quiet apart work rfl ?_
  rcases link with same | none
  · exact Station.newMessages_of_same same
  · exact Station.newMessages_of_none none

/-- Only linking a queue pair gives it a link. -/
theorem matching_advance {s : Station} (apart : s.Apart) {result : Except DeviceError QueuePair}
    (set : ∀ queuePair, result = .ok queuePair →
      s.queuePair.SetUp queuePair ∧ queuePair.link = s.queuePair.link) :
    Station.Matching s [] [] [] (s.advance result) := by
  cases result with
  | error e => exact .of_quiet apart rfl rfl (Station.newMessages_of_same rfl)
  | ok queuePair =>
    obtain ⟨up, same⟩ := set queuePair rfl
    exact matching_setUp apart up.work (Or.inl same)

theorem matching_after (kept : Kept h) (tracked : Tracked h) (apart : h.station.Apart)
    (event : QueuePairEvent) (alive : (h.station.after event).queuePair.state ≠ .error)
    (stored : ∀ arrival ∈ arrives h.station event, ∀ region offset,
      arrival.disposal = some (.store region offset) →
        ∃ memory, h.station.memory.write region offset arrival.payload = .ok memory) :
    Station.Matching (h.station.relieved event)
      ((accepts h.station event).filterMap Request.asReceive?)
      ((arrives h.station event).filterMap Arrival.granted?)
      ((arrives h.station event).filterMap Arrival.prompt?) (h.station.after event) := by
  cases event with
  | toInit access =>
    refine matching_advance apart fun queuePair h => ⟨QueuePair.setUp_toInit h, ?_⟩
    rw [(QueuePair.toInit_eq_ok h).2]
  | attach stream =>
    refine matching_advance apart fun queuePair h => ⟨QueuePair.setUp_attach h, ?_⟩
    rw [(QueuePair.attach_eq_ok h).2]
  | link peer ip conditions =>
    have same : (h.station.queuePair.toReadyToReceive peer ip conditions).queuePair.work =
        h.station.queuePair.work := by
      rcases h.station.queuePair.setUp_toReadyToReceive peer ip conditions with hl | hl
      · rw [hl]
      · exact hl.work
    refine matching_setUp apart same ?_
    rcases h.station.queuePair.toReadyToReceive_cases peer ip conditions with
      ⟨e, -, refused⟩ | ⟨early, -⟩
    · exact Or.inl (by rw [refused])
    · exact Or.inr (kept.linked.early (Or.inr early))
  | start =>
    refine matching_advance apart fun queuePair h => ⟨QueuePair.setUp_toReadyToSend h, ?_⟩
    rw [(QueuePair.toReadyToSend_eq_ok h).2.2]
  | postSend registrations send =>
    have none : (accepts h.station (.postSend registrations send)).filterMap
        Request.asReceive? = [] := by
      simp only [accepts]
      cases (h.station.postSend registrations send).1 with
      | ok _ => rfl
      | error e => rfl
    rw [none]
    exact Station.matching_postSend apart alive
  | postReceive request => exact Station.matching_postReceive apart alive
  | receive registrations byte =>
    simp only [Station.after] at alive ⊢
    cases harr : h.station.arrival? registrations byte with
    | none =>
      rw [Station.feed_of_no_arrival harr]
      simp only [arrives, harr, Option.toList_none, List.filterMap_nil]
      exact .of_quiet apart rfl rfl (Station.newMessages_of_same rfl)
    | some arrival =>
      rw [Station.feed_of_arrival harr] at alive ⊢
      have matching := Station.matching_handle
        (s := h.station.withIntake (some (.header []))) apart kept.balanced.numbered
        (tracked.arrival harr).2 (stored arrival (by simp [arrives, harr])) alive
      simp only [arrives, harr, Option.toList_some, filterMap_singleton]
      exact ⟨matching.receives, matching.held, matching.completed, matching.acknowledged⟩
  | endOfStream =>
    cases hi : h.station.queuePair.intake with
    | none =>
      have same : h.station.after .endOfStream = h.station := by
        simp only [Station.after, Station.endOfStream, hi]
      rw [same]
      exact .of_quiet apart rfl rfl (Station.newMessages_of_same rfl)
    | some intake =>
      have broken : h.station.after .endOfStream = h.station.breakOff := by
        simp only [Station.after, Station.endOfStream, hi]
      rw [broken] at alive
      exact absurd h.station.state_fail alive
  | poll most => exact .of_quiet apart rfl rfl (Station.newMessages_of_same rfl)
  | remember memory => exact .of_quiet apart rfl rfl (Station.newMessages_of_same rfl)

/-- Nothing is dropped while the queue pair has not failed. -/
theorem Kept.overruns_of_alive (kept : Kept h) (alive : h.station.queuePair.state ≠ .error) :
    h.station.completions.overruns = 0 := by
  have losses := kept.balanced.losses
  rw [if_neg alive] at losses
  omega

/-- One event that the queue pair survives keeps the pairs in order. -/
theorem Matched.step (m : Matched h arrivals acknowledgements) (kept : Kept h)
    (tracked : Tracked h) (event : QueuePairEvent)
    (alive : (h.step event).station.queuePair.state ≠ .error)
    (stored : ∀ arrival ∈ arrives h.station event, ∀ region offset,
      arrival.disposal = some (.store region offset) →
        ∃ memory, h.station.memory.write region offset arrival.payload = .ok memory) :
    Matched (h.step event) (arrivals ++ arrives h.station event)
      (acknowledgements ++
        (h.station.newMessages (h.step event).station).filterMap acknowledgement?) := by
  have matching := matching_after kept tracked m.apart event alive stored
  have before : (h.station.relieved event).queuePair = h.station.queuePair := by
    cases event <;> rfl
  have new : (h.station.relieved event).newMessages (h.station.after event) =
      h.station.newMessages (h.step event).station :=
    Station.newMessages_congr (by rw [before]) rfl
  have log : h.taken ++ takes h.station event ++ (h.station.relieved event).completions.toList =
      h.log := by
    cases event with
    | poll most =>
      rw [List.append_assoc]
      exact congrArg (h.taken ++ ·) (CompletionQueue.toList_poll h.station.completions most)
    | _ => simp [takes, Station.relieved, History.log]
  have healthy : h.station.queuePair.state ≠ .error :=
    fun failed => alive (failed_after event failed)
  have none : (h.station.relieved event).completions.overruns = 0 := by
    have := kept.overruns_of_alive healthy
    cases event <;> exact this
  obtain ⟨completed, pushed, pairs⟩ := matching.completed
  have taken : (h.station.after event).completions.toList =
      (h.station.relieved event).completions.toList ++ completed := by
    have still := (kept.step event).overruns_of_alive alive
    have still : (h.station.after event).completions.overruns = 0 := still
    rw [pushed] at still ⊢
    exact CompletionQueue.toList_foldl_push_of_overruns completed (still.trans none.symm)
  have receives := matching.receives
  have held := matching.held
  have acknowledged := matching.acknowledged
  rw [before] at receives held acknowledged pairs
  rw [m.receives, m.held] at receives held acknowledged pairs
  refine ⟨?_, ?_, ?_, ?_⟩
  · simp only [History.step]
    rw [List.filterMap_append, List.filterMap_append, drop_append_drop]
    exact receives
  · simp only [History.step]
    rw [List.filterMap_append, List.filterMap_append, drop_append_drop]
    exact held
  · simp only [History.step]
    rw [List.filterMap_append, List.filterMap_append, zipWith_append_drop, ← m.completed, ← pairs,
      ← log, ← List.filterMap_append, History.log, taken]
    simp only [List.append_assoc]
  · simp only [History.step] at new ⊢
    rw [List.filterMap_append, List.filterMap_append, List.filterMap_append, take_append_take,
      List.map_append]
    refine Station.perm_settle m.acknowledged ?_
    rw [← new, acknowledged, List.append_assoc (arrivals.filterMap Arrival.prompt?)]
    exact List.perm_append_comm

end History

end RdmaLink
