import Mathlib.Data.List.TakeWhile
import RdmaLink.Proofs.Connection.Loss
import RdmaLink.Proofs.QueuePair.Posts

/-!
# A queue pair that only writes

The owner of the queue pair posts writes and nothing else, and its peer asks for nothing.  What the
peer sends is then one of four kinds of things (`Station.Heed`): bytes that are no frame yet, an
answer that nothing waits for, an answer that ends the send under its number, or the end of the
link.

    s.arrival? r byte = none or no request → Heeds s frames (s.feed r byte)       (heeds_feed)

Of a send that waits alone, a log of frames and posts tells what becomes of it.  The first answer
to it settles it, or the refusal of its frame does, whichever comes first (`settlement`).  If it is
acknowledged, its completion is a success and stands before all others; if not, nothing but failures
is ever reported (`Station.Fares`).
-/

namespace RdmaLink

namespace Frame

/-- Whether a frame answers the send with a number. -/
def answers (number : Nat) (frame : Frame) : Bool :=
  frame.isAnswer && frame.header.sequence.toNat == number

/-- Whether a frame acknowledges a success. -/
def confirms (frame : Frame) : Bool :=
  frame.header.opcode == Opcode.acknowledgement && frame.header.status == Status.success.code

theorem confirms_iff {frame : Frame} : frame.confirms = true ↔
    frame.header.opcode = Opcode.acknowledgement ∧
      Status.ofCode frame.header.status = .success := by
  rw [confirms, Bool.and_eq_true, beq_iff_eq, beq_iff_eq, Status.ofCode_eq_success]
  rfl

end Frame

/-! ## Logs -/

/-- What is noted of the sends of a queue pair and of what it hears. -/
inductive Mark where
  /-- A frame of the peer has arrived in full. -/
  | took (frame : Frame)
  /-- A send was taken on under a number. -/
  | asked (number : Nat)
  /-- The frame of a send was written to the link. -/
  | wrote (frame : Frame)
  /-- The link did not take the frame of the send with a number. -/
  | refused (number : Nat)
deriving DecidableEq, Repr

namespace Mark

/-- Whether a mark tells what becomes of the send with a number. -/
def settles (number : Nat) : Mark → Bool
  | .took frame => frame.answers number
  | .refused other => other == number
  | _ => false

/-- The frame that was written, if one was. -/
def written? : Mark → Option Frame
  | .wrote frame => some frame
  | _ => none

end Mark

/-- The frames that were written, in order. -/
def framesWritten (log : List Mark) : List Frame := log.filterMap Mark.written?

/-- What has told of a send what becomes of it: the first mark after it was taken on. -/
def settlement (number : Nat) (log : List Mark) : Option Mark :=
  (log.dropWhile fun mark => mark != .asked number).find? (Mark.settles number)

/-- A send was acknowledged: the first answer to it confirms it, and its frame was not refused
before that. -/
def Acknowledged (number : Nat) (log : List Mark) : Prop :=
  ∃ frame, settlement number log = some (.took frame) ∧ frame.confirms = true

/-- The frame of a send was refused when the send had been taken on. -/
def Denied (number : Nat) (log : List Mark) : Prop :=
  ∃ before after, log = before ++ .refused number :: after ∧ .asked number ∈ before

section Logs

variable {number : Nat} {log : List Mark} {mark : Mark}

theorem framesWritten_append (a b : List Mark) :
    framesWritten (a ++ b) = framesWritten a ++ framesWritten b :=
  List.filterMap_append

theorem framesWritten_asked (log : List Mark) (number : Nat) :
    framesWritten (log ++ [.asked number]) = framesWritten log := by
  rw [framesWritten_append]
  exact List.append_nil _

theorem framesWritten_took (frames : List Frame) : framesWritten (frames.map Mark.took) = [] := by
  induction frames with
  | nil => rfl
  | cons frame rest ih => exact ih

/-- What is settled stays settled. -/
theorem settlement_append (settled : settlement number log = some mark) (later : List Mark) :
    settlement number (log ++ later) = some mark := by
  unfold settlement at settled ⊢
  rw [List.dropWhile_append]
  split
  · next none =>
    rw [List.isEmpty_iff.mp none] at settled
    cases settled
  · rw [List.find?_append, settled]
    rfl

/-- What is noted next may settle a send that was taken on. -/
theorem settlement_concat (asked : .asked number ∈ log) (unsettled : settlement number log = none)
    (mark : Mark) :
    settlement number (log ++ [mark]) = if mark.settles number then some mark else none := by
  have begun : (log.dropWhile fun mark => mark != .asked number) ≠ [] := by
    rw [Ne, List.dropWhile_eq_nil_iff]
    intro all
    simpa using all _ asked
  unfold settlement at unsettled ⊢
  rw [List.dropWhile_append, if_neg (by rwa [List.isEmpty_iff]), List.find?_append, unsettled,
    Option.none_or, List.find?_singleton]

/-- Nothing is settled of a send that is just taken on. -/
theorem settlement_asked (fresh : .asked number ∉ log) :
    settlement number (log ++ [.asked number]) = none := by
  have none : (log.dropWhile fun mark => mark != .asked number) = [] := by
    rw [List.dropWhile_eq_nil_iff]
    intro mark member
    exact bne_iff_ne.mpr fun same => fresh (same ▸ member)
  unfold settlement
  rw [List.dropWhile_append, none]
  simp [Mark.settles]

theorem Acknowledged.append (acknowledged : Acknowledged number log) (later : List Mark) :
    Acknowledged number (log ++ later) := by
  obtain ⟨frame, settled, confirms⟩ := acknowledged
  exact ⟨frame, settlement_append settled later, confirms⟩

/-- What is settled otherwise is not acknowledged. -/
theorem not_acknowledged (settled : settlement number log = some mark)
    (other : ∀ frame, mark = .took frame → frame.confirms = false) : ¬ Acknowledged number log := by
  rintro ⟨frame, same, confirms⟩
  rw [settled] at same
  rw [other frame (Option.some.inj same)] at confirms
  cases confirms

/-- Once a send is settled without an acknowledgement, none counts any more. -/
theorem unacknowledged_append (settled : settlement number log = some mark)
    (unacknowledged : ¬ Acknowledged number log) (later : List Mark) :
    settlement number (log ++ later) ≠ none ∧ ¬ Acknowledged number (log ++ later) := by
  have still := settlement_append settled later
  refine ⟨by rw [still]; exact nofun, ?_⟩
  rintro ⟨frame, same, confirms⟩
  exact unacknowledged ⟨frame, settled.trans (still.symm.trans same), confirms⟩

theorem Denied.append (denied : Denied number log) (later : List Mark) :
    Denied number (log ++ later) := by
  obtain ⟨before, after, rfl, asked⟩ := denied
  exact ⟨before, after ++ later, by simp, asked⟩

/-- A send whose frame was refused is acknowledged only if it was so before. -/
theorem Denied.early (denied : Denied number log) (acknowledged : Acknowledged number log) :
    ∃ before after, log = before ++ .refused number :: after ∧ Acknowledged number before := by
  obtain ⟨before, after, rfl, asked⟩ := denied
  refine ⟨before, after, rfl, ?_⟩
  obtain ⟨frame, settled, confirms⟩ := acknowledged
  rw [← List.singleton_append, ← List.append_assoc] at settled
  cases past : settlement number before with
  | none =>
    have refused := settlement_concat asked past (.refused number)
    rw [if_pos (show Mark.settles number (.refused number) = true from beq_self_eq_true number)]
      at refused
    rw [settlement_append refused after] at settled
    cases settled
  | some mark =>
    rw [settlement_append (settlement_append past _) after] at settled
    exact ⟨frame, past.trans settled, confirms⟩

end Logs

namespace Station

/-! ## What is heard -/

/-- A queue pair of which no receive was posted and whose sends have no place for data. -/
structure WritesOnly (s : Station) : Prop where
  receives : s.queuePair.work.receives = []
  sinks : ∀ entry ∈ s.queuePair.work.outstanding, entry.2.sink = none
  sound : ∀ intake, s.queuePair.intake = some intake → intake.Sound
  room : 0 < s.completions.depth

/-- What is left as it is by what a queue pair hears. -/
structure Undisturbed (s t : Station) : Prop where
  memory : t.memory = s.memory
  messages : t.messages = s.messages
  numbering : t.queuePair.nextSequence = s.queuePair.nextSequence

/-- One thing that happens to a queue pair that only writes while its peer asks for nothing, with
the frames that it takes. -/
inductive Heed (s : Station) : List Frame → Station → Prop
  /-- Bytes arrive, or something of the next frame does. -/
  | more (link : Option Stream) (intake : Option Intake)
      (sent : link.map Stream.sent = s.queuePair.link.map Stream.sent)
      (deaf : s.queuePair.intake = none → intake = none)
      (sound : ∀ found, intake = some found → found.Sound) :
      Heed s [] ((s.withLink link).withIntake intake)
  /-- Nothing waits for the answer. -/
  | pass {frame : Frame} (hears : s.queuePair.intake ≠ none) (answer : frame.isAnswer = true)
      (nobody : s.queuePair.work.send? frame.header.sequence.toNat = none) : Heed s [frame] s
  /-- The answer ends the send under its number. -/
  | finish {frame : Frame} {send : PendingSend} (hears : s.queuePair.intake ≠ none)
      (answer : frame.isAnswer = true) (status : Status) (length : UInt32)
      (posted : s.queuePair.work.send? frame.header.sequence.toNat = some send)
      (success : status = .success ↔ frame.confirms = true) :
      Heed s [frame] ((s.withWork (s.queuePair.work.withoutSend
        frame.header.sequence.toNat)).complete send.request send.operation status length none)
  /-- The frame is of an unknown kind. -/
  | unknown {frame : Frame} (hears : s.queuePair.intake ≠ none)
      (other : frame.isAnswer = false) : Heed s [frame] s.breakOff
  /-- The link ends. -/
  | lost : Heed s [] s.breakOff

/-- Such things one after the other. -/
inductive Heeds (s : Station) : List Frame → Station → Prop
  | refl : Heeds s [] s
  | step {t u : Station} {a b : List Frame} (before : Heeds s a t) (last : Heed t b u) :
      Heeds s (a ++ b) u

variable {s t u : Station} {a b : List Frame}

theorem Heed.heeds (heed : Heed s a t) : Heeds s a t := .step .refl heed

theorem Heeds.trans (first : Heeds s a t) (later : Heeds t b u) : Heeds s (a ++ b) u := by
  induction later with
  | refl => rwa [List.append_nil]
  | step _ last ih => rw [← List.append_assoc]; exact .step ih last

theorem messages_of_link (same : t.queuePair.link.map Stream.sent =
    s.queuePair.link.map Stream.sent) : t.messages = s.messages :=
  messages_of_sent same

theorem Heed.undisturbed (heed : Heed s a t) : Undisturbed s t := by
  cases heed with
  | more link intake sent => exact ⟨rfl, messages_of_link sent, rfl⟩
  | pass => exact ⟨rfl, rfl, rfl⟩
  | finish => exact ⟨rfl, rfl, rfl⟩
  | unknown | lost =>
    exact ⟨memory_breakOff s, messages_of_sent (sent_breakOff s), nextSequence_fail s⟩

theorem Heeds.undisturbed (heeds : Heeds s a t) : Undisturbed s t := by
  induction heeds with
  | refl => exact ⟨rfl, rfl, rfl⟩
  | step _ last ih =>
    obtain ⟨memory, messages, numbering⟩ := last.undisturbed
    exact ⟨memory.trans ih.memory, messages.trans ih.messages, numbering.trans ih.numbering⟩

theorem WritesOnly.fail (only : s.WritesOnly) : s.fail.WritesOnly where
  receives := by
    unfold Station.fail
    split
    · exact only.receives
    · rfl
  sinks := by
    unfold Station.fail
    split
    · exact only.sinks
    · exact nofun
  sound := by rw [intake_fail]; exact only.sound
  room := by rw [(moves_fail s).grows.depth]; exact only.room

theorem WritesOnly.breakOff (only : s.WritesOnly) : s.breakOff.WritesOnly :=
  have ⟨receives, sinks, _, room⟩ := only.fail
  ⟨receives, sinks, nofun, room⟩

theorem WritesOnly.shutLink (only : s.WritesOnly) : s.shutLink.WritesOnly :=
  ⟨only.receives, only.sinks, only.sound, only.room⟩

/-- A write is taken on. -/
theorem WritesOnly.posted (only : s.WritesOnly) {pending : PendingSend}
    (bare : pending.sink = none) : (s.withPosted pending).WritesOnly where
  receives := only.receives
  sinks entry listed := by
    rcases List.mem_append.mp listed with before | last
    · exact only.sinks entry before
    · rw [List.mem_singleton.mp last]
      exact bare
  sound := only.sound
  room := only.room

/-- A send that is completed leaves the others. -/
theorem WritesOnly.complete (only : s.WritesOnly) (number : Nat) (request : UInt64)
    (operation : Operation) (status : Status) (length : UInt32) :
    ((s.withWork (s.queuePair.work.withoutSend number)).complete request operation status length
      none).WritesOnly where
  receives := only.receives
  sinks entry listed := only.sinks entry (List.mem_filter.mp listed).1
  sound := only.sound
  room := by rw [Station.complete, CompletionQueue.depth_push]; exact only.room

theorem Heed.writesOnly (heed : Heed s a t) (only : s.WritesOnly) : t.WritesOnly := by
  cases heed with
  | more link intake sent deaf sound => exact ⟨only.receives, only.sinks, sound, only.room⟩
  | pass => exact only
  | finish => exact only.complete _ _ _ _ _
  | unknown | lost => exact only.breakOff

theorem Heeds.writesOnly (heeds : Heeds s a t) (only : s.WritesOnly) : t.WritesOnly := by
  induction heeds with
  | refl => exact only
  | step _ last ih => exact last.writesOnly ih

/-- Where nothing waits for an answer, what is heard adds nothing but failures to the reports, and
while the queue pair is alive not even that. -/
structure Dwindles (s t : Station) : Prop where
  cleared : t.Cleared
  pushes : Pushes Unsuccessful s t
  alive : t.queuePair.state ≠ .error →
    s.queuePair.state ≠ .error ∧ t.completions = s.completions

theorem Dwindles.refl (cleared : s.Cleared) : Dwindles s s :=
  ⟨cleared, .refl s, fun alive => ⟨alive, rfl⟩⟩

theorem Dwindles.trans (first : Dwindles s t) (later : Dwindles t u) : Dwindles s u :=
  ⟨later.cleared, first.pushes.trans later.pushes, fun alive =>
    have ⟨before, same⟩ := later.alive alive
    have ⟨start, same'⟩ := first.alive before
    ⟨start, same.trans same'⟩⟩

theorem Cleared.fail (cleared : s.Cleared) : s.fail.Cleared := by
  unfold Station.fail
  split
  · exact cleared
  · exact ⟨rfl, rfl⟩

theorem Cleared.breakOff (cleared : s.Cleared) : Dwindles s s.breakOff :=
  ⟨cleared.fail, pushes_breakOff s, fun alive => absurd s.state_fail alive⟩

theorem Cleared.heed (cleared : s.Cleared) (heed : Heed s a t) : Dwindles s t := by
  cases heed with
  | more => exact ⟨cleared, .of_eq rfl, fun alive => ⟨alive, rfl⟩⟩
  | pass => exact .refl cleared
  | finish hears answer status length posted =>
    rw [send?_of_cleared cleared] at posted
    cases posted
  | unknown | lost => exact cleared.breakOff

theorem Cleared.heeds (cleared : s.Cleared) (heeds : Heeds s a t) : Dwindles s t := by
  induction heeds with
  | refl => exact .refl cleared
  | step _ last ih => exact ih.trans (ih.cleared.heed last)

/-- A queue pair that has failed stays so, and one that does not hear takes nothing. -/
theorem Heed.state (heed : Heed s a t) (failed : s.queuePair.state = .error) :
    t.queuePair.state = .error := by
  cases heed with
  | more | pass | finish => exact failed
  | unknown | lost => exact s.state_fail

theorem Heeds.state (heeds : Heeds s a t) (failed : s.queuePair.state = .error) :
    t.queuePair.state = .error := by
  induction heeds with
  | refl => exact failed
  | step _ last ih => exact last.state ih

/-! ## Bytes -/

/-- An answer is one to a read, or an acknowledgement. -/
theorem answer_paths (registrations : Registrations) (s : Station) {arrival : Arrival}
    (sound : arrival.Sound) (answer : arrival.frame.isAnswer = true) :
    (arrival.header.opcode = Opcode.readResponse ∧
      ∃ payload, s.handle registrations arrival = s.readAnswered arrival.header payload) ∨
    (arrival.header.opcode = Opcode.acknowledgement ∧
      s.handle registrations arrival = s.acknowledged arrival.header) := by
  have kind : arrival.header.opcode = Opcode.readResponse ∨
      arrival.header.opcode = Opcode.acknowledgement := Frame.isAnswer_iff.mp answer
  cases hd : arrival.disposal with
  | some disposal =>
    have suits := sound.suits disposal hd
    simp only [handle, hd]
    cases disposal with
    | store | refuse =>
      rcases suits with h | h <;> rw [h] at kind <;> rcases kind with kind | kind <;> cases kind
    | answer => exact Or.inl ⟨suits.1, _, rfl⟩
    | unwanted => exact Or.inl ⟨suits.1, _, rfl⟩
  | none =>
    simp only [handle, hd, takeBare]
    refine kind.imp (fun response => ⟨response, none, ?_⟩) fun acknowledgement =>
      ⟨acknowledgement, ?_⟩
    · rw [response, if_neg (by decide), if_pos rfl]
    · rw [acknowledgement, if_neg (by decide), if_neg (by decide), if_pos rfl]

/-- The answer to a read fails a send that has no place for its data. -/
theorem heed_readAnswered (only : s.WritesOnly) {frame : Frame} (hears : s.queuePair.intake ≠ none)
    (response : frame.header.opcode = Opcode.readResponse) (payload : Option Bytes) :
    Heed s [frame] (s.readAnswered frame.header payload) := by
  have answer : frame.isAnswer = true := Frame.isAnswer_iff.mpr (Or.inl response)
  have unconfirmed : ¬ frame.confirms = true := by
    rw [Frame.confirms_iff, response]
    exact fun h => absurd h.1 (by decide)
  have failed (status : Status) (other : status ≠ .success) :
      status = .success ↔ frame.confirms = true := iff_of_false other unconfirmed
  unfold readAnswered
  dsimp only
  split
  · next nobody => exact .pass hears answer nobody
  · next send posted =>
    obtain ⟨former, later, split, -⟩ := List.lookup_eq_some_iff.mp posted
    have sink : send.sink = none := by
      refine only.sinks (frame.header.sequence.toNat, send) ?_
      rw [split]
      exact List.mem_append_right _ List.mem_cons_self
    rw [sink]
    split
    · exact .finish hears answer .localProtection 0 posted (failed _ (by decide))
    · next other => exact .finish hears answer _ 0 posted (failed _ other)

/-- A frame that asks for nothing is handled in one of these ways. -/
theorem heed_handle (registrations : Registrations) (only : s.WritesOnly) {arrival : Arrival}
    (hears : s.queuePair.intake ≠ none) (sound : arrival.Sound)
    (quiet : arrival.frame.isRequest = false) :
    Heed s [arrival.frame] (s.handle registrations arrival) := by
  by_cases answer : arrival.frame.isAnswer = true
  · rcases answer_paths registrations s sound answer with
      ⟨response, payload, handled⟩ | ⟨acknowledgement, handled⟩
    · rw [handled]
      exact heed_readAnswered only hears response payload
    · rw [handled]
      unfold acknowledged
      dsimp only
      split
      · next nobody => exact .pass hears answer nobody
      · next send posted =>
        have confirms : arrival.frame.confirms = true ↔ _ := Frame.confirms_iff
        exact .finish hears answer _ _ posted
          ((and_iff_right acknowledgement).symm.trans confirms.symm)
  · have other : arrival.frame.isAnswer = false := by simpa using answer
    rw [handle_unknown registrations s sound (by rw [quiet, other]; decide)]
    exact .unknown hears other

/-- The frames that a byte completes: one, or none. -/
def framesAt (registrations : Registrations) (s : Station) (byte : UInt8) : List Frame :=
  (s.arrival? registrations byte).toList.map Arrival.frame

/-- The frames that bytes complete. -/
def framesIn (registrations : Registrations) (s : Station) : Bytes → List Frame
  | [] => []
  | byte :: rest =>
    s.framesAt registrations byte ++ framesIn registrations (s.feed registrations byte) rest

/-- The frames that are taken when what has arrived on the link is handled. -/
def framesWaiting (registrations : Registrations) (s : Station) : List Frame :=
  match s.queuePair.intake, s.queuePair.link with
  | some _, some stream =>
    (s.withLink (some { stream with waiting := [] })).framesIn registrations stream.waiting
  | _, _ => []

theorem heeds_feed (registrations : Registrations) (only : s.WritesOnly) (byte : UInt8)
    (quiet : ∀ frame ∈ s.framesAt registrations byte, frame.isRequest = false) :
    Heeds s (s.framesAt registrations byte) (s.feed registrations byte) := by
  unfold framesAt at quiet ⊢
  cases h : s.arrival? registrations byte with
  | none =>
    rw [feed_of_no_arrival h]
    refine Heed.heeds (.more s.queuePair.link _ rfl (fun deaf => ?_) fun found longer => ?_)
    · unfold extended
      rw [deaf]
    · cases intake : s.queuePair.intake with
      | none =>
        unfold extended at longer
        rw [intake] at longer
        cases longer
      | some before =>
        obtain ⟨_, same, sound, -⟩ := extended_sound intake (only.sound before intake) h
        rw [same] at longer
        exact Option.some.inj longer ▸ sound
  | some arrival =>
    rw [h] at quiet
    have hears := receiving_of_arrival h
    obtain ⟨before, intake⟩ := Option.ne_none_iff_exists'.mp hears
    obtain ⟨-, sound⟩ := arrival_sound intake (only.sound before intake) h
    have emptied : Heed s [] (s.withIntake (some (.header []))) := by
      refine .more s.queuePair.link _ rfl (fun deaf => absurd deaf hears) fun found same => ?_
      rw [← Option.some.inj same]
      exact Nat.succ_pos 31
    rw [feed_of_arrival h]
    exact .step emptied.heeds (heed_handle registrations (emptied.writesOnly only) nofun sound
      (quiet _ (List.mem_singleton_self _)))

theorem heeds_receive (registrations : Registrations) (only : s.WritesOnly) (bytes : Bytes)
    (quiet : ∀ frame ∈ s.framesIn registrations bytes, frame.isRequest = false) :
    Heeds s (s.framesIn registrations bytes) (s.receive registrations bytes) := by
  induction bytes generalizing s with
  | nil => exact .refl
  | cons byte rest ih =>
    have first := heeds_feed registrations only byte fun frame listed =>
      quiet frame (List.mem_append_left _ listed)
    exact first.trans (ih (first.writesOnly only) fun frame listed =>
      quiet frame (List.mem_append_right _ listed))

/-- What has arrived on the link is heard. -/
theorem heeds_settle (registrations : Registrations) (only : s.WritesOnly)
    (quiet : ∀ frame ∈ s.framesWaiting registrations, frame.isRequest = false) :
    Heeds s (s.framesWaiting registrations) (s.settle registrations) := by
  unfold settle
  split
  · next _ stream hears linked =>
    have emptied : Heed s [] (s.withLink (some { stream with waiting := [] })) :=
      .more (some { stream with waiting := [] }) s.queuePair.intake (by rw [linked]; rfl)
        (fun deaf => deaf) only.sound
    have taken : s.framesWaiting registrations =
        framesIn registrations (s.withLink (some { stream with waiting := [] }))
          stream.waiting := by
      unfold framesWaiting
      rw [hears, linked]
    rw [taken] at quiet ⊢
    have heard : Heeds s _ _ := emptied.heeds.trans
      (heeds_receive registrations (emptied.writesOnly only) stream.waiting quiet)
    dsimp only
    split
    · unfold endOfStream
      split
      · exact heard
      · have ended := Heeds.step heard .lost
        rw [List.append_nil] at ended
        exact ended
    · exact heard
  · next other =>
    have taken : s.framesWaiting registrations = [] := by
      unfold framesWaiting
      split
      · next hears linked => exact absurd linked (other _ _ hears)
      · rfl
    rw [taken]
    exact .refl

/-! ## How a send fares -/

/-- A queue pair that waits for nothing and has nothing but failures to report. -/
structure Rests (s : Station) : Prop where
  cleared : s.Cleared
  failures : ∀ report ∈ s.completions.toList, Unsuccessful report
  alive : s.queuePair.state ≠ .error → s.completions.toList = [] ∧ s.completions.fault = false

/-- How a send fares that was taken on alone; `handed` was taken out of the completion queue
since. -/
inductive Fares (log : List Mark) (number : Nat) (request : UInt64) (handed : List Completion)
    (s : Station) : Prop
  /-- It waits for its answer. -/
  | waits {pending : PendingSend} (unsettled : settlement number log = none)
      (alone : s.queuePair.work.outstanding = [(number, pending)])
      (same : pending.request = request) (alive : s.queuePair.state ≠ .error)
      (nothing : handed = []) (empty : s.completions.toList = [])
      (whole : s.completions.fault = false)
  /-- It was acknowledged.  Its completion comes first, and only failures come after it. -/
  | confirmed {report : Completion} {failures : List Completion}
      (acknowledged : Acknowledged number log) (cleared : s.Cleared)
      (reports : handed ++ s.completions.toList = report :: failures)
      (success : report.succeeded = true) (same : report.request = request)
      (others : ∀ failure ∈ failures, Unsuccessful failure)
      (alone : s.queuePair.state ≠ .error → failures = [] ∧ s.completions.fault = false)
  /-- It failed, and no acknowledgement can come any more. -/
  | failed (unacknowledged : ¬ Acknowledged number log)
      (deaf : settlement number log = none → s.queuePair.intake = none) (cleared : s.Cleared)
      (failures : ∀ failure ∈ handed ++ s.completions.toList, Unsuccessful failure)

variable {log : List Mark} {number : Nat} {request : UInt64} {handed : List Completion}

theorem Rests.dwindles (rests : s.Rests) (dwindles : Dwindles s t) : t.Rests := by
  obtain ⟨kept, held, failures⟩ := dwindles.pushes.toList
  refine ⟨dwindles.cleared, fun report listed => ?_, fun alive => ?_⟩
  · rw [held] at listed
    exact (List.mem_append.mp listed).elim (rests.failures report) (failures report)
  · obtain ⟨before, same⟩ := dwindles.alive alive
    rw [same]
    exact rests.alive before

/-- What is heard when a send was acknowledged changes nothing of that. -/
theorem Fares.confirmed_dwindles {report : Completion} {failures : List Completion}
    (acknowledged : Acknowledged number log)
    (reports : handed ++ s.completions.toList = report :: failures)
    (success : report.succeeded = true) (same : report.request = request)
    (others : ∀ failure ∈ failures, Unsuccessful failure)
    (alone : s.queuePair.state ≠ .error → failures = [] ∧ s.completions.fault = false)
    (dwindles : Dwindles s t) : Fares log number request handed t := by
  obtain ⟨kept, held, failed⟩ := dwindles.pushes.toList
  have all : handed ++ t.completions.toList = report :: (failures ++ kept) := by
    rw [held, ← List.append_assoc, reports]
    rfl
  refine .confirmed acknowledged dwindles.cleared all success same
    (fun failure listed => (List.mem_append.mp listed).elim (others failure) (failed failure))
    fun alive => ?_
  · obtain ⟨before, unchanged⟩ := dwindles.alive alive
    obtain ⟨none, whole⟩ := alone before
    rw [unchanged] at held ⊢
    rw [none, List.self_eq_append_right.mp held]
    exact ⟨rfl, whole⟩

theorem Fares.failed_dwindles (unacknowledged : ¬ Acknowledged number log)
    (deaf : settlement number log = none → t.queuePair.intake = none)
    (failures : ∀ failure ∈ handed ++ s.completions.toList, Unsuccessful failure)
    (dwindles : Dwindles s t) : Fares log number request handed t := by
  obtain ⟨kept, held, failed⟩ := dwindles.pushes.toList
  refine .failed unacknowledged deaf dwindles.cleared fun failure listed => ?_
  rw [held, ← List.append_assoc] at listed
  exact (List.mem_append.mp listed).elim (failures failure) (failed failure)

/-- A queue pair that does not hear takes no frame. -/
theorem Heed.deaf (heed : Heed s a t) (deaf : s.queuePair.intake = none) :
    a = [] ∧ t.queuePair.intake = none := by
  cases heed with
  | more link intake sent still => exact ⟨rfl, still deaf⟩
  | pass hears | finish hears | unknown hears => exact absurd deaf hears
  | lost => exact ⟨rfl, rfl⟩

/-- The send that waits alone is the one that is found. -/
theorem send?_alone {pending : PendingSend} (alone : s.queuePair.work.outstanding =
    [(number, pending)]) (other : Nat) :
    s.queuePair.work.send? other = if other = number then some pending else none := by
  rw [Work.send?, alone, List.lookup_cons]
  by_cases same : other = number
  · rw [if_pos same, beq_iff_eq.mpr same]
  · rw [if_neg same, beq_eq_false_iff_ne.mpr same]
    rfl

/-- Whatever ends the send that waits alone, its completion is all there is. -/
theorem ended_alone (only : s.WritesOnly) {pending : PendingSend}
    (alone : s.queuePair.work.outstanding = [(number, pending)])
    (empty : s.completions.toList = []) (whole : s.completions.fault = false) (status : Status)
    (length : UInt32) :
    let ended := (s.withWork (s.queuePair.work.withoutSend number)).complete pending.request
      pending.operation status length none
    ended.Cleared ∧ ended.completions.fault = false ∧ ended.completions.toList =
      [s.report pending.request pending.operation status length none] := by
  have room : s.completions.size < s.completions.depth := by
    rw [CompletionQueue.size_eq_length, empty]
    exact only.room
  refine ⟨⟨?_, only.receives⟩, ?_, ?_⟩
  · show s.queuePair.work.outstanding.filter _ = []
    rw [alone]
    simp
  · show (s.completions.push _).fault = false
    rw [CompletionQueue.push_of_room room]
    exact whole
  · show (s.completions.push _).toList = _
    rw [CompletionQueue.toList_push_of_room room, empty]
    rfl

/-- Where the link is lost before an answer came, none can come any more. -/
theorem Fares.broken (alive : s.queuePair.state ≠ .error) (nothing : handed = [])
    (empty : s.completions.toList = []) (unsettled : settlement number log = none) :
    Fares log number request handed s.breakOff := by
  obtain ⟨kept, held, failed⟩ := s.pushes_breakOff.toList
  have flushed : s.breakOff.queuePair.work = Work.none := (flushes_breakOff alive).work
  refine .failed ?_ (fun _ => rfl) (by rw [Cleared, flushed]; exact ⟨rfl, rfl⟩) ?_
  · rintro ⟨frame, settled, -⟩
    rw [unsettled] at settled
    cases settled
  · rw [nothing, held, empty]
    exact failed

/-- The first answer to a send that waits settles it. -/
theorem Fares.answered (only : s.WritesOnly) {pending : PendingSend}
    (alone : s.queuePair.work.outstanding = [(number, pending)])
    (same : pending.request = request) (nothing : handed = [])
    (empty : s.completions.toList = []) (whole : s.completions.fault = false) {frame : Frame}
    (settled : settlement number log = some (.took frame)) (status : Status) (length : UInt32)
    (success : status = .success ↔ frame.confirms = true) :
    Fares log number request handed ((s.withWork (s.queuePair.work.withoutSend number)).complete
      pending.request pending.operation status length none) := by
  obtain ⟨cleared, unfaulted, held⟩ := ended_alone only alone empty whole status length
  by_cases confirms : frame.confirms = true
  · have succeeded : (s.report pending.request pending.operation status length none).succeeded =
        true := beq_iff_eq.mpr (success.mpr confirms)
    refine .confirmed ⟨frame, settled, confirms⟩ cleared ?_ succeeded same (List.forall_mem_nil _)
      fun _ => ⟨rfl, unfaulted⟩
    rw [nothing, held]
    rfl
  · refine .failed (not_acknowledged settled fun other its => ?_) (fun none => ?_) cleared
      fun failure listed => ?_
    · cases its
      exact eq_false_of_ne_true confirms
    · rw [settled] at none
      cases none
    · rw [nothing, held] at listed
      rw [List.mem_singleton.mp listed]
      exact fun succeeded => confirms (success.mp succeeded)

theorem Fares.heed (fares : Fares log number request handed s) (only : s.WritesOnly)
    (asked : .asked number ∈ log) (heed : Heed s a t) :
    Fares (log ++ a.map Mark.took) number request handed t := by
  cases fares with
  | confirmed acknowledged cleared reports success same others alone =>
    exact confirmed_dwindles (acknowledged.append _) reports success same others alone
      (cleared.heed heed)
  | failed unacknowledged deaf cleared failures =>
    cases past : settlement number log with
    | some mark =>
      obtain ⟨settled, still⟩ := unacknowledged_append past unacknowledged (a.map Mark.took)
      exact failed_dwindles still (fun none => absurd none settled) failures (cleared.heed heed)
    | none =>
      obtain ⟨rfl, still⟩ := heed.deaf (deaf past)
      rw [List.map_nil, List.append_nil]
      exact failed_dwindles unacknowledged (fun _ => still) failures (cleared.heed heed)
  | @waits pending unsettled alone same alive nothing empty whole =>
    have others {frame : Frame} (other : frame.answers number = false) :
        settlement number (log ++ [.took frame]) = none := by
      rw [settlement_concat asked unsettled, Mark.settles, if_neg (by rw [other]; decide)]
    cases heed with
    | more link intake =>
      rw [List.map_nil, List.append_nil]
      exact .waits unsettled alone same alive nothing empty whole
    | @pass frame hears answer nobody =>
      refine .waits (others ?_) alone same alive nothing empty whole
      rw [send?_alone alone] at nobody
      split at nobody
      · cases nobody
      · next other => rw [Frame.answers, beq_eq_false_iff_ne.mpr other, Bool.and_false]
    | @finish frame send hears answer status length posted success =>
      rw [send?_alone alone] at posted
      split at posted
      · next its =>
        cases posted
        have first : frame.answers number = true := by
          rw [Frame.answers, answer, beq_iff_eq.mpr its]
          rfl
        have settled := settlement_concat asked unsettled (.took frame)
        rw [Mark.settles, if_pos first] at settled
        rw [its]
        exact .answered only alone same nothing empty whole settled status length success
      · cases posted
    | @unknown frame hears other =>
      exact .broken alive nothing empty (others (by rw [Frame.answers, other, Bool.false_and]))
    | lost =>
      rw [List.map_nil, List.append_nil]
      exact .broken alive nothing empty unsettled

theorem Fares.heeds (fares : Fares log number request handed s) (only : s.WritesOnly)
    (asked : .asked number ∈ log) (heeds : Heeds s a t) :
    Fares (log ++ a.map Mark.took) number request handed t := by
  induction heeds with
  | refl => rwa [List.map_nil, List.append_nil]
  | step before last ih =>
    rw [List.map_append, ← List.append_assoc]
    exact ih.heed (before.writesOnly only) (List.mem_append_left _ asked) last

/-! ## The frame of a send -/

/-- What is noted when the frame of a send goes to the link. -/
def launched (s : Station) (frame : Frame) (number : Nat) : Mark :=
  match (s.transmit frame.header frame.payload).1 with
  | .ok () => .wrote frame
  | .error _ => .refused number

/-- The frame is written to the link; or the link refuses it, and the send is lost. -/
theorem launched_cases (s : Station) (frame : Frame) (number : Nat) :
    (∃ stream, s.queuePair.link = some stream ∧ s.launched frame number = .wrote frame ∧
      s.launch frame number = s.withLink (some (stream.wrote frame.toBytes))) ∨
    (s.launched frame number = .refused number ∧ ∃ link,
      link.map Stream.sent = s.queuePair.link.map Stream.sent ∧
      s.launch frame number = (s.withLink link).sendLost number) := by
  unfold launched launch
  rcases s.transmit_cases frame.header frame.payload with
    ⟨stream, linked, sent⟩ | ⟨e, stream, part, linked, tried⟩ | ⟨e, linked, tried⟩
  · rw [sent]
    exact Or.inl ⟨stream, linked, rfl, rfl⟩
  · rw [tried]
    exact Or.inr ⟨rfl, _, by rw [linked]; rfl, rfl⟩
  · rw [tried]
    exact Or.inr ⟨rfl, s.queuePair.link, rfl, rfl⟩

theorem state_sendLost (s : Station) (number : Nat) :
    (s.sendLost number).queuePair.state = .error :=
  state_fail _

theorem settlement_wrote (asked : .asked number ∈ log) (frame : Frame) :
    settlement number (log ++ [.wrote frame]) = settlement number log := by
  cases past : settlement number log with
  | none => exact (settlement_concat asked past _).trans (if_neg Bool.false_ne_true)
  | some mark => exact settlement_append past _

theorem Fares.withLink (fares : Fares log number request handed s) {later : List Mark}
    (same : settlement number later = settlement number log) (link : Option Stream) :
    Fares later number request handed (s.withLink link) := by
  have acknowledged : Acknowledged number later ↔ Acknowledged number log := by
    unfold Acknowledged
    rw [same]
  cases fares with
  | waits unsettled alone its alive nothing empty whole =>
    exact .waits (same.trans unsettled) alone its alive nothing empty whole
  | confirmed confirmed cleared reports success its others alone =>
    exact .confirmed (acknowledged.mpr confirmed) cleared reports success its others alone
  | failed unacknowledged deaf cleared failures =>
    exact .failed (mt acknowledged.mp unacknowledged) (fun none => deaf (same.symm.trans none))
      cleared failures

/-- A send whose frame is refused has failed, unless it was acknowledged before. -/
theorem Fares.sendLost (fares : Fares log number request handed s) (only : s.WritesOnly)
    (asked : .asked number ∈ log) :
    Fares (log ++ [.refused number]) number request handed (s.sendLost number) := by
  have refused : Mark.settles number (.refused number) = true := beq_self_eq_true number
  have idle (cleared : s.Cleared) : Dwindles s (s.sendLost number) := by
    have same : s.sendLost number = s.fail.shutLink := by
      rw [sendLost_eq, send?_of_cleared cleared]
    rw [same]
    exact ⟨cleared.fail, pushes_fail s, fun alive => absurd s.state_fail alive⟩
  cases fares with
  | confirmed acknowledged cleared reports success same others alone =>
    exact confirmed_dwindles (acknowledged.append _) reports success same others alone
      (idle cleared)
  | failed unacknowledged deaf cleared failures =>
    cases past : settlement number log with
    | some mark =>
      obtain ⟨settled, still⟩ := unacknowledged_append past unacknowledged [.refused number]
      exact failed_dwindles still (fun none => absurd none settled) failures (idle cleared)
    | none =>
      have settled := settlement_concat asked past (.refused number)
      rw [if_pos refused] at settled
      refine failed_dwindles (not_acknowledged settled nofun) (fun none => ?_) failures
        (idle cleared)
      rw [settled] at none
      cases none
  | @waits pending unsettled alone same alive nothing empty whole =>
    have settled := settlement_concat asked unsettled (.refused number)
    rw [if_pos refused] at settled
    obtain ⟨cleared, -, held⟩ := ended_alone only alone empty whole .linkLost 0
    have lost : s.sendLost number =
        ((s.withWork (s.queuePair.work.withoutSend number)).complete pending.request
          pending.operation .linkLost 0 none).fail.shutLink := by
      rw [sendLost_eq, send?_alone alone, if_pos rfl]
    obtain ⟨kept, flushed, failed⟩ := (pushes_fail ((s.withWork
      (s.queuePair.work.withoutSend number)).complete pending.request pending.operation .linkLost 0
        none)).toList
    rw [lost]
    refine .failed (not_acknowledged settled nofun) (fun none => ?_) cleared.fail
      fun failure listed => ?_
    · rw [settled] at none
      cases none
    · rw [nothing, List.nil_append] at listed
      change failure ∈ (Station.fail _).completions.toList at listed
      rw [flushed] at listed
      rcases List.mem_append.mp listed with first | more
      · rw [held] at first
        rw [List.mem_singleton.mp first]
        exact nofun
      · exact failed failure more

theorem Fares.launch (fares : Fares log number request handed s) (only : s.WritesOnly)
    (asked : .asked number ∈ log) (frame : Frame) :
    Fares (log ++ [s.launched frame number]) number request handed (s.launch frame number) := by
  rcases s.launched_cases frame number with
    ⟨stream, -, wrote, launched⟩ | ⟨refused, link, -, launched⟩
  · rw [wrote, launched]
    exact fares.withLink (settlement_wrote asked frame) _
  · rw [refused, launched]
    exact (fares.withLink rfl link).sendLost
      ⟨only.receives, only.sinks, only.sound, only.room⟩ asked

theorem WritesOnly.launch (only : s.WritesOnly) (frame : Frame) (number : Nat) :
    (s.launch frame number).WritesOnly := by
  rcases s.launched_cases frame number with
    ⟨stream, -, -, launched⟩ | ⟨-, link, -, launched⟩
  · rw [launched]
    exact ⟨only.receives, only.sinks, only.sound, only.room⟩
  · have linked : (s.withLink link).WritesOnly :=
      ⟨only.receives, only.sinks, only.sound, only.room⟩
    rw [launched, sendLost_eq]
    split
    · exact (linked.complete number _ _ _ _).fail.shutLink
    · exact linked.fail.shutLink

/-- What is written to the link is what is noted. -/
theorem messages_launch (s : Station) (frame : Frame) (number : Nat) :
    (s.launch frame number).messages =
      s.messages ++ (framesWritten [s.launched frame number]).map Frame.toBytes := by
  rcases s.launched_cases frame number with
    ⟨stream, linked, wrote, launched⟩ | ⟨refused, link, sent, launched⟩
  · rw [wrote, launched]
    unfold messages
    rw [linked]
    rfl
  · rw [refused, launched, messages_sendLost, messages_of_link sent]
    exact (List.append_nil _).symm

/-! ## Beginning and end of a send -/

/-- A send that is taken on where nothing waits waits alone. -/
theorem Rests.posted (rests : s.Rests) (alive : s.queuePair.state ≠ .error)
    (fresh : .asked s.queuePair.nextSequence ∉ log) (pending : PendingSend) :
    Fares (log ++ [.asked s.queuePair.nextSequence]) s.queuePair.nextSequence pending.request []
      (s.withPosted pending) := by
  obtain ⟨empty, whole⟩ := rests.alive alive
  refine .waits (settlement_asked fresh) ?_ rfl alive rfl empty whole
  show s.queuePair.work.outstanding ++ _ = _
  rw [rests.cleared.1]
  rfl

/-- What is drained is handed on. -/
theorem Fares.drained (fares : Fares log number request [] s) {queue : CompletionQueue}
    (emptied : queue.toList = []) (reset : queue.fault = false) {loss : Completion}
    (failure : Unsuccessful loss) :
    Fares log number request
      (s.completions.toList ++ if s.completions.fault then [loss] else [])
      { s with completions := queue } := by
  have lost : ∀ report ∈ (if s.completions.fault then [loss] else []), Unsuccessful report := by
    intro report listed
    split at listed
    · rw [List.mem_singleton.mp listed]
      exact failure
    · cases listed
  cases fares with
  | waits unsettled alone same alive nothing empty whole =>
    rw [empty, whole]
    exact .waits unsettled alone same alive rfl emptied reset
  | @confirmed report failures acknowledged cleared reports success same others alone =>
    have all : (s.completions.toList ++ if s.completions.fault then [loss] else []) ++
        queue.toList = report :: (failures ++ if s.completions.fault then [loss] else []) := by
      rw [List.nil_append] at reports
      rw [emptied, List.append_nil, reports]
      rfl
    refine .confirmed acknowledged cleared all success same (fun report listed =>
      (List.mem_append.mp listed).elim (others report) (lost report)) fun alive => ?_
    obtain ⟨none, whole⟩ := alone alive
    rw [none, whole]
    exact ⟨rfl, reset⟩
  | failed unacknowledged deaf cleared failures =>
    refine .failed unacknowledged deaf cleared fun report listed => ?_
    rw [emptied, List.append_nil] at listed
    exact (List.mem_append.mp listed).elim (failures report) (lost report)

/-- The first that is handed on tells how the send has ended. -/
theorem Fares.first {report : Completion}
    (fares : Fares log number request (report :: handed) s) :
    (report.succeeded = true ∧ report.request = request ∧ Acknowledged number log ∧ s.Rests) ∨
      (report.succeeded = false ∧ ¬ Acknowledged number log) := by
  cases fares with
  | waits unsettled alone same alive nothing => cases nothing
  | confirmed acknowledged cleared reports success same others alone =>
    obtain ⟨rfl, rfl⟩ := List.cons.inj reports
    refine Or.inl ⟨success, same, acknowledged, cleared, fun failure listed =>
      others failure (List.mem_append_right _ listed), fun alive => ?_⟩
    obtain ⟨none, whole⟩ := alone alive
    exact ⟨(List.append_eq_nil_iff.mp none).2, whole⟩
  | failed unacknowledged deaf cleared failures =>
    exact Or.inr ⟨beq_eq_false_iff_ne.mpr (failures report List.mem_cons_self), unacknowledged⟩

end Station

end RdmaLink
