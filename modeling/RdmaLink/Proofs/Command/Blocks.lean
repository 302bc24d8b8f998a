import RdmaLink.Command.Isolated
import RdmaLink.Proofs.Command.Course
import RdmaLink.Proofs.Command.Serving
import RdmaLink.Proofs.Since

/-!
# What a transfer sends

The command `connect` sends its blocks in order, each under the number after that of the one
before, and each only when the send of the one before was acknowledged (`Paced`).  What it reports
at the end is what was sent (`Course.Truthful`), but for one thing: the peer may acknowledge a send
while its frame is still on the way to the link, and the link may then refuse the frame.  So the
frame of the last block may be missing after a transfer that is reported as complete (`Short`).

    Quiet c.log → c.Truthful shipment peer prior       for c = (Course.of e).run shipment events

Every stage of a block says how far the link has come and what has become of the send (`Stage`);
one lemma for each step of a course leads from stage to stage (`orderly_step`).
-/

namespace RdmaLink

/-- What is filled reads back. -/
theorem Memory.read_filled {memory : Memory} {id : RegionId} {region : Region} {size : Nat}
    (known : memory.region? id = some region) (inside : region.contains 0 size = true)
    (value : UInt8) :
    (memory.put id (region.filled 0 size value)).read id 0 size =
      .ok (List.replicate size value) := by
  unfold Memory.read
  rw [region?_put, if_pos rfl, known]
  have same : (region.filled 0 size value).slice 0 size = List.replicate size value := by
    refine List.ext_getElem (by simp) fun i first _ => ?_
    rw [Region.slice_getElem, List.getElem_replicate]
    rw [Region.length_slice] at first
    exact if_pos ⟨by omega, by omega⟩
  show (if (region.filled 0 size value).contains 0 size = true then _ else _) = _
  rw [if_pos (show (region.filled 0 size value).contains 0 size = true from inside), same]

/-- A drain empties the completion queue and leaves the queue pair and the papers as they are. -/
theorem Session.kept_drain (s : Session) {here : Station} (present : s.station? = some here) :
    s.drain.2.connection.papers = s.connection.papers ∧ s.drain.2.station? =
      some { here with completions := here.completions.drain.2.takeFault.2 } := by
  obtain ⟨papers, -, pair⟩ := kept_of_observed s.drain.1
    { s.connection with completions := s.connection.completions.drain.2.takeFault.2 }
  have same : s.drain.2.connection.queuePair = s.connection.queuePair := pair
  obtain ⟨q, found, rfl⟩ := Option.map_eq_some_iff.mp present
  refine ⟨papers, ?_⟩
  unfold station?
  rw [same, found, s.completions_drain]
  rfl

namespace Command

variable {peer : RemoteRegion} {size count block number : Nat} {log later : List Mark}
  {here there : Station} {frames : List Frame} {mark : Mark}

/-! ## Blocks -/

/-- The frame of a block: a write with immediate, to the start of the region of the peer. -/
def blockFrame (peer : RemoteRegion) (size block : Nat) : Frame :=
  ⟨Header.write (UInt64.ofNat (block + 1)) peer.address peer.key (UInt32.ofNat size)
    (some (UInt32.ofNat block)), List.replicate size (UInt8.ofNat block)⟩

/-- The frames of the first blocks. -/
def blockFrames (peer : RemoteRegion) (size count : Nat) : List Frame :=
  (List.range count).map (blockFrame peer size)

@[simp] theorem length_blockFrames (peer : RemoteRegion) (size count : Nat) :
    (blockFrames peer size count).length = count := by simp [blockFrames]

theorem blockFrames_succ (peer : RemoteRegion) (size count : Nat) :
    blockFrames peer size (count + 1) =
      blockFrames peer size count ++ [blockFrame peer size count] := by
  simp [blockFrames, List.range_succ]

theorem blockFrames_inj {a b : Nat} (same : blockFrames peer size a = blockFrames peer size b) :
    a = b := by
  simpa using congrArg List.length same

/-! ## Logs -/

/-- The peer asks for nothing. -/
def Quiet (log : List Mark) : Prop := ∀ frame, .took frame ∈ log → frame.isRequest = false

theorem Quiet.earlier (quiet : Quiet (log ++ later)) : Quiet log :=
  fun frame listed => quiet frame (List.mem_append_left _ listed)

/-- No frame was written before the send of the previous one was acknowledged. -/
def Paced (log : List Mark) : Prop :=
  ∀ before frame after, log = before ++ .wrote frame :: after → framesWritten before ≠ [] →
    Acknowledged (framesWritten before).length before

theorem Paced.concat (paced : Paced log) (now : ∀ frame, mark = .wrote frame →
    framesWritten log ≠ [] → Acknowledged (framesWritten log).length log) :
    Paced (log ++ [mark]) := by
  intro before frame after split some
  rcases parts_concat split with ⟨rfl, wrote, -⟩ | ⟨between, rfl, earlier⟩
  · exact now frame wrote.symm some
  · exact paced before frame between earlier some

theorem Paced.heard (paced : Paced log) (frames : List Frame) :
    Paced (log ++ frames.map .took) := by
  induction frames generalizing log with
  | nil => rwa [List.map_nil, List.append_nil]
  | cons frame rest ih =>
    have taken : Paced (log ++ [.took frame]) := paced.concat nofun
    have all := ih taken
    rwa [List.append_assoc] at all

theorem framesWritten_heard (log : List Mark) (frames : List Frame) :
    framesWritten (log ++ frames.map .took) = framesWritten log := by
  rw [framesWritten_append, framesWritten_took, List.append_nil]

theorem mem_asked_heard : .asked number ∈ log ++ frames.map .took ↔ .asked number ∈ log := by
  simp

/-- All blocks but the last were written.  The last one was acknowledged before the link refused
its frame. -/
def Short (peer : RemoteRegion) (size count : Nat) (log : List Mark) : Prop :=
  (∃ block, count = block + 1 ∧ framesWritten log = blockFrames peer size block) ∧
    ∃ before after, log = before ++ .refused count :: after ∧ Acknowledged count before

theorem Short.heard (short : Short peer size count log) (frames : List Frame) :
    Short peer size count (log ++ frames.map .took) := by
  obtain ⟨⟨block, last, written⟩, before, after, rfl, acknowledged⟩ := short
  exact ⟨⟨block, last, (framesWritten_heard _ frames).trans written⟩, before,
    after ++ frames.map .took, by simp, acknowledged⟩

/-- So many blocks were completed, and all of their frames were written, or the last one was not,
and the queue pair has failed. -/
structure Completed (peer : RemoteRegion) (size count : Nat) (log : List Mark) (here : Station) :
    Prop where
  acknowledged : 0 < count → Acknowledged count log
  frames : framesWritten log = blockFrames peer size count ∨
    (here.queuePair.state = .error ∧ Short peer size count log)

theorem Completed.heeds (completed : Completed peer size count log here)
    (heeds : here.Heeds frames there) :
    Completed peer size count (log ++ frames.map .took) there where
  acknowledged some := (completed.acknowledged some).append _
  frames := completed.frames.imp (framesWritten_heard log frames).trans
    fun ⟨failed, short⟩ => ⟨heeds.state failed, short.heard frames⟩

/-- What was written is a beginning of the blocks. -/
theorem Completed.written (completed : Completed peer size count log here) :
    ∃ block, block ≤ count ∧ framesWritten log = blockFrames peer size block := by
  rcases completed.frames with all | ⟨-, ⟨block, last, written⟩, -⟩
  · exact ⟨count, Nat.le_refl _, all⟩
  · exact ⟨block, by omega, written⟩

/-! ## The connection -/

/-- The connection of an endpoint over which blocks go: it has a registration of the region, the
record of the peer, and a queue pair on whose link the frames of the log are. -/
structure Carries (peer : RemoteRegion) (prior : List Bytes) (log : List Mark) (e : Endpoint)
    (s : Session) (here : Station) : Prop where
  holds : e.Holds s
  registered : ∃ registration, s.connection.registration = some registration ∧
    s.device.registrations.byLocalKey? registration.localKey = some registration ∧
    registration.Placed ∧ registration.length < 2 ^ 32 ∧ registration.region = e.region
  met : ∃ record, s.connection.peerRecord = some record ∧ record.region = peer
  present : s.station? = some here
  only : here.WritesOnly
  written : here.messages = prior ++ (framesWritten log).map Frame.toBytes
  numbered : ∀ number, .asked number ∈ log → number < here.queuePair.nextSequence

section Connections

variable {prior : List Bytes} {e : Endpoint} {s : Session}

/-- The queue pair goes on. -/
theorem Carries.withStation (carries : Carries peer prior log e s here) (only : there.WritesOnly)
    (written : there.messages = prior ++ (framesWritten later).map Frame.toBytes)
    (numbered : ∀ number, .asked number ∈ later → number < there.queuePair.nextSequence) :
    Carries peer prior later (e.withSession (s.withStation there)) (s.withStation there) there where
  holds := carries.holds.withSession rfl
  registered := by
    rw [show (e.withSession (s.withStation there)).region = e.region from
      Endpoint.region_afterSession e _]
    exact carries.registered
  met := carries.met
  present := rfl
  only := only
  written := written
  numbered := numbered

/-- The owner fills the region. -/
theorem Carries.withMemory (carries : Carries peer prior log e s here) (memory : Memory) :
    Carries peer prior log { e with memory := memory } { s with memory := memory }
      { here with memory := memory } where
  holds := carries.holds.withMemory memory
  registered := carries.registered
  met := carries.met
  present := by
    obtain ⟨q, found, rfl⟩ := Option.map_eq_some_iff.mp carries.present
    show Option.map _ s.connection.queuePair = _
    rw [found]
    rfl
  only := ⟨carries.only.receives, carries.only.sinks, carries.only.sound, carries.only.room⟩
  written := carries.written
  numbered := carries.numbered

theorem Carries.messages (carries : Carries peer prior log e s here) :
    s.connection.messages = prior ++ (framesWritten log).map Frame.toBytes :=
  (Session.messages_of_present carries.present).trans carries.written

/-- What arrives is heard. -/
theorem Carries.deliver (carries : Carries peer prior log e s here) (bytes : Bytes) (ended : Bool)
    (quiet : Quiet (log ++ (s.heard bytes ended).map .took)) :
    ∃ t there, e.deliver s.connection.id bytes ended = e.withSession t ∧
      t.connection.id = s.connection.id ∧ here.Heeds (s.heard bytes ended) there ∧
      Carries peer prior (log ++ (s.heard bytes ended).map .took) (e.withSession t) t there := by
  obtain ⟨there, delivered, heeds⟩ := Session.deliver_heeds carries.present carries.only bytes ended
    fun frame listed => quiet frame (List.mem_append_right _ (List.mem_map_of_mem listed))
  have undisturbed := heeds.undisturbed
  refine ⟨s.withStation there, there, ?_, rfl, heeds, carries.withStation
    (heeds.writesOnly carries.only) ?_ fun number asked => ?_⟩
  · have found := carries.holds.found s.connection.id
    rw [if_pos rfl] at found
    unfold Endpoint.deliver
    rw [found]
    dsimp only
    rw [carries.holds.session, delivered]
  · rw [undisturbed.messages, carries.written, framesWritten_heard]
  · rw [undisturbed.numbering]
    exact carries.numbered number (mem_asked_heard.mp asked)

theorem region_collect (e : Endpoint) (sources : List Source) :
    (e.collect sources).2.region = e.region :=
  Endpoint.collect_preserves (P := fun t => t.region = e.region) (R := fun _ _ => True)
    (fun t _ _ after same _ _ => (Endpoint.region_afterSession t after).trans same)
    (fun _ => trivial) rfl sources

/-- What is collected are the completions of a drain, or nothing is. -/
theorem Carries.collect (carries : Carries peer prior log e s here) (sources : List Source) :
    ((e.collect sources).1 = [] ∧ Carries peer prior log (e.collect sources).2 s here) ∨
      ∃ t loss, Station.Unsuccessful loss ∧
        let emptied := here.completions.drain.2.takeFault.2
        (e.collect sources).1 = (here.completions.toList ++
          if here.completions.fault then [loss] else []).map
            (Event.ofCompletion s.connection.id) ∧
        t.connection.id = s.connection.id ∧
        Carries peer prior log (e.collect sources).2 t { here with completions := emptied } := by
  have same := region_collect e sources
  have registered := carries.registered
  rw [← same] at registered
  rcases carries.holds.collect sources with ⟨nothing, kept⟩ | ⟨given, kept⟩
  · exact Or.inl ⟨nothing, kept, registered, carries.met, carries.present, carries.only,
      carries.written, carries.numbered⟩
  · obtain ⟨loss, failed, reports⟩ := s.drain_reports
    obtain ⟨papers, drained⟩ := s.kept_drain carries.present
    obtain ⟨registration, held, rest⟩ := registered
    obtain ⟨record, met, its⟩ := carries.met
    have emptied : (here.completions.drain.2.takeFault.2).depth = here.completions.depth := by
      rw [CompletionQueue.drain_eq]
      rfl
    have queue : s.connection.completions = here.completions := by
      obtain ⟨q, -, rfl⟩ := Option.map_eq_some_iff.mp carries.present
      rfl
    rw [reports, queue] at given
    exact Or.inr ⟨s.drain.2, loss, beq_eq_false_iff_ne.mp failed, given, s.id_step .drain, kept,
      ⟨registration, (congrArg Prod.fst papers).trans held, rest⟩,
      ⟨record, (congrArg (fun papers => papers.2.2) papers).trans met, its⟩, drained,
      ⟨carries.only.receives, carries.only.sinks, carries.only.sound,
        emptied ▸ carries.only.room⟩, carries.written, carries.numbered⟩

end Connections

/-! ## Where a course stands -/

/-- Where a transfer stands with a block, while it is not over. -/
inductive Stage (shipment : Shipment) (peer : RemoteRegion) (region : RegionId) (block : Nat)
    (log : List Mark) (here : Station) : Phase → Prop
  /-- All blocks before are completed. -/
  | between (upto : block ≤ shipment.count) (rests : here.Rests)
      (next : here.queuePair.nextSequence = block + 1)
      (completed : Completed peer shipment.size block log here) :
      Stage shipment peer region block log here .between
  /-- The region holds the bytes of the block. -/
  | filled (more : block < shipment.count) (rests : here.Rests)
      (next : here.queuePair.nextSequence = block + 1)
      (completed : Completed peer shipment.size block log here)
      (holds : here.memory.read region 0 shipment.size =
        .ok (List.replicate shipment.size (UInt8.ofNat block))) :
      Stage shipment peer region block log here .filled
  /-- The send of the block waits. -/
  | writing {post : Post} (more : block < shipment.count)
      (frame : post.frame = blockFrame peer shipment.size block)
      (sequence : post.sequence = block + 1) (next : here.queuePair.nextSequence = block + 2)
      (acknowledged : 0 < block → Acknowledged block log)
      (written : framesWritten log = blockFrames peer shipment.size block)
      (asked : .asked (block + 1) ∈ log)
      (fares : Station.Fares log (block + 1) (UInt32.ofNat block).toUInt64 [] here) :
      Stage shipment peer region block log here (.writing post)
  /-- The send of the block waits or has ended; its frame was written or refused. -/
  | awaiting {batch : List Event} {handed : List Completion} (more : block < shipment.count)
      (next : here.queuePair.nextSequence = block + 2)
      (written : framesWritten log = blockFrames peer shipment.size (block + 1) ∨
        (framesWritten log = blockFrames peer shipment.size block ∧
          here.queuePair.state = .error ∧ Denied (block + 1) log))
      (asked : .asked (block + 1) ∈ log)
      (fares : Station.Fares log (block + 1) (UInt32.ofNat block).toUInt64 handed here)
      (reports : batch = handed.map (Event.ofCompletion shipment.connection)) :
      Stage shipment peer region block log here (.awaiting batch)

/-- What is reported at the end is what was sent. -/
def Reported (shipment : Shipment) (peer : RemoteRegion) (log : List Mark) : TransferEnd → Prop
  | .finished false =>
    (0 < shipment.count → Acknowledged shipment.count log) ∧
      (framesWritten log = blockFrames peer shipment.size shipment.count ∨
        Short peer shipment.size shipment.count log)
  | .failed _ =>
    0 < shipment.count → framesWritten log = blockFrames peer shipment.size shipment.count →
      ¬ Acknowledged shipment.count log
  | _ => True

/-- What holds of a course as long as the peer asks for nothing. -/
structure Orderly (shipment : Shipment) (peer : RemoteRegion) (prior : List Bytes) (c : Course) :
    Prop where
  paced : Paced c.log
  stands :
    (∃ s here, s.connection.id = shipment.connection ∧
      Carries peer prior c.log c.endpoint s here ∧
      Stage shipment peer c.endpoint.region c.block c.log here c.phase) ∨
    ∃ ending s, c.phase = .ended ending ∧ c.endpoint.Holds s ∧
      s.connection.id = shipment.connection ∧
      s.connection.messages = prior ++ (framesWritten c.log).map Frame.toBytes ∧
      (∃ block, block ≤ shipment.count ∧
        framesWritten c.log = blockFrames peer shipment.size block) ∧
      Reported shipment peer c.log ending

section Courses

variable {shipment : Shipment} {prior : List Bytes} {e : Endpoint} {s : Session}
  {region : RegionId} {phase : Phase}

/-- What is heard leaves a course where it stands. -/
theorem Stage.heeds (stage : Stage shipment peer region block log here phase)
    (only : here.WritesOnly) (heeds : here.Heeds frames there) :
    Stage shipment peer region block (log ++ frames.map .took) there phase := by
  obtain ⟨memory, -, numbering⟩ := heeds.undisturbed
  have wrote {written : List Frame} (same : framesWritten log = written) :
      framesWritten (log ++ frames.map .took) = written :=
    (framesWritten_heard log frames).trans same
  cases stage with
  | between upto rests next completed =>
    exact .between upto (rests.dwindles (rests.cleared.heeds heeds)) (numbering.trans next)
      (completed.heeds heeds)
  | filled more rests next completed holds =>
    exact .filled more (rests.dwindles (rests.cleared.heeds heeds)) (numbering.trans next)
      (completed.heeds heeds) (memory ▸ holds)
  | writing more frame sequence next acknowledged written asked fares =>
    exact .writing more frame sequence (numbering.trans next)
      (fun some => (acknowledged some).append _) (wrote written) (mem_asked_heard.mpr asked)
      (fares.heeds only asked heeds)
  | awaiting more next written asked fares reports =>
    refine .awaiting more (numbering.trans next) (written.imp wrote ?_) (mem_asked_heard.mpr asked)
      (fares.heeds only asked heeds) reports
    exact fun ⟨written, failed, denied⟩ => ⟨wrote written, heeds.state failed, denied.append _⟩

/-- What was written at any stage is a beginning of the blocks. -/
theorem Stage.written (stage : Stage shipment peer region block log here phase) :
    ∃ block, block ≤ shipment.count ∧
      framesWritten log = blockFrames peer shipment.size block := by
  cases stage with
  | between upto _ _ completed =>
    obtain ⟨some, before, written⟩ := completed.written
    exact ⟨some, by omega, written⟩
  | filled more _ _ completed =>
    obtain ⟨some, before, written⟩ := completed.written
    exact ⟨some, by omega, written⟩
  | writing more _ _ _ _ written => exact ⟨block, by omega, written⟩
  | awaiting more _ written =>
    rcases written with all | ⟨before, -⟩
    · exact ⟨block + 1, more, all⟩
    · exact ⟨block, by omega, before⟩

theorem Orderly.of_stage (paced : Paced log) (carries : Carries peer prior log e s here)
    (number : s.connection.id = shipment.connection)
    (stage : Stage shipment peer e.region block log here phase) :
    Orderly shipment peer prior ⟨e, block, phase, log⟩ :=
  ⟨paced, Or.inl ⟨s, here, number, carries, stage⟩⟩

/-- A transfer that ends has written a beginning of the blocks. -/
theorem Orderly.of_end {ending : TransferEnd} (paced : Paced log)
    (carries : Carries peer prior log e s here) (number : s.connection.id = shipment.connection)
    (stage : Stage shipment peer region block log here phase)
    (reported : Reported shipment peer log ending) :
    Orderly shipment peer prior ⟨e, block, .ended ending, log⟩ :=
  ⟨paced, Or.inr ⟨ending, s, rfl, carries.holds, number, carries.messages, stage.written,
    reported⟩⟩

theorem orderly_arrive (paced : Paced log) (carries : Carries peer prior log e s here)
    (number : s.connection.id = shipment.connection)
    (stage : Stage shipment peer e.region block log here phase) (id : Nat) (bytes : Bytes)
    (ended : Bool) (quiet : Quiet (log ++ (e.heard id bytes ended).map .took)) :
    Orderly shipment peer prior
      ⟨e.deliver id bytes ended, block, phase, log ++ (e.heard id bytes ended).map .took⟩ := by
  rw [carries.holds.heard] at quiet ⊢
  by_cases its : id = s.connection.id
  · rw [if_pos its] at quiet ⊢
    obtain ⟨t, there, delivered, same, heeds, kept⟩ := carries.deliver bytes ended quiet
    rw [its, delivered]
    refine .of_stage (paced.heard _) kept (same.trans number) ?_
    rw [show (e.withSession t).region = e.region from Endpoint.region_afterSession e t]
    exact stage.heeds carries.only heeds
  · have lost : e.deliver id bytes ended = e := by
      unfold Endpoint.deliver
      rw [carries.holds.found, if_neg its]
    rw [if_neg its, List.map_nil, List.append_nil, lost]
    exact .of_stage paced carries number stage

/-- Where not all blocks were begun, not all were written. -/
theorem Completed.unreported (completed : Completed peer shipment.size block log here)
    (more : block < shipment.count) (fault : TransferFault) :
    Reported shipment peer log (.failed fault) := by
  intro _ all
  obtain ⟨some, before, written⟩ := completed.written
  have := blockFrames_inj (written.symm.trans all)
  omega

theorem orderly_between (paced : Paced log) (carries : Carries peer prior log e s here)
    (number : s.connection.id = shipment.connection)
    (stage : Stage shipment peer e.region block log here .between) :
    Orderly shipment peer prior (Course.step shipment ⟨e, block, .between, log⟩ .go) := by
  cases id stage with
  | between upto rests next completed =>
    by_cases last : block = shipment.count
    · rw [Course.step_last last]
      rw [last] at completed
      exact .of_end paced carries number stage
        ⟨completed.acknowledged, completed.frames.imp (fun all => all) And.right⟩
    · have more : block < shipment.count := by omega
      rw [Course.step_between last]
      cases filling : Transfer.filled e shipment.size
        (UInt8.ofNat (UInt32.ofNat block).toNat) with
      | error fault => exact .of_end paced carries number stage (completed.unreported more _)
      | ok filled =>
        obtain ⟨own, known, inside, rfl⟩ := Course.filled_eq_ok filling
        have value : UInt8.ofNat (UInt32.ofNat block).toNat = UInt8.ofNat block := by
          apply UInt8.toNat.inj
          simp
        refine .of_stage paced (carries.withMemory _) number (.filled more
          ⟨rests.cleared, rests.failures, rests.alive⟩ next
          ⟨completed.acknowledged, completed.frames⟩ ?_)
        rw [value]
        exact Memory.read_filled known inside _

/-- A block that is posted asks for the write that its frame stands for. -/
theorem blockFrame_of_post {post : Post} {registration : Registration}
    (sent : post.send = .between registration peer (.writeWithImmediate (UInt32.ofNat block))
      (UInt32.ofNat block).toUInt64 0 size 0)
    (payload : post.payload = List.replicate size (UInt8.ofNat block))
    (sequence : post.sequence = block + 1) : post.frame = blockFrame peer size block := by
  unfold Post.frame blockFrame
  rw [sent, payload, sequence]
  simp [SendRequest.between, SendOperation.immediate?]

theorem orderly_filled (paced : Paced log) (carries : Carries peer prior log e s here)
    (number : s.connection.id = shipment.connection)
    (stage : Stage shipment peer e.region block log here .filled) :
    Orderly shipment peer prior (Course.step shipment ⟨e, block, .filled, log⟩ .go) := by
  cases id stage with
  | filled more rests next completed holds =>
    obtain ⟨asked, kept⟩ := carries.holds.ask (.writeWithImmediate (UInt32.ofNat block))
      (UInt32.ofNat block).toUInt64 0 shipment.size 0
    have along := s.along_ask (.writeWithImmediate (UInt32.ofNat block))
      (UInt32.ofNat block).toUInt64 0 shipment.size 0
    rw [Course.step_filled, ← number, asked]
    generalize taken : s.ask _ _ _ _ _ = outcome at kept along ⊢
    obtain ⟨fault | post, t⟩ := outcome
    · exact ⟨paced, Or.inr ⟨_, t, rfl, kept, along.id.trans number,
        along.messages.trans carries.messages, stage.written, completed.unreported more _⟩⟩
    · obtain ⟨registration, held, known, placed, short, own⟩ := carries.registered
      obtain ⟨record, met, rfl⟩ := carries.met
      obtain ⟨ready, small, sequence, sent, payload, rfl⟩ :=
        Session.ask_eq_ok held known placed short met carries.present taken
      have alive : here.queuePair.state ≠ .error := by rw [ready]; decide
      have bytes := payload nofun
      rw [own, holds] at bytes
      have bare : post.pending.sink = none := by
        unfold Post.pending
        rw [sent]
        rfl
      have fresh : .asked here.queuePair.nextSequence ∉ log := fun listed =>
        Nat.lt_irrefl _ (carries.numbered _ listed)
      have fares := rests.posted alive fresh post.pending
      have request : post.pending.request = (UInt32.ofNat block).toUInt64 :=
        congrArg SendRequest.request sent
      rw [request, next] at fares
      rw [next] at sequence
      -- A queue pair that takes a send on has not failed, so no frame was refused before.
      have written : framesWritten log = blockFrames record.region shipment.size block :=
        completed.frames.resolve_right fun failed => alive failed.1
      refine .of_stage (paced.concat nofun)
        (carries.withStation (carries.only.posted bare) ?_ fun other listed => ?_) number
        (.writing more (blockFrame_of_post sent (Except.ok.inj bytes).symm sequence) sequence ?_
          (fun some => (completed.acknowledged some).append _) ?_ ?_ ?_)
      · rw [framesWritten_asked]
        exact carries.written
      · show other < here.queuePair.nextSequence + 1
        rcases List.mem_append.mp listed with before | last
        · exact Nat.lt_succ_of_lt (carries.numbered other before)
        · cases List.mem_singleton.mp last
          omega
      · show here.queuePair.nextSequence + 1 = _
        rw [next]
      · rw [framesWritten_asked, written]
      · rw [sequence]
        exact List.mem_append_right _ (List.mem_singleton_self _)
      · rw [sequence]
        exact fares

theorem orderly_writing {post : Post} (paced : Paced log)
    (carries : Carries peer prior log e s here) (number : s.connection.id = shipment.connection)
    (stage : Stage shipment peer e.region block log here (.writing post)) :
    Orderly shipment peer prior (Course.step shipment ⟨e, block, .writing post, log⟩ .go) := by
  cases stage with
  | writing more frame sequence next acknowledged written asked fares =>
    obtain ⟨launched, kept⟩ := carries.holds.launch post
    have gone : s.launch post = (here.launched post.frame post.sequence,
        s.withStation (here.launch post.frame post.sequence)) := by
      unfold Session.launch
      rw [carries.present]
    have messages := here.messages_launch post.frame post.sequence
    have numbering := here.nextSequence_launch post.frame post.sequence
    rw [Course.step_writing, ← number, launched, gone]
    rw [frame, sequence] at messages numbering ⊢
    refine .of_stage (paced.concat fun other wrote some => ?_)
      (carries.withStation (carries.only.launch _ _) ?_ fun other listed => ?_) number
      (.awaiting more (numbering.trans next) ?_ (List.mem_append_left _ asked)
        (fares.launch carries.only asked _) rfl)
    · rw [written, length_blockFrames]
      refine acknowledged (Nat.pos_of_ne_zero fun none => some ?_)
      rw [written, none]
      rfl
    · rw [messages, carries.written, framesWritten_append, List.map_append, List.append_assoc]
    · rw [numbering]
      rcases List.mem_append.mp listed with before | last
      · exact carries.numbered other before
      · rcases here.launched_cases (blockFrame peer shipment.size block) (block + 1) with
          ⟨_, -, wrote, -⟩ | ⟨refused, -⟩
        · rw [wrote] at last; cases List.mem_singleton.mp last
        · rw [refused] at last; cases List.mem_singleton.mp last
    · rw [framesWritten_append, written]
      rcases here.launched_cases (blockFrame peer shipment.size block) (block + 1) with
        ⟨_, -, wrote, -⟩ | ⟨refused, link, -, lost⟩
      · rw [wrote, blockFrames_succ]
        exact Or.inl rfl
      · rw [refused, lost]
        exact Or.inr ⟨List.append_nil _, Station.state_sendLost _ _, log, [], rfl, asked⟩

theorem orderly_awaiting {event : Event} {rest : List Event} (paced : Paced log)
    (carries : Carries peer prior log e s here) (number : s.connection.id = shipment.connection)
    (stage : Stage shipment peer e.region block log here (.awaiting (event :: rest))) :
    Orderly shipment peer prior
      (Course.step shipment ⟨e, block, .awaiting (event :: rest), log⟩ .go) := by
  cases id stage with
  | @awaiting _ handed more next written asked fares reports =>
    -- The first event of a batch ends the wait, whatever it is: the send waits alone.
    cases handed with
    | nil => cases reports
    | cons report handed =>
      obtain ⟨rfl, -⟩ := List.cons.inj reports
      rcases fares.first with ⟨success, request, acknowledged, rests⟩ | ⟨failure, unacknowledged⟩
      · have told : Transfer.verdict shipment.connection (UInt32.ofNat block).toUInt64
            [.ofCompletion shipment.connection report] = some .completed := by
          unfold Event.ofCompletion Transfer.verdict
          rw [if_pos success]
          exact if_pos request
        rw [Course.step_awaiting, told]
        refine .of_stage paced carries number (.between more rests next ⟨fun _ => acknowledged, ?_⟩)
        rcases written with full | ⟨before, failed, denied⟩
        · exact .inl full
        · exact .inr ⟨failed, ⟨block, rfl, before⟩, denied.early acknowledged⟩
      · have told : Transfer.verdict shipment.connection (UInt32.ofNat block).toUInt64
            [.ofCompletion shipment.connection report] =
              some (.failed (.request shipment.connection report)) := by
          unfold Event.ofCompletion
          rw [failure]
          rfl
        rw [Course.step_awaiting, told]
        refine .of_end paced carries number stage fun _ all => ?_
        have last : shipment.count = block + 1 := by
          rcases written with full | ⟨before, -⟩
          · exact blockFrames_inj (all.symm.trans full)
          · have := blockFrames_inj (all.symm.trans before)
            omega
        rw [last]
        exact unacknowledged

theorem orderly_look (paced : Paced log) (carries : Carries peer prior log e s here)
    (number : s.connection.id = shipment.connection)
    (stage : Stage shipment peer e.region block log here (.awaiting []))
    (glance : Glance) :
    Orderly shipment peer prior
      (Course.step shipment ⟨e, block, .awaiting [], log⟩ (.look glance)) := by
  rw [Course.step_look]
  have same := region_collect e (e.fired glance)
  rcases carries.collect (e.fired glance) with
    ⟨nothing, kept⟩ | ⟨t, loss, failure, given, its, kept⟩
  · rw [nothing]
    refine .of_stage paced kept number ?_
    rw [same]
    exact stage
  · cases stage with
    | awaiting more next written asked fares reports =>
      obtain rfl := List.map_eq_nil_iff.mp reports.symm
      refine .of_stage paced kept (its.trans number) (.awaiting more next written asked
        (fares.drained ?_ ?_ failure) ?_)
      · rw [CompletionQueue.drain_eq]
        rfl
      · rfl
      · rw [given, number]

theorem Stage.going (stage : Stage shipment peer region block log here phase)
    (ending : TransferEnd) : phase ≠ .ended ending := by
  rintro rfl
  cases stage

theorem orderly_step {c : Course} (orderly : Orderly shipment peer prior c) (event : CourseEvent)
    (quiet : Quiet (c.step shipment event).log) :
    Orderly shipment peer prior (c.step shipment event) := by
  obtain ⟨e, block, phase, log⟩ := c
  obtain ⟨paced, ⟨s, here, number, carries, stage⟩ | ⟨ending, s, past, rest⟩⟩ := id orderly
  · cases event with
    | arrive id bytes ended =>
      rw [Course.step_arrive stage.going] at quiet ⊢
      exact orderly_arrive paced carries number stage id bytes ended quiet
    | go =>
      cases phase with
      | between => exact orderly_between paced carries number stage
      | filled => exact orderly_filled paced carries number stage
      | writing post => exact orderly_writing paced carries number stage
      | awaiting batch =>
        cases batch with
        | nil => exact orderly
        | cons event rest => exact orderly_awaiting paced carries number stage
      | ended ending => cases stage
    | look glance =>
      cases phase with
      | awaiting batch =>
        cases batch with
        | nil => exact orderly_look paced carries number stage glance
        | cons event rest => exact orderly
      | _ => exact orderly
    | interrupt =>
      have stopped : Orderly shipment peer prior ⟨e, block, .ended (.finished true), log⟩ :=
        .of_end paced carries number stage trivial
      cases phase with
      | between =>
        show Orderly shipment peer prior (if block = shipment.count then _ else _)
        split
        · exact orderly
        · exact stopped
      | awaiting batch =>
        cases batch with
        | nil => exact stopped
        | cons event rest => exact orderly
      | _ => exact orderly
  · obtain rfl : phase = .ended ending := past
    exact orderly

/-- A course that begins orderly stays so as long as the peer asks for nothing. -/
theorem orderly_run {c : Course} (orderly : Orderly shipment peer prior c)
    (events : List CourseEvent) (quiet : Quiet (c.run shipment events).log) :
    Orderly shipment peer prior (c.run shipment events) := by
  refine Course.run_induction (P := fun c => Quiet c.log → Orderly shipment peer prior c)
    (fun _ => orderly) (fun c event earlier quiet => ?_) events quiet
  obtain ⟨more, longer⟩ := Course.log_step shipment c event
  exact orderly_step (earlier (longer ▸ quiet).earlier) event quiet

end Courses

/-! ## The start -/

end Command

namespace Endpoint

variable {e after : Endpoint} {s session : Session} {transport : Transport} {record : Record}
  {q : QueuePair} {link : Stream} {exchange : Exchange} {own : Region} {id : Nat}
  {address : SocketAddress} {conditions : ConnectConditions} {board : Board}

/-- The completion queue of a session that is opened has room. -/
theorem Opens.room (opens : e.Opens transport session record) :
    0 < session.connection.completions.depth := by
  obtain ⟨role, region, settings, lot, connection, device, -, created, rfl⟩ := opens.created
  rw [Session.completions_begin]
  rcases Connection.create_cases e.nextConnection role transport (e.carrier transport) e.region
    region settings lot with ⟨fault, after, -, failed⟩ | ⟨registration, address, -, room, opened⟩
  · rw [failed] at created
    cases created
  · rw [opened] at created
    cases created
    exact room

/-- A connection that has come up to its peer has sent nothing and waits for nothing. -/
theorem Opens.rests (opens : e.Opens transport session record)
    (brought : s.connection = (session.activated q link exchange).connection)
    (present : session.connection.queuePair = some q) :
    ∃ here, s.station? = some here ∧ here.WritesOnly ∧ here.Rests ∧
      here.queuePair.nextSequence = 1 := by
  obtain ⟨number, fresh⟩ := opens.queuePair
  obtain rfl : q = .fresh number e.config.rdma.handshakeLimit :=
    Option.some.inj (present.symm.trans fresh)
  have queue : s.connection.completions = .ofDepth (e.settings transport).depth := by
    rw [brought]
    exact opens.completions
  have room := opens.room
  rw [opens.completions] at room
  have here : s.station? = some ⟨{ QueuePair.fresh number e.config.rdma.handshakeLimit with
      access := Access.all }.running link, .ofDepth (e.settings transport).depth, s.memory⟩ := by
    rw [← queue, Session.station?, brought]
    rfl
  refine ⟨_, here, ⟨rfl, List.forall_mem_nil _, fun intake same => ?_, room⟩,
    ⟨⟨rfl, rfl⟩, List.forall_mem_nil _, fun _ => ⟨rfl, rfl⟩⟩, rfl⟩
  rw [← Option.some.inj same]
  exact Nat.succ_pos 31

theorem dialed_of_connect (h : (e.connect address conditions board).outcome.result = .ok id) :
    ∃ meeting, conditions.dial = .ok meeting := by
  unfold connect at h
  split at h
  · cases h
  · dsimp only at h
    split at h
    · cases h
    · split at h
      · cases h
      · next meeting dialed => exact ⟨meeting, dialed⟩

/-- An endpoint that has nothing but the connection to the listener that it dialed is ready to send
blocks over it. -/
theorem carries_connect (alone : e.connections = []) (unbound : e.listeners = [])
    (h : (e.connect address conditions board).outcome.result = .ok id)
    (kept : (e.connect address conditions board).outcome.endpoint.books.Kept)
    (grounded : (e.connect address conditions board).outcome.endpoint.Grounded own) :
    ∃ s here record, s.connection.id = id ∧ s.connection.peerRecord = some record ∧
      Command.Carries record.region here.messages []
        (e.connect address conditions board).outcome.endpoint s here ∧
      here.Rests ∧ here.queuePair.nextSequence = 1 := by
  obtain ⟨meeting, dialed⟩ := dialed_of_connect h
  obtain ⟨stream, concluded⟩ := connect_eq_ok dialed h
  have admits := admits_attempted (attempted_connect e address conditions board)
  rw [h] at admits
  obtain ⟨number, mux, holding, -, -, -, installed⟩ := admits
  have silent : (e.connect address conditions board).outcome.endpoint.listeners = [] := by
    have listeners := congrArg Roster.listeners installed
    exact List.map_eq_nil_iff.mp (listeners.trans (congrArg (List.map Prod.fst) unbound))
  generalize (e.connect address conditions board).outcome.endpoint = after
    at concluded kept grounded silent ⊢
  unfold Attempt.conclude at concluded
  split at concluded
  · cases concluded
  · next session exchange done =>
    obtain ⟨-, record, -, opens, same⟩ :=
      sound_connectorExchange e address meeting conditions.lot session exchange done
    generalize established : Endpoint.establish _ session exchange _ _ = outcome at concluded
    obtain ⟨result, endpoint, ended⟩ := outcome
    cases concluded
    obtain ⟨q, link, present, rfl, listed, carried⟩ := establish_eq_ok established
    rw [same, alone, List.nil_append] at listed
    let s := after.sessionOf (session.activated q link exchange).connection
    obtain ⟨here, works, only, rests, next⟩ := opens.rests (s := s) rfl present
    obtain ⟨-, -, registration, held, live, -⟩ := opens.tells
    have covers := grounded.covers _ (by rw [listed]; exact List.mem_singleton_self _)
      registration held
    have device : session.device = after.device :=
      carried.symm.trans (carrier_alone kept.sound.alone _)
    rw [device] at live
    have its : s.device = after.device := carrier_alone kept.sound.alone _
    have short : registration.length < 2 ^ 32 := by
      have small := covers.small
      rw [covers.length]
      unfold Region.maxSize at small
      omega
    refine ⟨s, here, exchange.peer, rfl, rfl, ⟨⟨listed, rfl, silent⟩, ⟨registration, held, ?_,
      covers.placed, short, covers.region⟩, ⟨exchange.peer, rfl, rfl⟩, works, only, ?_, nofun⟩,
      rests, next⟩
    · rw [its]
      exact grounded.keyed.byLocalKey? live
    · exact (List.append_nil _).symm

end Endpoint

namespace Command

variable {shipment : Shipment} {prior : List Bytes} {e : Endpoint} {s : Session}

/-- What a transfer tells is true.  On the link is what is noted, a beginning of the blocks, each
of them written when the one before was acknowledged; and what is reported at the end was sent. -/
structure Course.Truthful (shipment : Shipment) (peer : RemoteRegion) (prior : List Bytes)
    (c : Course) : Prop where
  link : ∃ connection, c.endpoint.connection? shipment.connection = some connection ∧
    connection.messages = prior ++ (framesWritten c.log).map Frame.toBytes
  blocks : ∃ block, block ≤ shipment.count ∧
    framesWritten c.log = blockFrames peer shipment.size block
  paced : Paced c.log
  reported : Reported shipment peer c.log c.ending

theorem Orderly.truthful {c : Course} (orderly : Orderly shipment peer prior c) :
    c.Truthful shipment peer prior := by
  have linked {e : Endpoint} {s : Session} (holds : e.Holds s)
      (number : s.connection.id = shipment.connection) :
      e.connection? shipment.connection = some s.connection := by
    rw [holds.found, if_pos number.symm]
  obtain ⟨paced, ⟨s, here, number, carries, stage⟩ |
    ⟨ending, s, past, holds, number, messages, blocks, reported⟩⟩ := orderly
  · have going : c.ending = .waiting := by
      unfold Course.ending
      split
      · next ending past => exact absurd past (stage.going ending)
      · rfl
    exact ⟨⟨_, linked carries.holds number, carries.messages⟩, stage.written, paced,
      going ▸ trivial⟩
  · have ended : c.ending = ending := by
      unfold Course.ending
      rw [past]
    exact ⟨⟨_, linked holds number, messages⟩, blocks, paced, ended ▸ reported⟩

theorem orderly_of (carries : Carries peer prior [] e s here)
    (number : s.connection.id = shipment.connection) (rests : here.Rests)
    (next : here.queuePair.nextSequence = 1) : Orderly shipment peer prior (Course.of e) := by
  have none : Paced [] := by
    intro before frame after split
    cases before <;> cases split
  exact .of_stage none carries number (.between (Nat.zero_le _) rests next
    ⟨fun some => absurd some (Nat.lt_irrefl 0), Or.inl rfl⟩)

/-- What the command gives when a transfer has come to its end. -/
def TransferEnd.result : TransferEnd → Option (Except TransferFault Unit)
  | .waiting => none
  | .failed fault => some (.error fault)
  | .finished _ => some (.ok ())

/-- What the command logs when a transfer has come to its end. -/
def TransferEnd.lines (complete : LogLine) : TransferEnd → List LogLine
  | .finished true => [interruptLine, complete]
  | .finished false => [complete]
  | _ => []

theorem connect_of_dialed {endpoint : Endpoint} {address : SocketAddress} {id : Nat}
    {surroundings : Surroundings}
    (connected : (endpoint.connect address (surroundings.dialing address)
      surroundings.board).outcome.result = .ok id) (writes : UInt32) (size : Nat) :
    let start := (endpoint.connect address (surroundings.dialing address)
      surroundings.board).outcome.endpoint
    let complete := Transfer.completeLine writes size surroundings.elapsed
    let transfer := Transfer.writeBlocks id size (Transfer.blocks writes)
      ⟨start, surroundings.ticks⟩
    let outcome := connect endpoint address writes size surroundings
    outcome.result = transfer.1.result ∧ outcome.log = transfer.1.lines complete ∧
      outcome.endpoint = transfer.2.endpoint := by
  unfold connect
  dsimp only
  rw [connected]
  dsimp only
  generalize Transfer.writeBlocks _ _ _ _ = transfer
  obtain ⟨ending, transfer⟩ := transfer
  rcases ending with (_ | _) | _ | _ <;> exact ⟨rfl, rfl, rfl⟩

/-- The command `connect` sends what it reports, over every device of this build, for every number
of blocks and every size, and whatever the peer sends as long as it asks for nothing.  However the
arrivals fall between the steps of the command, what is on the link after the handshake is a
beginning of the blocks, each written when the one before was acknowledged.  After a success all of
them are there, but for the last one perhaps, if its acknowledgement came before the link refused
its frame; after a failure they are not all there, or the last one was not acknowledged.  What the
command gives and logs on a host is what comes of one such course, in which happens what happens on
the host. -/
theorem connect_sends_what_it_reports {config : EndpointConfig} {device : Device}
    {publication : Publication} {region : Region} {address : SocketAddress} {id : Nat}
    {surroundings : Surroundings}
    (opened : DeviceRegistry.builtin.open? config.rdma.device = .ok device)
    (connected : ((Endpoint.opened config device publication region).connect address
      (surroundings.dialing address) surroundings.board).outcome.result = .ok id)
    (writes : UInt32) (size : Nat) :
    let endpoint := Endpoint.opened config device publication region
    let start := (endpoint.connect address (surroundings.dialing address)
      surroundings.board).outcome.endpoint
    let shipment : Shipment := ⟨id, size, writes.toNat⟩
    ∃ connection record, start.connection? id = some connection ∧
      connection.peerRecord = some record ∧
      (∃ events, let c := (Course.of start).run shipment events
        let outcome := connect endpoint address writes size surroundings
        let complete := Transfer.completeLine writes size surroundings.elapsed
        Course.outer events <+: Course.happenings surroundings.ticks ∧
          outcome.result = c.ending.result ∧ outcome.log = c.ending.lines complete ∧
          outcome.endpoint = c.endpoint) ∧
      ∀ events, let c := (Course.of start).run shipment events
        Quiet c.log → c.Truthful shipment record.region connection.messages := by
  intro endpoint start shipment
  obtain rfl : device = Device.soft := builtin_soft opened
  obtain ⟨kept, grounded⟩ := Stand.grounded_run config publication region surroundings.board
    [.connect address (surroundings.dialing address)]
  obtain ⟨s, here, record, number, met, carries, rests, next⟩ :=
    Endpoint.carries_connect rfl rfl connected kept grounded
  have found : start.connection? id = some s.connection := by
    rw [carries.holds.found, if_pos number.symm]
  refine ⟨s.connection, record, found, met, ?_, fun events quiet => ?_⟩
  · obtain ⟨result, lines, after⟩ := connect_of_dialed connected writes size
    have held : (⟨start, 0, .between, []⟩ : Course).Held shipment := ⟨s, carries.holds, number⟩
    obtain ⟨events, passed, ending, left⟩ :=
      Course.run_ticks (Nat.zero_add writes.toNat) held surroundings.ticks
    rw [← Course.blocks_eq] at passed ending left
    refine ⟨events, ⟨_, passed.symm⟩, ?_, ?_, after.trans left.symm⟩
    · rw [result]
      exact congrArg TransferEnd.result ending.symm
    · rw [lines]
      exact congrArg (TransferEnd.lines _) ending.symm
  · rw [Session.messages_of_present carries.present]
    exact (orderly_run (orderly_of carries number rests next) events quiet).truthful

/-- A host on which the listener has answered already; it has a region of 32 bytes. -/
def modestHost (ticks : List Tick) : Surroundings :=
  { isolated (fun _ => .ok "") (Stand.modest false (some (.v4 Ipv4.loopback 4000))).board ticks with
    dialing := fun _ =>
      ⟨0, none, .ok (Stand.modestMeeting 5000 (Stand.modestRecord 1 4000) 2), Stand.modestLot 2,
        ⟨fun _ => .error .timedOut, none, 0⟩, none⟩ }

/-- The endpoint of that host after it has met the listener. -/
def modestDialer : Endpoint :=
  ((Stand.modest false none).endpoint.connect (.v4 Ipv4.loopback 4000)
    ((modestHost []).dialing (.v4 Ipv4.loopback 4000)) (modestHost []).board).outcome.endpoint

theorem modest_connect_sends :
    let endpoint := (Stand.modest false none).endpoint
    let address : SocketAddress := .v4 Ipv4.loopback 4000
    let shipment : Shipment := ⟨1, 4, 2⟩
    DeviceRegistry.builtin.open? endpoint.config.rdma.device = .ok Device.soft ∧
      (endpoint.connect address ((modestHost []).dialing address)
        (modestHost []).board).outcome.result = .ok 1 ∧
      ∃ connection record, modestDialer.connection? 1 = some connection ∧
        connection.peerRecord = some record ∧
        (∃ events, let c := (Course.of modestDialer).run shipment events
          let outcome := connect endpoint address 2 4 (modestHost [])
          let complete := Transfer.completeLine 2 4 (modestHost []).elapsed
          Course.outer events <+: Course.happenings (modestHost []).ticks ∧
            outcome.result = c.ending.result ∧ outcome.log = c.ending.lines complete ∧
            outcome.endpoint = c.endpoint) ∧
        ∀ events, let c := (Course.of modestDialer).run shipment events
          Quiet c.log → c.Truthful shipment record.region connection.messages := by
  intro endpoint address shipment
  have opened : DeviceRegistry.builtin.open? endpoint.config.rdma.device = .ok Device.soft := rfl
  have connected : (endpoint.connect address ((modestHost []).dialing address)
      (modestHost []).board).outcome.result = .ok 1 := by decide +kernel
  exact ⟨opened, connected, @connect_sends_what_it_reports endpoint.config Device.soft .memory
    ⟨"modest", 8192, 32, fun _ => 0, by decide⟩ address 1 (modestHost []) opened connected 2 4⟩

example :
    let answered (number : UInt64) : List CourseEvent :=
      [.go, .go, .go, .arrive 1 (Header.acknowledgement number Status.success.code).toBytes false,
        .look (.ofPeers fun _ => false), .go]
    let c := (Course.of modestDialer).run ⟨1, 4, 2⟩ (answered 1 ++ answered 2 ++ [.go])
    c.ending.result = some (.ok ()) ∧
      framesWritten c.log = blockFrames (Stand.modestRecord 1 4000).region 4 2 := by
  decide +kernel

/-- A peer acknowledges the first send when its frame is not on the link yet, and closes its
end. -/
def rashPeer : List CourseEvent :=
  [.go, .go, .arrive 1 (Header.acknowledgement 1 Status.success.code).toBytes true, .go,
    .look (.ofPeers fun _ => false), .go, .go]

/-- The command ends well and nothing was sent. -/
theorem rash_peer_gets_nothing :
    let c := (Course.of modestDialer).run ⟨1, 4, 1⟩ rashPeer
    c.ending.result = some (.ok ()) ∧
      c.log = [.asked 1, .took ⟨Header.acknowledgement 1 Status.success.code, []⟩, .refused 1] ∧
      (c.endpoint.connection? 1).map Connection.messages =
        (modestDialer.connection? 1).map Connection.messages := by
  decide +kernel

end Command

end RdmaLink
