import RdmaLink.Proofs.Address.RoundTrip
import RdmaLink.Proofs.Publication.Visibility

/-!
# Files and a slot publish alike

A publication in two files and one in a slot in memory give the same answers to the same calls, as
long as the places of the files can be used and nobody else uses them.

    files.Displays info ready tree slot → the next answers are alike, and again Displays
                                                            (Publication.Displays.answer)
    (memory.answers calls ⟨_, none⟩).1 = (files.answers calls ⟨tree, _⟩).1, but for endless waits
                                                            (Publication.files_answer_as_slot)

A wait finds the address of the last publication that was not withdrawn (`Standing`).  Only where
the clock cannot name its end, the slot has no answer, and the files have theirs
(`Publication.slot_names_no_deadline`).
-/

namespace RdmaLink

open FileTree (normal)

/-! ## Calls and answers -/

/-- A call on a publication that nobody else uses meanwhile. -/
inductive PublicationCall where
  | publish (address : SocketAddress)
  | withdraw
  /-- A wait of some milliseconds, from when the clock has run for some nanoseconds. -/
  | wait (limit uptime : Nat)
deriving DecidableEq, Repr, Inhabited

/-- What a call gives. -/
inductive PublicationAnswer where
  | changed (result : Except PublicationError Unit)
  | found (result : Except PublicationError (Option SocketAddress))

/-- The clock cannot name the end of a wait. -/
def PublicationCall.isEndless : PublicationCall → Bool
  | .wait limit uptime => Milliseconds.outlasts ⟨limit⟩ uptime
  | _ => false

/-- All of the calls only wait. -/
def PublicationCall.OnlyWait (calls : List PublicationCall) : Prop :=
  ∀ call ∈ calls, ∃ limit uptime, call = .wait limit uptime

/-- An address was published, and after that nothing was published or withdrawn. -/
def PublicationCall.Standing (calls : List PublicationCall) (address : SocketAddress) : Prop :=
  ∃ earlier later, calls = earlier ++ .publish address :: later ∧ OnlyWait later

namespace Publication

/-- The answer to a call, and the board after it. -/
def answer (publication : Publication) (call : PublicationCall) (board : Board) :
    PublicationAnswer × Board :=
  match call with
  | .publish address =>
    let (result, after) := publication.publish noFaults address board
    (.changed result, after)
  | .withdraw =>
    let (result, after) := publication.withdraw noFaults board
    (.changed result, after)
  | .wait limit uptime => (.found (publication.wait limit uptime none board), board)

/-- The answers to calls that are made one after the other, and the board after them. -/
def answers (publication : Publication) :
    List PublicationCall → Board → List PublicationAnswer × Board
  | [], board => ([], board)
  | call :: rest, board =>
    let (first, between) := publication.answer call board
    let (others, after) := publication.answers rest between
    (first :: others, after)

/-- What a publication that needs deadlines answers where another one answers `answer`. -/
def slotAnswer (call : PublicationCall) (answer : PublicationAnswer) : PublicationAnswer :=
  if call.isEndless then .found (.error .noDeadline) else answer

/-- After some calls, a wait finds the address that stands published, or else nothing in time,
unless it has to name a moment that the clock cannot. -/
def FindsStanding (publication : Publication) (calls : List PublicationCall) (board : Board) :
    Prop :=
  ∀ limit uptime,
    (publication.needsDeadline && Milliseconds.outlasts ⟨limit⟩ uptime) = false →
    (∀ address, PublicationCall.Standing calls address →
      publication.wait limit uptime none board = .ok (some address)) ∧
    ((∀ address, ¬ PublicationCall.Standing calls address) →
      publication.wait limit uptime none board = .error (.notReady limit))

/-- A withdrawal succeeds, and a second one succeeds and changes nothing more. -/
def WithdrawsOnce (publication : Publication) (board : Board) : Prop :=
  ∃ after, publication.withdraw noFaults board = (.ok (), after) ∧
    publication.withdraw noFaults after = (.ok (), after)

end Publication

/-! ## What stands published -/

namespace PublicationCall

theorem onlyWait_cons {call : PublicationCall} {rest : List PublicationCall} :
    OnlyWait (call :: rest) ↔ (∃ limit uptime, call = .wait limit uptime) ∧ OnlyWait rest :=
  List.forall_mem_cons

theorem standing_cons {call : PublicationCall} {rest : List PublicationCall}
    {address : SocketAddress} :
    Standing (call :: rest) address ↔
      Standing rest address ∨ call = .publish address ∧ OnlyWait rest := by
  constructor
  · rintro ⟨earlier, later, split, waits⟩
    cases earlier with
    | nil =>
      cases split
      exact Or.inr ⟨rfl, waits⟩
    | cons first earlier =>
      cases split
      exact Or.inl ⟨earlier, later, rfl, waits⟩
  · rintro (⟨earlier, later, rfl, waits⟩ | ⟨rfl, waits⟩)
    · exact ⟨call :: earlier, later, rfl, waits⟩
    · exact ⟨[], rest, rfl, waits⟩

end PublicationCall

namespace Publication

open PublicationCall (Standing OnlyWait)

/-- The slot holds what stands published. -/
theorem slot_answers (calls : List PublicationCall) (board : Board) (address : SocketAddress) :
    (memory.answers calls board).2.slot = some address ↔
      Standing calls address ∨ board.slot = some address ∧ OnlyWait calls := by
  induction calls generalizing board with
  | nil =>
    have never : ¬ Standing [] address := by
      rintro ⟨earlier, later, split, -⟩
      cases earlier <;> cases split
    exact ⟨fun same => Or.inr ⟨same, nofun⟩, fun either =>
      either.elim (fun standing => absurd standing never) And.left⟩
  | cons call rest ih =>
    have next := ih (memory.answer call board).2
    rw [PublicationCall.standing_cons, PublicationCall.onlyWait_cons]
    refine next.trans ?_
    cases call <;> simp [answer, publish, withdraw]

/-- Every call has its answer. -/
theorem length_answers (publication : Publication) (calls : List PublicationCall)
    (board : Board) : (publication.answers calls board).1.length = calls.length := by
  induction calls generalizing board with
  | nil => rfl
  | cons call rest ih => exact congrArg (· + 1) (ih (publication.answer call board).2)

/-- Without endless waits the answers are the same. -/
theorem zipWith_slotAnswer {calls : List PublicationCall} {answers : List PublicationAnswer}
    (named : ∀ call ∈ calls, call.isEndless = false) (paired : answers.length = calls.length) :
    List.zipWith slotAnswer calls answers = answers := by
  induction calls generalizing answers with
  | nil => rw [List.eq_nil_of_length_eq_zero paired, List.zipWith_nil_left]
  | cons call rest ih =>
    cases answers with
    | nil => cases paired
    | cons answer others =>
      have same : slotAnswer call answer = answer := by
        rw [slotAnswer, named call List.mem_cons_self, if_neg Bool.false_ne_true]
      rw [List.zipWith_cons_cons, same,
        ih (fun call listed => named call (List.mem_cons_of_mem _ listed)) (by simpa using paired)]

/-! ## Files that can be used -/

/-- The places that a publication in two files uses. -/
def places (info ready : String) : List String := [info, ready, info ++ ".tmp", ready ++ ".tmp"]

variable {info ready : String} {tree after : FileTree} {slot : Option SocketAddress}

theorem usable_changed {keys : List String}
    (usable : ∀ path ∈ places info ready, tree.Usable path) (changes : tree.Changes keys after) :
    ∀ path ∈ places info ready, after.Usable path :=
  fun path listed => (usable path listed).changed changes

/-- The address is published: its line can be read, and the marker is there. -/
theorem run_publishSteps (apart : Apart info ready)
    (usable : ∀ path ∈ places info ready, tree.Usable path) (address : SocketAddress) :
    ∃ published, tree.run noFaults (publishSteps (some info) (some ready) address) 0 =
        (.ok (), published) ∧
      (∀ path ∈ places info ready, published.Usable path) ∧
      published.seen info = some (.file (infoLine address)) ∧
      published.exists? ready = true := by
  obtain ⟨placed, ran, changes, line⟩ := (usable info (by simp [places])).replace
    (usable (info ++ ".tmp") (by simp [places])) (infoLine address) 0
  have usable' := usable_changed usable changes
  obtain ⟨marked, ran', changes', marker⟩ := (usable' ready (by simp [places])).replace
    (usable' (ready ++ ".tmp") (by simp [places])) readyLine
    (0 + (replaceSteps info (infoLine address)).length)
  refine ⟨marked, ?_, usable_changed usable' changes', ?_, ?_⟩
  · rw [publishSteps, Option.map_some, Option.map_some, Option.getD_some, Option.getD_some,
      FileTree.run_append, ran]
    exact ran'
  · rw [changes'.seen (by simpa using ⟨apart.ready_scratch.symm, apart.files⟩)]
    exact line
  · rw [FileTree.exists?_eq_isSome_seen, marker]
    rfl

/-- Both files are removed if they are there, and a second time nothing is left to do. -/
theorem run_withdrawSteps (apart : Apart info ready)
    (usable : ∀ path ∈ places info ready, tree.Usable path) :
    ∃ withdrawn, tree.run noFaults (withdrawSteps (some info) (some ready)) 0 =
        (.ok (), withdrawn) ∧
      (∀ path ∈ places info ready, withdrawn.Usable path) ∧
      withdrawn.exists? ready = false ∧
      withdrawn.run noFaults (withdrawSteps (some info) (some ready)) 0 = (.ok (), withdrawn) := by
  -- What a removal leaves stands for a tree without the file, which a removal leaves as it is.
  have removes {tree : FileTree} {path : String} (usable : tree.Usable path) :
      ∃ removed, tree.apply (.removeIfPresent path) = .ok removed ∧
        tree.Changes [normal path] removed ∧ removed.seen path = none := by
    obtain ⟨removed, done, -⟩ := usable.removeIfPresent
    exact ⟨removed, done, FileTree.removeIfPresent_eq_ok done⟩
  have again {tree : FileTree} {path : String} (usable : tree.Usable path)
      (gone : tree.seen path = none) : tree.apply (.removeIfPresent path) = .ok tree := by
    obtain ⟨removed, done, same⟩ := usable.removeIfPresent
    rw [FileTree.seen, if_pos usable.clear] at gone
    rw [done, same gone]
  obtain ⟨unmarked, first, changes, gone⟩ := removes (usable ready (by simp [places]))
  have usable' := usable_changed usable changes
  obtain ⟨withdrawn, second, changes', gone'⟩ := removes (usable' info (by simp [places]))
  have usable'' := usable_changed usable' changes'
  have still : withdrawn.seen ready = none := by
    rw [changes'.seen (by simpa using apart.files.symm)]
    exact gone
  have rerun := again (usable'' ready (by simp [places])) still
  have rerun' := again (usable'' info (by simp [places])) gone'
  refine ⟨withdrawn, ?_, usable'', ?_, ?_⟩
  · simp only [withdrawSteps, noFaults, Option.map_some, Option.getD_some, List.cons_append,
      List.nil_append, FileTree.run, first, second]
  · rw [FileTree.exists?_eq_isSome_seen, still]
    rfl
  · simp only [withdrawSteps, noFaults, Option.map_some, Option.getD_some, List.cons_append,
      List.nil_append, FileTree.run, rerun, rerun']

/-! ## Reading the address -/

theorem toList_loop (bytes : ByteArray) (start : Nat) (found : List UInt8) :
    ByteArray.toList.loop bytes start found = found.reverse ++ bytes.data.toList.drop start := by
  fun_induction ByteArray.toList.loop bytes start found with
  | case1 start found more ih =>
    have inside : start < bytes.data.toList.length := by simpa using more
    rw [ih, List.drop_eq_getElem_cons inside]
    simp [ByteArray.get!, more]
  | case2 start found past =>
    rw [List.drop_eq_nil_of_le (by simpa using Nat.le_of_not_lt past), List.append_nil]

theorem fromUTF8?_toUTF8 (text : String) :
    String.fromUTF8? ⟨text.toUTF8.toList.toArray⟩ = some text := by
  have whole : (⟨text.toUTF8.toList.toArray⟩ : ByteArray) = text.toByteArray := by
    rw [ByteArray.toList, toList_loop]
    rfl
  rw [whole, String.fromUTF8?, dif_pos text.isValidUTF8]
  rfl

/-- The file of the address is read as the address. -/
theorem current_of_line (ready : String) {address : SocketAddress}
    (line : tree.seen info = some (.file (infoLine address))) :
    current (.files (some info) (some ready)) ⟨tree, slot⟩ = .ok (some address) := by
  have read : tree.read info = .ok (infoLine address) := by
    unfold FileTree.seen at line
    unfold FileTree.read
    split at line
    · next clear => rw [clear, line]
    · cases line
  have text : tree.readText info = .ok (address.text ++ "\n") := by
    rw [FileTree.readText, read]
    dsimp only [infoLine]
    rw [fromUTF8?_toUTF8]
  have trimmed : Text.trimmed (address.text ++ "\n").toList = address.text.toList := by
    rw [String.toList_append]
    exact Text.trimmed_line address.graphic_text
  have readable : SocketAddress.parseChars? address.text.toList = some address :=
    address.parse?_text
  unfold current
  simp only [text, trimmed, readable]

/-! ## The same answers -/

/-- The files show what a slot holds, and their places can be used. -/
structure Displays (info ready : String) (tree : FileTree) (slot : Option SocketAddress) :
    Prop where
  usable : ∀ path ∈ places info ready, tree.Usable path
  marked : tree.exists? ready = slot.isSome
  line : ∀ address, slot = some address → tree.seen info = some (.file (infoLine address))

/-- Where nothing stands yet, the files show an empty slot. -/
theorem displays_of_free
    (free : ∀ path ∈ places info ready, tree.blocked path = none ∧ tree.node? path = none) :
    Displays info ready tree none := by
  refine ⟨fun path listed => ⟨(free path listed).1, ?_⟩, ?_, nofun⟩
  · rw [(free path listed).2]
    nofun
  · rw [FileTree.exists?, (free ready (by simp [places])).2]
    simp

/-- What a wait gives where a slot holds an address or none. -/
def awaited (limit : Nat) : Option SocketAddress →
    Except PublicationError (Option SocketAddress)
  | some address => .ok (some address)
  | none => .error (.notReady limit)

theorem Displays.wait (displays : Displays info ready tree slot) (limit uptime : Nat)
    (others : Option SocketAddress) :
    wait (.files (some info) (some ready)) limit uptime none ⟨tree, others⟩ =
      awaited limit slot := by
  have marked : isReady (.files (some info) (some ready)) ⟨tree, others⟩ = slot.isSome := by
    rw [← displays.marked]
    rfl
  unfold Publication.wait needsDeadline
  rw [marked, Bool.false_and, if_neg Bool.false_ne_true]
  cases slot with
  | none => rfl
  | some address => exact current_of_line ready (displays.line address rfl)

theorem wait_memory (limit uptime : Nat) (board : Board) :
    wait .memory limit uptime none board =
      if Milliseconds.outlasts ⟨limit⟩ uptime then .error .noDeadline
      else awaited limit board.slot := by
  obtain ⟨tree, slot⟩ := board
  unfold Publication.wait needsDeadline
  rw [Bool.true_and]
  cases slot <;> rfl

theorem Displays.publish (apart : Apart info ready) {board : Board}
    (displays : Displays info ready board.tree slot) (address : SocketAddress) :
    ∃ after, Publication.publish (.files (some info) (some ready)) noFaults address board =
        (.ok (), after) ∧ Displays info ready after.tree (some address) := by
  obtain ⟨published, ran, usable, line, marked⟩ := run_publishSteps apart displays.usable address
  refine ⟨{ board with tree := published }, ?_, usable, marked, ?_⟩
  · simp only [Publication.publish, runSteps, ran]
    rfl
  · rintro other ⟨⟩
    exact line

theorem Displays.withdraw (apart : Apart info ready) {board : Board}
    (displays : Displays info ready board.tree slot) :
    ∃ after, Publication.withdraw (.files (some info) (some ready)) noFaults board =
        (.ok (), after) ∧ Displays info ready after.tree none := by
  obtain ⟨withdrawn, ran, usable, unmarked, -⟩ := run_withdrawSteps apart displays.usable
  refine ⟨{ board with tree := withdrawn }, ?_, usable, unmarked, by rintro other ⟨⟩⟩
  simp only [Publication.withdraw, runSteps, ran]
  rfl

/-- A call is answered alike, and the files show what the slot holds afterwards; to change the
files succeeds. -/
theorem Displays.answer (apart : Apart info ready) {board board' : Board}
    (displays : Displays info ready board.tree board'.slot) (call : PublicationCall) :
    (memory.answer call board').1 =
        slotAnswer call (Publication.answer (.files (some info) (some ready)) call board).1 ∧
      Displays info ready
        (Publication.answer (.files (some info) (some ready)) call board).2.tree
        (memory.answer call board').2.slot ∧
      ∀ result, (Publication.answer (.files (some info) (some ready)) call board).1 =
        .changed result → result = .ok () := by
  cases call with
  | publish address =>
    obtain ⟨after, done, displays⟩ := displays.publish apart address
    simp only [Publication.answer, done]
    exact ⟨rfl, displays, fun result same => by cases same; rfl⟩
  | withdraw =>
    obtain ⟨after, done, displays⟩ := displays.withdraw apart
    simp only [Publication.answer, done]
    exact ⟨rfl, displays, fun result same => by cases same; rfl⟩
  | wait limit uptime =>
    refine ⟨?_, displays, by rintro _ ⟨⟩⟩
    simp only [Publication.answer, slotAnswer, PublicationCall.isEndless]
    rw [wait_memory, displays.wait limit uptime board.slot]
    exact apply_ite PublicationAnswer.found _ _ _

theorem Displays.answers (apart : Apart info ready) (calls : List PublicationCall)
    {board board' : Board} (displays : Displays info ready board.tree board'.slot) :
    (memory.answers calls board').1 =
        List.zipWith slotAnswer calls
          (Publication.answers (.files (some info) (some ready)) calls board).1 ∧
      Displays info ready
        (Publication.answers (.files (some info) (some ready)) calls board).2.tree
        (memory.answers calls board').2.slot ∧
      ∀ result, .changed result ∈
        (Publication.answers (.files (some info) (some ready)) calls board).1 →
          result = .ok () := by
  induction calls generalizing board board' with
  | nil => exact ⟨rfl, displays, nofun⟩
  | cons call rest ih =>
    obtain ⟨same, next, done⟩ := displays.answer apart call
    obtain ⟨others, last, allDone⟩ := ih next
    refine ⟨congrArg₂ List.cons same others, last, fun result listed => ?_⟩
    rcases List.mem_cons.mp listed with first | later
    · exact done result first.symm
    · exact allDone result later

/-! ## What a wait finds -/

theorem findsStanding_of_awaited {publication : Publication} {board : Board}
    {calls : List PublicationCall}
    (stands : ∀ address, slot = some address ↔ Standing calls address)
    (waits : ∀ limit uptime,
      (publication.needsDeadline && Milliseconds.outlasts ⟨limit⟩ uptime) = false →
      publication.wait limit uptime none board = awaited limit slot) :
    publication.FindsStanding calls board := by
  refine fun limit uptime named => ⟨fun address standing => ?_, fun nothing => ?_⟩
  · rw [waits limit uptime named, (stands address).mpr standing]
    rfl
  · have empty : slot = none :=
      Option.eq_none_iff_forall_ne_some.mpr fun address same =>
        nothing address ((stands address).mp same)
    rw [waits limit uptime named, empty]
    rfl

/-- Files and a slot publish alike.  Where the places of both files can be used and nothing stands
there, a publication in a slot that was empty answers any calls as one in files, but for waits whose
end the clock cannot name: to these it has no answer.  Publishing and withdrawing succeed, a wait
gives the address that was published last and not withdrawn, or that nothing was ready in time, and
a second withdrawal changes nothing more. -/
theorem files_answer_as_slot (apart : Apart info ready) (filed kept : Board)
    (free : ∀ path ∈ places info ready,
      filed.tree.blocked path = none ∧ filed.tree.node? path = none)
    (empty : kept.slot = none) (calls : List PublicationCall) :
    let files := Publication.files (some info) (some ready)
    let atFiles := files.answers calls filed
    let atSlot := memory.answers calls kept
    atSlot.1 = List.zipWith slotAnswer calls atFiles.1 ∧
    ((∀ call ∈ calls, call.isEndless = false) → atSlot.1 = atFiles.1) ∧
    (∀ result, .changed result ∈ atFiles.1 → result = .ok ()) ∧
    files.FindsStanding calls atFiles.2 ∧ memory.FindsStanding calls atSlot.2 ∧
    files.WithdrawsOnce atFiles.2 ∧ memory.WithdrawsOnce atSlot.2 := by
  intro files atFiles atSlot
  have begun : Displays info ready filed.tree kept.slot := by
    rw [empty]
    exact displays_of_free free
  obtain ⟨same, displays, done⟩ := begun.answers apart calls
  have stands (address : SocketAddress) :
      atSlot.2.slot = some address ↔ Standing calls address := by
    have held := slot_answers calls kept address
    rw [empty] at held
    exact held.trans (or_iff_left fun other => Option.some_ne_none address other.1.symm)
  refine ⟨same, fun named => ?_, done,
    findsStanding_of_awaited stands fun limit uptime _ => displays.wait limit uptime _,
    findsStanding_of_awaited stands fun limit uptime named => ?_, ?_, ⟨_, rfl, rfl⟩⟩
  · exact same.trans (zipWith_slotAnswer named (length_answers files calls filed))
  · rw [needsDeadline, Bool.true_and] at named
    rw [wait_memory, named, if_neg Bool.false_ne_true]
  · obtain ⟨withdrawn, first, -, -, second⟩ := run_withdrawSteps apart displays.usable
    refine ⟨{ atFiles.2 with tree := withdrawn }, ?_, ?_⟩
    · simp only [files, withdraw, runSteps, first, atFiles]
      rfl
    · simp only [files, withdraw, runSteps, second]
      rfl

/-- Nothing is in the way of files in an empty tree with plain names. -/
theorem free_plain : Apart "i" "r" ∧ ∀ path ∈ places "i" "r",
    (⟨[]⟩ : FileTree).blocked path = none ∧ (⟨[]⟩ : FileTree).node? path = none := by
  have spelled : ∀ name ∈ ["i", "i.tmp", "r", "r.tmp"], FileTree.normal name = name :=
    fun name listed => FileTree.normal_plain (by revert name; decide) (by revert name; decide)
  have clear : ∀ name ∈ places "i" "r", (⟨[]⟩ : FileTree).blocked name = none :=
    fun name listed => FileTree.blocked_plain _ (by revert name; decide) (by revert name; decide)
      (by revert name; decide)
  exact ⟨by constructor <;> simp [spelled], fun path listed => ⟨clear path listed, rfl⟩⟩

/-- A listener is published on two addresses in turn, withdrawn, and published on a third one. -/
theorem files_answer_three_listeners :
    let inside : SocketAddress := .v4 Ipv4.loopback 4001
    let outside : SocketAddress := .v6 (Ipv6.ofGroups [0xfe80, 0, 0, 0, 0, 0, 0, 1]) 4002 3
    let calls : List PublicationCall :=
      [.publish inside, .wait 5 0, .publish outside, .wait 5 9, .withdraw, .wait 5 20,
        .publish inside]
    let board : Board := ⟨⟨[]⟩, none⟩
    let files := Publication.files (some "i") (some "r")
    Apart "i" "r" ∧
      (∀ path ∈ places "i" "r", board.tree.blocked path = none ∧ board.tree.node? path = none) ∧
      (memory.answers calls board).1 = (files.answers calls board).1 ∧
      files.wait 5 30 none (files.answers calls board).2 = .ok (some inside) := by
  intro inside outside calls board files
  obtain ⟨apart, free⟩ := free_plain
  obtain ⟨-, same, -, finds, -⟩ := files_answer_as_slot apart board board free rfl calls
  exact ⟨apart, free, same (by decide +kernel),
    (finds 5 30 (by decide +kernel)).1 inside
      ⟨calls.dropLast, [], rfl, fun _ later => nomatch later⟩⟩

theorem answers_publish_wait (publication : Publication) (address : SocketAddress)
    (limit uptime : Nat) (board : Board) :
    (publication.answers [.publish address, .wait limit uptime] board).1 =
      [.changed (publication.publish noFaults address board).1,
        .found (publication.wait limit uptime none
          (publication.publish noFaults address board).2)] := rfl

/-- A listener is published, and waited for with the longest limit there is.  The files name it at
once, and the slot does not answer. -/
theorem slot_names_no_deadline :
    let inside : SocketAddress := .v4 Ipv4.loopback 4001
    let longest : Nat := 2 ^ 64 * 1000 - 1
    let calls : List PublicationCall := [.publish inside, .wait longest 0]
    let board : Board := ⟨⟨[]⟩, none⟩
    let files := Publication.files (some "i") (some "r")
    (files.answers calls board).1 = [.changed (.ok ()), .found (.ok (some inside))] ∧
      (memory.answers calls board).1 = [.changed (.ok ()), .found (.error .noDeadline)] := by
  intro inside longest calls board files
  obtain ⟨apart, free⟩ := free_plain
  obtain ⟨published, ran, -, line, marked⟩ :=
    run_publishSteps apart (displays_of_free free).usable inside
  have filed : files.publish noFaults inside board = (.ok (), ⟨published, none⟩) := by
    simp only [files, publish, runSteps, board, ran]
    rfl
  have found : files.wait longest 0 none ⟨published, none⟩ = .ok (some inside) := by
    have ready : files.isReady ⟨published, none⟩ = true := marked
    rw [wait, ready, if_neg (by simp [files, needsDeadline]), if_pos rfl]
    exact current_of_line "r" line
  have endless : memory.wait longest 0 none (memory.publish noFaults inside board).2 =
      .error .noDeadline := by
    rw [wait_memory]
    exact if_pos (by decide +kernel)
  constructor
  · rw [answers_publish_wait, filed, found]
  · rw [answers_publish_wait, endless]
    rfl

end Publication

end RdmaLink
