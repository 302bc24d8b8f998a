import RdmaLink.Proofs.Publication.Paths
import RdmaLink.Proofs.Publication.Steps

/-!
# What is visible of a publication after every step

A publisher changes its files in single steps, and others may look between any two of them, also
when a step has failed, or when the process has ended and nobody goes on.  What its files say is
true at every such moment: the file of the address holds the whole line of an address, and where the
ready marker is seen, that file is.

    Stage … (step :: rest) tree → tree.apply step = .ok after → Stage … rest after  (Stage.apply)
    Stage … (step :: rest) tree → Honest … (tree.interrupted step fault)      (Stage.interrupted)
    tree ∈ start.passed info ready calls → Honest … tree                 (FileTree.honest_passed)

`Stage` says before every step of a call what the steps behind it rely on: that the scratch copy is
complete before it is moved into its place, that the address is there before the marker, and that
the marker is gone before the address is removed.
-/

namespace RdmaLink

open FileTree (normal)

/-! ## Calls of a publisher -/

/-- What a publisher is asked to do. -/
inductive Errand where
  | publish (address : SocketAddress)
  | withdraw
deriving DecidableEq, Repr, Inhabited

/-- A call of a publisher as it goes: which of its steps fail from outside, and after how many of
them the process ends, if it ends in this call.  That it ends in the middle of a write is a write
that fails. -/
structure PublisherCall where
  errand : Errand
  faults : Nat → Option FileFault
  cut : Option Nat

namespace Errand

/-- The steps of an errand, where both files are wanted. -/
def steps (info ready : String) : Errand → List FileStep
  | .publish address => Publication.publishSteps (some info) (some ready) address
  | .withdraw => Publication.withdrawSteps (some info) (some ready)

/-- Has a publication do an errand. -/
def perform (errand : Errand) (publication : Publication) (faults : Nat → Option FileFault)
    (board : Board) : Except PublicationError Unit × Board :=
  match errand with
  | .publish address => publication.publish faults address board
  | .withdraw => publication.withdraw faults board

/-- The address that an errand publishes. -/
def address? : Errand → Option SocketAddress
  | .publish address => some address
  | .withdraw => none

end Errand

/-- The steps that a call gets to, if none fails. -/
def PublisherCall.steps (call : PublisherCall) (info ready : String) : List FileStep :=
  match call.cut with
  | some count => (call.errand.steps info ready).take count
  | none => call.errand.steps info ready

/-- The addresses that are passed to the calls. -/
def PublisherCall.addresses (calls : List PublisherCall) : List SocketAddress :=
  calls.filterMap fun call => call.errand.address?

namespace FileTree

/-- The trees after the single steps of a run, the last one after the step that fails, if one
does. -/
def trail (faults : Nat → Option FileFault) (tree : FileTree) :
    List FileStep → (number : Nat) → List FileTree
  | [], _ => []
  | step :: rest, number =>
    match faults number with
    | some fault => [tree.interrupted step fault]
    | none =>
      match tree.apply step with
      | .error _ => [tree]
      | .ok changed => changed :: trail faults changed rest (number + 1)

/-- A run ends where its trail ends. -/
theorem run_eq_last_trail (faults : Nat → Option FileFault) (tree : FileTree)
    (steps : List FileStep) (number : Nat) :
    (tree.run faults steps number).2 = (tree.trail faults steps number).getLastD tree := by
  induction steps generalizing tree number with
  | nil => rfl
  | cons step rest ih =>
    rw [run, trail]
    cases faults number with
    | some fault => rfl
    | none =>
      cases tree.apply step with
      | error e => rfl
      | ok changed => exact (ih changed (number + 1)).trans (List.getLastD_cons ..).symm

/-- A run that is cut off has passed through the trees that it had come to. -/
theorem trail_take (faults : Nat → Option FileFault) (tree : FileTree) (steps : List FileStep)
    (number count : Nat) :
    tree.trail faults (steps.take count) number = (tree.trail faults steps number).take count := by
  induction steps generalizing tree number count with
  | nil => rw [List.take_nil, trail, List.take_nil]
  | cons step rest ih =>
    cases count with
    | zero => rfl
    | succ count =>
      rw [List.take_succ_cons, trail, trail]
      cases faults number with
      | some fault => exact (List.take_of_length_le (by simp)).symm
      | none =>
        cases tree.apply step with
        | error e => exact (List.take_of_length_le (by simp)).symm
        | ok changed => exact congrArg (changed :: ·) (ih changed (number + 1) count)

/-- What a call leaves. -/
def afterCall (tree : FileTree) (info ready : String) (call : PublisherCall) : FileTree :=
  match call.cut with
  | some count => (tree.run call.faults ((call.errand.steps info ready).take count) 0).2
  | none =>
    (call.errand.perform (.files (some info) (some ready)) call.faults ⟨tree, none⟩).2.tree

theorem afterCall_eq_run (tree : FileTree) (info ready : String) (call : PublisherCall) :
    tree.afterCall info ready call = (tree.run call.faults (call.steps info ready) 0).2 := by
  obtain ⟨errand, faults, cut⟩ := call
  cases cut with
  | some count => rfl
  | none => cases errand <;> rfl

/-- The trees that calls pass through: at first, and after every single step. -/
def passed (info ready : String) : List PublisherCall → FileTree → List FileTree
  | [], tree => [tree]
  | call :: later, tree =>
    tree :: tree.trail call.faults (call.steps info ready) 0 ++
      passed info ready later (tree.afterCall info ready call)

end FileTree

namespace Publication

variable {addresses : List SocketAddress} {info ready : String} {tree after : FileTree}

/-! ## What the files say -/

/-- The two files are two places, and neither is the other's scratch copy. -/
structure Apart (info ready : String) : Prop where
  files : normal info ≠ normal ready
  ready_scratch : normal (ready ++ ".tmp") ≠ normal info
  info_scratch : normal (info ++ ".tmp") ≠ normal ready

/-- What others see of the files: that of the address holds a whole line, and where the marker
is, that file is. -/
structure Honest (addresses : List SocketAddress) (info ready : String) (tree : FileTree) :
    Prop where
  whole : ∀ content, tree.seen info = some (.file content) →
    ∃ address ∈ addresses, content = infoLine address
  marked : tree.exists? ready = true →
    ∃ address ∈ addresses, tree.seen info = some (.file (infoLine address))

theorem Honest.changed {keys : List String} (honest : Honest addresses info ready tree)
    (changes : tree.Changes keys after) (noInfo : normal info ∉ keys)
    (noReady : normal ready ∉ keys) : Honest addresses info ready after := by
  obtain ⟨whole, marked⟩ := honest
  rw [FileTree.exists?_eq_isSome_seen] at marked
  refine ⟨?_, ?_⟩
  · rw [changes.seen noInfo]
    exact whole
  · rw [FileTree.exists?_eq_isSome_seen, changes.seen noReady, changes.seen noInfo]
    exact marked

/-- While the file of the address holds a line, the marker may be there or not. -/
theorem honest_of_line {address : SocketAddress} (known : address ∈ addresses)
    (line : tree.seen info = some (.file (infoLine address))) :
    Honest addresses info ready tree := by
  refine ⟨fun content found => ⟨address, known, ?_⟩, fun _ => ⟨address, known, line⟩⟩
  rw [line] at found
  cases found
  rfl

/-! ## Before every step -/

/-- What the steps that are left of a call rely on. -/
inductive Stage (addresses : List SocketAddress) (info ready : String) :
    List FileStep → FileTree → Prop
  | complete {tree : FileTree} : Honest addresses info ready tree →
      Stage addresses info ready [] tree
  | writeInfo {tree : FileTree} {address : SocketAddress} : address ∈ addresses →
      Honest addresses info ready tree →
      Stage addresses info ready
        (replaceSteps info (infoLine address) ++ replaceSteps ready readyLine) tree
  | placeInfo {tree : FileTree} {address : SocketAddress} : address ∈ addresses →
      Honest addresses info ready tree →
      tree.node? (info ++ ".tmp") = some (.file (infoLine address)) →
      Stage addresses info ready
        (.rename (info ++ ".tmp") info :: replaceSteps ready readyLine) tree
  | writeReady {tree : FileTree} {address : SocketAddress} : address ∈ addresses →
      tree.seen info = some (.file (infoLine address)) →
      Stage addresses info ready (replaceSteps ready readyLine) tree
  | placeReady {tree : FileTree} {address : SocketAddress} : address ∈ addresses →
      tree.seen info = some (.file (infoLine address)) →
      tree.node? (ready ++ ".tmp") = some (.file readyLine) →
      Stage addresses info ready [.rename (ready ++ ".tmp") ready] tree
  | removeReady {tree : FileTree} : Honest addresses info ready tree →
      Stage addresses info ready [.removeIfPresent ready, .removeIfPresent info] tree
  | removeInfo {tree : FileTree} : Honest addresses info ready tree →
      tree.exists? ready = false → Stage addresses info ready [.removeIfPresent info] tree

variable {steps rest : List FileStep} {step : FileStep}

theorem Stage.honest (stage : Stage addresses info ready steps tree) :
    Honest addresses info ready tree := by
  cases stage with
  | complete honest => exact honest
  | writeInfo _ honest => exact honest
  | placeInfo _ honest => exact honest
  | writeReady known line => exact honest_of_line known line
  | placeReady known line => exact honest_of_line known line
  | removeReady honest => exact honest
  | removeInfo honest => exact honest

/-- A step that fails may leave part of a scratch copy, which nobody looks at. -/
theorem Stage.interrupted (apart : Apart info ready)
    (stage : Stage addresses info ready (step :: rest) tree) (fault : FileFault) :
    Honest addresses info ready (tree.interrupted step fault) := by
  have honest := stage.honest
  have beside : normal info ≠ normal (info ++ ".tmp") := (FileTree.normal_scratch_ne info).symm
  have beside' : normal ready ≠ normal (ready ++ ".tmp") :=
    (FileTree.normal_scratch_ne ready).symm
  cases stage with
  | writeInfo =>
    refine honest.changed (FileTree.changes_interrupted_write tree _ _ fault) ?_ ?_
    · simpa using beside
    · simpa using apart.info_scratch.symm
  | writeReady =>
    refine honest.changed (FileTree.changes_interrupted_write tree _ _ fault) ?_ ?_
    · simpa using apart.ready_scratch.symm
    · simpa using beside'
  | placeInfo => exact honest
  | placeReady => exact honest
  | removeReady => exact honest
  | removeInfo => exact honest

/-- A step that succeeds leaves what the next one relies on. -/
theorem Stage.apply (apart : Apart info ready)
    (stage : Stage addresses info ready (step :: rest) tree) (h : tree.apply step = .ok after) :
    Stage addresses info ready rest after := by
  have beside : normal info ≠ normal (info ++ ".tmp") := (FileTree.normal_scratch_ne info).symm
  have beside' : normal ready ≠ normal (ready ++ ".tmp") :=
    (FileTree.normal_scratch_ne ready).symm
  cases stage with
  | writeInfo known honest =>
    obtain ⟨changes, copy⟩ := FileTree.write_eq_ok h
    exact .placeInfo known (honest.changed changes (by simpa using beside)
      (by simpa using apart.info_scratch.symm)) copy
  | placeInfo known honest copy =>
    obtain ⟨-, placed⟩ := FileTree.rename_eq_ok copy h
    exact .writeReady known placed
  | writeReady known line =>
    obtain ⟨changes, copy⟩ := FileTree.write_eq_ok h
    refine .placeReady known ?_ copy
    rw [changes.seen (by simpa using apart.ready_scratch.symm)]
    exact line
  | placeReady known line copy =>
    obtain ⟨changes, -⟩ := FileTree.rename_eq_ok copy h
    refine .complete (honest_of_line known ?_)
    rw [changes.seen (by simpa using ⟨apart.ready_scratch.symm, apart.files⟩)]
    exact line
  | removeReady honest =>
    obtain ⟨changes, gone⟩ := FileTree.removeIfPresent_eq_ok h
    have absent : after.exists? ready = false := by
      rw [FileTree.exists?_eq_isSome_seen, gone]
      rfl
    refine .removeInfo ⟨?_, fun there => ?_⟩ absent
    · rw [changes.seen (by simpa using apart.files)]
      exact honest.whole
    · rw [absent] at there
      cases there
  | removeInfo honest absent =>
    obtain ⟨changes, gone⟩ := FileTree.removeIfPresent_eq_ok h
    refine .complete ⟨fun content found => ?_, fun there => ?_⟩
    · rw [gone] at found
      cases found
    · rw [FileTree.exists?_eq_isSome_seen] at absent there
      rw [changes.seen (by simpa using apart.files.symm), absent] at there
      cases there

/-! ## Whole runs -/

theorem Stage.trail (apart : Apart info ready)
    (stage : Stage addresses info ready steps tree) (faults : Nat → Option FileFault)
    (number : Nat) :
    ∀ passed ∈ tree.trail faults steps number, Honest addresses info ready passed := by
  induction steps generalizing tree number with
  | nil => exact nofun
  | cons step rest ih =>
    intro passed member
    rw [FileTree.trail] at member
    cases hfault : faults number with
    | some fault =>
      rw [hfault, List.mem_singleton] at member
      rw [member]
      exact stage.interrupted apart fault
    | none =>
      rw [hfault] at member
      dsimp only at member
      cases happly : tree.apply step with
      | error e =>
        rw [happly, List.mem_singleton] at member
        rw [member]
        exact stage.honest
      | ok changed =>
        have next := stage.apply apart happly
        rw [happly] at member
        rcases List.mem_cons.mp member with rfl | later
        · exact next.honest
        · exact ih next (number + 1) passed later

/-- A call begins with its first step. -/
theorem stage_of_honest (honest : Honest addresses info ready tree) (errand : Errand)
    (known : ∀ address, errand.address? = some address → address ∈ addresses) :
    Stage addresses info ready (errand.steps info ready) tree := by
  cases errand with
  | publish address => exact .writeInfo (known address rfl) honest
  | withdraw => exact .removeReady honest

/-- Every step of a call, also of one that is cut off, leaves the files honest. -/
theorem Honest.call (apart : Apart info ready) (honest : Honest addresses info ready tree)
    (call : PublisherCall)
    (known : ∀ address, call.errand.address? = some address → address ∈ addresses) :
    ∀ passed ∈ tree.trail call.faults (call.steps info ready) 0,
      Honest addresses info ready passed := by
  intro passed member
  have all := (stage_of_honest honest call.errand known).trail apart call.faults 0
  unfold PublisherCall.steps at member
  split at member
  · rw [FileTree.trail_take] at member
    exact all passed (List.mem_of_mem_take member)
  · exact all passed member

end Publication

namespace FileTree

open Publication

variable {addresses : List SocketAddress} {info ready : String}

theorem honest_afterCall (apart : Apart info ready) {tree : FileTree}
    (honest : Honest addresses info ready tree) (call : PublisherCall)
    (known : ∀ address, call.errand.address? = some address → address ∈ addresses) :
    Honest addresses info ready (tree.afterCall info ready call) := by
  rw [afterCall_eq_run, run_eq_last_trail]
  generalize hall : tree.trail call.faults (call.steps info ready) 0 = all
  have ended : all.getLastD tree ∈ tree :: all := List.getLastD_mem_cons
  rcases List.mem_cons.mp ended with same | inside
  · rw [same]
    exact honest
  · exact honest.call apart call known _ (hall ▸ inside)

theorem honest_passed (apart : Apart info ready) (calls : List PublisherCall) {start : FileTree}
    (honest : Honest addresses info ready start)
    (known : ∀ address ∈ PublisherCall.addresses calls, address ∈ addresses) :
    ∀ tree ∈ start.passed info ready calls, Honest addresses info ready tree := by
  induction calls generalizing start with
  | nil =>
    intro tree member
    rw [List.mem_singleton.mp member]
    exact honest
  | cons call later ih =>
    have now (address : SocketAddress) (published : call.errand.address? = some address) :
        address ∈ addresses :=
      known address (List.mem_filterMap.mpr ⟨call, List.mem_cons_self, published⟩)
    have rest : ∀ address ∈ PublisherCall.addresses later, address ∈ addresses := by
      intro address published
      obtain ⟨other, listed, same⟩ := List.mem_filterMap.mp published
      exact known address (List.mem_filterMap.mpr ⟨other, List.mem_cons_of_mem call listed, same⟩)
    intro tree member
    rw [passed, List.cons_append, List.mem_cons, List.mem_append] at member
    rcases member with rfl | during | afterwards
    · exact honest
    · exact honest.call apart call now tree during
    · exact ih (honest_afterCall apart honest call now) rest tree afterwards

/-- The ready marker is never seen without the whole address.  Whatever a publisher is asked to do
one after the other, whichever steps fail or are the last ones of a process, and however much of its
bytes a failed write has left: after every step, if the marker is seen, the file of the address
holds the line of an address that was to be published, and that file never holds anything else than
such a line. -/
theorem marker_implies_address (apart : Apart info ready) (start : FileTree)
    (noInfo : start.exists? info = false) (noReady : start.exists? ready = false)
    (calls : List PublisherCall) :
    ∀ tree ∈ start.passed info ready calls,
      (tree.exists? ready = true → ∃ address ∈ PublisherCall.addresses calls,
        tree.seen info = some (.file (infoLine address))) ∧
      ∀ content, tree.seen info = some (.file content) →
        ∃ address ∈ PublisherCall.addresses calls, content = infoLine address := by
  have begun : Honest (PublisherCall.addresses calls) info ready start := by
    refine ⟨fun content found => ?_, fun there => ?_⟩
    · rw [exists?_eq_isSome_seen, found] at noInfo
      cases noInfo
    · rw [noReady] at there
      cases there
  intro tree member
  have honest := honest_passed apart calls begun (fun _ listed => listed) tree member
  exact ⟨honest.marked, honest.whole⟩

/-- A listener is published; the marker of a second one cannot be moved into its place, and the
process ends when it has removed the first one's. -/
theorem marker_seen_of_second_address :
    let address (port : UInt16) : SocketAddress := .v4 Ipv4.loopback port
    let calls : List PublisherCall :=
      [⟨.publish (address 4001), Publication.noFaults, none⟩,
        ⟨.publish (address 4002),
          fun number => if number = 3 then some ⟨.isDirectory, none⟩ else none, none⟩,
        ⟨.withdraw, Publication.noFaults, some 1⟩]
    let passed := (⟨[]⟩ : FileTree).passed "i" "r" calls
    Apart "i" "r" ∧ (⟨[]⟩ : FileTree).exists? "i" = false ∧
      (⟨[]⟩ : FileTree).exists? "r" = false ∧
      (∃ tree ∈ passed, tree.exists? "r" = true ∧
        tree.seen "i" = some (.file (infoLine (address 4002)))) ∧
      ∀ tree ∈ passed, tree.exists? "r" = true →
        ∃ address ∈ PublisherCall.addresses calls,
          tree.seen "i" = some (.file (infoLine address)) := by
  intro address calls passed
  have spelled : ∀ name ∈ ["i", "i.tmp", "r", "r.tmp"], normal name = name :=
    fun name listed => normal_plain (by revert name; decide) (by revert name; decide)
  have clear (tree : FileTree) : ∀ name ∈ ["i", "i.tmp", "r", "r.tmp"], tree.blocked name = none :=
    fun name listed => tree.blocked_plain (by revert name; decide) (by revert name; decide)
      (by revert name; decide)
  simp only [List.forall_mem_cons, List.not_mem_nil, false_imp_iff, implies_true, and_true]
    at spelled clear
  have apart : Apart "i" "r" := by
    constructor <;> simp [spelled]
  have noInfo : (⟨[]⟩ : FileTree).exists? "i" = false := by simp [exists?, clear, node?]
  have noReady : (⟨[]⟩ : FileTree).exists? "r" = false := by simp [exists?, clear, node?]
  have shown : ∃ tree ∈ passed, tree.exists? "r" = true ∧
      tree.seen "i" = some (.file (infoLine (address 4002))) := by
    refine ⟨⟨[("r", .file readyLine), ("i", .file (infoLine (address 4002)))]⟩, ?_, ?_, ?_⟩
    · simp [passed, calls, FileTree.passed, trail, afterCall, PublisherCall.steps, Errand.steps,
        Errand.perform, publish, runSteps, publishSteps, replaceSteps, noFaults, run, apply, write,
        rename, clear, spelled, node?, put,
        erase, List.lookup_cons]
    · simp [exists?, clear, node?, spelled]
    · simp [seen, clear, node?, spelled, List.lookup_cons]
  exact ⟨apart, noInfo, noReady, shown, fun tree member =>
    (marker_implies_address apart ⟨[]⟩ noInfo noReady calls tree member).1⟩

end FileTree

end RdmaLink
