import RdmaLink.Proofs.Endpoint.Watching
import RdmaLink.Proofs.Publication.Paths
import RdmaLink.Proofs.Publication.Steps

/-!
# Binds that fail

A bind that fails leaves the tables and the multiplexer of its endpoint as they were, wherever it
fails; at most it has spent a number.  Of what is published it leaves all but one file: if the
address was moved into its place before the failure, it stays there.

    failed.result = .error fault → failed.endpoint = { e with nextListener := next }
    failed.result = .error fault → stand.Readdresses conditions bound info →
      failed.board.tree.seen info = some (.file (infoLine bound))  (Stand.failed_bind_keeps)
-/

namespace RdmaLink

namespace Stand

open FileTree (normal)

/-- A bind comes to move the address of its listener into its place at a path. -/
def Readdresses (stand : Stand) (conditions : Endpoint.BindConditions) (bound : SocketAddress)
    (info : String) : Prop :=
  conditions.toPublish = some bound ∧
    stand.endpoint.publication.Replaces conditions.faults bound stand.board.tree info

/-- A bind that fails, at any point and in any state that a run leads to, leaves the endpoint as it
was but for the number it has spent, the slot in memory, and every file but the scratch copies and
the file of the address.  That file too is as it was, unless it was replaced before the failure: it
then holds the address of the listener that is not kept. -/
theorem failed_bind_keeps (config : EndpointConfig) (device : Device) (publication : Publication)
    (region : Region) (board : Board) (events : List EndpointEvent) (address : SocketAddress)
    (conditions : Endpoint.BindConditions) (fault : EndpointError)
    (h : let stand := run ⟨Endpoint.opened config device publication region, board⟩ events
      (stand.endpoint.bind address conditions stand.board).result = .error fault) :
    let stand := run ⟨Endpoint.opened config device publication region, board⟩ events
    let failed := stand.endpoint.bind address conditions stand.board
    (∃ next, stand.endpoint.nextListener ≤ next ∧
      failed.endpoint = { stand.endpoint with nextListener := next }) ∧
    failed.board.slot = stand.board.slot ∧
    (∀ path, normal path ∉ stand.endpoint.publication.scratch →
      (∀ bound info, stand.Readdresses conditions bound info → normal path ≠ normal info) →
      failed.board.tree.seen path = stand.board.tree.seen path) ∧
    ∀ bound info, stand.Readdresses conditions bound info →
      normal info ∉ stand.endpoint.publication.scratch →
      failed.board.tree.seen info = some (.file (Publication.infoLine bound)) := by
  intro stand failed
  have begun : (⟨Endpoint.opened config device publication region, board⟩ :
      Stand).endpoint.roster.Tidy := tidy_opened config device publication region
  have tidy : stand.endpoint.roster.Tidy := tidy_run begun events
  change failed.result = _ at h
  rcases Endpoint.bind_paths tidy address conditions stand.board with
    ⟨cause, next, nothing, forward, same⟩ | ⟨bound, cause, after, wanted, published, same⟩ |
    ⟨bound, mux, after, -, -, -, same⟩
  · -- Nothing was published, so nothing was replaced either.
    rw [show failed = _ from same]
    refine ⟨⟨next, forward, rfl⟩, rfl, fun _ _ _ => rfl, fun bound info replaced => ?_⟩
    rw [Readdresses, nothing] at replaced
    exact nomatch replaced.1
  · obtain ⟨slot, kept, replaced⟩ := Publication.publish_error published
    rw [show failed = _ from same]
    refine ⟨⟨_, Nat.le_succ _, rfl⟩, slot, fun path out other => ?_, fun other info moved out => ?_⟩
    · exact kept path out fun info moved => other bound info ⟨wanted, moved⟩
    · obtain ⟨found, moved⟩ := moved
      rw [wanted] at found
      cases found
      exact replaced info moved out
  · rw [show failed = _ from same] at h
    cases h

/-! ## A directory in the place of the marker -/

theorem unmarked_fits : (4096 : UInt64).toNat + 16 < UInt64.size := by decide

/-- An endpoint that publishes through two files, with a directory in the place of the marker. -/
def unmarked : Stand :=
  { endpoint := Endpoint.opened (EndpointConfig.ofService "unmarked") Device.soft
      (.files (some "i") (some "r")) ⟨"unmarked", 4096, 16, fun _ => 0, unmarked_fits⟩
    board := ⟨⟨[("r", .directory)]⟩, none⟩ }

/-- Binding meets with nothing but what is in the way of the files. -/
def unhindered (bound : SocketAddress) : Endpoint.BindConditions :=
  ⟨.ok bound, none, Publication.noFaults⟩

/-- The first file is replaced, and the second one is written but cannot be moved. -/
theorem run_unmarked (line marker : Bytes) :
    unmarked.board.tree.run Publication.noFaults
        (Publication.replaceSteps "i" line ++ Publication.replaceSteps "r" marker) 0 =
      (.error (.os Errno.isDirectory),
        ⟨[("r", .directory), ("i", .file line), ("r.tmp", .file marker)]⟩) := by
  have spelled : ∀ name ∈ ["i", "i.tmp", "r", "r.tmp"], normal name = name :=
    fun name listed => FileTree.normal_plain (by revert name; decide) (by revert name; decide)
  have clear (tree : FileTree) : ∀ name ∈ ["i", "i.tmp", "r", "r.tmp"], tree.blocked name = none :=
    fun name listed => tree.blocked_plain (by revert name; decide) (by revert name; decide)
      (by revert name; decide)
  simp only [List.forall_mem_cons, List.not_mem_nil, false_imp_iff, implies_true, and_true]
    at spelled clear
  simp [unmarked, FileTree.run, Publication.replaceSteps, Publication.noFaults, FileTree.apply,
    FileTree.write, FileTree.rename, clear, spelled, FileTree.node?, FileTree.put, FileTree.erase,
    List.lookup_cons, List.lookup_nil]

theorem bind_unmarked (address bound : SocketAddress) :
    unmarked.endpoint.bind address (unhindered bound) unmarked.board =
      ⟨.error (.ofPublication (.io (.os Errno.isDirectory))),
        { unmarked.endpoint with nextListener := 2 },
        ⟨⟨[("r", .directory), ("i", .file (Publication.infoLine bound)),
          ("r.tmp", .file Publication.readyLine)]⟩, none⟩⟩ := by
  have published : unmarked.endpoint.publication.publish Publication.noFaults bound
      unmarked.board = (.error (.io (.os Errno.isDirectory)),
        ⟨⟨[("r", .directory), ("i", .file (Publication.infoLine bound)),
          ("r.tmp", .file Publication.readyLine)]⟩, none⟩) := by
    have ran := run_unmarked (Publication.infoLine bound) Publication.readyLine
    simp only [unmarked, Endpoint.opened, Publication.publish, Publication.runSteps,
      Publication.publishSteps, Option.map_some, Option.getD_some] at ran ⊢
    rw [ran]
    rfl
  rcases Endpoint.bind_paths (e := unmarked.endpoint) (tidy_opened _ _ _ _) address
      (unhindered bound) unmarked.board with
    ⟨-, -, nothing, -⟩ | ⟨other, cause, after, found, failed, same⟩ |
    ⟨other, -, after, found, -, done, -⟩
  · cases nothing
  · cases found
    cases published.symm.trans failed
    exact same
  · cases found
    cases published.symm.trans done

/-- The bind over the directory leaves the rest as it was. -/
theorem unmarked_bind_keeps :
    let address : SocketAddress := .v4 Ipv4.loopback 4002
    let failed := unmarked.endpoint.bind address (unhindered address) unmarked.board
    failed.result = .error (.ofPublication (.io (.os Errno.isDirectory))) ∧
    (∃ next, 1 ≤ next ∧ failed.endpoint = { unmarked.endpoint with nextListener := next }) ∧
    failed.board.slot = none ∧
    (∀ path, normal path ∉ unmarked.endpoint.publication.scratch →
      (∀ bound info, unmarked.Readdresses (unhindered address) bound info →
        normal path ≠ normal info) →
      failed.board.tree.seen path = unmarked.board.tree.seen path) ∧
    ∀ bound info, unmarked.Readdresses (unhindered address) bound info →
      normal info ∉ unmarked.endpoint.publication.scratch →
      failed.board.tree.seen info = some (.file (Publication.infoLine bound)) := by
  intro address failed
  have refused : failed.result = .error (.ofPublication (.io (.os Errno.isDirectory))) :=
    congrArg Endpoint.Outcome.result (bind_unmarked address address)
  exact ⟨refused, failed_bind_keeps (EndpointConfig.ofService "unmarked") Device.soft
    (.files (some "i") (some "r")) ⟨"unmarked", 4096, 16, fun _ => 0, unmarked_fits⟩
    unmarked.board [] address (unhindered address) _ refused⟩

/-- The bind fails and keeps no listener, but its address is left in the file, where nothing
was. -/
theorem unmarked_bind_readdresses :
    let address : SocketAddress := .v4 Ipv4.loopback 4002
    let failed := unmarked.endpoint.bind address (unhindered address) unmarked.board
    failed.result = .error (.ofPublication (.io (.os Errno.isDirectory))) ∧
    failed.endpoint.listeners = [] ∧
    unmarked.board.tree.seen "i" = none ∧
    failed.board.tree.seen "i" = some (.file (Publication.infoLine address)) := by
  intro address failed
  have spelled : normal "i" = "i" := FileTree.normal_plain (by decide) (by decide)
  have clear (tree : FileTree) : tree.blocked "i" = none :=
    tree.blocked_plain (by decide) (by decide) (by decide)
  rw [show failed = _ from bind_unmarked address address]
  refine ⟨rfl, rfl, ?_, ?_⟩
  · rw [FileTree.seen, if_pos (clear _), FileTree.node?, spelled]
    rfl
  · rw [FileTree.seen, if_pos (clear _), FileTree.node?, spelled]
    rfl

end Stand

end RdmaLink
