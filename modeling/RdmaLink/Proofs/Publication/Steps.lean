import RdmaLink.Publication.Basic
import RdmaLink.Table

/-!
# What the steps of a publication change

Replacing a file changes what is found at two paths, that of the file and that of its scratch copy,
and makes no directory and removes none (`FileTree.Changes`).  Of a replacement that fails, only the
scratch copy is left; of one that succeeds, the file with its new content.

    tree.Changes keys after → normal path ∉ keys → after.seen path = tree.seen path
                                                                       (FileTree.Changes.seen)

So a publication that fails leaves every path as it was but the scratch copies, and the file of the
address, which is already the new one if it was replaced before the failure
(`Publication.publish_error`).
-/

namespace RdmaLink

namespace FileTree

/-- What is found at a path. -/
def seen (tree : FileTree) (path : String) : Option FileNode :=
  if tree.blocked path = none then tree.node? path else none

variable {tree after : FileTree} {path : String}

theorem exists?_eq_isSome_seen (tree : FileTree) (path : String) :
    tree.exists? path = (tree.seen path).isSome := by
  unfold exists? seen
  cases tree.blocked path <;> rfl

theorem lookup_put (tree : FileTree) (path : String) (node : FileNode) (key : String) :
    (tree.put path node).entries.lookup key =
      if key = normal path then some node else tree.entries.lookup key := by
  have erased : (tree.put path node).entries =
      Table.erase (normal path) tree.entries ++ [(normal path, node)] := rfl
  rw [erased, List.lookup_append]
  split
  · next same => rw [same, Table.lookup_erase]; simp
  · next other =>
    rw [Table.lookup_erase_of_ne other, List.lookup_cons, beq_eq_false_iff_ne.mpr other]
    simp

theorem lookup_erase (tree : FileTree) (path key : String) :
    (tree.erase path).entries.lookup key =
      if key = normal path then none else tree.entries.lookup key := by
  have erased : (tree.erase path).entries = Table.erase (normal path) tree.entries := rfl
  rw [erased]
  split
  · next same => rw [same, Table.lookup_erase]
  · next other => rw [Table.lookup_erase_of_ne other]

/-! ## Changes at some paths -/

/-- Nothing has changed but at the given places, and all directories are where they were. -/
structure Changes (tree : FileTree) (keys : List String) (after : FileTree) : Prop where
  kept : ∀ key, key ∉ keys → after.entries.lookup key = tree.entries.lookup key
  directories : ∀ key, after.entries.lookup key = some .directory ↔
    tree.entries.lookup key = some .directory

theorem Changes.refl (tree : FileTree) (keys : List String) : tree.Changes keys tree :=
  ⟨fun _ _ => rfl, fun _ => Iff.rfl⟩

theorem Changes.trans {a b : List String} {later : FileTree} (h : tree.Changes a after)
    (h' : after.Changes b later) : tree.Changes (a ++ b) later := by
  refine ⟨fun key out => ?_, fun key => (h'.directories key).trans (h.directories key)⟩
  rw [List.mem_append, not_or] at out
  exact (h'.kept key out.2).trans (h.kept key out.1)

theorem Changes.mono {a b : List String} (h : tree.Changes a after) (subset : ∀ key ∈ a, key ∈ b) :
    tree.Changes b after :=
  ⟨fun key out => h.kept key fun inside => out (subset key inside), h.directories⟩

/-- A path can be followed exactly if it could. -/
theorem Changes.blocked {keys : List String} (h : tree.Changes keys after) (path : String) :
    after.blocked path = none ↔ tree.blocked path = none := by
  have follows (t : FileTree) : t.blocked path = none ↔
      (∀ parent ∈ (List.range ((components path).length - 1)).map
        fun n => joined ((components path).take (n + 1)),
          t.entries.lookup parent = some .directory) ∧
      ((components path).any fun part => nameLimit < part.utf8ByteSize) = false := by
    unfold FileTree.blocked
    dsimp only
    split
    · next fault found =>
      refine ⟨nofun, fun ⟨clear, _⟩ => ?_⟩
      obtain ⟨parent, above, stopped⟩ := List.exists_of_findSome?_eq_some found
      rw [clear parent above] at stopped
      cases stopped
    · next clear =>
      rw [List.findSome?_eq_none_iff] at clear
      have directories (parent : String) (above : parent ∈ (List.range
          ((components path).length - 1)).map fun n => joined ((components path).take (n + 1))) :
          t.entries.lookup parent = some .directory := by
        have none := clear parent above
        split at none
        · assumption
        · cases none
        · cases none
      split
      · next long => rw [long]; exact ⟨nofun, fun ⟨_, short⟩ => nomatch short⟩
      · next short => exact ⟨fun _ => ⟨directories, Bool.eq_false_iff.mpr short⟩, fun _ => rfl⟩
  rw [follows, follows]
  simp only [h.directories]

/-- Elsewhere everything is found as it was. -/
theorem Changes.seen {keys : List String} (h : tree.Changes keys after)
    (out : normal path ∉ keys) : after.seen path = tree.seen path := by
  unfold FileTree.seen node?
  simp only [h.blocked path, h.kept _ out]

theorem changes_put {node : FileNode} (before : tree.node? path ≠ some .directory)
    (file : node ≠ .directory) : tree.Changes [normal path] (tree.put path node) := by
  refine ⟨fun key out => ?_, fun key => ?_⟩
  · rw [lookup_put, if_neg (by simpa using out)]
  · rw [lookup_put]
    split
    · next same =>
      rw [same]
      exact ⟨fun is => absurd (Option.some.inj is) file, fun is => absurd is before⟩
    · exact Iff.rfl

theorem changes_erase {content : Bytes} (file : tree.node? path = some (.file content)) :
    tree.Changes [normal path] (tree.erase path) := by
  refine ⟨fun key out => ?_, fun key => ?_⟩
  · rw [lookup_erase, if_neg (by simpa using out)]
  · rw [lookup_erase]
    split
    · next same =>
      rw [same, show tree.entries.lookup (normal path) = _ from file]
      exact ⟨nofun, nofun⟩
    · exact Iff.rfl

/-! ## Steps -/

/-- A write that succeeds leaves the file at its path. -/
theorem write_eq_ok {content : Bytes} (h : tree.write path content = .ok after) :
    tree.Changes [normal path] after ∧ after.node? path = some (.file content) := by
  unfold write at h
  split at h
  · cases h
  · split at h
    · cases h
    · next file =>
      cases h
      exact ⟨changes_put file nofun, by rw [node?, lookup_put, if_pos rfl]⟩

theorem changes_interrupted_write (tree : FileTree) (path : String) (content : Bytes)
    (fault : FileFault) :
    tree.Changes [normal path] (tree.interrupted (.write path content) fault) := by
  unfold interrupted
  split
  · next same _ =>
    cases same
    split
    · next written => exact (write_eq_ok written).1
    · exact .refl _ _
  · exact .refl _ _

/-- A file that is renamed is found at its new path. -/
theorem rename_eq_ok {source target : String} {content : Bytes}
    (file : tree.node? source = some (.file content)) (h : tree.rename source target = .ok after) :
    tree.Changes [normal source, normal target] after ∧
      after.seen target = some (.file content) := by
  unfold rename at h
  split at h
  · cases h
  · split at h
    · cases h
    · next clear =>
      have moved : tree.node? target ≠ some .directory ∧ after =
          if normal source = normal target then tree
          else (tree.erase source).put target (.file content) := by
        rw [file] at h
        cases there : tree.node? target with
        | none =>
          rw [there] at h
          refine ⟨nofun, ?_⟩
          dsimp only at h
          split at h <;> cases h
          · next same => rw [if_pos same]
          · next other => rw [if_neg other]
        | some node =>
          rw [there] at h
          cases node with
          | directory => cases h
          | file old =>
            refine ⟨nofun, ?_⟩
            dsimp only at h
            split at h <;> cases h
            · next same => rw [if_pos same]
            · next other => rw [if_neg other]
      obtain ⟨free, rfl⟩ := moved
      split
      · next same =>
        exact ⟨.refl _ _, by rw [seen, if_pos clear, node?, ← same]; exact file⟩
      · next other =>
        have changes : tree.Changes [normal source, normal target]
            ((tree.erase source).put target (.file content)) := by
          have erased := changes_erase file
          refine erased.trans (changes_put ?_ nofun)
          intro directory
          exact free ((erased.directories (normal target)).mp directory)
        refine ⟨changes, ?_⟩
        rw [seen, if_pos ((changes.blocked target).mpr clear), node?, lookup_put, if_pos rfl]

/-- A file that is removed is gone, and so is one that was not there. -/
theorem removeIfPresent_eq_ok (h : tree.apply (.removeIfPresent path) = .ok after) :
    tree.Changes [normal path] after ∧ after.seen path = none := by
  unfold apply at h
  dsimp only at h
  split at h
  · next e failed =>
    split at h
    · next missing =>
      cases h
      refine ⟨.refl _ _, ?_⟩
      rw [missing] at failed
      unfold remove at failed
      unfold seen
      split at failed
      · next blocked => rw [if_neg (by rw [blocked]; nofun)]
      · next clear =>
        rw [if_pos clear]
        split at failed
        · cases failed
        · cases failed
        · assumption
    · cases h
  · next removed done =>
    cases h
    unfold remove at done
    split at done
    · cases done
    · split at done
      · next content file =>
        cases done
        refine ⟨changes_erase file, ?_⟩
        unfold seen node?
        rw [lookup_erase, if_pos rfl, ite_self]
      · cases done
      · cases done

/-! ## Places that can be used -/

/-- The path can be followed, and no directory is at its end. -/
structure Usable (tree : FileTree) (path : String) : Prop where
  clear : tree.blocked path = none
  free : tree.node? path ≠ some .directory

theorem Usable.changed {keys : List String} (usable : tree.Usable path)
    (changes : tree.Changes keys after) : after.Usable path :=
  ⟨(changes.blocked path).mpr usable.clear, fun directory =>
    usable.free ((changes.directories (normal path)).mp directory)⟩

theorem Usable.write_eq (usable : tree.Usable path) (content : Bytes) :
    tree.write path content = .ok (tree.put path (.file content)) := by
  unfold write
  rw [usable.clear]
  dsimp only
  split
  · next directory => exact absurd directory usable.free
  · rfl

theorem Usable.rename {source : String} {content : Bytes} (usable : tree.Usable path)
    (clear : tree.blocked source = none) (file : tree.node? source = some (.file content)) :
    ∃ moved, tree.rename source path = .ok moved := by
  unfold FileTree.rename
  rw [clear, usable.clear, file]
  dsimp only
  cases there : tree.node? path with
  | none => dsimp only; split <;> exact ⟨_, rfl⟩
  | some node =>
    cases node with
    | directory => exact absurd there usable.free
    | file old => dsimp only; split <;> exact ⟨_, rfl⟩

/-- A file is removed, or it was not there and nothing changes. -/
theorem Usable.removeIfPresent (usable : tree.Usable path) :
    ∃ removed, tree.apply (.removeIfPresent path) = .ok removed ∧
      (tree.node? path = none → removed = tree) := by
  unfold apply remove
  dsimp only
  rw [usable.clear]
  dsimp only
  cases there : tree.node? path with
  | none => exact ⟨tree, rfl, fun _ => rfl⟩
  | some node =>
    cases node with
    | directory => exact absurd there usable.free
    | file content => exact ⟨_, rfl, nofun⟩

/-! ## Replacing a file -/

/-- A replacement that fails leaves at most the scratch copy; one that succeeds leaves the file. -/
theorem run_replaceSteps (faults : Nat → Option FileFault) (tree : FileTree) (path : String)
    (content : Bytes) (number : Nat) :
    let ran := tree.run faults (Publication.replaceSteps path content) number
    (∃ e, ran.1 = .error e ∧ tree.Changes [normal (path ++ ".tmp")] ran.2) ∨
    (ran.1 = .ok () ∧ tree.Changes [normal (path ++ ".tmp"), normal path] ran.2 ∧
      ran.2.seen path = some (.file content)) := by
  simp only [Publication.replaceSteps, run]
  cases faults number with
  | some fault =>
    exact Or.inl ⟨_, rfl, changes_interrupted_write tree (path ++ ".tmp") content fault⟩
  | none =>
    dsimp only
    cases hwrite : tree.apply (.write (path ++ ".tmp") content) with
    | error e => exact Or.inl ⟨_, rfl, .refl _ _⟩
    | ok written =>
      obtain ⟨wrote, file⟩ := write_eq_ok hwrite
      dsimp only
      cases faults (number + 1) with
      | some fault => exact Or.inl ⟨_, rfl, wrote⟩
      | none =>
        dsimp only
        cases hrename : written.apply (.rename (path ++ ".tmp") path) with
        | error e => exact Or.inl ⟨_, rfl, wrote⟩
        | ok renamed =>
          obtain ⟨moved, found⟩ := rename_eq_ok file hrename
          refine Or.inr ⟨rfl, (wrote.trans moved).mono fun key member => ?_, found⟩
          simpa using member

/-- A replacement between places that can be used succeeds. -/
theorem Usable.replace (usable : tree.Usable path) (scratch : tree.Usable (path ++ ".tmp"))
    (content : Bytes) (number : Nat) :
    ∃ replaced, tree.run Publication.noFaults (Publication.replaceSteps path content) number =
        (.ok (), replaced) ∧
      tree.Changes [normal (path ++ ".tmp"), normal path] replaced ∧
      replaced.seen path = some (.file content) := by
  have written := scratch.write_eq content
  obtain ⟨changes, copy⟩ := write_eq_ok written
  obtain ⟨moved, renamed⟩ := (usable.changed changes).rename (scratch.changed changes).clear copy
  have ran : tree.run Publication.noFaults (Publication.replaceSteps path content) number =
      (.ok (), moved) := by
    simp only [Publication.replaceSteps, Publication.noFaults, run, apply, written, renamed]
  have outcome := tree.run_replaceSteps Publication.noFaults path content number
  rw [ran] at outcome
  obtain ⟨_, failed, -⟩ | ⟨-, changed, placed⟩ := outcome
  · cases failed
  · exact ⟨moved, ran, changed, placed⟩

/-- A run of steps goes on with the rest if the first ones succeed. -/
theorem run_append (faults : Nat → Option FileFault) (tree : FileTree) (a b : List FileStep)
    (number : Nat) :
    tree.run faults (a ++ b) number =
      match tree.run faults a number with
      | (.error e, stopped) => (.error e, stopped)
      | (.ok (), reached) => reached.run faults b (number + a.length) := by
  induction a generalizing tree number with
  | nil => rfl
  | cons step rest ih =>
    simp only [List.cons_append, run]
    split
    · rfl
    · split
      · rfl
      · rw [ih, List.length_cons, Nat.add_right_comm, Nat.add_assoc]

end FileTree

/-! ## Publishing -/

namespace Publication

open FileTree (normal)

/-- Where a publication writes its files before it moves them into their places. -/
def scratch : Publication → List String
  | .files info ready => (info.toList ++ ready.toList).map fun path => normal (path ++ ".tmp")
  | .memory => []

/-- The file of the address is wanted at a path, and replacing it succeeds. -/
def Replaces (publication : Publication) (faults : Nat → Option FileFault)
    (address : SocketAddress) (tree : FileTree) (info : String) : Prop :=
  (∃ ready, publication = .files (some info) ready) ∧
    (tree.run faults (replaceSteps info (infoLine address)) 0).1 = .ok ()

/-- A publication that fails has left all as it was, its scratch copies apart, if it has not come
to replace the file of the address; that file holds the address if it has. -/
theorem publish_error {publication : Publication} {faults : Nat → Option FileFault}
    {address : SocketAddress} {board after : Board} {cause : PublicationError}
    (h : publication.publish faults address board = (.error cause, after)) :
    after.slot = board.slot ∧
    (∀ path, normal path ∉ publication.scratch →
      (∀ info, publication.Replaces faults address board.tree info → normal path ≠ normal info) →
      after.tree.seen path = board.tree.seen path) ∧
    ∀ info, publication.Replaces faults address board.tree info →
      normal info ∉ publication.scratch →
      after.tree.seen info = some (.file (infoLine address)) := by
  cases publication with
  | memory => cases h
  | files info ready =>
    -- What the steps of the ready marker leave, if they are reached and fail.
    have marker (tree : FileTree) (number : Nat) (path : String)
        (out : normal path ∉ (Publication.files info ready).scratch)
        (failed : (tree.run faults ((ready.map fun path => replaceSteps path readyLine).getD [])
          number).1 ≠ .ok ()) :
        (tree.run faults ((ready.map fun path => replaceSteps path readyLine).getD [])
          number).2.seen path = tree.seen path := by
      cases ready with
      | none => exact absurd rfl failed
      | some ready =>
        rcases tree.run_replaceSteps faults ready readyLine number with ⟨e, -, changes⟩ | ⟨ok, -⟩
        · refine changes.seen fun inside => out ?_
          rw [List.mem_singleton.mp inside]
          simp [scratch]
        · exact absurd ok failed
    -- The run as a whole, and what the board says about it.
    have ran : ∃ e, board.tree.run faults (publishSteps info ready address) 0 =
        (.error e, after.tree) ∧ after.slot = board.slot := by
      unfold publish runSteps at h
      dsimp only at h
      generalize board.tree.run faults (publishSteps info ready address) 0 = ran at h ⊢
      obtain ⟨e | _, tree⟩ := ran
      · cases h
        exact ⟨e, rfl, rfl⟩
      · cases h
    obtain ⟨e, hrun, slot⟩ := ran
    refine ⟨slot, ?_⟩
    unfold publishSteps at hrun
    rw [FileTree.run_append] at hrun
    cases info with
    | none =>
      simp only [Option.map_none, Option.getD_none, FileTree.run, List.length_nil] at hrun
      have never (info : String) :
          ¬ (Publication.files none ready).Replaces faults address board.tree info := by
        rintro ⟨⟨_, same⟩, -⟩
        cases same
      refine ⟨fun path out _ => ?_, fun info replaced => absurd replaced (never info)⟩
      have unmarked := marker board.tree _ path out (by rw [hrun]; nofun)
      rw [hrun] at unmarked
      exact unmarked
    | some info =>
      simp only [Option.map_some, Option.getD_some] at hrun
      rcases board.tree.run_replaceSteps faults info (infoLine address) 0 with
        ⟨cause, failed, changes⟩ | ⟨ok, changes, found⟩
      · -- The address was never moved into its place, and the steps stopped there.
        have stopped : after.tree =
            (board.tree.run faults (replaceSteps info (infoLine address)) 0).2 := by
          rw [← Prod.eta (board.tree.run faults (replaceSteps info (infoLine address)) 0),
            failed] at hrun
          exact (congrArg Prod.snd hrun).symm
        have never (path : String) :
            ¬ (Publication.files (some info) ready).Replaces faults address board.tree path := by
          rintro ⟨⟨_, same⟩, replaced⟩
          cases same
          rw [failed] at replaced
          cases replaced
        refine ⟨fun path out _ => ?_, fun path replaced => absurd replaced (never path)⟩
        rw [stopped]
        refine changes.seen fun inside => out ?_
        rw [List.mem_singleton.mp inside]
        simp [scratch]
      · -- The address is in its place, and the steps of the marker failed.
        have replaced : (Publication.files (some info) ready).Replaces faults address
            board.tree info := ⟨⟨ready, rfl⟩, ok⟩
        generalize board.tree.run faults (replaceSteps info (infoLine address)) 0 = reached
          at hrun ok changes found
        obtain ⟨result, tree⟩ := reached
        subst ok
        dsimp only at hrun changes found
        have unmarked (path : String)
            (out : normal path ∉ (Publication.files (some info) ready).scratch) :
            after.tree.seen path = tree.seen path := by
          have same := marker tree _ path out (by rw [hrun]; nofun)
          rw [hrun] at same
          exact same
        refine ⟨fun path out other => ?_, fun path published out => ?_⟩
        · rw [unmarked path out]
          refine changes.seen fun inside => ?_
          rw [List.mem_cons, List.mem_singleton] at inside
          rcases inside with scratched | placed
          · exact out (by rw [scratched]; simp [scratch])
          · exact other info replaced placed
        · obtain ⟨⟨_, same⟩, -⟩ := published
          cases same
          rw [unmarked info out, found]

end Publication

end RdmaLink
