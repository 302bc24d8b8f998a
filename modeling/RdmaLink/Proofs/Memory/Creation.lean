import Mathlib
import RdmaLink.Memory.BackingFile
import RdmaLink.Proofs.Publication.Paths

/-!
# What a creation leaves behind

A file for a region is opened, given its length and mapped, and each of the three steps may fail.
A file that cannot be opened was not made, and one that cannot be mapped is taken away again; but
a file whose length is refused stays where it is, empty, and its name is taken from then on.

    (directory.create limits name size).1 = .error e →
      ((directory.create limits name size).2 = directory ↔ ¬ directory.Halts limits name size)

A creation touches no other file, and a file that is there stays as it is through every history of
creations.

    directory.length? name = some n → (directory.after calls).length? name = some n
                                                          (BackingDirectory.length?_after)
-/

namespace RdmaLink

/-- A call that makes a file, with what the system turns down meanwhile. -/
structure Creation where
  limits : BackingLimits
  name : String
  size : Nat

namespace BackingDirectory

/-- Why a fresh file cannot be opened: the directory is in the way, or the system. -/
def notOpened (directory : BackingDirectory) (limits : BackingLimits) (name : String) :
    Option IoError :=
  (directory.openingRefusal name).or (limits.opening name)

/-- The file is opened and its length is refused. -/
def Halts (directory : BackingDirectory) (limits : BackingLimits) (name : String)
    (size : Nat) : Prop :=
  directory.notOpened limits name = none ∧ (limits.resizing size).isSome = true

/-- The directory with one more file. -/
def adding (directory : BackingDirectory) (name : String) (size : Nat) : BackingDirectory :=
  ⟨directory.files ++ [(name, size)]⟩

/-- The directory after a history of creations. -/
def after (directory : BackingDirectory) (calls : List Creation) : BackingDirectory :=
  calls.foldl (fun directory call => (directory.create call.limits call.name call.size).2)
    directory

variable {directory : BackingDirectory} {limits : BackingLimits} {name other : String}
  {size n : Nat}

/-! ## Single steps -/

theorem length?_adding (directory : BackingDirectory) (name other : String) (size : Nat) :
    (directory.adding name size).length? other =
      (directory.length? other).or (if other == name then some size else none) := by
  have last : List.lookup other [(name, size)] = if other == name then some size else none := by
    cases same : other == name <;> simp [List.lookup, same]
  simp only [length?, adding, List.lookup_append, last]

theorem not_mem_of_length?_eq_none (absent : directory.length? name = none) :
    ∀ file ∈ directory.files, file.1 ≠ name := by
  intro file held same
  have apart := List.lookup_eq_none_iff.mp absent file held
  rw [same] at apart
  simp at apart

/-- A fresh file at another length. -/
theorem resized_opened (absent : directory.length? name = none) :
    (directory.opened name).resized name size = directory.adding name size := by
  have others : directory.files.map
      (fun file => if file.1 == name then (name, size) else file) = directory.files := by
    refine (List.map_congr_left fun file held => ?_).trans (List.map_id _)
    exact if_neg (by simpa using not_mem_of_length?_eq_none absent file held)
  simp only [resized, opened, adding, List.map_append, others, List.map_cons, List.map_nil,
    beq_self_eq_true, if_true]

/-- A fresh file that is taken away again. -/
theorem erase_adding (absent : directory.length? name = none) :
    (directory.adding name size).erase name = directory := by
  have others : directory.files.filter (fun file => file.1 != name) = directory.files :=
    List.filter_eq_self.mpr fun file held => by
      simpa using not_mem_of_length?_eq_none absent file held
  simp only [erase, adding, List.filter_append, others]
  simp

/-- A name under which a file was opened once is refused exactly where there is a file of that
name. -/
theorem openingRefusal_of_opens (opens : directory.openingRefusal name = none)
    (later : BackingDirectory) :
    later.openingRefusal name =
      if (later.length? name).isSome then some (.os Errno.alreadyExists) else none := by
  unfold openingRefusal at opens ⊢
  split at opens
  · cases opens
  · next plain =>
    rw [if_neg plain]
    split at opens
    · split at opens
      · cases opens
      · next proper =>
        rw [if_neg proper]
        split at opens
        · cases opens
        · next short => rw [if_neg short]
    · split at opens <;> cases opens
    · cases opens

theorem absent_of_opens (opens : directory.openingRefusal name = none) :
    directory.length? name = none := by
  have refused := openingRefusal_of_opens opens directory
  rw [opens] at refused
  split at refused
  · cases refused
  · next absent => simpa using absent

/-! ## A creation -/

/-- Where a creation may end: it does not open the file, its length is refused, it cannot be
mapped, or it is made. -/
theorem create_cases (directory : BackingDirectory) (limits : BackingLimits) (name : String)
    (size : Nat) :
    (∃ e, directory.notOpened limits name = some e ∧
      directory.create limits name size = (.error e, directory)) ∨
    directory.notOpened limits name = none ∧ directory.length? name = none ∧
      ((∃ e, limits.resizing size = some e ∧
        directory.create limits name size = (.error e, directory.adding name 0)) ∨
      limits.resizing size = none ∧
        ((∃ e, limits.mapping size = some e ∧
          directory.create limits name size = (.error e, directory)) ∨
        limits.mapping size = none ∧
          directory.create limits name size = (.ok (), directory.adding name size))) := by
  unfold create notOpened
  cases refused : (directory.openingRefusal name).or (limits.opening name) with
  | some e => exact .inl ⟨e, rfl, rfl⟩
  | none =>
    have absent := absent_of_opens (Option.or_eq_none_iff.mp refused).1
    refine .inr ⟨rfl, absent, ?_⟩
    cases limits.resizing size with
    | some e => exact .inl ⟨e, rfl, rfl⟩
    | none =>
      refine .inr ⟨rfl, ?_⟩
      simp only [resized_opened absent, erase_adding absent]
      cases limits.mapping size with
      | some e => exact .inl ⟨e, rfl, rfl⟩
      | none => exact .inr ⟨rfl, rfl⟩

/-- A creation that fails at its first or last step leaves nothing. -/
theorem create_of_not_halts {e : IoError} (going : ¬ directory.Halts limits name size)
    (failed : (directory.create limits name size).1 = .error e) :
    (directory.create limits name size).2 = directory := by
  rcases directory.create_cases limits name size with
    ⟨_, -, refused⟩ | ⟨opens, -, ⟨_, resizing, halted⟩ | ⟨-, ⟨_, -, unmapped⟩ | ⟨-, made⟩⟩⟩
  · rw [refused]
  · exact absurd ⟨opens, by rw [resizing]; rfl⟩ going
  · rw [unmapped]
  · rw [made] at failed
    cases failed

theorem create_of_halts (halts : directory.Halts limits name size) :
    ∃ e, limits.resizing size = some e ∧ directory.length? name = none ∧
      directory.create limits name size = (.error e, directory.adding name 0) := by
  rcases directory.create_cases limits name size with
    ⟨_, refused, -⟩ | ⟨-, absent, ⟨e, resizing, halted⟩ | ⟨resizing, -⟩⟩
  · rw [halts.1] at refused
    cases refused
  · exact ⟨e, resizing, absent, halted⟩
  · have refused := halts.2
    rw [resizing] at refused
    cases refused

/-- A creation touches only files of its own name. -/
theorem length?_create_of_ne (apart : other ≠ name) :
    (directory.create limits name size).2.length? other = directory.length? other := by
  have untouched (n : Nat) : (directory.adding name n).length? other = directory.length? other := by
    rw [length?_adding, if_neg (by simpa using apart), Option.or_none]
  rcases directory.create_cases limits name size with
    ⟨_, -, ended⟩ | ⟨-, -, ⟨_, -, ended⟩ | ⟨-, ⟨_, -, ended⟩ | ⟨-, ended⟩⟩⟩
  · rw [ended]
  · rw [ended, untouched]
  · rw [ended]
  · rw [ended, untouched]

/-- A file that is there stays as it is. -/
theorem length?_create (held : directory.length? other = some n) (call : Creation) :
    (directory.create call.limits call.name call.size).2.length? other = some n := by
  by_cases same : other = call.name
  · -- A file of the very name is in the way of the creation.
    subst same
    rcases directory.create_cases call.limits call.name call.size with
      ⟨_, -, refused⟩ | ⟨-, absent, -⟩
    · rw [refused, held]
    · rw [absent] at held
      cases held
  · rw [length?_create_of_ne same, held]

/-- A file that is there stays as it is through every history of creations. -/
theorem length?_after (held : directory.length? other = some n) (calls : List Creation) :
    (directory.after calls).length? other = some n := by
  induction calls generalizing directory with
  | nil => exact held
  | cons call later ih => exact ih (length?_create held call)

/-- A file that is made was not there before, and has the size asked for. -/
theorem length?_of_create_eq_ok (made : (directory.create limits name size).1 = .ok ()) :
    directory.length? name = none ∧
      (directory.create limits name size).2.length? name = some size := by
  rcases directory.create_cases limits name size with
    ⟨_, -, ended⟩ | ⟨-, absent, ⟨_, -, ended⟩ | ⟨-, ⟨_, -, ended⟩ | ⟨-, ended⟩⟩⟩
  · rw [ended] at made
    cases made
  · rw [ended] at made
    cases made
  · rw [ended] at made
    cases made
  · rw [ended, length?_adding, absent]
    simp

/-- While there is a file of a name that opened once, no creation of that name goes ahead. -/
theorem create_of_taken (opens : directory.openingRefusal name = none)
    {later : BackingDirectory} (taken : later.length? name = some n) (limits : BackingLimits)
    (size : Nat) :
    later.create limits name size = (.error (.os Errno.alreadyExists), later) := by
  have refused := openingRefusal_of_opens opens later
  rw [taken, Option.isSome_some, if_pos rfl] at refused
  unfold create
  rw [refused]
  rfl

/-- **What a creation leaves behind.**  It succeeds exactly if none of its steps fails; then there
was no file of its name, and now there is one of the size asked for.  No other file changes, and
one that was there never does.  If it fails, then the directory is exactly as before, so that
everything later goes as without it, unless the file was opened and its length refused: then an
empty file is left, and whatever else is created, no creation of that name succeeds any more. -/
theorem creation_leaves (directory : BackingDirectory) (limits : BackingLimits) (name : String)
    (size : Nat) :
    let made := directory.create limits name size
    (made.1 = .ok () ↔ directory.notOpened limits name = none ∧ limits.resizing size = none ∧
      limits.mapping size = none) ∧
    (made.1 = .ok () → directory.length? name = none ∧ made.2.length? name = some size) ∧
    (∀ other, other ≠ name → made.2.length? other = directory.length? other) ∧
    (∀ other n, directory.length? other = some n → made.2.length? other = some n) ∧
    (∀ e, made.1 = .error e → (made.2 = directory ↔ ¬ directory.Halts limits name size)) ∧
    (directory.Halts limits name size →
      directory.length? name = none ∧ made.2 = directory.adding name 0 ∧
      ∀ (calls : List Creation) (limits' : BackingLimits) (size' : Nat),
        ((made.2.after calls).create limits' name size').1 =
          .error (.os Errno.alreadyExists)) := by
  intro made
  refine ⟨?_, ?_, fun other apart => length?_create_of_ne apart,
    fun other n held => length?_create held ⟨limits, name, size⟩, fun e failed => ?_,
    fun halts => ?_⟩
  · rcases directory.create_cases limits name size with
      ⟨_, opening, ended⟩ | ⟨opening, -, ⟨_, resizing, ended⟩ |
        ⟨resizing, ⟨_, mapping, ended⟩ | ⟨mapping, ended⟩⟩⟩ <;>
      simp [made, *]
  · intro succeeded
    rcases directory.create_cases limits name size with
      ⟨_, -, ended⟩ | ⟨-, absent, ⟨_, -, ended⟩ | ⟨-, ⟨_, -, ended⟩ | ⟨-, ended⟩⟩⟩
    · simp [made, ended] at succeeded
    · simp [made, ended] at succeeded
    · simp [made, ended] at succeeded
    · refine ⟨absent, ?_⟩
      simp [made, ended, length?_adding, absent]
  · refine ⟨fun unchanged halts => ?_, fun going => create_of_not_halts going failed⟩
    obtain ⟨_, -, -, halted⟩ := create_of_halts halts
    have longer := congrArg (fun directory => directory.files.length) unchanged
    simp [made, halted, adding] at longer
  · obtain ⟨_, -, absent, halted⟩ := create_of_halts halts
    have left : made.2 = directory.adding name 0 := by rw [show made = _ from halted]
    refine ⟨absent, left, fun calls limits' size' => ?_⟩
    have taken : made.2.length? name = some 0 := by
      rw [left, length?_adding, absent]
      simp
    rw [create_of_taken (Option.or_eq_none_iff.mp halts.1).1 (length?_after taken calls)]

/-- No file has a length of 2⁶³ bytes.  A creation of that size fails and leaves an empty file, and
the creation of one page under that name, which would have succeeded before, fails as well. -/
theorem refused_length_leaves_file :
    empty.create .ordinary "region" (2 ^ 63) = (.error .invalidInput, ⟨[("region", 0)]⟩) ∧
      (⟨[("region", 0)]⟩ : BackingDirectory).create .ordinary "region" 4096 =
        (.error (.os Errno.alreadyExists), ⟨[("region", 0)]⟩) ∧
      empty.create .ordinary "region" 4096 = (.ok (), ⟨[("region", 4096)]⟩) := by
  have opens : empty.openingRefusal "region" = none := by
    have whole : "region".splitOn "/" = ["region"] := by
      rw [FileTree.splitOn_slash]
      rfl
    have plain : "region".contains '\x00' = false := by simp
    unfold openingRefusal
    rw [whole, plain]
    decide
  refine ⟨?_, create_of_taken opens (n := 0) rfl .ordinary 4096, ?_⟩
  · unfold create
    rw [opens]
    rfl
  · unfold create
    rw [opens]
    rfl

end BackingDirectory

end RdmaLink
