import Mathlib
import RdmaLink.Memory.Allocation
import RdmaLink.Proofs.Memory.Creation

/-!
# Names of the files behind regions

A file behind a region is named by the region, the process and the number that the process drew
for it.  The name is read from its end: there is no `_` in the digits of a number, so the last two
of them part the numbers from the rest, whatever the region is called.

    Region.fileName n₁ p₁ q₁ = Region.fileName n₂ p₂ q₂ ↔
      p₁ = p₂ ∧ q₁ = q₂ ∧ Region.sanitized n₁ = Region.sanitized n₂      (Region.fileName_eq_iff)

It is one part of a path and no way out of the directory.

    components (space.pathOf file) = components space.path ++ [file]
                                                                   (RegionSpace.components_pathOf)

A process draws its numbers one after the other, and there are 2⁶⁴ of them.  Two regions of a
process get the same file only if whole rounds of numbers were drawn from the one to the other
(`RegionSpace.rounds_between`), and even then the file of the first is gone when the second is made
(`RegionSpace.makes_fresh`).

    turns.countP SpaceTurn.draws ≤ 2 ^ 64 → (space.made turns).Nodup        (RegionSpace.nodup_made)
-/

namespace RdmaLink

/-! ## Reading a name from its end -/

namespace Region

theorem eq_nil_of_mark {more digits digits' : List Char} (plain : '_' ∉ digits)
    (split : '_' :: digits = more ++ '_' :: digits') : more = [] ∧ digits = digits' := by
  cases more with
  | nil => simpa using split
  | cons c more =>
    obtain ⟨-, rfl⟩ := List.cons_eq_cons.mp split
    simp at plain

/-- A text is parted at its last mark, which has none behind it. -/
theorem parted_at_last_mark {front₁ front₂ digits₁ digits₂ : List Char} (plain₁ : '_' ∉ digits₁)
    (plain₂ : '_' ∉ digits₂) (same : front₁ ++ '_' :: digits₁ = front₂ ++ '_' :: digits₂) :
    front₁ = front₂ ∧ digits₁ = digits₂ := by
  -- One front may go on where the other ends, with what the other has from its mark on.
  rcases List.append_eq_append_iff.mp same with ⟨more, rfl, split⟩ | ⟨more, rfl, split⟩
  · obtain ⟨rfl, rfl⟩ := eq_nil_of_mark plain₁ split
    exact ⟨(List.append_nil front₁).symm, rfl⟩
  · obtain ⟨rfl, rfl⟩ := eq_nil_of_mark plain₂ split
    exact ⟨List.append_nil front₂, rfl⟩

theorem digit_of_mem_decimal {n : Nat} {c : Char} (inside : c ∈ (toString n).toList) :
    c.isDigit = true := by
  rw [Nat.toString_eq_repr, Nat.toList_repr] at inside
  exact Nat.isDigit_of_mem_toDigits (by decide) (by decide) inside

theorem mark_not_mem_decimal (n : Nat) : '_' ∉ (toString n).toList := fun inside =>
  absurd (digit_of_mem_decimal inside) (by decide)

theorem eq_of_decimal {m n : Nat} (same : (toString m).toList = (toString n).toList) : m = n := by
  rw [String.toList_inj, Nat.toString_eq_repr, Nat.toString_eq_repr] at same
  exact Nat.repr_injective same

theorem toList_fileName (name : String) (process : UInt32) (sequence : UInt64) :
    (fileName name process sequence).toList =
      "rdma_".toList ++ (sanitized name).toList ++ '_' :: (toString process.toNat).toList ++
        '_' :: (toString sequence.toNat).toList := by
  have number₁ : toString process = toString process.toNat := rfl
  have number₂ : toString sequence = toString sequence.toNat := rfl
  simp [fileName, number₁, number₂]

theorem fileName_eq_iff {name₁ name₂ : String} {process₁ process₂ : UInt32}
    {sequence₁ sequence₂ : UInt64} :
    fileName name₁ process₁ sequence₁ = fileName name₂ process₂ sequence₂ ↔
      process₁ = process₂ ∧ sequence₁ = sequence₂ ∧ sanitized name₁ = sanitized name₂ := by
  constructor
  · intro same
    rw [← String.toList_inj, toList_fileName, toList_fileName] at same
    obtain ⟨fronts, sequences⟩ := parted_at_last_mark (mark_not_mem_decimal _)
      (mark_not_mem_decimal _) same
    obtain ⟨names, processes⟩ := parted_at_last_mark (mark_not_mem_decimal _)
      (mark_not_mem_decimal _) fronts
    exact ⟨UInt32.toNat_inj.mp (eq_of_decimal processes),
      UInt64.toNat_inj.mp (eq_of_decimal sequences),
      String.toList_inj.mp (List.append_cancel_left names)⟩
  · rintro ⟨rfl, rfl, names⟩
    rw [fileName, names, ← fileName]

-- The name of a region may itself end like a process and a number.
example : fileName "unit_2_23" 2 24 = "rdma_unit_2_23_2_24" := rfl

/-! ## The characters of a name -/

/-- An ASCII letter or digit, `-` or `_`. -/
def isPlain (c : Char) : Bool := c.isAlphanum || c == '-' || c == '_'

theorem plain_of_mem_sanitized {name : String} {c : Char} (inside : c ∈ (sanitized name).toList) :
    isPlain c = true := by
  rw [sanitized, String.toList_ofList] at inside
  obtain ⟨given, -, rfl⟩ := List.mem_map.mp inside
  split
  · next kept => rw [isPlain, kept, Bool.true_or]
  · rfl

theorem plain_of_mem_decimal {n : Nat} {c : Char} (inside : c ∈ (toString n).toList) :
    isPlain c = true := by
  simp [isPlain, Char.isAlphanum, digit_of_mem_decimal inside]

theorem plain_of_mem_fileName {name : String} {process : UInt32} {sequence : UInt64} {c : Char}
    (inside : c ∈ (fileName name process sequence).toList) : isPlain c = true := by
  have first : "rdma_".toList.all isPlain = true := by decide
  rw [toList_fileName] at inside
  simp only [List.mem_append, List.mem_cons] at inside
  rcases inside with ((inside | inside) | rfl | inside) | rfl | inside
  · exact List.all_eq_true.mp first c inside
  · exact plain_of_mem_sanitized inside
  · rfl
  · exact plain_of_mem_decimal inside
  · rfl
  · exact plain_of_mem_decimal inside

theorem not_mem_fileName {c : Char} (other : isPlain c = false) (name : String)
    (process : UInt32) (sequence : UInt64) : c ∉ (fileName name process sequence).toList :=
  fun inside => Bool.eq_false_iff.mp other (plain_of_mem_fileName inside)

theorem fileName_eq_append (name : String) (process : UInt32) (sequence : UInt64) :
    ∃ rest, fileName name process sequence = "rdma_" ++ rest := by
  refine ⟨sanitized name ++ "_" ++ toString process ++ "_" ++ toString sequence, ?_⟩
  simp only [fileName, String.append_assoc]

/-! ## The place of a name -/

/-- No file behind a region is called like a directory itself or the one above it. -/
theorem fileName_not_special (name : String) (process : UInt32) (sequence : UInt64) :
    fileName name process sequence ≠ "" ∧ fileName name process sequence ≠ "." ∧
      fileName name process sequence ≠ ".." := by
  have begun : (fileName name process sequence).toList.head? = some 'r' := by
    rw [toList_fileName]
    rfl
  refine ⟨fun same => ?_, fun same => ?_, fun same => ?_⟩ <;>
    (rw [same] at begun; cases begun)

end Region

open Region

/-- The directory refuses the file of a region only for the length of its name or for a file that
is there. -/
theorem BackingDirectory.openingRefusal_fileName (directory : BackingDirectory) (name : String)
    (process : UInt32) (sequence : UInt64) :
    directory.openingRefusal (fileName name process sequence) =
      if 255 < (fileName name process sequence).utf8ByteSize then some (.os Errno.nameTooLong)
      else if (directory.length? (fileName name process sequence)).isSome then
        some (.os Errno.alreadyExists)
      else none := by
  have closed : (fileName name process sequence).contains '\x00' = false := by
    simpa using not_mem_fileName rfl name process sequence
  have flat : '/' ∉ (fileName name process sequence).toList :=
    not_mem_fileName rfl name process sequence
  obtain ⟨named, notHere, notAbove⟩ := fileName_not_special name process sequence
  unfold openingRefusal
  rw [closed, FileTree.splitOn_plain flat]
  simp [named, notHere, notAbove]

namespace RegionSpace

/-- The file of a region is the last part of its path. -/
theorem components_pathOf (space : RegionSpace) (name : String) (process : UInt32)
    (sequence : UInt64) :
    FileTree.components (space.pathOf (fileName name process sequence)) =
      FileTree.components space.path ++ [fileName name process sequence] := by
  rw [pathOf, FileTree.components_slash,
    FileTree.components_plain (fileName_not_special name process sequence).1
      (not_mem_fileName rfl name process sequence)]

end RegionSpace

/-! ## What a process does in its directory -/

/-- What happens where a process keeps the files of its regions.  Other threads and processes may
leave the directory in any state between two turns, so the turns of a process are those of all its
threads, in the order in which they drew their numbers. -/
inductive SpaceTurn where
  | reserve (lot : RegionLot) (name : String) (size : Nat)
  | allocate (device : Device) (lot : RegionLot) (name : String) (size : Nat)
  | release (file : String)
  | others (directory : BackingDirectory)

/-- A number is drawn for every region of an admissible size, whatever becomes of it. -/
def SpaceTurn.draws : SpaceTurn → Bool
  | .reserve _ _ size => decide (0 < size ∧ size ≤ Region.maxSize)
  | .allocate device _ _ size =>
    decide (size ≤ device.profile.maxRegion ∧ 0 < size ∧ size ≤ Region.maxSize)
  | .release _ => false
  | .others _ => false

namespace RegionSpace

/-- The file of the next region. -/
def nextFile (space : RegionSpace) (name : String) : String :=
  fileName name space.process space.sequence

/-- The space after a turn. -/
def step (space : RegionSpace) : SpaceTurn → RegionSpace
  | .reserve lot name size => (space.create lot name size).2
  | .allocate device lot name size => (space.allocate device lot name size).2
  | .release file => space.release file
  | .others directory => { space with directory := directory }

/-- The file that a turn makes for a region. -/
def makes (space : RegionSpace) : SpaceTurn → Option String
  | .reserve lot name size =>
    (space.create lot name size).1.toOption.map fun _ => space.nextFile name
  | .allocate device lot name size =>
    (space.allocate device lot name size).1.toOption.map fun _ => space.nextFile name
  | .release _ => none
  | .others _ => none

/-- The space after some turns. -/
def after (space : RegionSpace) (turns : List SpaceTurn) : RegionSpace := turns.foldl step space

/-- The files that some turns make for regions, in order. -/
def made : RegionSpace → List SpaceTurn → List String
  | _, [] => []
  | space, turn :: later => (space.makes turn).toList ++ (space.step turn).made later

variable {space : RegionSpace} {turn one two : SpaceTurn} {turns between : List SpaceTurn}
  {file name : String} {lot : RegionLot} {size : Nat}

/-! ### One turn -/

/-- Mapping a region changes the directory only, and a region is mapped to a file that was not
there. -/
theorem map_cases (space : RegionSpace) (lot : RegionLot) (name file : String) (size : Nat) :
    ∃ directory, (space.map lot name file size).2 = { space with directory := directory } ∧
      ∀ region, (space.map lot name file size).1 = .ok region →
        space.directory.length? file = none ∧ directory.length? file = some size := by
  unfold map
  split
  · split
    · next failed => exact ⟨_, rfl, fun _ mapped => by cases mapped⟩
    · next directory succeeded =>
      refine ⟨directory, rfl, fun _ _ => ?_⟩
      have made := BackingDirectory.length?_of_create_eq_ok (congrArg Prod.fst succeeded)
      rwa [succeeded] at made
  · dsimp only
    split <;> exact ⟨_, rfl, fun _ mapped => by cases mapped⟩

theorem create_refused (refused : ¬ (0 < size ∧ size ≤ Region.maxSize)) (space : RegionSpace)
    (lot : RegionLot) (name : String) :
    space.create lot name size = (.error (.allocation size .size), space) := by
  unfold create
  exact if_pos (by omega)

/-- A region of an admissible size gets the next file, if it gets one. -/
theorem create_cases (admitted : 0 < size ∧ size ≤ Region.maxSize) (space : RegionSpace)
    (lot : RegionLot) (name : String) :
    ∃ directory, (space.create lot name size).2 =
        { space with directory := directory, sequence := space.sequence + 1 } ∧
      ∀ region, (space.create lot name size).1 = .ok region →
        space.directory.length? (space.nextFile name) = none ∧
          directory.length? (space.nextFile name) = some size := by
  obtain ⟨directory, left, found⟩ :=
    map_cases { space with sequence := space.sequence + 1 } lot name (space.nextFile name) size
  refine ⟨directory, ?_⟩
  unfold create
  rw [if_neg (by omega)]
  simp only [nextFile] at left found ⊢
  split
  · next failed =>
    rw [failed] at left
    exact ⟨left, nofun⟩
  · next region _ mapped =>
    rw [mapped] at left found
    exact ⟨left, fun _ _ => found region rfl⟩

theorem allocate_eq_create {device : Device} (admitted : size ≤ device.profile.maxRegion) :
    space.allocate device lot name size = space.create lot name size :=
  if_neg (Nat.not_lt.mpr admitted)

/-- A turn that draws no number makes no file. -/
theorem step_idle (idle : turn.draws = false) (space : RegionSpace) :
    (space.step turn).sequence = space.sequence ∧ space.makes turn = none := by
  cases turn with
  | reserve lot name size =>
    have refused := create_refused (of_decide_eq_false idle) space lot name
    simp [step, makes, refused, Except.toOption]
  | allocate device lot name size =>
    by_cases admitted : size ≤ device.profile.maxRegion
    · have refused := create_refused
        (fun sized => of_decide_eq_false idle ⟨admitted, sized⟩) space lot name
      simp [step, makes, allocate_eq_create admitted, refused, Except.toOption]
    · have refused : space.allocate device lot name size = (.error _, space) :=
        if_pos (Nat.lt_of_not_le admitted)
      simp [step, makes, refused, Except.toOption]
  | release file => exact ⟨rfl, rfl⟩
  | others directory => exact ⟨rfl, rfl⟩

/-- What a turn does that draws a number, and what is known of the file that it makes. -/
structure Draws (space later : RegionSpace) (file? : Option String) : Prop where
  sequence : later.sequence = space.sequence + 1
  named : ∀ file, file? = some file → ∃ name, file = space.nextFile name
  fresh : ∀ file, file? = some file →
    space.directory.length? file = none ∧ (later.directory.length? file).isSome = true

theorem draws_create (admitted : 0 < size ∧ size ≤ Region.maxSize) (space : RegionSpace)
    (lot : RegionLot) (name : String) :
    Draws space (space.create lot name size).2
      ((space.create lot name size).1.toOption.map fun _ => space.nextFile name) := by
  obtain ⟨directory, left, found⟩ := create_cases admitted space lot name
  cases outcome : (space.create lot name size).1 with
  | error e => exact ⟨by rw [left], nofun, nofun⟩
  | ok region =>
    obtain ⟨absent, present⟩ := found region outcome
    refine ⟨by rw [left], ?_, ?_⟩
    · rintro file ⟨⟩
      exact ⟨name, rfl⟩
    · rintro file ⟨⟩
      exact ⟨absent, by rw [left, present]; rfl⟩

theorem step_drawing (drawing : turn.draws = true) (space : RegionSpace) :
    Draws space (space.step turn) (space.makes turn) := by
  cases turn with
  | reserve lot name size => exact draws_create (of_decide_eq_true drawing) space lot name
  | allocate device lot name size =>
    obtain ⟨admitted, sized⟩ := of_decide_eq_true drawing
    simp only [step, makes, allocate_eq_create admitted]
    exact draws_create sized space lot name
  | release file => cases drawing
  | others directory => cases drawing

/-- A region of an admissible size gets the next file, unless that file is there, its name is too
long, or the system turns it down. -/
theorem reserve_of_willing (space : RegionSpace) (lot : RegionLot) (name : String)
    (admitted : 0 < size ∧ size ≤ Region.maxSize) (fits : lot.base.toNat + size < 2 ^ 64)
    (short : (space.nextFile name).utf8ByteSize ≤ 255)
    (absent : space.directory.length? (space.nextFile name) = none)
    (opens : lot.limits.opening (space.nextFile name) = none)
    (resizes : lot.limits.resizing size = none) (maps : lot.limits.mapping size = none) :
    space.makes (.reserve lot name size) = some (space.nextFile name) ∧
      space.step (.reserve lot name size) = { space with
        directory := space.directory.adding (space.nextFile name) size
        sequence := space.sequence + 1 } := by
  have opened : space.directory.notOpened lot.limits (space.nextFile name) = none := by
    rw [BackingDirectory.notOpened, opens, Option.or_none, nextFile,
      BackingDirectory.openingRefusal_fileName, ← nextFile, absent, if_neg (by omega)]
    rfl
  have made : space.directory.create lot.limits (space.nextFile name) size =
      (.ok (), space.directory.adding (space.nextFile name) size) := by
    rcases space.directory.create_cases lot.limits (space.nextFile name) size with
      ⟨_, refused, -⟩ | ⟨-, -, ⟨_, refused, -⟩ | ⟨-, ⟨_, refused, -⟩ | ⟨-, made⟩⟩⟩
    · simp [opened] at refused
    · simp [resizes] at refused
    · simp [maps] at refused
    · exact made
  have created : space.create lot name size = (.ok ⟨name, lot.base, size, fun _ => 0, fits⟩,
      { space with
        directory := space.directory.adding (space.nextFile name) size
        sequence := space.sequence + 1 }) := by
    simp only [nextFile] at made ⊢
    unfold create map
    rw [if_neg (by omega)]
    simp only [dif_pos fits, made]
  simp only [makes, step, created, Except.toOption, Option.map_some, and_self]

theorem draws_of_makes (making : space.makes turn = some file) : turn.draws = true := by
  by_contra idle
  rw [(step_idle (Bool.eq_false_iff.mpr idle) space).2] at making
  cases making

/-- A file that is made for a region is new. -/
theorem makes_fresh (making : space.makes turn = some file) :
    space.directory.length? file = none ∧
      ((space.step turn).directory.length? file).isSome = true :=
  (step_drawing (draws_of_makes making) space).fresh file making

/-! ### Many turns -/

/-- The numbers go round. -/
theorem toNat_sequence_after (space : RegionSpace) (turns : List SpaceTurn) :
    (space.after turns).sequence.toNat =
      (space.sequence.toNat + turns.countP SpaceTurn.draws) % 2 ^ 64 := by
  induction turns generalizing space with
  | nil => exact (Nat.mod_eq_of_lt space.sequence.toNat_lt).symm
  | cons turn later ih =>
    rw [after, List.foldl_cons, ← after, ih, List.countP_cons]
    cases drawing : turn.draws with
    | false =>
      rw [(step_idle drawing space).1]
      rfl
    | true =>
      have one : (1 : UInt64).toNat = 1 := rfl
      rw [(step_drawing drawing space).sequence, UInt64.toNat_add, one, if_pos rfl]
      omega

/-- From one file to the same one again whole rounds of numbers are drawn. -/
theorem rounds_between (first : space.makes one = some file)
    (second : (space.after (one :: between)).makes two = some file) :
    2 ^ 64 ∣ (one :: between).countP SpaceTurn.draws := by
  obtain ⟨name₁, called₁⟩ := (step_drawing (draws_of_makes first) space).named file first
  obtain ⟨name₂, called₂⟩ := (step_drawing (draws_of_makes second) _).named file second
  have numbers : space.sequence = (space.after (one :: between)).sequence :=
    (fileName_eq_iff.mp (called₁.symm.trans called₂)).2.1
  have counted := toNat_sequence_after space (one :: between)
  rw [← numbers] at counted
  have below := space.sequence.toNat_lt
  exact Nat.dvd_of_mod_eq_zero (by omega)

theorem exists_of_mem_made (inside : file ∈ space.made turns) :
    ∃ earlier turn later, turns = earlier ++ turn :: later ∧
      (space.after earlier).makes turn = some file := by
  induction turns generalizing space with
  | nil => cases inside
  | cons turn later ih =>
    rcases List.mem_append.mp inside with now | after
    · exact ⟨[], turn, later, rfl, Option.mem_toList.mp now⟩
    · obtain ⟨between, two, rest, rfl, made⟩ := ih after
      exact ⟨turn :: between, two, rest, rfl, made⟩

/-- Within a round of numbers no file is made twice. -/
theorem nodup_made (space : RegionSpace) (few : turns.countP SpaceTurn.draws ≤ 2 ^ 64) :
    (space.made turns).Nodup := by
  induction turns generalizing space with
  | nil => exact List.nodup_nil
  | cons turn later ih =>
    have fewer : later.countP SpaceTurn.draws ≤ 2 ^ 64 := by
      rw [List.countP_cons] at few
      omega
    cases making : space.makes turn with
    | none => simpa [made, making] using ih (space.step turn) fewer
    | some file =>
      simp only [made, making, Option.toList_some, List.singleton_append, List.nodup_cons]
      refine ⟨fun again => ?_, ih (space.step turn) fewer⟩
      -- The second time would be a whole round later, and would draw one more number.
      obtain ⟨between, two, rest, rfl, second⟩ := exists_of_mem_made again
      have counted : (turn :: between).countP SpaceTurn.draws =
          between.countP SpaceTurn.draws + 1 := List.countP_cons_of_pos (draws_of_makes making)
      have rounds := Nat.le_of_dvd (by omega) (rounds_between making second)
      rw [List.countP_cons_of_pos (draws_of_makes making), List.countP_append,
        List.countP_cons_of_pos (draws_of_makes second)] at few
      omega

/-! ## Main result -/

/-- **The files behind regions stay apart.**  Two of them have the same name only if process,
number and sanitized name are the same.  Each name begins with `rdma_`, has only ASCII letters,
digits, `-` and `_` in it and is one part of a path inside the directory, where nothing but its
length or a file of that name is in its way.  A process never makes a file that is there, and makes
the same one again only after whole rounds of 2⁶⁴ numbers; so as long as it has drawn no more
numbers than that, all its regions had files of their own. -/
theorem region_files_apart :
    (∀ name₁ name₂ process₁ process₂ sequence₁ sequence₂,
      fileName name₁ process₁ sequence₁ = fileName name₂ process₂ sequence₂ ↔
        process₁ = process₂ ∧ sequence₁ = sequence₂ ∧ sanitized name₁ = sanitized name₂) ∧
    (∀ name process sequence,
      let file := fileName name process sequence
      (∃ rest, file = "rdma_" ++ rest) ∧ (∀ c ∈ file.toList, isPlain c = true) ∧
        file ≠ "." ∧ file ≠ ".." ∧
        (∀ space : RegionSpace,
          FileTree.components (space.pathOf file) = FileTree.components space.path ++ [file]) ∧
        ∀ directory : BackingDirectory, directory.openingRefusal file =
          if 255 < file.utf8ByteSize then some (.os Errno.nameTooLong)
          else if (directory.length? file).isSome then some (.os Errno.alreadyExists)
          else none) ∧
    ∀ space : RegionSpace,
      (∀ turn file, space.makes turn = some file →
        space.directory.length? file = none ∧
          ((space.step turn).directory.length? file).isSome = true) ∧
      (∀ one between two file, space.makes one = some file →
        (space.after (one :: between)).makes two = some file →
        2 ^ 64 ∣ (one :: between).countP SpaceTurn.draws) ∧
      ∀ turns : List SpaceTurn, turns.countP SpaceTurn.draws ≤ 2 ^ 64 →
        (space.made turns).Nodup := by
  refine ⟨fun _ _ _ _ _ _ => fileName_eq_iff, fun name process sequence => ?_, fun space => ?_⟩
  · obtain ⟨-, notHere, notAbove⟩ := fileName_not_special name process sequence
    exact ⟨fileName_eq_append name process sequence, fun c => plain_of_mem_fileName, notHere,
      notAbove, fun space => space.components_pathOf name process sequence,
      fun directory => directory.openingRefusal_fileName name process sequence⟩
  · exact ⟨fun _ _ => makes_fresh, fun _ _ _ _ => rounds_between,
      fun _ few => nodup_made space few⟩

/-- A process at its last number. -/
def lastNumber : RegionSpace := ⟨"/dev/shm", .empty, 2, 18446744073709551615⟩

/-- The same process when it has made a region and starts with its numbers again. -/
def firstNumber : RegionSpace :=
  ⟨"/dev/shm", ⟨[("rdma_unit_drop_2_18446744073709551615", 64)]⟩, 2, 0⟩

/-- A region of sixty-four bytes. -/
def smallRegion : SpaceTurn := .reserve ⟨4096, .ordinary⟩ "unit/drop" 64

/-- Two regions that are called alike have two files, also where the numbers start again. -/
theorem last_number_then_first :
    lastNumber.made [smallRegion, smallRegion] =
        ["rdma_unit_drop_2_18446744073709551615", "rdma_unit_drop_2_0"] ∧
      [smallRegion, smallRegion].countP SpaceTurn.draws ≤ 2 ^ 64 ∧
      (lastNumber.made [smallRegion, smallRegion]).Nodup := by
  have few : [smallRegion, smallRegion].countP SpaceTurn.draws ≤ 2 ^ 64 := by decide
  refine ⟨?_, few, (region_files_apart.2.2 lastNumber).2.2 _ few⟩
  have sized : 0 < 64 ∧ 64 ≤ Region.maxSize := by decide
  have called₁ : lastNumber.nextFile "unit/drop" = "rdma_unit_drop_2_18446744073709551615" := by
    decide
  have called₂ : firstNumber.nextFile "unit/drop" = "rdma_unit_drop_2_0" := by decide
  obtain ⟨makes₁, left⟩ := reserve_of_willing lastNumber ⟨4096, .ordinary⟩ "unit/drop" sized
    (by decide) (by decide) rfl rfl rfl rfl
  obtain ⟨makes₂, -⟩ := reserve_of_willing firstNumber ⟨4096, .ordinary⟩ "unit/drop" sized
    (by decide) (by decide) (by decide) rfl rfl rfl
  rw [called₁] at makes₁ left
  rw [called₂] at makes₂
  change lastNumber.step smallRegion = firstNumber at left
  rw [← smallRegion] at makes₁ makes₂
  rw [made, made, made, left, makes₁, makes₂]
  rfl

end RegionSpace

end RdmaLink
