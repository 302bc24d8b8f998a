import Mathlib.Data.String.Basic
import RdmaLink.Publication.FileTree

/-!
# Spellings of paths

A path falls into the parts between its slashes, and is kept under the spelling that these parts
make.  The letters of a path are all in its spelling, so a path with an ending is another place than
the path itself; and a path without a slash is its own spelling, with nothing above it that could be
in the way.

    letters (normal path) = letters path                               (FileTree.letters_normal)
    normal (path ++ ".tmp") ≠ normal path                              (FileTree.normal_scratch_ne)
    name ≠ "" → '/' ∉ name.toList → normal name = name                 (FileTree.normal_plain)

The parts of a path under another one are the parts of that one and its own.

    components (path ++ "/" ++ name) = components path ++ components name
                                                                       (FileTree.components_slash)
-/

namespace RdmaLink

namespace FileTree

/-! ## Parts -/

/-- What splitting at slashes has come to: `former` is what it is past, `part` what there is so far
of the part that it is in. -/
theorem splitOnAux_slash (former part rest : List Char) (parts : List String) :
    String.splitOnAux (String.ofList (former ++ part ++ rest)) "/" ⟨String.utf8Len former⟩
      ⟨String.utf8Len former + String.utf8Len part⟩ 0 parts =
    parts.reverse ++ (List.splitOnPPrepend (· == '/') rest part.reverse).map String.ofList := by
  induction rest generalizing former part parts with
  | nil =>
    have ended : String.Pos.Raw.atEnd (String.ofList (former ++ part ++ []))
        ⟨String.utf8Len former + String.utf8Len part⟩ = true := by
      rw [String.atEnd_iff, String.rawEndPos_ofList, List.append_nil, String.utf8Len_append]
      exact Nat.le_refl _
    rw [String.splitOnAux, if_pos ended, String.extract_of_valid former part []]
    simp
  | cons c rest ih =>
    have here : String.utf8Len former + String.utf8Len part = String.utf8Len (former ++ part) := by
      rw [String.utf8Len_append]
    have going : ¬ String.Pos.Raw.atEnd (String.ofList (former ++ part ++ c :: rest))
        ⟨String.utf8Len former + String.utf8Len part⟩ = true := by
      rw [String.atEnd_iff, String.rawEndPos_ofList, String.utf8Len_append, String.utf8Len_cons,
        String.Pos.Raw.mk_le_mk, here]
      have := c.utf8Size_pos
      omega
    have found : String.Pos.Raw.get (String.ofList (former ++ part ++ c :: rest))
        ⟨String.utf8Len former + String.utf8Len part⟩ = c := by
      rw [here, String.get_of_valid]
      rfl
    have next : String.Pos.Raw.next (String.ofList (former ++ part ++ c :: rest))
        ⟨String.utf8Len former + String.utf8Len part⟩ =
          ⟨String.utf8Len former + String.utf8Len (part ++ [c])⟩ := by
      rw [here, String.next_of_valid, ← here, Nat.add_assoc, String.utf8Len_append,
        String.utf8Len_cons, String.utf8Len_nil, Nat.zero_add]
    by_cases slash : c = '/'
    · -- The part ends here, and an empty one begins.
      subst slash
      have past := ih (former ++ part ++ ['/']) [] (String.ofList part :: parts)
      have single : String.Pos.Raw.atEnd "/" (String.Pos.Raw.next "/" 0) = true := rfl
      have back : String.Pos.Raw.unoffsetBy
          ⟨String.utf8Len former + String.utf8Len (part ++ ['/'])⟩
          (String.Pos.Raw.next "/" 0) = ⟨String.utf8Len former + String.utf8Len part⟩ := by
        rw [String.utf8Len_append]
        rfl
      have whole : former ++ part ++ ['/'] ++ [] ++ rest = former ++ part ++ '/' :: rest := by simp
      have at' : String.utf8Len (former ++ part ++ ['/']) =
          String.utf8Len former + String.utf8Len (part ++ ['/']) := by
        rw [List.append_assoc, String.utf8Len_append]
      rw [whole, at', String.utf8Len_nil, Nat.add_zero] at past
      rw [String.splitOnAux, if_neg going, if_pos (by rw [found]; rfl), next]
      dsimp only
      rw [if_pos single, back, String.extract_of_valid, past, List.splitOnPPrepend_cons_eq_if,
        if_pos (beq_self_eq_true _)]
      simp
    · have within := ih former (part ++ [c]) parts
      rw [List.reverse_append, List.reverse_singleton, List.singleton_append,
        ← List.append_assoc, List.append_assoc (former ++ part), List.singleton_append] at within
      have other : ¬ (String.Pos.Raw.get (String.ofList (former ++ part ++ c :: rest))
          ⟨String.utf8Len former + String.utf8Len part⟩ == String.Pos.Raw.get "/" 0) = true := by
        rw [found, beq_iff_eq]
        exact slash
      have aside : String.Pos.Raw.unoffsetBy ⟨String.utf8Len former + String.utf8Len part⟩ 0 =
        ⟨String.utf8Len former + String.utf8Len part⟩ := rfl
      rw [String.splitOnAux, if_neg going, if_neg other, aside, next, within,
        List.splitOnPPrepend_cons_eq_if, if_neg (by rwa [beq_iff_eq])]

/-- A text falls into the parts between its slashes. -/
theorem splitOn_slash (text : String) :
    text.splitOn "/" = (List.splitOnP (· == '/') text.toList).map String.ofList := by
  have all := splitOnAux_slash [] [] text.toList []
  rw [List.nil_append, List.nil_append, String.ofList_toList] at all
  exact all

/-! ## Spellings -/

/-- The characters of a path that are no slashes. -/
def letters (path : String) : List Char := path.toList.filter (· != '/')

theorem letters_append (a b : String) : letters (a ++ b) = letters a ++ letters b := by
  rw [letters, String.toList_append, List.filter_append]
  rfl

theorem letters_joined (parts : List String) : letters (joined parts) = parts.flatMap letters := by
  induction parts with
  | nil => rfl
  | cons part rest ih =>
    cases rest with
    | nil => simp [joined]
    | cons next rest =>
      rw [joined, String.intercalate_cons_cons, letters_append, letters_append, List.flatMap_cons,
        ← ih, joined]
      simp [letters]

theorem letters_components (path : String) : (components path).flatMap letters = letters path := by
  have parted (chars : List Char) :
      (List.splitOnP (· == '/') chars).flatMap (·.filter (· != '/')) =
        chars.filter (· != '/') := by
    induction chars with
    | nil => rfl
    | cons c rest ih =>
      rw [List.splitOnP_cons_eq_if_modifyHead]
      split
      · next slash =>
        rw [beq_iff_eq] at slash
        simpa [slash] using ih
      · next other =>
        obtain ⟨first, later, split⟩ :=
          List.exists_cons_of_ne_nil (List.splitOnP_ne_nil (· == '/') rest)
        rw [beq_iff_eq] at other
        rw [split] at ih ⊢
        simpa [other] using ih
  have unnamed (parts : List String) :
      (parts.filter (· != "")).flatMap letters = parts.flatMap letters := by
    induction parts with
    | nil => rfl
    | cons part rest ih =>
      by_cases empty : part = ""
      · simpa [empty, letters] using ih
      · simp [empty, ih]
  rw [components, splitOn_slash, unnamed, List.flatMap_map]
  simpa [letters] using parted path.toList

/-- A spelling has the letters of the path. -/
theorem letters_normal (path : String) : letters (normal path) = letters path := by
  rw [normal, letters_joined, letters_components]

/-- A file and its scratch copy are two places. -/
theorem normal_scratch_ne (path : String) : normal (path ++ ".tmp") ≠ normal path := by
  intro same
  have letters := congrArg letters same
  rw [letters_normal, letters_normal, letters_append] at letters
  have lengths := congrArg List.length letters
  rw [List.length_append] at lengths
  have more : (FileTree.letters ".tmp").length = 4 := by decide
  omega

/-! ## Paths of one part -/

variable {name : String}

theorem splitOn_plain (plain : '/' ∉ name.toList) : name.splitOn "/" = [name] := by
  have whole : List.splitOnP (· == '/') name.toList = [name.toList] := by
    refine List.splitOnP_eq_singleton fun c inside => beq_eq_false_iff_ne.mpr ?_
    rintro rfl
    exact plain inside
  rw [splitOn_slash, whole, List.map_singleton, String.ofList_toList]

theorem components_plain (named : name ≠ "") (plain : '/' ∉ name.toList) :
    components name = [name] := by
  rw [components, splitOn_plain plain, List.filter_singleton, bne_iff_ne.mpr named]
  rfl

theorem components_slash (path name : String) :
    components (path ++ "/" ++ name) = components path ++ components name := by
  have marked : (path ++ "/" ++ name).toList = path.toList ++ '/' :: name.toList := by simp
  have parted : List.splitOnP (· == '/') (path.toList ++ '/' :: name.toList) =
      List.splitOnP (· == '/') path.toList ++ List.splitOnP (· == '/') name.toList :=
    List.splitOnP_append_cons _ _ rfl
  simp only [components, splitOn_slash, marked, parted, List.map_append, List.filter_append]

theorem normal_plain (named : name ≠ "") (plain : '/' ∉ name.toList) : normal name = name := by
  rw [normal, components_plain named plain]
  rfl

theorem blocked_plain (tree : FileTree) (named : name ≠ "") (plain : '/' ∉ name.toList)
    (short : name.utf8ByteSize ≤ nameLimit) : tree.blocked name = none := by
  have fits : ([name].any fun part => decide (nameLimit < part.utf8ByteSize)) = false := by
    simpa using short
  rw [blocked, components_plain named plain, fits]
  rfl

end FileTree

end RdmaLink
