import Mathlib.Data.String.Basic
import RdmaLink.Address.Socket
import RdmaLink.Text.Blank

namespace RdmaLink

namespace Text

/-- A character that leaves a mark on paper, of the first 128. -/
def isGraphic (c : Char) : Bool := 0x21 ≤ c.toNat && c.toNat ≤ 0x7e

theorem isBlank_of_isGraphic {c : Char} (h : isGraphic c = true) : isBlank c = false := by
  simp only [isGraphic, Bool.and_eq_true, decide_eq_true_eq] at h
  simp only [isBlank, Bool.or_eq_false_iff, Bool.and_eq_false_iff, decide_eq_false_iff_not,
    beq_eq_false_iff_ne]
  omega

/-- A line without blanks, trimmed, is without its end. -/
theorem trimmed_line {line : List Char} (graphic : ∀ c ∈ line, isGraphic c = true) :
    trimmed (line ++ ['\n']) = line := by
  have unblank (rest : List Char) (all : ∀ c ∈ rest, isGraphic c = true) :
      rest.dropWhile isBlank = rest := by
    cases rest with
    | nil => rfl
    | cons c rest =>
      have marked := isBlank_of_isGraphic (all c List.mem_cons_self)
      exact List.dropWhile_cons_of_neg (by rw [marked]; nofun)
  have front : (line ++ ['\n']).dropWhile isBlank = line ++ ['\n'] ∨
      line = [] ∧ (line ++ ['\n']).dropWhile isBlank = [] := by
    cases line with
    | nil => exact Or.inr ⟨rfl, rfl⟩
    | cons c rest =>
      refine Or.inl (List.dropWhile_cons_of_neg ?_)
      rw [isBlank_of_isGraphic (graphic c List.mem_cons_self)]
      nofun
  unfold trimmed
  rcases front with kept | ⟨rfl, gone⟩
  · rw [kept, List.reverse_append, List.reverse_singleton, List.singleton_append,
      List.dropWhile_cons_of_pos (by decide),
      unblank line.reverse fun c inside => graphic c (List.mem_reverse.mp inside),
      List.reverse_reverse]
  · rfl

theorem mem_toDigits {base n : Nat} (h : 1 < base) :
    ∀ c ∈ Nat.toDigits base n, ∃ k < base, c = k.digitChar := by
  induction n using Nat.strongRecOn with
  | ind n ih =>
    intro c inside
    rw [Nat.toDigits_eq_if h] at inside
    split at inside
    · next small => exact ⟨n, small, List.mem_singleton.mp inside⟩
    · next large =>
      rcases List.mem_append.mp inside with front | last
      · exact ih (n / base) (Nat.div_lt_self (by omega) h) c front
      · exact ⟨n % base, Nat.mod_lt n (by omega), List.mem_singleton.mp last⟩

/-- A text of characters that all leave a mark. -/
def Graphic (text : String) : Prop := ∀ c ∈ text.toList, isGraphic c = true

theorem graphic_of_all {text : String} (h : text.toList.all isGraphic = true) : Graphic text :=
  List.all_eq_true.mp h

theorem Graphic.append {a b : String} (ha : Graphic a) (hb : Graphic b) : Graphic (a ++ b) := by
  intro c inside
  rw [String.toList_append] at inside
  rcases List.mem_append.mp inside with inside | inside
  · exact ha c inside
  · exact hb c inside

theorem graphic_intercalate {separator : String} {parts : List String} (hs : Graphic separator)
    (hp : ∀ part ∈ parts, Graphic part) : Graphic (separator.intercalate parts) := by
  induction parts with
  | nil => exact nofun
  | cons part rest ih =>
    rw [List.forall_mem_cons] at hp
    cases rest with
    | nil =>
      rw [String.intercalate_singleton]
      exact hp.1
    | cons next rest =>
      rw [String.intercalate_cons_cons]
      exact (hp.1.append hs).append (ih hp.2)

theorem graphic_toDigits {base : Nat} (h : 1 < base) (small : base ≤ 16) (n : Nat) :
    Graphic (String.ofList (Nat.toDigits base n)) := by
  intro c inside
  rw [String.toList_ofList] at inside
  obtain ⟨k, below, rfl⟩ := mem_toDigits h c inside
  have digits : ∀ k < 16, isGraphic k.digitChar = true := by decide
  exact digits k (Nat.lt_of_lt_of_le below small)

theorem graphic_decimal (n : Nat) : Graphic (toString n) := by
  rw [Nat.toString_eq_ofList_toDigits]
  exact graphic_toDigits (by decide) (by decide) n

end Text

open Text

theorem Ipv4.graphic_text (ip : Ipv4) : Graphic ip.text := by
  refine graphic_intercalate (graphic_of_all (by decide)) fun part inside => ?_
  obtain ⟨octet, -, rfl⟩ := List.mem_map.mp inside
  exact graphic_decimal octet.toNat

theorem Ipv6.graphic_text (ip : Ipv6) : Graphic ip.text := by
  have joined (groups : List Nat) : Graphic (Ipv6.joined groups) := by
    refine graphic_intercalate (graphic_of_all (by decide)) fun part inside => ?_
    obtain ⟨group, -, rfl⟩ := List.mem_map.mp inside
    exact graphic_toDigits (by decide) (by decide) group
  have elided : Graphic "::" := graphic_of_all (by decide)
  have mapped : Graphic "::ffff:" := graphic_of_all (by decide)
  unfold Ipv6.text
  split
  · exact mapped.append (Ipv4.graphic_text _)
  · dsimp only
    split
    · exact ((joined _).append elided).append (joined _)
    · exact joined _

/-- There is no blank in the text of a socket address. -/
theorem SocketAddress.graphic_text (address : SocketAddress) : Graphic address.text := by
  have mark (c : Char) (h : isGraphic c = true) : Graphic (String.singleton c) := by
    intro d inside
    rw [String.toList_singleton, List.mem_singleton] at inside
    rw [inside]
    exact h
  cases address with
  | v4 ip port =>
    exact (ip.graphic_text.append (mark ':' rfl)).append (graphic_decimal port.toNat)
  | v6 ip port scope =>
    have close : Graphic "]:" := graphic_of_all (by decide)
    have inside :
        Graphic (if scope = 0 then ip.text else ip.text ++ "%" ++ toString scope.toNat) := by
      split
      · exact ip.graphic_text
      · exact (ip.graphic_text.append (mark '%' rfl)).append (graphic_decimal _)
    exact (((mark '[' rfl).append inside).append close).append (graphic_decimal _)

end RdmaLink
