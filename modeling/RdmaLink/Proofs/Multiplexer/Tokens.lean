import Mathlib.Logic.Basic
import RdmaLink.Multiplexer.Source

/-!
# Tokens as words

A token is a word of 64 bits: the kind of its source in the top byte, and of the number the bits
below that byte.

    source.token = source.tagWord <<< 56 ||| (number &&& numberMask)       (Source.token_eq_bits)
    ofToken? word = none ↔ word >>> 56 ≠ 1 ∧ word >>> 56 ≠ 2           (Source.ofToken?_eq_none_iff)
    a.token = b.token ↔ a.tag = b.tag ∧ a.id % 2 ^ 56 = b.id % 2 ^ 56    (Source.token_eq_token_iff)

So a token tells the kind of its source whatever the number is, and the number up to multiples of
`2 ^ 56`.
-/

namespace RdmaLink

namespace Source

/-- The word of the bits below the top byte. -/
def numberMask : UInt64 := (1 : UInt64) <<< 56 - 1

/-- The word that stands for the kind. -/
def tagWord : Source → UInt64
  | .listener _ => 1
  | .connection _ => 2

/-! ## Bits -/

theorem tagUnit_eq : tagUnit = 2 ^ 56 := rfl

/-- What the mask leaves of a word is its remainder below the top byte. -/
theorem toNat_and_numberMask (word : UInt64) :
    (word &&& numberMask).toNat = word.toNat % 2 ^ 56 := by
  have mask : numberMask.toNat = 2 ^ 56 - 1 := by decide +kernel
  rw [UInt64.toNat_and, mask, Nat.and_two_pow_sub_one_eq_mod]

theorem toNat_shiftRight_tag (word : UInt64) : (word >>> 56).toNat = word.toNat / 2 ^ 56 := by
  rw [UInt64.toNat_shiftRight, Nat.shiftRight_eq_div_pow]
  rfl

theorem toNat_tagWord_shiftLeft (source : Source) :
    (source.tagWord <<< 56).toNat = source.tag <<< 56 := by
  cases source with
  | listener id =>
    change ((1 : UInt64) <<< 56).toNat = 1 <<< 56
    decide +kernel
  | connection id =>
    change ((2 : UInt64) <<< 56).toNat = 2 <<< 56
    decide +kernel

/-- A token is the kind in the top byte beside the low bits of the number. -/
theorem token_eq_bits (source : Source) :
    source.token = source.tagWord <<< 56 ||| (UInt64.ofNat source.id &&& numberMask) := by
  -- A word keeps the number modulo `2 ^ 64`, which changes nothing below the top byte.
  have low : (UInt64.ofNat source.id &&& numberMask).toNat = source.id % 2 ^ 56 := by
    rw [toNat_and_numberMask, UInt64.toNat_ofNat']
    exact Nat.mod_mod_of_dvd source.id (by decide : 2 ^ 56 ∣ 2 ^ 64)
  have small : source.id % 2 ^ 56 < 2 ^ 56 := Nat.mod_lt _ (by decide)
  apply UInt64.toNat_inj.mp
  rw [UInt64.toNat_or, toNat_tagWord_shiftLeft, low, ← Nat.shiftLeft_add_eq_or_of_lt small,
    toNat_token, tagUnit_eq, Nat.shiftLeft_eq]

/-- What a token names is read off its top byte. -/
theorem ofToken?_eq_bits (word : UInt64) :
    ofToken? word =
      if word >>> 56 = 1 then some (.listener (word &&& numberMask).toNat)
      else if word >>> 56 = 2 then some (.connection (word &&& numberMask).toNat)
      else none := by
  have top (n : UInt64) : word >>> 56 = n ↔ word.toNat / tagUnit = n.toNat := by
    rw [← UInt64.toNat_inj, toNat_shiftRight_tag, tagUnit_eq]
  rw [toNat_and_numberMask, ← tagUnit_eq]
  exact if_congr (top 1).symm rfl (if_congr (top 2).symm rfl rfl)

/-! ## What a token tells -/

/-- A word names nothing exactly if its top byte stands for no kind. -/
theorem ofToken?_eq_none_iff (word : UInt64) :
    ofToken? word = none ↔ word >>> 56 ≠ 1 ∧ word >>> 56 ≠ 2 := by
  rw [ofToken?_eq_bits]
  by_cases one : word >>> 56 = 1
  · simp [one]
  · by_cases two : word >>> 56 = 2
    · simp [two]
    · simp [one, two]

/-- The number that a token names is below `2 ^ 56`. -/
theorem id_lt_of_ofToken? {word : UInt64} {source : Source}
    (named : ofToken? word = some source) : source.id < 2 ^ 56 := by
  have small : (word &&& numberMask).toNat < 2 ^ 56 := by
    rw [toNat_and_numberMask]
    exact Nat.mod_lt _ (by decide)
  rw [ofToken?_eq_bits] at named
  split at named
  · cases named
    exact small
  · split at named
    · cases named
      exact small
    · cases named

theorem tag_eq_of_token_eq {a b : Source} (same : a.token = b.token) : a.tag = b.tag := by
  have values := congrArg (fun word => word.toNat / tagUnit) same
  simp only [toNat_token] at values
  rwa [tag_div (Nat.mod_lt _ (by decide)), tag_div (Nat.mod_lt _ (by decide))] at values

theorem id_mod_eq_of_token_eq {a b : Source} (same : a.token = b.token) :
    a.id % 2 ^ 56 = b.id % 2 ^ 56 := by
  have values := congrArg (fun word => word.toNat % tagUnit) same
  simp only [toNat_token] at values
  rwa [tag_mod (Nat.mod_lt _ (by decide)), tag_mod (Nat.mod_lt _ (by decide))] at values

/-- Two sources share a token exactly if they are of one kind and their numbers agree below the
top byte. -/
theorem token_eq_token_iff (a b : Source) :
    a.token = b.token ↔ a.tag = b.tag ∧ a.id % 2 ^ 56 = b.id % 2 ^ 56 := by
  refine ⟨fun same => ⟨tag_eq_of_token_eq same, id_mod_eq_of_token_eq same⟩, ?_⟩
  rintro ⟨tags, ids⟩
  apply UInt64.toNat_inj.mp
  rw [toNat_token, toNat_token, tagUnit_eq, tags, ids]

theorem eq_of_token_eq {a b : Source} (ha : a.id < 2 ^ 56) (hb : b.id < 2 ^ 56)
    (same : a.token = b.token) : a = b := by
  have back : ofToken? a.token = some a := ofToken?_token ha
  rw [same, ofToken?_token hb] at back
  exact (Option.some.inj back).symm

/-- Tokens are words that name their sources.  The kind stands in the top byte and of the number
the bits below; a source whose number fits there comes back from its token, and a word that names
a source is its token; a word names none exactly if its top byte stands for no kind.  So sources
whose numbers fit never share a token, a listener and a connection never do, and two sources of
one kind do exactly if their numbers agree modulo `2 ^ 56`. -/
theorem tokens_name_sources :
    (∀ source : Source,
      source.token = source.tagWord <<< 56 ||| (UInt64.ofNat source.id &&& numberMask)) ∧
    (∀ source : Source, source.id < 2 ^ 56 → ofToken? source.token = some source) ∧
    (∀ (word : UInt64) (source : Source), ofToken? word = some source →
      source.token = word ∧ source.id < 2 ^ 56) ∧
    (∀ word : UInt64, ofToken? word = none ↔ word >>> 56 ≠ 1 ∧ word >>> 56 ≠ 2) ∧
    (∀ a b : Source, a.id < 2 ^ 56 → b.id < 2 ^ 56 → a ≠ b → a.token ≠ b.token) ∧
    (∀ i j : Nat, (listener i).token ≠ (connection j).token) ∧
    (∀ i j : Nat, (listener i).token = (listener j).token ↔ i % 2 ^ 56 = j % 2 ^ 56) ∧
    (∀ i j : Nat, (connection i).token = (connection j).token ↔ i % 2 ^ 56 = j % 2 ^ 56) := by
  refine ⟨token_eq_bits, fun source fits => ofToken?_token fits, fun word source named =>
    ⟨token_of_ofToken? named, id_lt_of_ofToken? named⟩, ofToken?_eq_none_iff,
    fun a b ha hb apart same => apart (eq_of_token_eq ha hb same), fun i j same => ?_,
    fun i j => ?_, fun i j => ?_⟩
  · have kinds : 1 = 2 := tag_eq_of_token_eq same
    exact absurd kinds (by decide)
  · rw [token_eq_token_iff]
    exact and_iff_right rfl
  · rw [token_eq_token_iff]
    exact and_iff_right rfl

/-- The last number that fits comes back; the next one is taken for zero. -/
theorem number_past_top_is_zero :
    (2 ^ 56 - 1 < 2 ^ 56 ∧
      ofToken? (listener (2 ^ 56 - 1)).token = some (listener (2 ^ 56 - 1))) ∧
    (listener (2 ^ 56)).token = (listener 0).token := by
  obtain ⟨-, back, -, -, -, -, alike, -⟩ := tokens_name_sources
  exact ⟨⟨by decide, back _ (by decide)⟩, (alike _ _).mpr (by decide)⟩

end Source

end RdmaLink
