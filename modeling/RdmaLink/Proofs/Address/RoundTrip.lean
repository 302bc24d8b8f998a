import RdmaLink.Proofs.Address.Text

/-!
# The text of an address reads back

A socket address is written and read again as itself, so a file that holds its line names exactly
the address that was published.

    form.read? (Nat.toDigits form.base n ++ rest) = some (n, rest)   (NumberForm.read?_toDigits)
    Ipv4.read? (ip.text.toList ++ rest) = some (ip, rest)            (Ipv4.read?_text)
    Ipv6.read? (ip.text.toList ++ rest) = some (ip, rest)            (Ipv6.read?_text)
    SocketAddress.parse? address.text = some address                 (SocketAddress.parse?_text)

Every reader takes its part from the front of a text, so each of them is described with the rest of
the text behind the part, and with what that rest may not begin with.
-/

namespace RdmaLink

theorem drop_length_takeWhile {α : Type} (p : α → Bool) (list : List α) :
    list.drop (list.takeWhile p).length = list.dropWhile p := by
  have behind : (list.takeWhile p ++ list.dropWhile p).drop (list.takeWhile p).length =
      list.dropWhile p := List.drop_left
  rwa [List.takeWhile_append_dropWhile] at behind

/-! ## Numbers -/

namespace Address

/-- No digit of any base stands at the front. -/
def Digitless (text : List Char) : Prop := text.head?.bind Hexadecimal.value? = none

theorem Digitless.takeWhile {text : List Char} (h : Digitless text) (base : Nat) :
    (text.takeWhile fun c => (digitValue? base c).isSome) = [] := by
  cases text with
  | nil => rfl
  | cons c rest =>
    have none : digitValue? base c = none := by
      have unread : Hexadecimal.value? c = none := h
      rw [digitValue?, unread, Option.filter_none]
    exact List.takeWhile_cons_of_neg (by rw [none]; nofun)

theorem digitValue?_digitChar {base k : Nat} (small : base ≤ 16) (below : k < base) :
    digitValue? base k.digitChar = some k := by
  have values : ∀ k < 16, Hexadecimal.value? k.digitChar = some k := by decide
  rw [digitValue?, values k (Nat.lt_of_lt_of_le below small), Option.filter_some,
    if_pos (decide_eq_true below)]

variable {base n : Nat}

theorem isSome_digitValue? (large : 1 < base) (small : base ≤ 16) :
    ∀ c ∈ Nat.toDigits base n, (digitValue? base c).isSome := by
  intro c inside
  obtain ⟨k, below, rfl⟩ := Text.mem_toDigits large c inside
  rw [digitValue?_digitChar small below]
  rfl

/-- The digits of a number have its value. -/
theorem foldl_toDigits (large : 1 < base) (small : base ≤ 16) :
    (Nat.toDigits base n).foldl (fun n c => n * base + (digitValue? base c).getD 0) 0 = n := by
  induction n using Nat.strongRecOn with
  | ind n ih =>
    rw [Nat.toDigits_eq_if large]
    split
    · next below => simp [digitValue?_digitChar small below]
    · next above =>
      have last := digitValue?_digitChar small (Nat.mod_lt n (Nat.zero_lt_of_lt large))
      rw [List.foldl_append, ih (n / base) (Nat.div_lt_self (by omega) large)]
      simp only [List.foldl_cons, List.foldl_nil, last, Option.getD_some]
      exact Nat.div_add_mod' n base

/-- Zero alone is written with a zero in front. -/
theorem head?_toDigits (large : 1 < base) (positive : 0 < n) :
    (Nat.toDigits base n).head? ≠ some '0' := by
  induction n using Nat.strongRecOn with
  | ind n ih =>
    rw [Nat.toDigits_eq_if large]
    split
    · simpa using Nat.ne_of_gt positive
    · next above =>
      have front := ih (n / base) (Nat.div_lt_self positive large)
        (Nat.div_pos (Nat.le_of_not_lt above) (Nat.zero_lt_of_lt large))
      rwa [List.head?_append_of_ne_nil _ Nat.toDigits_ne_nil]

/-- A number is read up to where its digits end. -/
theorem NumberForm.read?_toDigits (form : NumberForm) {rest : List Char} (large : 1 < form.base)
    (small : form.base ≤ 16) (fits : n < form.bound)
    (short : ∀ most, form.maxDigits = some most → (Nat.toDigits form.base n).length ≤ most)
    (ends : Digitless rest) : form.read? (Nat.toDigits form.base n ++ rest) = some (n, rest) := by
  have digits : ((Nat.toDigits form.base n ++ rest).takeWhile fun c =>
      (digitValue? form.base c).isSome) = Nat.toDigits form.base n := by
    rw [List.takeWhile_append_of_pos (isSome_digitValue? large small), ends.takeWhile,
      List.append_nil]
  have notEmpty : (Nat.toDigits form.base n).isEmpty = false := by simp
  have notZeroLed : (decide ((Nat.toDigits form.base n).length > 1) &&
      (Nat.toDigits form.base n).head? == some '0') = false := by
    rcases Nat.eq_zero_or_pos n with rfl | positive
    · rw [Nat.toDigits_zero]
      rfl
    · rw [beq_eq_false_iff_ne.mpr (head?_toDigits large positive), Bool.and_false]
  unfold NumberForm.read?
  simp only [digits, foldl_toDigits large small, notEmpty, notZeroLed, Bool.false_and,
    Bool.false_or, List.drop_left]
  refine if_neg ?_
  cases limit : form.maxDigits with
  | none => simpa using fits
  | some most => simpa using ⟨short most limit, fits⟩

theorem NumberForm.read?_of_digitless (form : NumberForm) {text : List Char}
    (h : Digitless text) : form.read? text = none := by
  unfold NumberForm.read?
  simp [h.takeWhile]

/-- What is left when a number was read stands behind all digits. -/
theorem NumberForm.rest_of_read? {form : NumberForm} {text rest : List Char}
    (h : form.read? text = some (n, rest)) :
    rest = text.dropWhile fun c => (digitValue? form.base c).isSome := by
  unfold NumberForm.read? at h
  obtain ⟨-, same⟩ := Option.ite_none_left_eq_some.mp h
  cases same
  exact drop_length_takeWhile _ text

theorem octet_read? (octet : UInt8) {rest : List Char} (ends : Digitless rest) :
    NumberForm.octet.read? (Nat.toDigits 10 octet.toNat ++ rest) = some (octet.toNat, rest) := by
  refine NumberForm.octet.read?_toDigits (by decide) (by decide) octet.toNat_lt ?_ ends
  rintro most ⟨⟩
  exact (Nat.length_toDigits_le_iff (by decide) (by decide)).mpr
    (Nat.lt_trans octet.toNat_lt (by decide))

theorem group_read? {value : Nat} {rest : List Char} (fits : value < 65536)
    (ends : Digitless rest) :
    NumberForm.group.read? (Nat.toDigits 16 value ++ rest) = some (value, rest) := by
  refine NumberForm.group.read?_toDigits (by decide) (by decide) fits ?_ ends
  rintro most ⟨⟩
  exact (Nat.length_toDigits_le_iff (by decide) (by decide)).mpr fits

end Address

open Address

/-! ## IPv4 addresses -/

namespace Ipv4

theorem ofOctets_octets (ip : Ipv4) : ofOctets ip.octets = ip := by
  have fits : ip.word.toNat < BigEndian.capacity 4 := ip.word.toNat_lt
  rw [ofOctets, octets, BigEndian.decode_encode fits, UInt32.ofNat_toNat]

/-- An address is read up to where the digits of its last part end. -/
theorem read?_text (ip : Ipv4) {rest : List Char} (ends : Digitless rest) :
    read? (ip.text.toList ++ rest) = some (ip, rest) := by
  obtain ⟨a, b, c, d, parts⟩ : ∃ a b c d, ip.octets = [a, b, c, d] := by
    have four : ip.octets.length = 4 := BigEndian.length_encode 4 _
    match ip.octets, four with
    | [a, b, c, d], _ => exact ⟨a, b, c, d, rfl⟩
  have same := ip.ofOctets_octets
  rw [parts] at same
  have written : ip.text.toList ++ rest =
      Nat.toDigits 10 a.toNat ++ '.' :: (Nat.toDigits 10 b.toNat ++ '.' ::
        (Nat.toDigits 10 c.toNat ++ '.' :: (Nat.toDigits 10 d.toNat ++ rest))) := by
    simp [text, parts, String.intercalate_cons_cons]
  have dotted (octet : UInt8) (behind : List Char) :
      NumberForm.octet.read? (Nat.toDigits 10 octet.toNat ++ '.' :: behind) =
        some (octet.toNat, '.' :: behind) :=
    octet_read? octet rfl
  rw [written]
  unfold read?
  simp only [dotted, octet_read? d ends, expect?, if_true, Option.bind_eq_bind, Option.bind_some,
    UInt8.ofNat_toNat, same]
  rfl

/-- Where the digits in front are not followed by a dot, there is no address. -/
theorem read?_of_dotless {text : List Char}
    (h : (text.dropWhile fun c => (digitValue? 10 c).isSome).head? ≠ some '.') :
    read? text = none := by
  unfold read?
  cases first : NumberForm.octet.read? text with
  | none => rfl
  | some found =>
    obtain ⟨value, rest⟩ := found
    have behind : rest = text.dropWhile fun c => (digitValue? 10 c).isSome :=
      NumberForm.rest_of_read? first
    rw [← behind] at h
    have stuck : expect? '.' rest = none := by
      cases rest with
      | nil => rfl
      | cons c rest => exact if_neg fun dot => h (congrArg some dot)
    simp [stuck]

end Ipv4

/-! ## Groups of IPv6 addresses -/

theorem Fields.lt_of_mem_split {width count : Nat} {bytes : Bytes} :
    ∀ n ∈ Fields.split (List.replicate count width) bytes, n < BigEndian.capacity width := by
  induction count generalizing bytes with
  | zero => exact nofun
  | succ count ih =>
    rw [List.replicate_succ, Fields.split, List.forall_mem_cons]
    exact ⟨Nat.lt_of_lt_of_le (BigEndian.decode_lt _)
      (BigEndian.capacity_le (List.length_take_le width bytes)), ih⟩

namespace Ipv6

theorem length_groups (ip : Ipv6) : ip.groups.length = 8 := by
  rw [groups, Fields.length_split, List.length_replicate]

theorem groups_fit (ip : Ipv6) : ∀ group ∈ ip.groups, group < 65536 :=
  Fields.lt_of_mem_split

/-- Bytes taken in pairs make the same number. -/
theorem foldl_pairs {count : Nat} {bytes : Bytes} (even : bytes.length = 2 * count)
    (start : Nat) :
    (Fields.split (List.replicate count 2) bytes).foldl (fun n g => n * 65536 + g) start =
      bytes.foldl (fun n b => n * 256 + b.toNat) start := by
  induction count generalizing bytes start with
  | zero =>
    rw [List.length_eq_zero_iff.mp even]
    rfl
  | succ count ih =>
    match bytes, even with
    | high :: low :: rest, even =>
      have pair : start * 65536 + BigEndian.decode [high, low] =
          (start * 256 + high.toNat) * 256 + low.toNat := by
        simp only [BigEndian.decode, List.foldl_cons, List.foldl_nil]
        omega
      have later : rest.length = 2 * count := by simpa [Nat.mul_succ] using even
      simp only [List.replicate_succ, Fields.split, List.take_succ_cons, List.take_zero,
        List.drop_succ_cons, List.drop_zero, List.foldl_cons]
      rw [pair, ih later]

theorem ofGroups_groups (ip : Ipv6) : ofGroups ip.groups = ip := by
  have fits : ip.word.toNat < BigEndian.capacity 16 := ip.word.isLt
  have decoded := BigEndian.decode_encode fits
  rw [BigEndian.decode] at decoded
  rw [ofGroups, groups, foldl_pairs (BigEndian.length_encode 16 _), decoded, BitVec.ofNat_toNat,
    BitVec.setWidth_eq]

/-! ## The run of zeros that is left out -/

/-- A run of zeros, given by its start and its length, that may be left out and filled in again.
To a reader it does not matter that the longest one was taken. -/
def Blanks (groups : List Nat) (run : Nat × Nat) : Prop :=
  run.1 + run.2 ≤ groups.length ∧
    groups.take run.1 ++ List.replicate run.2 0 ++ groups.drop (run.1 + run.2) = groups

theorem blanks_zeroRun {groups : List Nat} {start : Nat} (inside : start ≤ groups.length) :
    Blanks groups (start, zeroRun (groups.drop start)) := by
  have zeros : (groups.drop start).takeWhile (· == 0) =
      List.replicate (zeroRun (groups.drop start)) 0 :=
    List.eq_replicate_iff.mpr ⟨rfl, fun group listed =>
      beq_iff_eq.mp (List.all_eq_true.mp List.all_takeWhile group listed)⟩
  refine ⟨?_, ?_⟩
  · have short := ((groups.drop start).takeWhile_sublist (· == 0)).length_le
    rw [List.length_drop] at short
    dsimp only [zeroRun]
    omega
  · dsimp only
    rw [← zeros, ← List.drop_drop, zeroRun, drop_length_takeWhile, List.append_assoc,
      List.takeWhile_append_dropWhile, List.take_append_drop]

theorem blanks_longestZeroRun (groups : List Nat) : Blanks groups (longestZeroRun groups) := by
  refine List.foldlRecOn (motive := Blanks groups) _ _ ⟨Nat.zero_le _, rfl⟩ ?_
  intro best kept start listed
  dsimp only
  split
  · exact blanks_zeroRun (Nat.le_of_lt (List.mem_range.mp listed))
  · exact kept

/-! ## Reading groups -/

/-- Groups as they are written, each but the first behind a colon. -/
def spelled : (first : Bool) → List Nat → List Char
  | _, [] => []
  | first, group :: rest =>
    (if first then [] else [':']) ++ Nat.toDigits 16 group ++ spelled false rest

theorem toList_joined (groups : List Nat) : (joined groups).toList = spelled true groups := by
  have behind (groups : List Nat) :
      spelled false groups = groups.flatMap fun group => ':' :: Nat.toDigits 16 group := by
    induction groups with
    | nil => rfl
    | cons group rest ih => rw [spelled, ih]; rfl
  cases groups with
  | nil => rfl
  | cons group rest =>
    rw [spelled, behind]
    induction rest generalizing group with
    | nil => simp [joined, Hexadecimal.digits]
    | cons next rest ih =>
      have later := ih next
      simp only [joined, List.map_cons, if_true, List.nil_append] at later ⊢
      rw [String.intercalate_cons_cons, String.toList_append, String.toList_append, later]
      simp [Hexadecimal.digits]

/-- A place where no group goes on: neither a digit nor a dot stands there, and no digit behind a
colon. -/
structure Closed (rest : List Char) : Prop where
  digitless : Digitless rest
  dotless : rest.head? ≠ some '.'
  colon : ∀ behind, rest = ':' :: behind → Digitless behind

theorem Closed.elision (rest : List Char) : Closed (':' :: ':' :: rest) where
  digitless := rfl
  dotless := nofun
  colon := by
    rintro behind ⟨⟩
    rfl

variable {first : Bool} {room : Nat} {rest : List Char}

theorem Closed.readGroups (closed : Closed rest) :
    readGroups first room rest = ⟨[], false, rest⟩ := by
  have stuck (form : NumberForm) : (afterColon? first rest).bind form.read? = none := by
    cases first with
    | true => exact form.read?_of_digitless closed.digitless
    | false =>
      cases rest with
      | nil => rfl
      | cons c behind =>
        by_cases colon : c = ':'
        · rw [colon]
          exact form.read?_of_digitless (closed.colon behind (by rw [colon]))
        · simp [afterColon?, expect?, colon]
  have dotless : (afterColon? first rest).bind Ipv4.read? = none := by
    have unread := stuck NumberForm.octet
    cases found : afterColon? first rest with
    | none => rfl
    | some behind =>
      rw [found] at unread
      have octet : NumberForm.octet.read? behind = none := unread
      simp [Ipv4.read?, octet]
  cases room with
  | zero => rfl
  | succ room => simp only [Ipv6.readGroups, stuck, dotless, ite_self]

/-- No dotted address begins with a group. -/
theorem group_not_dotted (group : Nat) (digitless : Digitless rest)
    (dotless : rest.head? ≠ some '.') : Ipv4.read? (Nat.toDigits 16 group ++ rest) = none := by
  refine Ipv4.read?_of_dotless ?_
  have graphic : ∀ c ∈ Nat.toDigits 16 group, c ≠ '.' := by
    intro c inside
    obtain ⟨k, below, rfl⟩ := Text.mem_toDigits (by decide) c inside
    have digits : ∀ k < 16, k.digitChar ≠ '.' := by decide
    exact digits k below
  generalize Nat.toDigits 16 group = digits at graphic ⊢
  induction digits with
  | nil =>
    rw [List.nil_append, ← drop_length_takeWhile, digitless.takeWhile 10]
    exact dotless
  | cons c more ih =>
    rw [List.forall_mem_cons] at graphic
    rw [List.cons_append, List.dropWhile_cons]
    split
    · exact ih graphic.2
    · simpa using graphic.1

/-- A group is read, and then the ones behind it. -/
theorem readGroups_cons {group : Nat} (fits : group < 65536) (digitless : Digitless rest)
    (dotless : rest.head? ≠ some '.') :
    readGroups first (room + 1)
        ((if first then [] else [':']) ++ Nat.toDigits 16 group ++ rest) =
      { readGroups false room rest with
        groups := group :: (readGroups false room rest).groups } := by
  have behind : afterColon? first ((if first then [] else [':']) ++ Nat.toDigits 16 group ++ rest) =
      some (Nat.toDigits 16 group ++ rest) := by
    cases first <;> rfl
  simp only [readGroups, behind, Option.bind_some, group_not_dotted group digitless dotless,
    group_read? fits digitless, ite_self]

theorem readGroups_spelled (closed : Closed rest) {groups : List Nat}
    (fit : ∀ group ∈ groups, group < 65536) (enough : groups.length ≤ room) :
    readGroups first room (spelled first groups ++ rest) = ⟨groups, false, rest⟩ := by
  induction groups generalizing first room with
  | nil => exact closed.readGroups
  | cons group more ih =>
    rw [List.forall_mem_cons] at fit
    obtain ⟨room, rfl⟩ : ∃ less, room = less + 1 :=
      ⟨room - 1, by rw [List.length_cons] at enough; omega⟩
    have later : readGroups false room (spelled false more ++ rest) = ⟨more, false, rest⟩ :=
      ih fit.2 (Nat.le_of_succ_le_succ enough)
    have next : Digitless (spelled false more ++ rest) ∧
        (spelled false more ++ rest).head? ≠ some '.' := by
      cases more with
      | nil => exact ⟨closed.digitless, closed.dotless⟩
      | cons => exact ⟨rfl, nofun⟩
    rw [spelled, List.append_assoc, readGroups_cons fit.1 next.1 next.2, later]

/-! ## Reading addresses -/

/-- An address with a run left out. -/
theorem read?_elided {front : List Nat} (fit : ∀ group ∈ front, group < 65536)
    (room : front.length < 8) (text : List Char) :
    read? (spelled true front ++ ':' :: ':' :: text) =
      let back := readGroups true (8 - (front.length + 1)) text
      let zeros := List.replicate (8 - front.length - back.groups.length) 0
      some (ofGroups (front ++ zeros ++ back.groups), back.rest) := by
  have head : readGroups true 8 (spelled true front ++ ':' :: ':' :: text) =
      ⟨front, false, ':' :: ':' :: text⟩ :=
    readGroups_spelled (Closed.elision text) fit (Nat.le_of_lt room)
  simp [read?, head, expect?, Nat.ne_of_lt room]

theorem ofIpv4_of_toIpv4? {ip : Ipv6} {v4 : Ipv4} (carried : ip.toIpv4? = some v4) :
    ofIpv4 v4 = ip := by
  obtain ⟨mark, same⟩ := Option.ite_none_right_eq_some.mp carried
  cases same
  obtain ⟨word⟩ := ip
  refine congrArg Ipv6.mk (BitVec.eq_of_toNat_eq ?_)
  have below := word.isLt
  simp only [BitVec.toNat_ofNat, UInt32.toNat_ofNat'] at mark ⊢
  omega

/-- An address that shows a dotted one. -/
theorem read?_dotted (v4 : Ipv4) (ends : Digitless rest) :
    read? ("::ffff:".toList ++ (v4.text.toList ++ rest)) = some (ofIpv4 v4, rest) := by
  have mark : "::ffff:".toList = ':' :: ':' :: (Nat.toDigits 16 0xffff ++ [':']) := by decide
  have carried : readGroups false 6 (':' :: (v4.text.toList ++ rest)) =
      ⟨[v4.word.toNat / 65536, v4.word.toNat % 65536], true, rest⟩ := by
    simp [readGroups, afterColon?, expect?, v4.read?_text ends]
  have back : readGroups true 7 (Nat.toDigits 16 0xffff ++ ':' :: (v4.text.toList ++ rest)) =
      ⟨[0xffff, v4.word.toNat / 65536, v4.word.toNat % 65536], true, rest⟩ := by
    have digitless : Digitless (':' :: (v4.text.toList ++ rest)) := rfl
    have group : 0xffff < 65536 := by decide
    have step : readGroups true 7 ([] ++ Nat.toDigits 16 0xffff ++ _) = _ :=
      readGroups_cons group digitless nofun
    rwa [List.nil_append, carried] at step
  have none : ∀ group ∈ ([] : List Nat), group < 65536 := nofun
  have whole := read?_elided none (by decide)
    (Nat.toDigits 16 0xffff ++ ':' :: (v4.text.toList ++ rest))
  rw [spelled, List.nil_append] at whole
  rw [mark, List.cons_append, List.cons_append, List.append_assoc, List.singleton_append, whole]
  dsimp only [List.length_nil, Nat.reduceAdd, Nat.reduceSub]
  rw [back]
  have number : (([] ++ List.replicate 5 0 ++ [0xffff, v4.word.toNat / 65536,
      v4.word.toNat % 65536] : List Nat).foldl (fun n g => n * 65536 + g) 0) =
      0xffff * 2 ^ 32 + v4.word.toNat := by
    simp [List.replicate]
    omega
  exact congrArg (fun n => some (Ipv6.mk (BitVec.ofNat 128 n), rest)) number

/-- An address whose zeros are left out is read with the zeros filled in. -/
theorem read?_of_blanks (ip : Ipv6) (closed : Closed rest) {start length : Nat}
    (blanks : Blanks ip.groups (start, length)) (long : 1 < length) :
    read? (spelled true (ip.groups.take start) ++
        ':' :: ':' :: (spelled true (ip.groups.drop (start + length)) ++ rest)) =
      some (ip, rest) := by
  obtain ⟨inside, filled⟩ := blanks
  dsimp only at inside filled
  have eight := ip.length_groups
  have front : (ip.groups.take start).length = start := by
    rw [List.length_take]
    omega
  have back : readGroups true (8 - (start + 1))
        (spelled true (ip.groups.drop (start + length)) ++ rest) =
      ⟨ip.groups.drop (start + length), false, rest⟩ :=
    readGroups_spelled closed
      (fun group listed => ip.groups_fit group (List.mem_of_mem_drop listed))
      (by rw [List.length_drop]; omega)
  have zeros : 8 - start - (ip.groups.drop (start + length)).length = length := by
    rw [List.length_drop]
    omega
  rw [read?_elided (fun group listed => ip.groups_fit group (List.mem_of_mem_take listed))
    (by rw [front]; omega)]
  dsimp only
  rw [front, back]
  dsimp only
  rw [zeros, filled, ofGroups_groups]

/-- An address is read up to where its last group ends. -/
theorem read?_text (ip : Ipv6) (closed : Closed rest) :
    read? (ip.text.toList ++ rest) = some (ip, rest) := by
  unfold text
  split
  · next v4 carried =>
    rw [String.toList_append, List.append_assoc, read?_dotted v4 closed.digitless,
      ofIpv4_of_toIpv4? carried]
  · have blanks := blanks_longestZeroRun ip.groups
    generalize longestZeroRun ip.groups = run at blanks ⊢
    obtain ⟨start, length⟩ := run
    dsimp only
    split
    · next long =>
      have elision : "::".toList = [':', ':'] := by decide
      simp only [String.toList_append, List.append_assoc, toList_joined, elision]
      exact ip.read?_of_blanks closed blanks long
    · have all : readGroups true 8 (spelled true ip.groups ++ rest) =
          ⟨ip.groups, false, rest⟩ :=
        readGroups_spelled closed ip.groups_fit (Nat.le_of_eq ip.length_groups)
      rw [toList_joined]
      simp only [read?, all, ip.length_groups, if_true, ofGroups_groups]

end Ipv6

/-! ## Socket addresses -/

namespace SocketAddress

theorem portAtEnd?_toDigits (port : UInt16) :
    portAtEnd? (':' :: Nat.toDigits 10 port.toNat) = some port := by
  have read : NumberForm.port.read? (Nat.toDigits 10 port.toNat ++ []) =
      some (port.toNat, []) :=
    NumberForm.port.read?_toDigits (by decide) (by decide) port.toNat_lt nofun rfl
  rw [List.append_nil] at read
  simp [portAtEnd?, expect?, read]

/-- What names the scope, nothing if it is zero. -/
def scopeMark (scope : UInt32) : List Char :=
  if scope = 0 then [] else '%' :: Nat.toDigits 10 scope.toNat

theorem scopeAt_scopeMark (scope : UInt32) (rest : List Char) :
    scopeAt (scopeMark scope ++ ']' :: rest) = (scope.toNat, ']' :: rest) := by
  unfold scopeMark
  split
  · next zero =>
    rw [zero]
    rfl
  · have read : NumberForm.scope.read? (Nat.toDigits 10 scope.toNat ++ ']' :: rest) =
        some (scope.toNat, ']' :: rest) :=
      NumberForm.scope.read?_toDigits (by decide) (by decide) scope.toNat_lt nofun rfl
    simp [scopeAt, expect?, read]

theorem closed_scopeMark (scope : UInt32) (rest : List Char) :
    Ipv6.Closed (scopeMark scope ++ ']' :: rest) := by
  unfold scopeMark
  split
  · exact ⟨rfl, nofun, nofun⟩
  · exact ⟨rfl, nofun, nofun⟩

/-- The text of a socket address writes that address. -/
theorem parse?_text (address : SocketAddress) : parse? address.text = some address := by
  unfold parse?
  cases address with
  | v4 ip port =>
    have written : (text (.v4 ip port)).toList =
        ip.text.toList ++ ':' :: Nat.toDigits 10 port.toNat := by simp [text]
    have ends : Digitless (':' :: Nat.toDigits 10 port.toNat) := rfl
    rw [written]
    simp [parseChars?, ip.read?_text ends, portAtEnd?_toDigits]
  | v6 ip port scope =>
    have written : (text (.v6 ip port scope)).toList =
        '[' :: (ip.text.toList ++
          (scopeMark scope ++ ']' :: ':' :: Nat.toDigits 10 port.toNat)) := by
      by_cases zero : scope = 0 <;> simp [text, scopeMark, zero]
    have noV4 (behind : List Char) : Ipv4.read? ('[' :: behind) = none :=
      Ipv4.read?_of_dotless (by exact nofun)
    have read := ip.read?_text
      (closed_scopeMark scope (':' :: Nat.toDigits 10 port.toNat))
    rw [written]
    simp [parseChars?, noV4, read, scopeAt_scopeMark, expect?, portAtEnd?_toDigits]

end SocketAddress

end RdmaLink
