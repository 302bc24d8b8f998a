import RdmaLink.Rendezvous.Record

/-!
# The bytes of a record

A record determines its 64 bytes, and they determine it: of the byte strings that write one record,
`toBytes` gives the one whose reserved bytes are zero.

    ofBytes bytes = .ok r → r.toBytes = cleared bytes                (Record.toBytes_of_ofBytes)
    (∃ r, ofBytes bytes = .ok r) ↔ Proper bytes                      (Record.ofBytes_ok_iff)

Byte 5 stands behind the transport, bytes 58 to 63 behind the port.
-/

namespace RdmaLink.Record

/-! ## Reserved bytes -/

/-- The positions that are written as zero and not looked at. -/
def reserved (i : Nat) : Bool := i == 5 || decide (58 ≤ i ∧ i ≤ 63)

/-- A byte string with zero in its reserved bytes. -/
def cleared (bytes : Bytes) : Bytes :=
  bytes.mapIdx fun i byte => if reserved i then 0 else byte

/-- What a byte string must be to write a record: 64 bytes that begin with the magic, and behind it
the code of a transport. -/
structure Proper (bytes : Bytes) : Prop where
  length : bytes.length = 64
  magic : magic <+: bytes
  transport : bytes[4]? = some 1 ∨ bytes[4]? = some 2

variable {bytes other : Bytes} {r s : Record}

@[simp] theorem length_cleared (bytes : Bytes) : (cleared bytes).length = bytes.length := by
  simp [cleared]

theorem getElem?_cleared (bytes : Bytes) (i : Nat) :
    (cleared bytes)[i]? = bytes[i]?.map fun byte => if reserved i then 0 else byte := by
  simp [cleared]

theorem cleared_eq_iff (long : bytes.length = 64) (long' : other.length = 64) :
    cleared bytes = cleared other ↔ ∀ i, reserved i = false → bytes[i]? = other[i]? := by
  constructor
  · intro same i kept
    have at_i := congrArg (·[i]?) same
    simpa [getElem?_cleared, kept] using at_i
  · intro same
    apply List.ext_getElem?
    intro i
    rw [getElem?_cleared, getElem?_cleared]
    cases kept : reserved i with
    | false => rw [same i kept]
    | true =>
      -- a reserved position is inside both strings
      have inside : i < 64 := by
        simp only [reserved, Bool.or_eq_true, beq_iff_eq, decide_eq_true_eq] at kept
        omega
      rw [List.getElem?_eq_getElem (long ▸ inside), List.getElem?_eq_getElem (long' ▸ inside)]
      rfl

/-! ## Fields -/

/-- The number in `width` bytes from a position on. -/
def field (bytes : Bytes) (start width : Nat) : Nat :=
  BigEndian.decode ((bytes.drop start).take width)

theorem field_lt (bytes : Bytes) (start width : Nat) :
    field bytes start width < BigEndian.capacity width :=
  Nat.lt_of_lt_of_le (BigEndian.decode_lt _) (BigEndian.capacity_le (List.length_take_le width _))

/-- A field without reserved bytes stays. -/
theorem field_cleared (bytes : Bytes) {start width : Nat}
    (kept : ∀ i < width, reserved (start + i) = false) :
    field (cleared bytes) start width = field bytes start width := by
  refine congrArg BigEndian.decode (List.ext_getElem? fun i => ?_)
  rw [List.getElem?_take, List.getElem?_take]
  split
  · next inside => simp [getElem?_cleared, kept i inside]
  · rfl

theorem decode_replicate_zero (count : Nat) :
    BigEndian.decode (List.replicate count 0) = 0 := by
  induction count with
  | zero => rfl
  | succ count ih => simp [List.replicate_succ', ih]

/-- A reserved field reads as zero. -/
theorem field_blank (bytes : Bytes) {start width : Nat}
    (blank : ∀ i < width, reserved (start + i) = true) :
    field (cleared bytes) start width = 0 := by
  have zeros : ((cleared bytes).drop start).take width =
      List.replicate (((cleared bytes).drop start).take width).length 0 := by
    refine List.eq_replicate_iff.mpr ⟨rfl, fun byte found => ?_⟩
    obtain ⟨i, at_i⟩ := List.mem_iff_getElem?.mp found
    rw [List.getElem?_take] at at_i
    split at at_i
    · next inside =>
      rw [List.getElem?_drop, getElem?_cleared, blank i inside] at at_i
      obtain ⟨_, _, same⟩ := Option.map_eq_some_iff.mp at_i
      exact same.symm
    · cases at_i
  rw [field, zeros, decode_replicate_zero]

theorem split_widths (bytes : Bytes) :
    Fields.split widths bytes =
      [field bytes 0 4, field bytes 4 1, field bytes 5 1, field bytes 6 2, field bytes 8 4,
        field bytes 12 4, field bytes 16 16, field bytes 32 8, field bytes 40 8,
        field bytes 48 4, field bytes 52 4, field bytes 56 2, field bytes 58 6] := by
  simp only [widths, Fields.split, field, List.drop_drop, List.drop_zero, Nat.reduceAdd]

theorem split_cleared (bytes : Bytes) :
    Fields.split widths (cleared bytes) =
      [field bytes 0 4, field bytes 4 1, 0, field bytes 6 2, field bytes 8 4, field bytes 12 4,
        field bytes 16 16, field bytes 32 8, field bytes 40 8, field bytes 48 4,
        field bytes 52 4, field bytes 56 2, 0] := by
  have kept (start width : Nat) := @field_cleared bytes start width
  rw [split_widths, kept 0 4 (by decide), kept 4 1 (by decide), kept 6 2 (by decide),
    kept 8 4 (by decide), kept 12 4 (by decide), kept 16 16 (by decide), kept 32 8 (by decide),
    kept 40 8 (by decide), kept 48 4 (by decide), kept 52 4 (by decide), kept 56 2 (by decide),
    field_blank bytes (by decide : ∀ i < 1, reserved (5 + i) = true),
    field_blank bytes (by decide : ∀ i < 6, reserved (58 + i) = true)]

/-! ## Reading -/

theorem decode_inj {a b : Bytes} (long : a.length = b.length)
    (same : BigEndian.decode a = BigEndian.decode b) : a = b := by
  rw [← BigEndian.encode_decode a, long, same, BigEndian.encode_decode]

theorem opening_eq_iff (long : bytes.length = 64) :
    field bytes 0 4 = BigEndian.decode magic ↔ magic <+: bytes := by
  rw [List.prefix_iff_eq_take, field, List.drop_zero]
  constructor
  · intro same
    exact (decode_inj (by rw [List.length_take, long]; rfl) same).symm
  · intro same
    exact congrArg BigEndian.decode same.symm

theorem code_eq {byte : UInt8} (fifth : bytes[4]? = some byte) :
    UInt8.ofNat (field bytes 4 1) = byte := by
  obtain ⟨inside, at_4⟩ := List.getElem?_eq_some_iff.mp fifth
  have single : (bytes.drop 4).take 1 = [byte] := by
    rw [List.drop_eq_getElem_cons inside, at_4]
    rfl
  rw [field, single]
  simp [BigEndian.decode]

theorem ofCode?_isSome_iff (code : UInt8) :
    (∃ transport, Transport.ofCode? code = some transport) ↔ code = 1 ∨ code = 2 := by
  unfold Transport.ofCode?
  split <;> simp_all

/-- A byte string that writes a record is proper, and the fields of the record are the ones that
stand there, with zero in the reserved ones. -/
theorem of_ofBytes_ok (read : ofBytes bytes = .ok r) :
    Proper bytes ∧ r.values = Fields.split widths (cleared bytes) := by
  unfold ofBytes at read
  split at read
  · cases read
  · next long =>
    have long : bytes.length = 64 := Decidable.not_not.mp long
    rw [split_widths] at read
    dsimp only at read
    split at read
    · cases read
    · next opening =>
      have opening := Decidable.not_not.mp opening
      split at read
      · cases read
      · next transport coded =>
        cases read
        obtain ⟨byte, fifth⟩ : ∃ byte, bytes[4]? = some byte :=
          ⟨_, List.getElem?_eq_getElem (by omega)⟩
        rw [code_eq fifth] at coded
        have either := (ofCode?_isSome_iff byte).mp ⟨transport, coded⟩
        refine ⟨⟨long, (opening_eq_iff long).mp opening, ?_⟩, ?_⟩
        · rw [fifth]
          exact either.imp (congrArg some) (congrArg some)
        · rw [split_cleared]
          have code := congrArg UInt8.toNat (Transport.code_of_ofCode? coded)
          have l1 := field_lt bytes 4 1; have l2 := field_lt bytes 6 2
          have l3 := field_lt bytes 8 4; have l4 := field_lt bytes 12 4
          have l5 := field_lt bytes 16 16; have l6 := field_lt bytes 32 8
          have l7 := field_lt bytes 40 8; have l8 := field_lt bytes 48 4
          have l9 := field_lt bytes 52 4; have l10 := field_lt bytes 56 2
          simp only [BigEndian.capacity, Nat.reduceMul] at l1 l2 l3 l4 l5 l6 l7 l8 l9 l10
          rw [← code_eq fifth, UInt8.toNat_ofNat', Nat.mod_eq_of_lt l1] at code
          simp only [values, code, opening, UInt16.toNat_ofNat', UInt32.toNat_ofNat',
            UInt64.toNat_ofNat', BitVec.toNat_ofNat, Nat.reducePow, Nat.mod_eq_of_lt l2,
            Nat.mod_eq_of_lt l3, Nat.mod_eq_of_lt l4, Nat.mod_eq_of_lt l5, Nat.mod_eq_of_lt l6,
            Nat.mod_eq_of_lt l7, Nat.mod_eq_of_lt l8, Nat.mod_eq_of_lt l9, Nat.mod_eq_of_lt l10]

/-- A proper byte string writes a record. -/
theorem ofBytes_of_proper (proper : Proper bytes) : ∃ r, ofBytes bytes = .ok r := by
  obtain ⟨code, fifth, either⟩ : ∃ code, bytes[4]? = some code ∧ (code = 1 ∨ code = 2) :=
    proper.transport.elim (fun one => ⟨1, one, .inl rfl⟩) fun two => ⟨2, two, .inr rfl⟩
  obtain ⟨transport, coded⟩ := (ofCode?_isSome_iff code).mpr either
  have opening := (opening_eq_iff proper.length).mpr proper.magic
  unfold ofBytes
  rw [if_neg fun wrong : bytes.length ≠ size => wrong proper.length, split_widths]
  dsimp only
  rw [if_neg (Decidable.not_not.mpr opening), code_eq fifth, coded]
  exact ⟨_, rfl⟩

/-! ## Records and byte strings -/

theorem ofBytes_ok_iff (bytes : Bytes) : (∃ r, ofBytes bytes = .ok r) ↔ Proper bytes :=
  ⟨fun ⟨_, read⟩ => (of_ofBytes_ok read).1, ofBytes_of_proper⟩

/-- Writing the record that was read gives the bytes back, with zero in the reserved ones. -/
theorem toBytes_of_ofBytes (read : ofBytes bytes = .ok r) : r.toBytes = cleared bytes := by
  obtain ⟨proper, same⟩ := of_ofBytes_ok read
  rw [toBytes, same]
  exact Fields.join_split widths (cleared bytes) (by rw [length_cleared, proper.length]; rfl)

theorem toBytes_injective (same : r.toBytes = s.toBytes) : r = s := by
  have read := ofBytes_toBytes r
  rw [same, ofBytes_toBytes] at read
  exact (Except.ok.inj read).symm

/-- Records and their bytes determine each other.  Every record is read back from its bytes; the
byte strings that are read are the proper ones, and each is given back but for its reserved bytes;
so two of them write one record exactly when they agree everywhere else. -/
theorem codec_exact :
    (∀ r : Record, ofBytes r.toBytes = .ok r) ∧
    (∀ bytes, (∃ r, ofBytes bytes = .ok r) ↔ Proper bytes) ∧
    (∀ bytes r, ofBytes bytes = .ok r → r.toBytes = cleared bytes) ∧
    (∀ bytes other r s, ofBytes bytes = .ok r → ofBytes other = .ok s →
      (r = s ↔ ∀ i, reserved i = false → bytes[i]? = other[i]?)) := by
  refine ⟨ofBytes_toBytes, ofBytes_ok_iff, fun _ _ => toBytes_of_ofBytes, ?_⟩
  intro bytes other r s read read'
  have long := (of_ofBytes_ok read).1.length
  have long' := (of_ofBytes_ok read').1.length
  rw [← cleared_eq_iff long long', ← toBytes_of_ofBytes read, ← toBytes_of_ofBytes read']
  exact ⟨congrArg toBytes, toBytes_injective⟩

end RdmaLink.Record
