import Mathlib
import RdmaLink.Config.Reading
import RdmaLink.Config.Writing

/-!
# What the transport section says

The section is a table.  Its keys are eleven names and four further ones, and every key gives its
field the value beside it; a field that is not given has its documented value.  What the section
says is read back field by field (`RdmaField.value?`), and the fields together are the whole
configuration.

    field.set? value config = some after → field.value? after = some value  (RdmaField.value?_set?)
    other ≠ field → other.value? after = other.value? config           (RdmaField.value?_set?_of_ne)

The order of the keys does not matter, since the fields are set apart from each other.
-/

namespace RdmaLink.Config

open RdmaLink.Toml

/-! ## Keys, kinds of values, documented values -/

namespace RdmaField

/-- The fifteen keys, each with its field. -/
def keys : List (String × RdmaField) :=
  [("device", .device), ("ib_devname", .device),
    ("port", .port), ("ib_port", .port),
    ("sgid_index", .gidIndex), ("ib_sgid_idx", .gidIndex),
    ("shm_size", .regionSize),
    ("connect_using_rdma", .useRdma), ("ib_connect", .useRdma),
    ("listen_info_file_path", .infoPath),
    ("listen_ready_file_path", .readyPath),
    ("handshake_timeout_ms", .handshakeTimeout),
    ("ready_timeout_ms", .readyTimeout),
    ("ready_poll_interval_ms", .readyPoll),
    ("cq_depth", .depth)]

/-- The type of a field. -/
inductive Kind where
  | text
  | switch
  /-- A whole number of so many bits, without a sign. -/
  | number (bits : Nat)

def kind : RdmaField → Kind
  | .device | .infoPath | .readyPath => .text
  | .useRdma => .switch
  | .port | .gidIndex => .number 8
  | .regionSize | .handshakeTimeout | .readyTimeout | .readyPoll | .depth => .number 64

/-- A value is of a type and within its range. -/
def Kind.Admits : Kind → Value → Prop
  | .text, value => ∃ s, value = .string s
  | .switch, value => ∃ b, value = .boolean b
  | .number bits, value => ∃ n : Nat, value = .integer n ∧ n < 2 ^ bits

/-- The value of a field that is not given, as it is documented. -/
def documented : RdmaField → Option Value
  | .device => some (.string "soft")
  | .port => some (.integer 1)
  | .gidIndex => some (.integer 0)
  | .regionSize => some (.integer 4096)
  | .useRdma => some (.boolean true)
  | .infoPath => none
  | .readyPath => none
  | .handshakeTimeout => some (.integer 5000)
  | .readyTimeout => some (.integer 10000)
  | .readyPoll => some (.integer 10)
  | .depth => some (.integer 256)

variable {key : String} {field other : RdmaField} {value : Value} {config after : RdmaConfig}

theorem mem_keys_iff : (key, field) ∈ keys ↔ field.name = key ∨ field.alias? = some key := by
  cases field <;> simp [keys, name, alias?, eq_comm]

theorem mem_all (field : RdmaField) : field ∈ all := by
  cases field <;> decide

/-- A key names one field at most. -/
theorem eq_of_mem_keys (h : (key, field) ∈ keys) (h' : (key, other) ∈ keys) : field = other := by
  have names : (keys.map Prod.fst).Nodup := by decide
  exact congrArg Prod.snd (List.inj_on_of_nodup_map names h h' rfl)

/-- Keys of different fields give nothing in common. -/
theorem apart_of_ne {a b : String} (ha : (a, field) ∈ keys) (hb : (b, other) ∈ keys)
    (different : field ≠ other) : ∀ shared, (a, shared) ∈ keys → (b, shared) ∉ keys :=
  fun _ names names' => different ((eq_of_mem_keys ha names).trans (eq_of_mem_keys names' hb))

theorem ofKey?_eq_some_iff : ofKey? key = some field ↔ (key, field) ∈ keys := by
  have named (field : RdmaField) :
      (field.name == key || field.alias? == some key) = true ↔ (key, field) ∈ keys := by
    rw [mem_keys_iff, Bool.or_eq_true, beq_iff_eq, beq_iff_eq]
  have sound {field : RdmaField} (found : ofKey? key = some field) : (key, field) ∈ keys := by
    have holds := List.find?_some found
    exact (named field).mp holds
  refine ⟨sound, fun known => ?_⟩
  have found : (ofKey? key).isSome = true :=
    List.find?_isSome.mpr ⟨field, mem_all field, (named field).mpr known⟩
  obtain ⟨other, hother⟩ := Option.isSome_iff_exists.mp found
  rw [hother, eq_of_mem_keys (sound hother) known]

/-! ## One field -/

theorem text?_eq_some_iff {s : String} : text? value = some s ↔ value = .string s := by
  cases value <;> simp [text?]

theorem boolean?_eq_some_iff {b : Bool} : boolean? value = some b ↔ value = .boolean b := by
  cases value <;> simp [boolean?]

theorem number?_eq_some_iff {bound n : Nat} :
    number? bound value = some n ↔ value = .integer n ∧ n < bound := by
  cases value with
  | integer m =>
    simp only [number?, Value.integer.injEq]
    split
    · next within =>
      rw [Option.some.injEq]
      omega
    · next outside =>
      constructor
      · intro impossible
        cases impossible
      · rintro ⟨rfl, small⟩
        exact absurd ⟨by omega, by omega⟩ outside
  | _ => simp [number?]

/-- A field is set exactly by the values of its type and range. -/
theorem isSome_set?_iff : (field.set? value config).isSome = true ↔ field.kind.Admits value := by
  cases field <;>
    simp [set?, kind, Kind.Admits, Option.isSome_iff_exists, text?_eq_some_iff,
      boolean?_eq_some_iff, number?_eq_some_iff]

theorem toNat_ofNat_of_lt {n : Nat} (small : n < 256) : (UInt8.ofNat n).toNat = n := by
  rw [UInt8.toNat_ofNat', Nat.mod_eq_of_lt small]

/-- What a field was set to is read back. -/
theorem value?_set? (set : field.set? value config = some after) :
    field.value? after = some value := by
  cases field <;>
    simp only [set?, Option.map_eq_some_iff, text?_eq_some_iff, boolean?_eq_some_iff,
      number?_eq_some_iff] at set
  case device | infoPath | readyPath =>
    obtain ⟨s, rfl, rfl⟩ := set
    rfl
  case useRdma =>
    obtain ⟨b, rfl, rfl⟩ := set
    rfl
  case port | gidIndex =>
    obtain ⟨n, ⟨rfl, small⟩, rfl⟩ := set
    simp only [value?, toNat_ofNat_of_lt small]
  all_goals
    obtain ⟨n, ⟨rfl, -⟩, rfl⟩ := set
    rfl

/-- A field that is set leaves the others alone. -/
theorem value?_set?_of_ne (set : field.set? value config = some after) (apart : other ≠ field) :
    other.value? after = other.value? config := by
  cases field <;> simp only [set?, Option.map_eq_some_iff] at set <;>
    obtain ⟨v, -, rfl⟩ := set <;> cases other <;> first | rfl | exact absurd rfl apart

/-- The fields are the whole configuration. -/
theorem eq_of_value?_eq {a b : RdmaConfig}
    (same : ∀ field : RdmaField, field.value? a = field.value? b) : a = b := by
  have path {x y : Option String} (h : x.map Value.string = y.map Value.string) : x = y :=
    Option.map_injective (fun _ _ equal => Value.string.inj equal) h
  have number {x y : Nat} (h : some (Value.integer x) = some (Value.integer y)) : x = y :=
    Int.natCast_inj.mp (Value.integer.inj (Option.some.inj h))
  have device := Value.string.inj (Option.some.inj (same .device))
  have port := UInt8.toNat_inj.mp (number (same .port))
  have gidIndex := UInt8.toNat_inj.mp (number (same .gidIndex))
  have regionSize := number (same .regionSize)
  have useRdma := Value.boolean.inj (Option.some.inj (same .useRdma))
  have infoPath := path (same .infoPath)
  have readyPath := path (same .readyPath)
  have handshakeTimeout := number (same .handshakeTimeout)
  have readyTimeout := number (same .readyTimeout)
  have readyPoll := number (same .readyPoll)
  have depth := number (same .depth)
  cases a
  cases b
  simp only [RdmaConfig.mk.injEq]
  exact ⟨device, port, gidIndex, regionSize, useRdma, infoPath, readyPath, handshakeTimeout,
    readyTimeout, readyPoll, depth⟩

/-- Where nothing is given, the documented values are read. -/
theorem value?_default (field : RdmaField) :
    field.value? RdmaConfig.default = field.documented := by
  cases field <;> rfl

end RdmaField

/-! ## The whole section -/

/-- An entry that can stand in the section: its key names a field and its value is one of it. -/
def Proper (entry : String × Value) : Prop :=
  ∃ field, (entry.1, field) ∈ RdmaField.keys ∧ field.kind.Admits entry.2

/-- Two entries that do not give the same field. -/
def Apart (a b : String × Value) : Prop :=
  ∀ field, (a.1, field) ∈ RdmaField.keys → (b.1, field) ∉ RdmaField.keys

variable {given : List RdmaField} {config after : RdmaConfig} {key : String} {value : Value}
  {entries rest : Entries}

theorem Apart.symm {a b : String × Value} (apart : Apart a b) : Apart b a :=
  fun field hb ha => apart field ha hb

/-- What it takes to read the first entry. -/
theorem rdmaFields?_cons_eq_some_iff :
    rdmaFields? given config ((key, value) :: rest) = some after ↔
      ∃ field, (key, field) ∈ RdmaField.keys ∧ field ∉ given ∧ ∃ next,
        field.set? value config = some next ∧
        rdmaFields? (field :: given) next rest = some after := by
  rw [rdmaFields?]
  cases known : RdmaField.ofKey? key with
  | none =>
    refine ⟨fun impossible => (by cases impossible), ?_⟩
    rintro ⟨field, names, -⟩
    rw [RdmaField.ofKey?_eq_some_iff.mpr names] at known
    cases known
  | some field =>
    have names := RdmaField.ofKey?_eq_some_iff.mp known
    dsimp only
    constructor
    · intro read
      split at read
      · cases read
      · next fresh =>
        obtain ⟨next, set, read⟩ := Option.bind_eq_some_iff.mp read
        exact ⟨field, names, fresh, next, set, read⟩
    · rintro ⟨other, names', fresh, next, set, read⟩
      rw [RdmaField.eq_of_mem_keys names' names] at fresh set read
      rw [if_neg fresh, set]
      exact read

/-- Entries are read exactly if every one of them is proper and gives a field that no other one
gives, and that was not given before. -/
theorem isSome_rdmaFields?_iff :
    (rdmaFields? given config entries).isSome = true ↔
      (∀ entry ∈ entries, Proper entry ∧ ∀ field ∈ given, (entry.1, field) ∉ RdmaField.keys) ∧
      entries.Pairwise Apart := by
  induction entries generalizing given config with
  | nil => simp [rdmaFields?]
  | cons entry rest ih =>
    obtain ⟨key, value⟩ := entry
    rw [Option.isSome_iff_exists, List.forall_mem_cons, List.pairwise_cons]
    constructor
    · rintro ⟨after, read⟩
      obtain ⟨field, names, fresh, next, set, read⟩ := rdmaFields?_cons_eq_some_iff.mp read
      obtain ⟨others, apart⟩ := ih.mp (Option.isSome_iff_exists.mpr ⟨after, read⟩)
      refine ⟨⟨⟨⟨field, names, ?_⟩, ?_⟩, fun entry held => ?_⟩, fun entry held other names' => ?_,
        apart⟩
      · exact RdmaField.isSome_set?_iff.mp (Option.isSome_iff_exists.mpr ⟨next, set⟩)
      · intro other was names'
        exact fresh (RdmaField.eq_of_mem_keys names' names ▸ was)
      · exact ⟨(others entry held).1, fun other was =>
          (others entry held).2 other (List.mem_cons_of_mem _ was)⟩
      · rw [RdmaField.eq_of_mem_keys names' names]
        exact (others entry held).2 field List.mem_cons_self
    · rintro ⟨⟨⟨⟨field, names, admits⟩, fresh⟩, others⟩, first, apart⟩
      have settable : (field.set? value config).isSome = true :=
        RdmaField.isSome_set?_iff.mpr admits
      obtain ⟨next, set⟩ := Option.isSome_iff_exists.mp settable
      have following : (rdmaFields? (field :: given) next rest).isSome = true := by
        refine ih.mpr ⟨fun entry held => ⟨(others entry held).1, fun other was => ?_⟩, apart⟩
        rcases List.mem_cons.mp was with rfl | was
        · exact first entry held _ names
        · exact (others entry held).2 other was
      obtain ⟨after, read⟩ := Option.isSome_iff_exists.mp following
      exact ⟨after, rdmaFields?_cons_eq_some_iff.mpr
        ⟨field, names, fun was => fresh field was names, next, set, read⟩⟩

/-- Every entry gives its field its value, and a field that no entry gives is as it was. -/
theorem value?_of_rdmaFields? (read : rdmaFields? given config entries = some after) :
    (∀ entry ∈ entries, ∀ field, (entry.1, field) ∈ RdmaField.keys →
      field.value? after = some entry.2) ∧
    (∀ field, (∀ entry ∈ entries, (entry.1, field) ∉ RdmaField.keys) →
      field.value? after = field.value? config) := by
  induction entries generalizing given config with
  | nil =>
    cases read
    exact ⟨fun _ held => absurd held List.not_mem_nil, fun _ _ => rfl⟩
  | cons entry rest ih =>
    obtain ⟨key, value⟩ := entry
    obtain ⟨field, names, -, next, set, read⟩ := rdmaFields?_cons_eq_some_iff.mp read
    obtain ⟨told, kept⟩ := ih read
    -- No later entry gives this field again, so that its value stays.
    have once : ∀ entry ∈ rest, (entry.1, field) ∉ RdmaField.keys := fun entry held =>
      ((isSome_rdmaFields?_iff.mp (Option.isSome_iff_exists.mpr ⟨after, read⟩)).1 entry held).2
        field List.mem_cons_self
    refine ⟨fun entry held other names' => ?_, fun other absent => ?_⟩
    · rcases List.mem_cons.mp held with rfl | held
      · rw [RdmaField.eq_of_mem_keys names' names, kept field once, RdmaField.value?_set? set]
      · exact told entry held other names'
    · have apart : other ≠ field := by
        rintro rfl
        exact absent _ List.mem_cons_self names
      rw [kept other fun entry held => absent entry (List.mem_cons_of_mem _ held),
        RdmaField.value?_set?_of_ne set apart]

/-- Reordered entries are read to the same end. -/
theorem rdmaOfTable?_perm {reordered : Entries} (perm : entries.Perm reordered) :
    rdmaOfTable? reordered = rdmaOfTable? entries := by
  have alike : (rdmaOfTable? reordered).isSome = (rdmaOfTable? entries).isSome := by
    rw [Bool.eq_iff_iff, rdmaOfTable?, rdmaOfTable?, isSome_rdmaFields?_iff,
      isSome_rdmaFields?_iff, perm.pairwise_iff Apart.symm]
    simp only [perm.mem_iff]
  cases first : rdmaOfTable? entries with
  | none =>
    rw [first] at alike
    exact Option.not_isSome_iff_eq_none.mp (by rw [alike]; simp)
  | some config =>
    rw [first] at alike
    obtain ⟨other, second⟩ := Option.isSome_iff_exists.mp alike
    obtain ⟨told, kept⟩ := value?_of_rdmaFields? first
    obtain ⟨told', kept'⟩ := value?_of_rdmaFields? second
    rw [second, Option.some.injEq]
    refine RdmaField.eq_of_value?_eq fun field => ?_
    by_cases given : ∃ entry ∈ entries, (entry.1, field) ∈ RdmaField.keys
    · obtain ⟨entry, held, names⟩ := given
      rw [told entry held field names, told' entry (perm.mem_iff.mp held) field names]
    · rw [kept field fun entry held names => given ⟨entry, held, names⟩,
        kept' field fun entry held names => given ⟨entry, perm.mem_iff.mpr held, names⟩]

/-- What a valid section says. -/
theorem validate_eq_ok_iff (config : RdmaConfig) :
    config.validate = .ok () ↔
      config.device ≠ "" ∧ 1 ≤ config.port.toNat ∧
      (1 ≤ config.regionSize ∧ config.regionSize ≤ Region.maxSize) ∧
      config.handshakeTimeout ≠ 0 ∧ config.readyTimeout ≠ 0 ∧ config.readyPoll ≠ 0 ∧
      config.depth ≠ 0 := by
  have port : config.port = 0 ↔ config.port.toNat = 0 := by
    rw [← UInt8.toNat_inj]
    rfl
  unfold RdmaConfig.validate
  simp only [port]
  split
  · next faulty => simp [faulty]
  · split
    · next faulty => simp [faulty]
    · split
      · next faulty =>
        refine ⟨fun impossible => (by cases impossible), fun valid => ?_⟩
        omega
      · split
        · next faulty =>
          refine ⟨fun impossible => (by cases impossible), fun valid => ?_⟩
          omega
        · split
          · next faulty => simp [faulty]
          · next device port size times depth =>
            exact ⟨fun _ => ⟨device, by omega, by omega, by omega, by omega, by omega, depth⟩,
              fun _ => rfl⟩

/-- **The transport section is read exactly.**  A table is a section if and only if every key is
one of the fifteen, no field is given twice, and every value has the type and the range of its
field.  Then every value stands in its field and every other field has its documented value, which
is all that there is to a configuration; the order of the keys does not matter.  The configuration
is valid if and only if its device is named, its port is counted from one, its region has a size
that a region can have, and no time and no depth is zero. -/
theorem transport_section_exact (origin : TableOrigin) (entries : Entries) :
    ((rdma? (.table origin entries)).isSome = true ↔
      (∀ entry ∈ entries, ∃ field, (entry.1, field) ∈ RdmaField.keys ∧
        field.kind.Admits entry.2) ∧
      entries.Pairwise fun a b =>
        ∀ field, (a.1, field) ∈ RdmaField.keys → (b.1, field) ∉ RdmaField.keys) ∧
    (∀ config, rdma? (.table origin entries) = some config →
      (∀ entry ∈ entries, ∀ field, (entry.1, field) ∈ RdmaField.keys →
        field.value? config = some entry.2) ∧
      (∀ field, (∀ entry ∈ entries, (entry.1, field) ∉ RdmaField.keys) →
        field.value? config = field.documented)) ∧
    (∀ a b : RdmaConfig, (∀ field : RdmaField, field.value? a = field.value? b) → a = b) ∧
    (∀ (origin' : TableOrigin) (reordered : Entries), entries.Perm reordered →
      rdma? (.table origin' reordered) = rdma? (.table origin entries)) ∧
    (∀ config : RdmaConfig, config.validate = .ok () ↔
      config.device ≠ "" ∧ 1 ≤ config.port.toNat ∧
      (1 ≤ config.regionSize ∧ config.regionSize ≤ Region.maxSize) ∧
      config.handshakeTimeout ≠ 0 ∧ config.readyTimeout ≠ 0 ∧ config.readyPoll ≠ 0 ∧
      config.depth ≠ 0) := by
  refine ⟨?_, fun config read => ?_, fun a b => RdmaField.eq_of_value?_eq,
    fun _ _ perm => rdmaOfTable?_perm perm, validate_eq_ok_iff⟩
  · refine isSome_rdmaFields?_iff.trans (and_congr_left' (forall₂_congr fun entry held => ?_))
    exact and_iff_left fun field was => absurd was List.not_mem_nil
  · obtain ⟨told, kept⟩ := value?_of_rdmaFields? read
    refine ⟨told, fun field absent => ?_⟩
    rw [kept field absent, RdmaField.value?_default]

/-- A section under the further keys. -/
def legacySection : Entries :=
  [("ib_port", .integer 2), ("ib_connect", .boolean false), ("shm_size", .integer 65536)]

/-- Such a section is read, in any order, and a second key for one of its fields is refused. -/
theorem legacy_section_read :
    (rdma? (.table .header legacySection)).isSome = true ∧
      (∀ config, rdma? (.table .header legacySection) = some config →
        RdmaField.port.value? config = some (.integer 2) ∧
        RdmaField.depth.value? config = some (.integer 256)) ∧
      rdma? (.table .inline legacySection.reverse) = rdma? (.table .header legacySection) ∧
      (rdma? (.table .header (("port", .integer 1) :: legacySection))).isSome ≠ true := by
  obtain ⟨accepted, told, -, order, -⟩ := transport_section_exact .header legacySection
  obtain ⟨doubled, -⟩ :=
    transport_section_exact .header (("port", .integer 1) :: legacySection)
  refine ⟨accepted.mpr ⟨?_, ?_⟩, fun config read => ?_,
    order .inline _ (List.reverse_perm _).symm, fun read => ?_⟩
  · intro entry held
    simp only [legacySection, List.mem_cons, List.not_mem_nil, or_false] at held
    rcases held with rfl | rfl | rfl
    · exact ⟨.port, by decide, 2, rfl, by decide⟩
    · exact ⟨.useRdma, by decide, false, rfl⟩
    · exact ⟨.regionSize, by decide, 65536, rfl, by decide⟩
  · simp only [legacySection, List.pairwise_cons, List.mem_cons, List.not_mem_nil, or_false,
      forall_eq_or_imp, forall_eq, IsEmpty.forall_iff, implies_true, List.Pairwise.nil, and_true]
    have port : ("ib_port", RdmaField.port) ∈ RdmaField.keys := by decide
    have switch : ("ib_connect", RdmaField.useRdma) ∈ RdmaField.keys := by decide
    have size : ("shm_size", RdmaField.regionSize) ∈ RdmaField.keys := by decide
    exact ⟨⟨RdmaField.apart_of_ne port switch (by decide),
      RdmaField.apart_of_ne port size (by decide)⟩, RdmaField.apart_of_ne switch size (by decide)⟩
  · obtain ⟨given, others⟩ := told config read
    exact ⟨given ("ib_port", .integer 2) List.mem_cons_self .port (by decide),
      others .depth (by decide)⟩
  · have apart := (List.pairwise_cons.mp (doubled.mp read).2).1
    exact apart ("ib_port", .integer 2) List.mem_cons_self .port (by decide) (by decide)

end RdmaLink.Config
