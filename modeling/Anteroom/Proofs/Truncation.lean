import Anteroom.Proofs.RoundTrip

/-!
# Running out of bytes

A decoder that runs out of bytes names the field it was at, the bytes that the
field takes and the bytes that are left.  This is exact: with fewer bytes more
than are missing it runs out at the same field, with as many it gets past it.
Every other outcome is final, and bytes behind what has been read do not matter.

Both are put together as readers are.  For a reader to go on as before on a
longer input, what it reads first must not change; for it to get past a field
for good, no field that is read later may have the same name.
-/

namespace Anteroom

/-- The decoder did not run out of bytes. -/
def DecodeError.Final (e : DecodeError) : Prop :=
  ∀ field needed remaining, e ≠ .truncated field needed remaining

variable {α β : Type}

/-- How a decoder fails on an input and on those that begin with it, where `fields` are the fields
it may run out of bytes at. -/
structure ReportsShortage (decode : Bytes → Except DecodeError α) (fields : List String) :
    Prop where
  /-- Fewer bytes are left than one of the fields needs. -/
  short : ∀ {bytes field needed remaining},
    decode bytes = .error (.truncated field needed remaining) →
      field ∈ fields ∧ remaining < needed
  /-- With fewer bytes more than are missing, the same field falls short by fewer. -/
  starved : ∀ {bytes field needed remaining},
    decode bytes = .error (.truncated field needed remaining) →
      ∀ more : Bytes, more.length < needed - remaining →
        decode (bytes ++ more) = .error (.truncated field needed (remaining + more.length))
  /-- With the bytes that are missing, the field does not fall short. -/
  fed : ∀ {bytes field needed remaining},
    decode bytes = .error (.truncated field needed remaining) →
      ∀ more : Bytes, needed - remaining ≤ more.length → ∀ count left,
        decode (bytes ++ more) ≠ .error (.truncated field count left)
  /-- Any other failure stays. -/
  stays : ∀ {bytes e}, decode bytes = .error e → e.Final →
    ∀ more : Bytes, decode (bytes ++ more) = .error e

namespace Reader

/-- The reader reports where it runs out of bytes, and leaves behind what it has not taken. -/
structure Accounts (reader : Reader α) (fields : List String) : Prop
    extends ReportsShortage reader.value fields where
  /-- Whatever the outcome, the end of the input is left. -/
  suffix : ∀ bytes, reader.left bytes <:+ bytes
  /-- The bytes that remain are those that are left. -/
  counted : ∀ {bytes field needed remaining},
    reader.value bytes = .error (.truncated field needed remaining) →
      (reader.left bytes).length = remaining

/-- The reader accounts for its failures, and where it succeeds it leaves whatever follows. -/
structure Steady (reader : Reader α) (fields : List String) : Prop
    extends Accounts reader fields where
  /-- Bytes that follow are left behind the others. -/
  goesOn : ∀ {bytes a rest}, reader bytes = .ok a rest →
    ∀ more : Bytes, reader (bytes ++ more) = .ok a (rest ++ more)

/-! ## Values and rests -/

theorem left_of_ok {reader : Reader α} {bytes rest : Bytes} {a : α}
    (read : reader bytes = .ok a rest) : reader.left bytes = rest := by
  rw [left, read]

theorem left_of_error {reader : Reader α} {bytes rest : Bytes} {e : DecodeError}
    (failed : reader bytes = .error e rest) : reader.left bytes = rest := by
  rw [left, failed]

theorem value_bind_eq_error_iff {first : Reader α} {next : α → Reader β} {bytes : Bytes}
    {e : DecodeError} :
    value (first >>= next) bytes = .error e ↔
      first.value bytes = .error e ∨
        ∃ a rest, first bytes = .ok a rest ∧ (next a).value rest = .error e := by
  simp only [value_eq_error_iff, bind_eq_error_iff]
  constructor
  · rintro ⟨last, failed | ⟨a, rest, read, failed⟩⟩
    · exact .inl ⟨last, failed⟩
    · exact .inr ⟨a, rest, read, last, failed⟩
  · rintro (⟨last, failed⟩ | ⟨a, rest, read, last, failed⟩)
    · exact ⟨last, .inl failed⟩
    · exact ⟨last, .inr ⟨a, rest, read, failed⟩⟩

theorem left_bind_of_ok {first : Reader α} {next : α → Reader β} {bytes rest : Bytes} {a : α}
    (read : first bytes = .ok a rest) :
    left (first >>= next) bytes = (next a).left rest := by
  rw [left, left, bind_of_ok read]

theorem left_bind_of_error {first : Reader α} {next : α → Reader β} {bytes : Bytes}
    {e : DecodeError} (failed : first.value bytes = .error e) :
    left (first >>= next) bytes = first.left bytes := by
  rcases value_eq_error_iff.mp failed with ⟨rest, failed⟩
  rw [left_of_error (bind_of_error failed), left_of_error failed]

/-! ## Readers put together -/

variable {fields others : List String}

theorem Accounts.mono {reader : Reader α} (accounts : reader.Accounts fields)
    (among : ∀ field ∈ fields, field ∈ others) : reader.Accounts others where
  short failed := ⟨among _ (accounts.short failed).1, (accounts.short failed).2⟩
  starved := accounts.starved
  fed := accounts.fed
  stays := accounts.stays
  suffix := accounts.suffix
  counted := accounts.counted

theorem Steady.mono {reader : Reader α} (steady : reader.Steady fields)
    (among : ∀ field ∈ fields, field ∈ others) : reader.Steady others :=
  { steady.toAccounts.mono among with goesOn := steady.goesOn }

/-- The first reader has to be steady, so that the second one reads the same again. -/
theorem Steady.bindAccounts {first : Reader α} {next : α → Reader β} (begins : first.Steady fields)
    (follows : ∀ a, (next a).Accounts others) (apart : ∀ field ∈ fields, field ∉ others) :
    Accounts (first >>= next) (fields ++ others) where
  short failed := by
    rcases value_bind_eq_error_iff.mp failed with failed | ⟨a, rest, -, failed⟩
    · rcases begins.short failed with ⟨named, short⟩
      exact ⟨List.mem_append_left others named, short⟩
    · rcases (follows a).short failed with ⟨named, short⟩
      exact ⟨List.mem_append_right fields named, short⟩
  starved failed more few := by
    rw [value_bind_eq_error_iff]
    rcases value_bind_eq_error_iff.mp failed with failed | ⟨a, rest, read, failed⟩
    · exact .inl (begins.starved failed more few)
    · exact .inr ⟨a, rest ++ more, begins.goesOn read more, (follows a).starved failed more few⟩
  fed failed more enough count left again := by
    rcases value_bind_eq_error_iff.mp failed with failed | ⟨a, rest, read, failed⟩
    · rcases value_bind_eq_error_iff.mp again with again | ⟨b, behind, -, again⟩
      · exact begins.fed failed more enough count left again
      · exact apart _ (begins.short failed).1 ((follows b).short again).1
    · have goesOn := begins.goesOn read more
      rcases value_bind_eq_error_iff.mp again with again | ⟨b, behind, other, again⟩
      · rcases value_eq_error_iff.mp again with ⟨_, again⟩
        rw [goesOn] at again
        cases again
      · rw [goesOn] at other
        cases other
        exact (follows a).fed failed more enough count left again
  stays failed final more := by
    rw [value_bind_eq_error_iff]
    rcases value_bind_eq_error_iff.mp failed with failed | ⟨a, rest, read, failed⟩
    · exact .inl (begins.stays failed final more)
    · exact .inr ⟨a, rest ++ more, begins.goesOn read more, (follows a).stays failed final more⟩
  suffix bytes := by
    cases read : first bytes with
    | ok a rest =>
        have tail := begins.suffix bytes
        rw [left_of_ok read] at tail
        rw [left_bind_of_ok read]
        exact ((follows a).suffix rest).trans tail
    | error e rest =>
        rw [left_bind_of_error (value_eq_error_iff.mpr ⟨rest, read⟩)]
        exact begins.suffix bytes
  counted failed := by
    rcases value_bind_eq_error_iff.mp failed with failed | ⟨a, rest, read, failed⟩
    · rw [left_bind_of_error failed]
      exact begins.counted failed
    · rw [left_bind_of_ok read]
      exact (follows a).counted failed

theorem Steady.bind {first : Reader α} {next : α → Reader β} (begins : first.Steady fields)
    (follows : ∀ a, (next a).Steady others) (apart : ∀ field ∈ fields, field ∉ others) :
    Steady (first >>= next) (fields ++ others) :=
  { begins.bindAccounts (fun a => (follows a).toAccounts) apart with
    goesOn := by
      intro bytes b last read more
      rcases bind_eq_ok_iff.mp read with ⟨a, rest, first, next⟩
      exact bind_eq_ok_iff.mpr
        ⟨a, rest ++ more, begins.goesOn first more, (follows a).goesOn next more⟩ }

/-- A reader that always succeeds has no field to run out of bytes at. -/
theorem accounts_of_ok {reader : Reader α} (succeeds : ∀ bytes, ∃ a rest,
    reader bytes = .ok a rest ∧ rest <:+ bytes) : reader.Accounts [] := by
  have never {bytes : Bytes} {e : DecodeError} (failed : reader.value bytes = .error e) :
      False := by
    rcases succeeds bytes with ⟨a, rest, read, -⟩
    rcases value_eq_error_iff.mp failed with ⟨_, failed⟩
    rw [read] at failed
    cases failed
  refine ⟨⟨?_, ?_, ?_, ?_⟩, ?_, ?_⟩
  · exact fun failed => (never failed).elim
  · exact fun failed => (never failed).elim
  · exact fun failed => (never failed).elim
  · exact fun failed => (never failed).elim
  · intro bytes
    rcases succeeds bytes with ⟨a, rest, read, tail⟩
    rw [left_of_ok read]
    exact tail
  · exact fun failed => (never failed).elim

theorem steady_pure (a : α) : Steady (pure a) [] :=
  { accounts_of_ok fun bytes => ⟨a, bytes, rfl, List.suffix_refl bytes⟩ with
    goesOn := by
      intro bytes b rest read more
      rcases pure_eq_ok_iff.mp read with ⟨rfl, rfl⟩
      rfl }

theorem Steady.map {reader : Reader α} (f : α → β) (steady : reader.Steady fields) :
    Steady (do return f (← reader)) fields := by
  have whole := steady.bind (fun a => steady_pure (f a)) (fun _ _ => List.not_mem_nil)
  rw [List.append_nil] at whole
  exact whole

/-- A failure that is final needs no bytes. -/
theorem steady_throw {e : DecodeError} (final : e.Final) : Steady (throw e : Reader α) [] where
  short failed := by
    cases failed
    exact absurd rfl (final _ _ _)
  starved failed := by
    cases failed
    exact absurd rfl (final _ _ _)
  fed failed := by
    cases failed
    exact absurd rfl (final _ _ _)
  stays failed _ _ := failed
  suffix := List.suffix_refl
  counted failed := by
    cases failed
    exact absurd rfl (final _ _ _)
  goesOn read := by cases read

/-! ## Fields -/

/-- A field of a fixed width: where the bytes for it are there, they alone decide whether they are
taken, and it takes none of them otherwise. -/
structure OfWidth (reader : Reader α) (field : String) (width : Nat) : Prop where
  /-- With too few bytes the field runs out, and leaves them. -/
  lacks : ∀ bytes : Bytes, bytes.length < width →
    reader bytes = .error (.truncated field width bytes.length) bytes
  /-- The bytes of the field are taken, or refused for good. -/
  decides : ∀ found : Bytes, found.length = width → (∃ a, reader.Takes found a) ∨
    ∃ e : DecodeError, e.Final ∧ ∀ rest, reader (found ++ rest) = .error e (found ++ rest)

namespace OfWidth

variable {reader : Reader α} {field : String} {width : Nat}

/-- What is appended to an input that is long enough does not change the bytes that decide. -/
theorem outcome (ofWidth : reader.OfWidth field width) (bytes : Bytes) : bytes.length < width ∨
    (∃ found rest a, bytes = found ++ rest ∧ reader.Takes found a) ∨
    ∃ found rest e, bytes = found ++ rest ∧ DecodeError.Final e ∧
      ∀ rest, reader (found ++ rest) = .error e (found ++ rest) := by
  by_cases short : bytes.length < width
  · exact .inl short
  · have split := (List.take_append_drop width bytes).symm
    rcases ofWidth.decides (bytes.take width) (List.length_take_of_le (Nat.le_of_not_lt short))
      with ⟨a, takes⟩ | ⟨e, final, refuses⟩
    · exact .inr (.inl ⟨_, _, a, split, takes⟩)
    · exact .inr (.inr ⟨_, _, e, split, final, refuses⟩)

/-- The field is the only one that may run out of bytes, and it does where there are too few. -/
theorem value_eq_truncated_iff (ofWidth : reader.OfWidth field width) {bytes : Bytes}
    {name : String} {needed remaining : Nat} :
    reader.value bytes = .error (.truncated name needed remaining) ↔
      bytes.length < width ∧ name = field ∧ needed = width ∧ remaining = bytes.length := by
  constructor
  · intro failed
    rcases value_eq_error_iff.mp failed with ⟨left, failed⟩
    rcases ofWidth.outcome bytes with short | ⟨found, behind, a, rfl, takes⟩ |
      ⟨found, behind, e, rfl, final, refuses⟩
    · rw [ofWidth.lacks bytes short] at failed
      cases failed
      exact ⟨short, rfl, rfl, rfl⟩
    · rw [takes behind] at failed
      cases failed
    · rw [refuses behind] at failed
      cases failed
      exact absurd rfl (final _ _ _)
  · rintro ⟨short, rfl, rfl, rfl⟩
    exact value_eq_error_iff.mpr ⟨bytes, ofWidth.lacks bytes short⟩

theorem reportsShortage (ofWidth : reader.OfWidth field width) :
    ReportsShortage reader.value [field] where
  short failed := by
    rcases ofWidth.value_eq_truncated_iff.mp failed with ⟨short, rfl, rfl, rfl⟩
    exact ⟨List.mem_singleton_self _, short⟩
  starved failed more few := by
    rcases ofWidth.value_eq_truncated_iff.mp failed with ⟨short, rfl, rfl, rfl⟩
    rw [ofWidth.value_eq_truncated_iff, List.length_append]
    exact ⟨by omega, rfl, rfl, rfl⟩
  fed failed more enough count left again := by
    rcases ofWidth.value_eq_truncated_iff.mp failed with ⟨-, rfl, rfl, rfl⟩
    have still := (ofWidth.value_eq_truncated_iff.mp again).1
    rw [List.length_append] at still
    omega
  stays {bytes e} failed final more := by
    rcases value_eq_error_iff.mp failed with ⟨left, failed⟩
    rcases ofWidth.outcome bytes with short | ⟨found, behind, a, rfl, takes⟩ |
      ⟨found, behind, fault, rfl, -, refuses⟩
    · rw [ofWidth.lacks bytes short] at failed
      cases failed
      exact absurd rfl (final _ _ _)
    · rw [takes behind] at failed
      cases failed
    · rw [refuses behind] at failed
      cases failed
      rw [List.append_assoc]
      exact value_eq_error_iff.mpr ⟨_, refuses (behind ++ more)⟩

theorem steady (ofWidth : reader.OfWidth field width) : reader.Steady [field] where
  toReportsShortage := ofWidth.reportsShortage
  suffix bytes := by
    rcases ofWidth.outcome bytes with short | ⟨found, behind, a, rfl, takes⟩ |
      ⟨found, behind, e, rfl, -, refuses⟩
    · exact ⟨[], left_of_error (ofWidth.lacks bytes short)⟩
    · rw [left_of_ok (takes behind)]
      exact List.suffix_append found behind
    · exact ⟨[], left_of_error (refuses behind)⟩
  counted failed := by
    rcases ofWidth.value_eq_truncated_iff.mp failed with ⟨short, -, -, rfl⟩
    rw [left_of_error (ofWidth.lacks _ short)]
  goesOn {bytes a left} read more := by
    rcases ofWidth.outcome bytes with short | ⟨found, behind, b, rfl, takes⟩ |
      ⟨found, behind, e, rfl, -, refuses⟩
    · rw [ofWidth.lacks bytes short] at read
      cases read
    · rw [takes behind] at read
      cases read
      rw [List.append_assoc]
      exact takes _
    · rw [refuses behind] at read
      cases read

end OfWidth

theorem steady_take (field : String) (count : Nat) : (take field count).Steady [field] := by
  apply OfWidth.steady
  constructor
  · intro bytes short
    exact take_eq_error_iff.mpr ⟨short, rfl, rfl⟩
  · intro found length
    exact .inl ⟨found, takes_take field length⟩

theorem steady_nat (field : String) (width : Nat) : (nat field width).Steady [field] :=
  (steady_take field width).map Bytes.toNat

theorem steady_uint8 (field : String) : (uint8 field).Steady [field] :=
  (steady_nat field 1).map UInt8.ofNat

theorem steady_uint16 (field : String) : (uint16 field).Steady [field] :=
  (steady_nat field 2).map UInt16.ofNat

theorem steady_int64 (field : String) : (int64 field).Steady [field] :=
  (steady_nat field 8).map fun n => (UInt64.ofNat n).toInt64

theorem steady_flag (field : String) : (flag field).Steady [field] :=
  (steady_uint8 field).map (· != 0)

theorem steady_magic : Steady Reader.magic ["magic"] := by
  apply OfWidth.steady
  constructor
  · intro bytes short
    have failed : take "magic" 16 bytes = .error (.truncated "magic" 16 bytes.length) bytes :=
      take_eq_error_iff.mpr ⟨short, rfl, rfl⟩
    rw [magic, failed]
  · intro found length
    by_cases marked : found = Anteroom.magic
    · rw [marked]
      exact .inl ⟨(), takes_magic⟩
    · refine .inr ⟨.invalidMagic, ?_, ?_⟩
      · intro field needed remaining same
        cases same
      intro rest
      rw [magic, takes_take "magic" length rest]
      exact if_neg marked

end Reader

open Reader

theorem Layout.steady_readId (expected : UInt8) : (readId expected).Steady ["packet id"] := by
  change Steady (readId expected) (["packet id"] ++ [])
  refine (steady_uint8 "packet id").bind ?_ (fun _ _ => List.not_mem_nil)
  intro found
  split
  · exact steady_pure ()
  · exact steady_throw fun _ _ _ same => by cases same

/-! ## Addresses and messages -/

namespace Address

/-- The fields an address may run out of bytes at. -/
def fields : List String :=
  ["address version", "ipv4 address", "ipv6 address"]

theorem steady_read : Reader.Steady read fields := by
  change Reader.Steady read (["address version"] ++ ["ipv4 address", "ipv6 address"])
  refine (steady_uint8 "address version").bind ?_ (by decide)
  intro version
  split
  · exact ((steady_take "ipv4 address" 6).map ofBytes4).mono (by decide)
  · split
    · exact ((steady_take "ipv6 address" 28).map ofBytes6).mono (by decide)
    · refine (steady_throw ?_).mono (by decide)
      intro field needed remaining same
      cases same

end Address

namespace Layout

/-- The fields of a layout, in order, that it may run out of bytes at. -/
def fields : Layout → List String
  | unconnectedPing => ["send timestamp", "magic", "client guid"]
  | openConnectionRequest1 => ["magic", "protocol version"]
  | openConnectionReply1 => ["magic", "server guid", "use security", "mtu"]
  | incompatibleProtocolVersion => ["protocol version", "magic", "server guid"]
  | openConnectionRequest2 => ["magic"] ++ Address.fields ++ ["mtu", "client guid"]
  | openConnectionReply2 =>
      ["magic", "server guid"] ++ Address.fields ++ ["mtu", "encryption enabled"]

/-- Apart from the first connection request, what follows the fields of a message is left. -/
theorem steady_readBody {layout : Layout} (bare : layout ≠ .openConnectionRequest1) :
    layout.readBody.Steady layout.fields := by
  cases layout with
  | unconnectedPing =>
      exact (steady_int64 "send timestamp").bind (fun sent => steady_magic.bind
        (fun _ => (steady_int64 "client guid").map _) (by decide)) (by decide)
  | openConnectionRequest1 => exact absurd rfl bare
  | openConnectionReply1 =>
      exact steady_magic.bind (fun _ => (steady_int64 "server guid").bind
        (fun guid => (steady_flag "use security").bind
          (fun security => (steady_uint16 "mtu").map _) (by decide)) (by decide)) (by decide)
  | incompatibleProtocolVersion =>
      exact (steady_uint8 "protocol version").bind (fun version => steady_magic.bind
        (fun _ => (steady_int64 "server guid").map _) (by decide)) (by decide)
  | openConnectionRequest2 =>
      exact steady_magic.bind (fun _ => Address.steady_read.bind
        (fun address => (steady_uint16 "mtu").bind
          (fun mtu => (steady_int64 "client guid").map _) (by decide)) (by decide)) (by decide)
  | openConnectionReply2 =>
      exact steady_magic.bind (fun _ => (steady_int64 "server guid").bind
        (fun guid => Address.steady_read.bind (fun address => (steady_uint16 "mtu").bind
          (fun mtu => (steady_flag "encryption enabled").map _) (by decide)) (by decide))
            (by decide)) (by decide)

/-- Behind the version of a first connection request there is nothing to run out of. -/
theorem accounts_readBody (layout : Layout) : layout.readBody.Accounts layout.fields := by
  by_cases bare : layout = .openConnectionRequest1
  · rw [bare]
    exact steady_magic.bindAccounts (fun _ => (steady_uint8 "protocol version").bindAccounts
      (fun version => accounts_of_ok fun bytes => ⟨_, [], rfl, List.nil_suffix⟩) (by decide))
        (by decide)
  · exact (steady_readBody bare).toAccounts

theorem packetId_not_mem_fields (layout : Layout) :
    ∀ field ∈ ["packet id"], field ∉ layout.fields := by
  cases layout <;> decide

theorem reportsShortage_decode (layout : Layout) :
    ReportsShortage layout.decode ("packet id" :: layout.fields) :=
  ((steady_readId layout.id).bindAccounts (fun _ => layout.accounts_readBody)
    layout.packetId_not_mem_fields).toReportsShortage

/-- Bytes that follow a first connection request raise its MTU. -/
theorem readBody_openConnectionRequest1_append {bytes rest : Bytes} {protocolVersion : UInt8}
    {mtu : UInt16} (more : Bytes)
    (reads : readBody .openConnectionRequest1 bytes =
      .ok (.openConnectionRequest1 protocolVersion mtu) rest) :
    rest = [] ∧ readBody .openConnectionRequest1 (bytes ++ more) =
      .ok (.openConnectionRequest1 protocolVersion
        (UInt16.ofNat (min 65535 (mtu.toNat + more.length)))) [] := by
  rcases readBody_openConnectionRequest1_eq_ok_iff.mp reads with ⟨version, padding, rfl, same, rfl⟩
  cases same
  have raised : Mtu.ofSize (request1Size + (padding ++ more).length) =
      UInt16.ofNat (min 65535 ((Mtu.ofSize (request1Size + padding.length)).toNat +
        more.length)) := by
    rw [Mtu.toNat_ofSize, ← UInt16.toNat_inj, Mtu.toNat_ofSize, UInt16.toNat_ofNat',
      List.length_append]
    omega
  refine ⟨rfl, ?_⟩
  rw [← raised, List.append_assoc, List.append_assoc]
  exact readBody_openConnectionRequest1 protocolVersion (padding ++ more)

end Layout

/-! ## Datagrams that are cut off -/

theorem DecodeError.final_or (e : DecodeError) :
    e.Final ∨ ∃ field needed remaining, e = .truncated field needed remaining := by
  cases e with
  | truncated field needed remaining => exact .inr ⟨field, needed, remaining, rfl⟩
  | empty => exact .inl fun _ _ _ same => by cases same
  | invalidMagic => exact .inl fun _ _ _ same => by cases same
  | invalidAddressVersion => exact .inl fun _ _ _ same => by cases same
  | unexpectedPacket => exact .inl fun _ _ _ same => by cases same
  | unknownPacket => exact .inl fun _ _ _ same => by cases same

/-- A reader that takes a byte string runs out of bytes on each of its proper beginnings, and not
by more than are cut off. -/
theorem Reader.Steady.short_of_takes {reader : Reader α} {fields : List String}
    {cut missing : Bytes} {a : α} (steady : reader.Steady fields)
    (takes : reader.Takes (cut ++ missing) a) (proper : missing ≠ []) :
    ∃ field needed remaining, reader.value cut = .error (.truncated field needed remaining) ∧
      needed - remaining ≤ missing.length := by
  have whole := takes []
  rw [List.append_nil] at whole
  have read : reader.value (cut ++ missing) = .ok a := value_eq_ok_iff.mpr ⟨[], whole⟩
  cases outcome : reader.value cut with
  | ok b =>
      rcases value_eq_ok_iff.mp outcome with ⟨rest, begins⟩
      rw [steady.goesOn begins missing] at whole
      cases missing with
      | nil => exact absurd rfl proper
      | cons first others =>
          injection whole with _ left
          exact absurd left (List.append_ne_nil_of_right_ne_nil rest (List.cons_ne_nil _ _))
  | error e =>
      rcases e.final_or with final | ⟨field, needed, remaining, rfl⟩
      · rw [steady.stays outcome final missing] at read
        cases read
      · refine ⟨field, needed, remaining, rfl, ?_⟩
        apply Nat.le_of_not_lt
        intro few
        rw [steady.starved outcome missing few] at read
        cases read

namespace Message

/-- Apart from the first connection request, the datagram of a message that is cut off anywhere is
truncated. -/
theorem exists_shortage {message : Message} (bare : message.layout ≠ .openConnectionRequest1)
    {cut missing : Bytes} (whole : cut ++ missing = message.encode) (proper : missing ≠ []) :
    ∃ field needed remaining,
      message.layout.decode cut = .error (.truncated field needed remaining) ∧
        needed - remaining ≤ missing.length := by
  have steady := (Layout.steady_readId message.layout.id).bind
    (fun _ => Layout.steady_readBody bare) message.layout.packetId_not_mem_fields
  have leading : (Layout.readId message.layout.id).Takes [message.layout.id] () :=
    fun _ => Layout.readId_eq_ok_iff.mpr rfl
  have takes : Reader.Takes (do Layout.readId message.layout.id; message.layout.readBody)
      (cut ++ missing) message := by
    rw [whole, encode, ← List.singleton_append]
    exact leading.bind (Layout.takes_readBody message bare)
  exact steady.short_of_takes takes proper

end Message

/-! ## Pongs -/

namespace Pong

/-- The fields that a pong with the length of its payload in front may run out of bytes at. -/
def fields : List String :=
  ["packet id", "send timestamp", "server guid", "magic", "pong payload length", "pong payload"]

theorem steady_read : (read .lengthPrefixed).Steady fields := by
  have payload : PongFraming.lengthPrefixed.read.Steady ["pong payload length", "pong payload"] :=
    (steady_nat "pong payload length" 2).bind (fun length => steady_take "pong payload" length)
      (by decide)
  exact (Layout.steady_readId PacketId.unconnectedPong.byte).bind
    (fun _ => (steady_int64 "send timestamp").bind (fun sent => (steady_int64 "server guid").bind
      (fun guid => steady_magic.bind (fun _ => payload.map _) (by decide)) (by decide))
        (by decide)) (by decide)

end Pong

/-- Truncations are reported exactly, and more bytes change an outcome only where bytes were
missing: for the fields of the six messages and their whole datagrams, for addresses and for pongs
with the length of their payload in front.  What is read stays, and the bytes that follow are left,
but for the first connection request, which takes them as padding.  The datagram of any other
message that is cut off, at whichever byte, is truncated. -/
theorem shortages_exact :
    (∀ layout : Layout, layout.readBody.Accounts layout.fields ∧
      ReportsShortage layout.decode ("packet id" :: layout.fields) ∧
      (layout ≠ .openConnectionRequest1 → layout.readBody.Steady layout.fields)) ∧
    (∀ bytes rest protocolVersion mtu, Layout.readBody .openConnectionRequest1 bytes =
        .ok (.openConnectionRequest1 protocolVersion mtu) rest →
      ∀ more : Bytes, rest = [] ∧ Layout.readBody .openConnectionRequest1 (bytes ++ more) =
        .ok (.openConnectionRequest1 protocolVersion
          (UInt16.ofNat (min 65535 (mtu.toNat + more.length)))) []) ∧
    Address.read.Steady Address.fields ∧
    ReportsShortage (Pong.decode .lengthPrefixed) Pong.fields ∧
    (∀ bytes pong, Pong.decode .lengthPrefixed bytes = .ok pong →
      ∀ more : Bytes, Pong.decode .lengthPrefixed (bytes ++ more) = .ok pong) ∧
    ∀ message : Message, message.layout ≠ .openConnectionRequest1 →
      ∀ cut missing, cut ++ missing = message.encode → missing ≠ [] →
        ∃ field needed remaining,
          message.layout.decode cut = .error (.truncated field needed remaining) ∧
            needed - remaining ≤ missing.length := by
  refine ⟨?_, ?_, Address.steady_read, Pong.steady_read.toReportsShortage, ?_, ?_⟩
  · intro layout
    exact ⟨layout.accounts_readBody, layout.reportsShortage_decode, Layout.steady_readBody⟩
  · intro bytes rest protocolVersion mtu reads more
    exact Layout.readBody_openConnectionRequest1_append more reads
  · intro bytes pong decoded more
    rcases value_eq_ok_iff.mp decoded with ⟨rest, reads⟩
    exact value_eq_ok_iff.mpr ⟨rest ++ more, Pong.steady_read.goesOn reads more⟩
  · intro message bare cut missing whole proper
    exact Message.exists_shortage bare whole proper

/-- A ping of three bytes lacks six: with one more it lacks five, with six it is no longer short of
its time.  A second reply of 40 bytes is truncated. -/
theorem shortages_exact_of_ping :
    let reply : Message := .openConnectionReply2 7 (.v6 1 2 19132 3 4) 1400 false
    Layout.decode .unconnectedPing [1, 0, 0] = .error (.truncated "send timestamp" 8 2) ∧
      Layout.decode .unconnectedPing ([1, 0, 0] ++ [7]) =
        .error (.truncated "send timestamp" 8 3) ∧
      (∀ count left, Layout.decode .unconnectedPing ([1, 0, 0] ++ [7, 7, 7, 7, 7, 7]) ≠
        .error (.truncated "send timestamp" count left)) ∧
      ∃ field needed remaining,
        Layout.decode .openConnectionReply2 (reply.encode.take 40) =
          .error (.truncated field needed remaining) := by
  intro reply
  rcases shortages_exact with ⟨reports, -, -, -, -, cut⟩
  have short : Layout.decode .unconnectedPing [1, 0, 0] =
      .error (.truncated "send timestamp" 8 2) := rfl
  have ping := (reports .unconnectedPing).2.1
  rcases cut reply (by decide) (reply.encode.take 40) (reply.encode.drop 40)
    (List.take_append_drop 40 _) (by decide) with ⟨field, needed, remaining, truncated, -⟩
  exact ⟨short, ping.starved short [7] (by decide),
    ping.fed short [7, 7, 7, 7, 7, 7] (by decide), field, needed, remaining, truncated⟩

end Anteroom
