import Anteroom.Proofs.Codec

/-!
# The grammar of inbound datagrams

Which datagrams are read as a message of a client, and as which, is said by
positions: what stands at fixed offsets and how long the datagram is.  A field
is read at an offset exactly if the datagram reaches far enough, and the next
one is read behind it, so what a layout reads at an offset is worked out field
by field.
-/

namespace Anteroom

namespace Bytes

/-- The number that the bytes from `start` up to `stop` stand for. -/
def number (bytes : Bytes) (start stop : Nat) : Nat :=
  toNat (bytes.extract start stop)

/-- The signed number in the eight bytes from `start` on. -/
def signed (bytes : Bytes) (start : Nat) : Int64 :=
  (UInt64.ofNat (bytes.number start (start + 8))).toInt64

theorem extract_append_of_le {bytes : Bytes} {start stop : Nat} (inside : stop ≤ bytes.length)
    (rest : Bytes) : (bytes ++ rest).extract start stop = bytes.extract start stop := by
  have none : stop - start - (bytes.drop start).length = 0 := by
    rw [List.length_drop]
    omega
  rw [List.extract_eq_take_drop, List.extract_eq_take_drop, List.drop_append, List.take_append,
    none, List.take_zero, List.append_nil]

theorem number_append_of_le {bytes : Bytes} {start stop : Nat} (inside : stop ≤ bytes.length)
    (rest : Bytes) : (bytes ++ rest).number start stop = bytes.number start stop := by
  rw [number, extract_append_of_le inside, number]

theorem signed_append_of_le {bytes : Bytes} {start : Nat} (inside : start + 8 ≤ bytes.length)
    (rest : Bytes) : (bytes ++ rest).signed start = bytes.signed start := by
  rw [signed, number_append_of_le inside, signed]

end Bytes

/-! ## Fields at an offset -/

namespace Reader

variable {α β : Type}

/-- The reader succeeds on these bytes exactly if `fits` holds, with this value and this rest. -/
def Reads (reader : Reader α) (bytes : Bytes) (fits : Prop) (a : α) (rest : Bytes) : Prop :=
  ∀ b left, reader bytes = .ok b left ↔ fits ∧ b = a ∧ left = rest

theorem Reads.congr {reader : Reader α} {bytes rest : Bytes} {fits other : Prop} {a : α}
    (reads : reader.Reads bytes fits a rest) (same : fits ↔ other) :
    reader.Reads bytes other a rest := by
  intro b left
  rw [reads, same]

theorem Reads.bind {first : Reader α} {next : α → Reader β} {bytes middle rest : Bytes}
    {starts goes : Prop} {a : α} {b : β} (begins : first.Reads bytes starts a middle)
    (follows : (next a).Reads middle goes b rest) :
    Reads (first >>= next) bytes (starts ∧ goes) b rest := by
  intro c left
  rw [bind_eq_ok_iff]
  constructor
  · rintro ⟨_, _, read, went⟩
    rcases (begins _ _).mp read with ⟨started, rfl, rfl⟩
    rcases (follows _ _).mp went with ⟨gone, rfl, rfl⟩
    exact ⟨⟨started, gone⟩, rfl, rfl⟩
  · rintro ⟨⟨started, gone⟩, rfl, rfl⟩
    exact ⟨a, middle, (begins _ _).mpr ⟨started, rfl, rfl⟩, (follows _ _).mpr ⟨gone, rfl, rfl⟩⟩

theorem Reads.map {reader : Reader α} {bytes rest : Bytes} {fits : Prop} {a : α} (f : α → β)
    (reads : reader.Reads bytes fits a rest) :
    Reads (do return f (← reader)) bytes fits (f a) rest := by
  have returns : Reads (pure (f a) : Reader β) rest True (f a) rest := by
    intro b left
    rw [pure_eq_ok_iff, true_and, eq_comm, eq_comm (a := rest)]
  exact (reads.bind returns).congr (and_iff_left trivial)

theorem Reads.value_eq_ok_iff {reader : Reader α} {bytes rest : Bytes} {fits : Prop}
    {a b : α} (reads : reader.Reads bytes fits a rest) :
    reader.value bytes = .ok b ↔ fits ∧ b = a := by
  rw [Reader.value_eq_ok_iff]
  constructor
  · rintro ⟨left, read⟩
    rcases (reads b left).mp read with ⟨fit, same, -⟩
    exact ⟨fit, same⟩
  · rintro ⟨fit, same⟩
    exact ⟨rest, (reads b rest).mpr ⟨fit, same, rfl⟩⟩

theorem reads_rest (bytes : Bytes) : Reads Reader.rest bytes True bytes [] := by
  intro b left
  simp [Reader.rest, eq_comm]

variable {field : String}

/-- As far as the bytes from the offset on are enough.  Beyond the end only a field of no bytes is
read. -/
theorem reads_take_sub (d : Bytes) (start width : Nat) :
    (take field width).Reads (d.drop start) (width ≤ d.length - start)
      (d.extract start (start + width)) (d.drop (start + width)) := by
  intro taken left
  rw [take, List.length_drop, List.drop_drop, List.extract_eq_take_drop, Nat.add_sub_cancel_left]
  by_cases enough : width ≤ d.length - start
  · rw [if_pos enough, EStateM.Result.ok.injEq, and_iff_right enough, eq_comm, eq_comm (a := left)]
  · rw [if_neg enough]
    simp [enough]

theorem reads_take {width : Nat} (positive : 0 < width) (d : Bytes) (start : Nat) :
    (take field width).Reads (d.drop start) (start + width ≤ d.length)
      (d.extract start (start + width)) (d.drop (start + width)) :=
  (reads_take_sub d start width).congr (by omega)

theorem reads_nat {width : Nat} (positive : 0 < width) (d : Bytes) (start : Nat) :
    (nat field width).Reads (d.drop start) (start + width ≤ d.length)
      (d.number start (start + width)) (d.drop (start + width)) :=
  (reads_take positive d start).map Bytes.toNat

theorem reads_uint8 (d : Bytes) (start : Nat) :
    (uint8 field).Reads (d.drop start) (start + 1 ≤ d.length)
      (UInt8.ofNat (d.number start (start + 1))) (d.drop (start + 1)) :=
  (reads_nat Nat.one_pos d start).map UInt8.ofNat

theorem reads_uint16 (d : Bytes) (start : Nat) :
    (uint16 field).Reads (d.drop start) (start + 2 ≤ d.length)
      (UInt16.ofNat (d.number start (start + 2))) (d.drop (start + 2)) :=
  (reads_nat Nat.two_pos d start).map UInt16.ofNat

theorem reads_int64 (d : Bytes) (start : Nat) :
    (int64 field).Reads (d.drop start) (start + 8 ≤ d.length) (d.signed start)
      (d.drop (start + 8)) :=
  (reads_nat (Nat.zero_lt_succ 7) d start).map fun n => (UInt64.ofNat n).toInt64

theorem reads_magic (d : Bytes) (start : Nat) :
    Reader.magic.Reads (d.drop start) (d.extract start (start + 16) = Anteroom.magic) ()
      (d.drop (start + 16)) := by
  intro done left
  rw [magic_eq_ok_iff, List.extract_eq_take_drop, Nat.add_sub_cancel_left, ← List.drop_drop]
  constructor
  · intro same
    rw [same]
    exact ⟨rfl, rfl, rfl⟩
  · rintro ⟨marked, -, rfl⟩
    rw [← marked, List.take_append_drop]

/-- The byte at the offset is read. -/
theorem uint8_drop {d : Bytes} {start : Nat} {b : UInt8} (there : d[start]? = some b) :
    uint8 field (d.drop start) = .ok b (d.drop (start + 1)) := by
  rcases List.getElem?_eq_some_iff.mp there with ⟨inside, rfl⟩
  rw [uint8_eq_ok_iff, List.drop_eq_getElem_cons inside]

end Reader

/-! ## Addresses at an offset -/

namespace Address

open Reader

/-- The IPv4 address whose version stands at an offset. -/
def v4At (d : Bytes) (start : Nat) : Address :=
  v4 (~~~(UInt32.ofNat (d.number (start + 1) (start + 5))))
    (UInt16.ofNat (d.number (start + 5) (start + 7)))

/-- The IPv6 address whose version stands at an offset.  The two bytes of the family after the
version are not looked at. -/
def v6At (d : Bytes) (start : Nat) : Address :=
  v6 (UInt64.ofNat (d.number (start + 9) (start + 17)))
    (UInt64.ofNat (d.number (start + 17) (start + 25)))
    (UInt16.ofNat (d.number (start + 3) (start + 5)))
    (UInt32.ofNat (d.number (start + 5) (start + 9)))
    (UInt32.ofNat (d.number (start + 25) (start + 29)))

theorem ofBytes4_extract (d : Bytes) (start : Nat) :
    ofBytes4 (d.extract (start + 1) (start + 7)) = v4At d start := by
  simp [ofBytes4, v4At, Bytes.number, List.extract_eq_take_drop, List.take_take, List.drop_take]

theorem ofBytes6_extract (d : Bytes) (start : Nat) :
    ofBytes6 (d.extract (start + 1) (start + 29)) = v6At d start := by
  simp [ofBytes6, v6At, Bytes.number, List.extract_eq_take_drop, List.take_take, List.drop_take]

theorem reads_v4 {d : Bytes} {start : Nat} (version : d[start]? = some 4) :
    Reads read (d.drop start) (start + 7 ≤ d.length) (v4At d start) (d.drop (start + 7)) := by
  have fields := (@reads_take "ipv4 address" 6 (Nat.zero_lt_succ 5) d (start + 1)).map ofBytes4
  rw [Nat.add_assoc, ofBytes4_extract] at fields
  intro b left
  rw [read, bind_of_ok (uint8_drop version), if_pos rfl]
  exact fields b left

theorem reads_v6 {d : Bytes} {start : Nat} (version : d[start]? = some 6) :
    Reads read (d.drop start) (start + 29 ≤ d.length) (v6At d start) (d.drop (start + 29)) := by
  have fields := (@reads_take "ipv6 address" 28 (Nat.zero_lt_succ 27) d (start + 1)).map ofBytes6
  rw [Nat.add_assoc, ofBytes6_extract] at fields
  intro b left
  rw [read, bind_of_ok (uint8_drop version), if_neg (by decide), if_pos rfl]
  exact fields b left

/-- No address is read where its version is neither 4 nor 6. -/
theorem version_of_read {d rest : Bytes} {start : Nat} {address : Address}
    (reads : read (d.drop start) = .ok address rest) :
    d[start]? = some 4 ∨ d[start]? = some 6 := by
  rw [read, bind_eq_ok_iff] at reads
  rcases reads with ⟨version, left, first, branch⟩
  have there : d[start]? = some version := by
    have split := uint8_eq_ok_iff.mp first
    have head := congrArg (·[0]?) split
    simpa using head
  split at branch
  · rename_i four
    exact .inl (four ▸ there)
  · split at branch
    · rename_i six
      exact .inr (six ▸ there)
    · cases branch

end Address

/-! ## Messages -/

namespace Message

/-- The datagrams of clients, with the message that is read from each. -/
inductive Inbound (d : Bytes) : Message → Prop
  | ping (long : 33 ≤ d.length) (leading : d[0]? = some 1 ∨ d[0]? = some 2)
      (marked : d.extract 9 25 = magic) :
      Inbound d (.unconnectedPing (d.signed 1) (d.signed 25))
  /-- The MTU is measured, not read. -/
  | request1 (long : 18 ≤ d.length) (leading : d[0]? = some 5) (marked : d.extract 1 17 = magic) :
      Inbound d (.openConnectionRequest1 (UInt8.ofNat (d.number 17 18))
        (UInt16.ofNat (min 65535 (d.length + 28))))
  | request2V4 (long : 34 ≤ d.length) (leading : d[0]? = some 7) (marked : d.extract 1 17 = magic)
      (version : d[17]? = some 4) :
      Inbound d (.openConnectionRequest2
        (.v4 (~~~(UInt32.ofNat (d.number 18 22))) (UInt16.ofNat (d.number 22 24)))
        (UInt16.ofNat (d.number 24 26)) (d.signed 26))
  /-- The two bytes of the address family, at 18, are not looked at. -/
  | request2V6 (long : 56 ≤ d.length) (leading : d[0]? = some 7) (marked : d.extract 1 17 = magic)
      (version : d[17]? = some 6) :
      Inbound d (.openConnectionRequest2
        (.v6 (UInt64.ofNat (d.number 26 34)) (UInt64.ofNat (d.number 34 42))
          (UInt16.ofNat (d.number 20 22)) (UInt32.ofNat (d.number 22 26))
          (UInt32.ofNat (d.number 42 46)))
        (UInt16.ofNat (d.number 46 48)) (d.signed 48))

end Message

namespace Layout

open Reader

theorem reads_unconnectedPing (d : Bytes) :
    (readBody .unconnectedPing).Reads (d.drop 1) (33 ≤ d.length ∧ d.extract 9 25 = magic)
      (.unconnectedPing (d.signed 1) (d.signed 25)) (d.drop 33) := by
  refine Reads.congr ((reads_int64 d 1).bind <| (reads_magic d 9).bind <|
    (reads_int64 d 25).map _) ?_
  constructor
  · rintro ⟨-, marked, long⟩
    exact ⟨long, marked⟩
  · rintro ⟨long, marked⟩
    exact ⟨by omega, marked, long⟩

theorem reads_openConnectionRequest1 (d : Bytes) :
    (readBody .openConnectionRequest1).Reads (d.drop 1)
      (18 ≤ d.length ∧ d.extract 1 17 = magic)
      (.openConnectionRequest1 (UInt8.ofNat (d.number 17 18))
        (Mtu.ofSize (request1Size + (d.drop 18).length))) [] := by
  refine Reads.congr ((reads_magic d 1).bind <| (reads_uint8 d 17).bind <|
    (reads_rest (d.drop 18)).map _) ?_
  constructor
  · rintro ⟨marked, long, -⟩
    exact ⟨long, marked⟩
  · rintro ⟨long, marked⟩
    exact ⟨marked, long, trivial⟩

/-- What follows the address of a second connection request is read behind it. -/
theorem reads_openConnectionRequest2 {d : Bytes} {stop : Nat} {fits : Prop} {address : Address}
    (reads : Address.read.Reads (d.drop 17) fits address (d.drop stop)) :
    (readBody .openConnectionRequest2).Reads (d.drop 1)
      (stop + 10 ≤ d.length ∧ fits ∧ d.extract 1 17 = magic)
      (.openConnectionRequest2 address (UInt16.ofNat (d.number stop (stop + 2)))
        (d.signed (stop + 2))) (d.drop (stop + 10)) := by
  refine Reads.congr ((reads_magic d 1).bind <| reads.bind <| (reads_uint16 d stop).bind <|
    (reads_int64 d (stop + 2)).map _) ?_
  constructor
  · rintro ⟨marked, fit, -, long⟩
    exact ⟨long, fit, marked⟩
  · rintro ⟨long, fit, marked⟩
    exact ⟨marked, fit, by omega, long⟩

theorem version_of_readBody {d rest : Bytes} {message : Message}
    (reads : readBody .openConnectionRequest2 (d.drop 1) = .ok message rest) :
    d[17]? = some 4 ∨ d[17]? = some 6 := by
  rw [readBody, bind_eq_ok_iff] at reads
  rcases reads with ⟨_, _, magic, reads⟩
  rcases (reads_magic d 1 _ _).mp magic with ⟨-, -, rfl⟩
  rcases bind_eq_ok_iff.mp reads with ⟨address, left, reads, -⟩
  exact Address.version_of_read reads

end Layout

/-- The leading bytes of the messages of clients. -/
theorem Layout.inbound?_eq_some_iff {id : UInt8} {layout : Layout} :
    inbound? id = some layout ↔
      (id = 1 ∨ id = 2) ∧ layout = .unconnectedPing ∨ id = 5 ∧ layout = .openConnectionRequest1 ∨
        id = 7 ∧ layout = .openConnectionRequest2 := by
  constructor
  · intro known
    rw [inbound?] at known
    split at known
    · rename_i ping
      cases known
      exact .inl ⟨ping, rfl⟩
    · split at known
      · rename_i request1
        cases known
        exact .inr (.inl ⟨request1, rfl⟩)
      · split at known
        · rename_i request2
          cases known
          exact .inr (.inr ⟨request2, rfl⟩)
        · cases known
  · rintro (⟨rfl | rfl, rfl⟩ | ⟨rfl, rfl⟩ | ⟨rfl, rfl⟩) <;> rfl

namespace Message

open Reader

theorem decodeInbound_eq_value {d : Bytes} {id : UInt8} {layout : Layout}
    (leading : d[0]? = some id) (known : Layout.inbound? id = some layout) :
    decodeInbound d = layout.readBody.value (d.drop 1) := by
  cases d with
  | nil => cases leading
  | cons b body =>
      cases leading
      rw [decodeInbound, known]
      rfl

/-- The MTU that is measured is that of the whole datagram. -/
theorem ofSize_drop {d : Bytes} (long : 18 ≤ d.length) :
    Mtu.ofSize (request1Size + (d.drop 18).length) = UInt16.ofNat (min 65535 (d.length + 28)) := by
  have whole : request1Size + (d.drop 18).length = d.length := by
    rw [List.length_drop, request1Size]
    omega
  rw [whole, Mtu.ofSize, headerOverhead]

/-- What is read as a message of a client has its grammar. -/
theorem inbound_of_decodeInbound {d : Bytes} {message : Message}
    (decoded : decodeInbound d = .ok message) : Inbound d message := by
  cases d with
  | nil => cases decoded
  | cons id body =>
      have leading : (id :: body)[0]? = some id := rfl
      cases known : Layout.inbound? id with
      | none =>
          rw [decodeInbound, known] at decoded
          cases decoded
      | some layout =>
          rw [decodeInbound_eq_value leading known] at decoded
          rcases Layout.inbound?_eq_some_iff.mp known with ⟨ping, rfl⟩ | ⟨rfl, rfl⟩ | ⟨rfl, rfl⟩
          · rcases (Layout.reads_unconnectedPing _).value_eq_ok_iff.mp decoded with
              ⟨⟨long, marked⟩, rfl⟩
            exact .ping long (ping.imp (congrArg some) (congrArg some)) marked
          · rcases (Layout.reads_openConnectionRequest1 _).value_eq_ok_iff.mp decoded with
              ⟨⟨long, marked⟩, rfl⟩
            rw [ofSize_drop long]
            exact .request1 long leading marked
          -- The version of the address decides what is read behind it, and how far.
          · rcases value_eq_ok_iff.mp decoded with ⟨rest, reads⟩
            rcases Layout.version_of_readBody reads with four | six
            · rcases (Layout.reads_openConnectionRequest2 (Address.reads_v4 four)
                ).value_eq_ok_iff.mp decoded with ⟨⟨long, -, marked⟩, rfl⟩
              exact .request2V4 long leading marked four
            · rcases (Layout.reads_openConnectionRequest2 (Address.reads_v6 six)
                ).value_eq_ok_iff.mp decoded with ⟨⟨long, -, marked⟩, rfl⟩
              exact .request2V6 long leading marked six

/-- What has the grammar of a message of a client is read as this message. -/
theorem decodeInbound_of_inbound {d : Bytes} {message : Message} (inbound : Inbound d message) :
    decodeInbound d = .ok message := by
  cases inbound with
  | ping long leading marked =>
      have value : (Layout.readBody .unconnectedPing).value (d.drop 1) =
          .ok (.unconnectedPing (d.signed 1) (d.signed 25)) :=
        (Layout.reads_unconnectedPing d).value_eq_ok_iff.mpr ⟨⟨long, marked⟩, rfl⟩
      rcases leading with one | two
      · rw [decodeInbound_eq_value one rfl, value]
      · rw [decodeInbound_eq_value two rfl, value]
  | request1 long leading marked =>
      rw [decodeInbound_eq_value leading rfl, ← ofSize_drop long]
      exact (Layout.reads_openConnectionRequest1 d).value_eq_ok_iff.mpr ⟨⟨long, marked⟩, rfl⟩
  | request2V4 long leading marked version =>
      rw [decodeInbound_eq_value leading rfl]
      exact (Layout.reads_openConnectionRequest2 (Address.reads_v4 version)).value_eq_ok_iff.mpr
        ⟨⟨long, by omega, marked⟩, rfl⟩
  | request2V6 long leading marked version =>
      rw [decodeInbound_eq_value leading rfl]
      exact (Layout.reads_openConnectionRequest2 (Address.reads_v6 version)).value_eq_ok_iff.mpr
        ⟨⟨long, by omega, marked⟩, rfl⟩

/-- Bytes that follow a ping or a second connection request are ignored. -/
theorem Inbound.append {d : Bytes} {message : Message} (inbound : Inbound d message)
    (bare : message.layout ≠ .openConnectionRequest1) (rest : Bytes) :
    Inbound (d ++ rest) message := by
  have byte {index : Nat} {b : UInt8} (there : d[index]? = some b) :
      (d ++ rest)[index]? = some b := by
    rw [List.getElem?_append_left (List.getElem?_eq_some_iff.mp there).1, there]
  have reaches {length : Nat} (long : length ≤ d.length) : length ≤ (d ++ rest).length := by
    rw [List.length_append]
    omega
  have number (start stop : Nat) (inside : stop ≤ d.length) :
      d.number start stop = (d ++ rest).number start stop :=
    (Bytes.number_append_of_le inside rest).symm
  have signed (start : Nat) (inside : start + 8 ≤ d.length) :
      d.signed start = (d ++ rest).signed start :=
    (Bytes.signed_append_of_le inside rest).symm
  cases inbound with
  | ping long leading marked =>
      rw [signed 1 (by omega), signed 25 (by omega)]
      rw [← Bytes.extract_append_of_le (by omega) rest] at marked
      exact .ping (reaches long) (leading.imp byte byte) marked
  | request1 => exact absurd rfl bare
  | request2V4 long leading marked version =>
      rw [number 18 22 (by omega), number 22 24 (by omega), number 24 26 (by omega),
        signed 26 (by omega)]
      rw [← Bytes.extract_append_of_le (by omega) rest] at marked
      exact .request2V4 (reaches long) (byte leading) marked (byte version)
  | request2V6 long leading marked version =>
      rw [number 26 34 (by omega), number 34 42 (by omega), number 20 22 (by omega),
        number 22 26 (by omega), number 42 46 (by omega), number 46 48 (by omega),
        signed 48 (by omega)]
      rw [← Bytes.extract_append_of_le (by omega) rest] at marked
      exact .request2V6 (reaches long) (byte leading) marked (byte version)

theorem decodeInbound_eq_ok_iff {d : Bytes} {message : Message} :
    decodeInbound d = .ok message ↔ Inbound d message :=
  ⟨inbound_of_decodeInbound, decodeInbound_of_inbound⟩

/-- The MTU of a first connection request is the size of the datagram with its headers. -/
theorem mtu_of_decodeInbound {datagram : Bytes} {version : UInt8} {mtu : UInt16}
    (decoded : decodeInbound datagram = .ok (.openConnectionRequest1 version mtu)) :
    18 ≤ datagram.length ∧ mtu = Mtu.ofSize datagram.length := by
  cases inbound_of_decodeInbound decoded with
  | request1 long => exact ⟨long, rfl⟩

/-- Whatever follows a second connection request, and is read, does not change what it is. -/
theorem decodeInbound_received_append {datagram : Bytes} {message : Message}
    (decoded : decodeInbound datagram = .ok message)
    (bare : message.layout ≠ .openConnectionRequest1) (short : datagram.length ≤ 1500)
    (rest : Bytes) : decodeInbound (datagram ++ rest).received = .ok message := by
  have cut : (datagram ++ rest).received = datagram ++ rest.take (1500 - datagram.length) := by
    rw [Bytes.received, maxDatagramSize, List.take_append, List.take_of_length_le short]
  rw [cut]
  exact decodeInbound_of_inbound ((inbound_of_decodeInbound decoded).append bare _)

/-- Lengths, leading bytes, the magic and the version of an address decide whether a datagram
is one of a client. -/
theorem exists_inbound_iff {d : Bytes} :
    (∃ message, Inbound d message) ↔
      (33 ≤ d.length ∧ (d[0]? = some 1 ∨ d[0]? = some 2) ∧ d.extract 9 25 = magic) ∨
      (18 ≤ d.length ∧ d[0]? = some 5 ∧ d.extract 1 17 = magic) ∨
      (d[0]? = some 7 ∧ d.extract 1 17 = magic ∧
        (d[17]? = some 4 ∧ 34 ≤ d.length ∨ d[17]? = some 6 ∧ 56 ≤ d.length)) := by
  constructor
  · rintro ⟨message, inbound⟩
    cases inbound with
    | ping long leading marked => exact .inl ⟨long, leading, marked⟩
    | request1 long leading marked => exact .inr (.inl ⟨long, leading, marked⟩)
    | request2V4 long leading marked version =>
        exact .inr (.inr ⟨leading, marked, .inl ⟨version, long⟩⟩)
    | request2V6 long leading marked version =>
        exact .inr (.inr ⟨leading, marked, .inr ⟨version, long⟩⟩)
  · rintro (⟨long, leading, marked⟩ | ⟨long, leading, marked⟩ |
      ⟨leading, marked, ⟨version, long⟩ | ⟨version, long⟩⟩)
    · exact ⟨_, .ping long leading marked⟩
    · exact ⟨_, .request1 long leading marked⟩
    · exact ⟨_, .request2V4 long leading marked version⟩
    · exact ⟨_, .request2V6 long leading marked version⟩

/-- A datagram with the leading byte of a layout that clients send is read in this layout, whether
it succeeds or fails. -/
theorem decodeInbound_id_cons (layout : Layout) (known : Layout.inbound? layout.id = some layout)
    (body : Bytes) : decodeInbound (layout.id :: body) = layout.decode (layout.id :: body) := by
  have id : Layout.readId layout.id (layout.id :: body) = .ok () body :=
    Layout.readId_eq_ok_iff.mpr rfl
  simp only [decodeInbound, known, Layout.decode, value, Bind.bind, EStateM.bind, id]

/-- The inbound decoder accepts exactly the datagrams of the grammar: pings with either leading
byte, first connection requests, and second ones with an address of version 4 or 6, each reaching
as far as its last field and with the magic in its place.  It gives the numbers that stand at the
offsets of the fields, and for a first request the size of the datagram; it ignores what follows
the others.  It decides like the decoder of the layout that the leading byte stands for, takes
one ping for the other, and knows no other leading byte. -/
theorem decodeInbound_grammar :
    (∀ d message, decodeInbound d = .ok message ↔ Inbound d message) ∧
    (∀ d : Bytes, (∃ message, decodeInbound d = .ok message) ↔
      (33 ≤ d.length ∧ (d[0]? = some 1 ∨ d[0]? = some 2) ∧ d.extract 9 25 = magic) ∨
      (18 ≤ d.length ∧ d[0]? = some 5 ∧ d.extract 1 17 = magic) ∨
      (d[0]? = some 7 ∧ d.extract 1 17 = magic ∧
        (d[17]? = some 4 ∧ 34 ≤ d.length ∨ d[17]? = some 6 ∧ 56 ≤ d.length))) ∧
    (∀ d message rest, decodeInbound d = .ok message →
      message.layout ≠ .openConnectionRequest1 → decodeInbound (d ++ rest) = .ok message) ∧
    (∀ body,
      decodeInbound (1 :: body) = Layout.decode .unconnectedPing (1 :: body) ∧
      decodeInbound (5 :: body) = Layout.decode .openConnectionRequest1 (5 :: body) ∧
      decodeInbound (7 :: body) = Layout.decode .openConnectionRequest2 (7 :: body) ∧
      decodeInbound (2 :: body) = decodeInbound (1 :: body)) ∧
    (∀ id body, id ≠ 1 → id ≠ 2 → id ≠ 5 → id ≠ 7 →
      decodeInbound (id :: body) = .error (.unknownPacket id)) ∧
    decodeInbound [] = .error .empty := by
  refine ⟨fun d message => decodeInbound_eq_ok_iff, fun d => ?_, ?_, fun body => ?_, ?_, rfl⟩
  · rw [← exists_inbound_iff]
    exact exists_congr fun message => decodeInbound_eq_ok_iff
  · intro d message rest decoded bare
    exact decodeInbound_of_inbound ((inbound_of_decodeInbound decoded).append bare rest)
  · exact ⟨decodeInbound_id_cons .unconnectedPing rfl body,
      decodeInbound_id_cons .openConnectionRequest1 rfl body,
      decodeInbound_id_cons .openConnectionRequest2 rfl body, rfl⟩
  · intro id body not1 not2 not5 not7
    rw [decodeInbound]
    cases known : Layout.inbound? id with
    | none => rfl
    | some layout =>
        rcases Layout.inbound?_eq_some_iff.mp known with ⟨rfl | rfl, -⟩ | ⟨rfl, -⟩ | ⟨rfl, -⟩
        · exact absurd rfl not1
        · exact absurd rfl not2
        · exact absurd rfl not5
        · exact absurd rfl not7

/-- A second connection request is read with bytes behind it; a reply is not a client's. -/
theorem decodeInbound_grammar_of_request2 :
    let request := (openConnectionRequest2 (.v4 0x7f000001 19132) 1400 7).encode
    decodeInbound (request ++ [9]) = .ok (.openConnectionRequest2 (.v4 0x7f000001 19132) 1400 7) ∧
      decodeInbound [0x1c, 9] = .error (.unknownPacket 0x1c) := by
  intro request
  have rules := decodeInbound_grammar
  exact ⟨rules.2.2.1 request _ [9] rfl (by decide),
    rules.2.2.2.2.1 0x1c [9] (by decide) (by decide) (by decide) (by decide)⟩

end Message

end Anteroom
