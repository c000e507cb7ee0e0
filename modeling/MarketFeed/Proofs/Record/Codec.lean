import MarketFeed.Proofs.Record.Framing
import MarketFeed.Proofs.Text.FixedField

set_option autoImplicit false

/-!
# Messages survive being written

`Body.kept` is what a message's fields can carry: a character outside ASCII becomes NUL, and a text
becomes what is read of the field it was written to. For each kind of message the fields are read in
the order they were written in (`Body.run_scan`), so a written message is cut off the front of a
buffer and read as the message that was kept (`decode_encode`), and as no message of another kind.
-/

namespace MarketFeed

/-! ## What is kept of a message -/

def keptChar (c : Char) : Char := if c.toNat < 128 then c else '\x00'

def keptText (width : Nat) (text : String) : String := FixedField.read (FixedField.write width text)

def Trade.kept (t : Trade) : Trade :=
  { t with action := keptChar t.action, side := keptChar t.side }

def TradingStatus.kept (s : TradingStatus) : TradingStatus :=
  { s with
    isTrading := keptChar s.isTrading
    isQuoting := keptChar s.isQuoting
    isShortSellRestricted := keptChar s.isShortSellRestricted }

def GatewayError.kept (e : GatewayError) : GatewayError :=
  { e with err := keptText errorTextWidth e.err }

def SymbolMapping.kept (m : SymbolMapping) : SymbolMapping :=
  { m with
    symbolIn := keptText symbolWidth m.symbolIn
    symbolOut := keptText symbolWidth m.symbolOut }

def SystemNotice.kept (s : SystemNotice) : SystemNotice :=
  { s with msg := keptText systemTextWidth s.msg }

/-- The fields as they are read after they were written. -/
def Body.kept : Body → Body
  | trade t => .trade t.kept
  | status s => .status s.kept
  | error e => .error e.kept
  | mapping m => .mapping m.kept
  | system s => .system s.kept

/-- Whether the characters are ASCII and the texts fit their fields. -/
def Body.Plain : Body → Prop
  | trade t => t.action.toNat < 128 ∧ t.side.toNat < 128
  | status s =>
    s.isTrading.toNat < 128 ∧ s.isQuoting.toNat < 128 ∧ s.isShortSellRestricted.toNat < 128
  | error e => FixedField.Fits errorTextWidth e.err
  | mapping m => FixedField.Fits symbolWidth m.symbolIn ∧ FixedField.Fits symbolWidth m.symbolOut
  | system s => FixedField.Fits systemTextWidth s.msg

theorem keptChar_of_ascii {c : Char} (h : c.toNat < 128) : keptChar c = c := if_pos h

theorem keptText_of_fits {width : Nat} {text : String} (h : FixedField.Fits width text) :
    keptText width text = text := FixedField.read_write h

theorem Body.kept_of_plain {b : Body} (h : b.Plain) : b.kept = b := by
  cases b with
  | trade t => simp [kept, Trade.kept, keptChar_of_ascii h.1, keptChar_of_ascii h.2]
  | status s =>
    simp [kept, TradingStatus.kept, keptChar_of_ascii h.1, keptChar_of_ascii h.2.1,
      keptChar_of_ascii h.2.2]
  | error e => simp [kept, GatewayError.kept, keptText_of_fits h]
  | mapping m => simp [kept, SymbolMapping.kept, keptText_of_fits h.1, keptText_of_fits h.2]
  | system s => simp [kept, SystemNotice.kept, keptText_of_fits h]

/-! ## Layouts -/

theorem byteChar_charByte (c : Char) : byteChar (charByte c) = keptChar c := by
  by_cases h : c.toNat < 128
  · have hb : c.toNat.toUInt8.toNat = c.toNat := Utf8.toNat_ofNat_of_lt (by omega)
    rw [charByte, keptChar, if_pos h, if_pos h, byteChar, hb, Char.ofNat_toNat]
  · rw [charByte, keptChar, if_neg h, if_neg h]
    rfl

namespace Scan

theorem reads_charByte (c : Char) : Reads char [charByte c] (keptChar c) := by
  rw [← byteChar_charByte]
  exact reads_char (charByte c)

theorem reads_field (width : Nat) (value : String) :
    Reads (text width) (FixedField.write width value) (keptText width value) :=
  reads_text (FixedField.length_write value)

end Scan

open Scan

theorem Header.reads_scan (h : Header) : Reads scan h.bytes h := by
  have hb : h.bytes = [h.length] ++ ([h.rtype] ++ (u16Bytes h.publisherId ++
      (u32Bytes h.instrumentId ++ u64Bytes h.tsEvent))) := by simp [bytes]
  rw [hb]
  exact (reads_u8 _).bind <| (reads_u8 _).bind <| (reads_u16 _).bind <| (reads_u32 _).bind <|
    (reads_u64 _).map _

theorem Trade.reads_scan (t : Trade) : Reads scan t.bytes t.kept := by
  have hb : t.bytes = i64Bytes t.price ++ (u32Bytes t.size ++ ([charByte t.action] ++
      ([charByte t.side] ++ ([t.flags] ++ ([t.depth] ++ (u64Bytes t.tsRecv ++
        (i32Bytes t.tsInDelta ++ u32Bytes t.sequence))))))) := by simp [bytes]
  rw [hb]
  exact (reads_i64 _).bind <| (reads_u32 _).bind <| (reads_charByte _).bind <|
    (reads_charByte _).bind <| (reads_u8 _).bind <| (reads_u8 _).bind <| (reads_u64 _).bind <|
    (reads_i32 _).bind <| (reads_u32 _).map _

/-- The bytes that are not used are left. -/
theorem TradingStatus.run_scan (s : TradingStatus) (rest : Bytes) :
    scan.run (s.bytes ++ rest) = some (s.kept, List.replicate Kind.status.unused 0 ++ rest) := by
  have hb : s.bytes ++ rest = u64Bytes s.tsRecv ++ (u16Bytes s.action ++ (u16Bytes s.reason ++
      (u16Bytes s.tradingEvent ++ ([charByte s.isTrading] ++ ([charByte s.isQuoting] ++
        [charByte s.isShortSellRestricted]))))) ++ (List.replicate Kind.status.unused 0 ++ rest) := by
    simp [bytes]
  have hreads : Reads scan _ s.kept :=
    (reads_u64 _).bind <| (reads_u16 _).bind <| (reads_u16 _).bind <| (reads_u16 _).bind <|
      (reads_charByte _).bind <| (reads_charByte _).bind <| (reads_charByte _).map _
  rw [hb]
  exact hreads _

theorem GatewayError.reads_scan (e : GatewayError) : Reads scan e.bytes e.kept :=
  (reads_field _ _).bind <| (reads_u8 _).bind <| (reads_u8 _).map _

theorem SymbolMapping.reads_scan (m : SymbolMapping) : Reads scan m.bytes m.kept := by
  have hb : m.bytes = [m.stypeIn] ++ (FixedField.write symbolWidth m.symbolIn ++ ([m.stypeOut] ++
      (FixedField.write symbolWidth m.symbolOut ++ (u64Bytes m.startTs ++ u64Bytes m.endTs)))) := by
    simp [bytes]
  rw [hb]
  exact (reads_u8 _).bind <| (reads_field _ _).bind <| (reads_u8 _).bind <|
    (reads_field _ _).bind <| (reads_u64 _).bind <| (reads_u64 _).map _

theorem SystemNotice.reads_scan (s : SystemNotice) : Reads scan s.bytes s.kept :=
  (reads_field _ _).bind <| (reads_u8 _).map _

/-- The reader of a kind reads what the writer of the kind wrote, up to the bytes that are not
used. -/
theorem Body.run_scan (b : Body) (rest : Bytes) :
    b.kind.scan.run (b.bytes ++ rest) = some (b.kept, List.replicate b.kind.unused 0 ++ rest) := by
  cases b with
  | trade t => exact t.reads_scan.map Body.trade rest
  | status s =>
    show (do return Body.status (← TradingStatus.scan) : Scan Body).run _ = _
    rw [StateT.run_bind]
    exact congrArg (· >>= _) (s.run_scan rest)
  | error e => exact e.reads_scan.map Body.error rest
  | mapping m => exact m.reads_scan.map Body.mapping rest
  | system s => exact s.reads_scan.map Body.system rest

theorem Body.length_bytes (b : Body) : b.bytes.length = b.kind.size - Header.width := by
  cases b with
  | trade t =>
    simp [bytes, kind, Kind.size, Header.width, Trade.bytes, i64Bytes, i32Bytes, u64Bytes, u32Bytes]
  | status s =>
    simp [bytes, kind, Kind.size, Kind.unused, Header.width, TradingStatus.bytes, u64Bytes, u16Bytes]
  | error e =>
    simp [bytes, kind, Kind.size, Header.width, GatewayError.bytes, FixedField.length_write,
      errorTextWidth]
  | mapping m =>
    simp [bytes, kind, Kind.size, Header.width, SymbolMapping.bytes, FixedField.length_write,
      symbolWidth, u64Bytes]
  | system s =>
    simp [bytes, kind, Kind.size, Header.width, SystemNotice.bytes, FixedField.length_write,
      systemTextWidth]

theorem Header.length_bytes (h : Header) : h.bytes.length = Header.width := by
  simp [bytes, width, u16Bytes, u32Bytes, u64Bytes]

/-! ## Messages -/

theorem Kind.tag_inj {k k' : Kind} (h : k.tag = k'.tag) : k = k' := by
  cases k <;> cases k' <;> first | rfl | cases h

/-- The length byte of a kind stands for its size. -/
theorem Kind.size_eq (k : Kind) :
    k.size = 4 * (k.size / 4).toUInt8.toNat ∧ Header.width ≤ k.size := by
  cases k <;> decide

namespace Message

theorem length_encode (m : Message) : m.encode.length = m.body.kind.size := by
  have hk := m.body.kind.size_eq.2
  rw [encode, List.length_append, Header.length_bytes, Body.length_bytes]
  omega

theorem isFrame_encode (m : Message) : IsFrame m.encode := by
  obtain ⟨hs, hw⟩ := m.body.kind.size_eq
  rw [IsFrame, length_encode]
  exact ⟨hs, hw⟩

/-- A written message is cut off the front of a buffer, with its header. -/
theorem decode_encode_append (m : Message) (rest : Bytes) :
    Record.decode (m.encode ++ rest) = .ok ⟨m.wireHeader, m.encode⟩ := by
  obtain ⟨hd, hread, hdec⟩ := Record.decode_frame m.isFrame_encode rest
  have hh : Header.read? m.encode = some m.wireHeader := by
    rw [Header.read?, encode, m.wireHeader.reads_scan]
    rfl
  rw [hh, Option.some.injEq] at hread
  rw [hdec, hread]

/-- The body of a written message is read as what was kept of it. -/
theorem get_encode (m : Message) :
    Record.get ⟨m.wireHeader, m.encode⟩ m.body.kind = .ok ⟨m.wireHeader, m.body.kept⟩ := by
  have hbody : Record.body ⟨m.wireHeader, m.encode⟩ = m.body.bytes := by
    rw [Record.body, encode, ← m.wireHeader.length_bytes, List.drop_left]
  obtain ⟨rest, hrun⟩ : ∃ rest, m.body.kind.scan.run m.body.bytes = some (m.body.kept, rest) := by
    have := m.body.run_scan []
    rw [List.append_nil] at this
    exact ⟨_, this⟩
  have htag : ¬ m.wireHeader.rtype ≠ m.body.kind.tag := fun h => h rfl
  have hsize : ¬ Record.size ⟨m.wireHeader, m.encode⟩ < m.body.kind.size := by
    rw [Record.size, length_encode]
    exact Nat.lt_irrefl _
  rw [Record.get, if_neg htag]
  simp only [if_neg hsize, hbody, hrun]

end Message

/-- A message that was written, in front of any bytes:

* It has the size of its kind, and is cut off the front as one record of this size.
* It is read as a message of its kind: the header says the length and the tag of the kind and is
  what it was otherwise, a character outside ASCII has become NUL, and a text is what is read of the
  field it was written to.
* It is not read as any other kind, and the error names both tags.
* If the characters are ASCII and the texts fit, it is read with the fields that were written. -/
theorem decode_encode (m : Message) (rest : Bytes) :
    m.encode.length = m.body.kind.size ∧
    ∃ r, Record.decode (m.encode ++ rest) = .ok r ∧ r.bytes = m.encode ∧
      r.size = m.body.kind.size ∧
      r.get m.body.kind = .ok
        ⟨{ m.header with length := (m.body.kind.size / 4).toUInt8, rtype := m.body.kind.tag },
          m.body.kept⟩ ∧
      (∀ k, k ≠ m.body.kind → r.get k = .error (.unexpectedType k.tag m.body.kind.tag)) ∧
      (m.body.Plain → r.get m.body.kind = .ok
        ⟨{ m.header with length := (m.body.kind.size / 4).toUInt8, rtype := m.body.kind.tag },
          m.body⟩) := by
  refine ⟨m.length_encode, _, m.decode_encode_append rest, rfl, m.length_encode, m.get_encode,
    fun k hk => ?_, fun hplain => ?_⟩
  · have htag : m.wireHeader.rtype ≠ k.tag := fun h => hk (Kind.tag_inj h).symm
    rw [Record.get, if_pos htag]
    rfl
  · have h := m.get_encode
    rwa [Body.kept_of_plain hplain] at h

end MarketFeed
