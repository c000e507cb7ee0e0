import MarketFeed.Record.Message

set_option autoImplicit false

/-!
# Framing

A record is a byte string whose first byte gives its length in words. `Record.decode` cuts one off
the front of a buffer, `Record.stream` cuts as many as there are, and `Record.get` reads a body.
-/

namespace MarketFeed

inductive DecodeError where
  | bufferTooSmall (need available : Nat)
  | invalidLength (words : UInt8)
  | truncatedRecord (declared actual : Nat)
  | unexpectedType (expected actual : UInt8)
  | bodyTooShort (rtype : UInt8) (need available : Nat)
  deriving DecidableEq, Inhabited

namespace DecodeError

def hexTag (b : UInt8) : String := "0x" ++ String.ofList (hexByte b)

def message : DecodeError → String
  | bufferTooSmall need available =>
    "buffer too small: need " ++ toString need ++ " bytes, have " ++ toString available
  | invalidLength words =>
    "invalid record length: " ++ toString words.toNat ++ " words is shorter than the header"
  | truncatedRecord declared actual =>
    "truncated record: declared length " ++ toString declared ++ " exceeds buffer " ++
      toString actual
  | unexpectedType expected actual =>
    "unexpected rtype: expected " ++ hexTag expected ++ ", got " ++ hexTag actual
  | bodyTooShort rtype need available =>
    "record body too short for rtype " ++ hexTag rtype ++ ": need " ++ toString need ++
      " bytes, have " ++ toString available

end DecodeError

/-- A framed record: its header and all its bytes, the header's among them. -/
structure Record where
  header : Header
  bytes : Bytes
  deriving DecidableEq, Inhabited

namespace Record

def size (r : Record) : Nat := r.bytes.length

def body (r : Record) : Bytes := r.bytes.drop Header.width

def isKind (r : Record) (k : Kind) : Bool := r.header.rtype == k.tag

def decode (buffer : Bytes) : Except DecodeError Record :=
  match Header.read? buffer with
  | none => .error (.bufferTooSmall Header.width buffer.length)
  | some header =>
    if header.recordSize < Header.width then .error (.invalidLength header.length)
    else if buffer.length < header.recordSize then
      .error (.truncatedRecord header.recordSize buffer.length)
    else .ok ⟨header, buffer.take header.recordSize⟩

def get (r : Record) (k : Kind) : Except DecodeError Message :=
  if r.header.rtype ≠ k.tag then .error (.unexpectedType k.tag r.header.rtype)
  else
    let short := DecodeError.bodyTooShort r.header.rtype (k.size - Header.width)
      (r.size - Header.width)
    if r.size < k.size then .error short
    else match k.scan.run r.body with
      | some (body, _) => .ok ⟨r.header, body⟩
      | none => .error short

theorem size_pos_of_decode {buffer : Bytes} {r : Record} (h : decode buffer = .ok r) :
    0 < r.size ∧ r.size ≤ buffer.length := by
  unfold decode at h
  split at h
  · simp at h
  · split at h
    · simp at h
    · split at h
      · simp at h
      · simp only [Except.ok.injEq] at h
        subst h
        simp only [size, List.length_take, Header.width] at *
        omega

/-- What became of a buffer of records laid end to end: the records that were visited, and the
error that ended the visit. -/
structure Split where
  records : List Record
  error : Option DecodeError
  deriving Inhabited

/-- The records of a buffer, visited until `visit` declines to go on. `visit` is given the number
of records before the one it sees. Bytes that are too few for a header end the buffer quietly. -/
def split (visit : Nat → Record → Bool) (seen : Nat) (buffer : Bytes) : Split :=
  match h : decode buffer with
  | .error (.bufferTooSmall ..) => ⟨[], none⟩
  | .error e => ⟨[], some e⟩
  | .ok r =>
    if visit seen r then
      let rest := split visit (seen + 1) (buffer.drop r.size)
      ⟨r :: rest.records, rest.error⟩
    else ⟨[r], none⟩
termination_by buffer.length
decreasing_by
  have := size_pos_of_decode h
  simp only [List.length_drop]
  omega

/-- Visits the records of a buffer and counts the calls. -/
def stream (visit : Nat → Record → Bool) (buffer : Bytes) : Except DecodeError Nat × List Record :=
  let s := split visit 0 buffer
  match s.error with
  | some e => (.error e, s.records)
  | none => (.ok s.records.length, s.records)

end Record

end MarketFeed
