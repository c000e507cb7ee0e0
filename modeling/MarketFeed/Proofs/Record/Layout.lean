import MarketFeed.Proofs.Record.Sorting
import MarketFeed.Proofs.Record.Spelling
import MarketFeed.Proofs.Text.Utf8

set_option autoImplicit false

/-!
# Layouts of bodies

`Kind.layout` lists the fields of a body in their order, and `Kind.fields` says where in a record
each of them stands. The reader of a kind goes through the fields of the layout that are used
(`Kind.read`): it answers by what is seen of each of them (`Kind.follows_scan`), where a text is
seen up to its first NUL. The writer makes of the answer the same fields in their normal form
(`Body.bytes_of_scan`). Both are put together field by field, in the order of the layout.
-/

namespace MarketFeed

inductive Field where
  /-- A number, least significant byte first. -/
  | number (width : Nat)
  | char
  /-- A text and the NULs that fill the field. -/
  | text (width : Nat)
  | unused (width : Nat)
  deriving DecidableEq

namespace Field

def width : Field → Nat
  | number w | text w | unused w => w
  | char => 1

/-- The part of a field's bytes that a reader takes notice of. -/
def seen : Field → Bytes → Bytes
  | number _, bs | char, bs => bs
  | text _, bs => bs.takeWhile (· != 0)
  | unused _, _ => []

/-- The bytes of a field as they are written after they were read. -/
def normal : Field → Bytes → Bytes
  | number _, bs => bs
  | char, bs => bs.map fun b => if b < 0x80 then b else 0
  | text w, bs => FixedField.write w (FixedField.read bs)
  | unused w, _ => List.replicate w 0

/-- The bytes of a field that starts at `offset`. -/
def cut (f : Field) (offset : Nat) (bs : Bytes) : Bytes := (bs.drop offset).take f.width

theorem length_cut {f : Field} {offset : Nat} {bs : Bytes} (h : offset + f.width ≤ bs.length) :
    (f.cut offset bs).length = f.width := by
  rw [cut, List.length_take, List.length_drop]
  omega

end Field

abbrev Layout := List Field

namespace Layout

def width : Layout → Nat
  | [] => 0
  | f :: l => f.width + width l

/-- The fields with their offsets, the first one at `offset`. -/
def fields : Nat → Layout → List (Nat × Field)
  | _, [] => []
  | offset, f :: l => (offset, f) :: fields (offset + f.width) l

/-- Both byte strings hold all fields, and the same is seen of each of them. -/
def Alike : Layout → Bytes → Bytes → Prop
  | [], _, _ => True
  | f :: l, bs, bs' =>
    f.width ≤ bs.length ∧ f.width ≤ bs'.length ∧
      f.seen (bs.take f.width) = f.seen (bs'.take f.width) ∧
        Alike l (bs.drop f.width) (bs'.drop f.width)

/-- The fields in their normal form, one after the other. -/
def normal : Layout → Bytes → Bytes
  | [], _ => []
  | f :: l, bs => f.normal (bs.take f.width) ++ normal l (bs.drop f.width)

theorem Alike.left {l l' : Layout} {bs bs' : Bytes} (h : Alike (l ++ l') bs bs') :
    Alike l bs bs' := by
  induction l generalizing bs bs' with
  | nil => trivial
  | cons f l ih =>
    obtain ⟨hb, hb', hs, ha⟩ := h
    exact ⟨hb, hb', hs, ih ha⟩

/-- A field starts where those before it end, and ends within the layout. -/
theorem fields_within {l : Layout} {start : Nat} {p : Nat × Field} (h : p ∈ fields start l) :
    start ≤ p.1 ∧ p.1 + p.2.width ≤ start + l.width := by
  induction l generalizing start with
  | nil => cases h
  | cons f l ih =>
    rw [width]
    rcases List.mem_cons.mp h with rfl | h
    · exact ⟨Nat.le_refl _, by dsimp only; omega⟩
    · obtain ⟨h₁, h₂⟩ := ih h
      omega

end Layout

/-! ## Readers -/

namespace Scan

variable {α β : Type} {sc : Scan α} {f : Field} {l : Layout}

/-- The scan takes the bytes of the layout, and answers by what is seen of them. -/
def Follows (sc : Scan α) (l : Layout) : Prop :=
  ∀ bs bs', l.Alike bs bs' →
    ∃ v, sc.run bs = some (v, bs.drop l.width) ∧ sc.run bs' = some (v, bs'.drop l.width)

theorem Follows.cons {g : α → Scan β} (h : Follows sc [f]) (h' : ∀ v, Follows (g v) l) :
    Follows (sc >>= g) (f :: l) := by
  intro bs bs' ha
  obtain ⟨hb, hb', hs, ha⟩ := ha
  obtain ⟨v, hv, hv'⟩ := h bs bs' ⟨hb, hb', hs, trivial⟩
  obtain ⟨w, hw, hw'⟩ := h' v _ _ ha
  rw [List.drop_drop] at hw hw'
  refine ⟨w, ?_, ?_⟩
  · rw [StateT.run_bind, hv]
    exact hw
  · rw [StateT.run_bind, hv']
    exact hw'

theorem Follows.map (h : Follows sc l) (g : α → β) : Follows (do return g (← sc)) l := by
  intro bs bs' ha
  obtain ⟨v, hv, hv'⟩ := h bs bs' ha
  refine ⟨g v, ?_, ?_⟩
  · rw [StateT.run_bind, hv]
    rfl
  · rw [StateT.run_bind, hv']
    rfl

theorem Reads.unique {bs : Bytes} {v v' : α} (h : Reads sc bs v) (h' : Reads sc bs v') :
    v = v' := by
  have he := h []
  rw [h' []] at he
  cases he
  rfl

/-- A scan of as many bytes as the field has follows it, if all of them are seen. -/
theorem Takes.follows (h : Takes sc f.width) (hf : ∀ bs, f.seen bs = bs) : Follows sc [f] := by
  intro bs bs' ha
  obtain ⟨hb, hb', hs, -⟩ := ha
  rw [hf, hf] at hs
  obtain ⟨v, hv, hrun⟩ := h.run hb
  obtain ⟨v', hv', hrun'⟩ := h.run hb'
  rw [← hs] at hv'
  obtain rfl := hv.unique hv'
  exact ⟨v, hrun, hrun'⟩

theorem follows_number {n : Nat} (h : Takes sc n) : Follows sc [.number n] :=
  Takes.follows h fun _ => rfl

theorem follows_char : Follows char [.char] := Takes.follows takes_char fun _ => rfl

theorem follows_text (width : Nat) : Follows (text width) [.text width] := by
  intro bs bs' ha
  obtain ⟨hb, hb', hs, -⟩ := ha
  have hread : FixedField.read (bs.take width) = FixedField.read (bs'.take width) :=
    congrArg (fun kept => String.ofList (Utf8.decodeLossy kept)) hs
  refine ⟨FixedField.read (bs.take width), text_run width hb, ?_⟩
  rw [hread]
  exact text_run width hb'

end Scan

/-! ## The five layouts -/

/-- The fields that a reader takes. -/
def Kind.read : Kind → Layout
  | .trade =>
    [.number 8, .number 4, .char, .char, .number 1, .number 1, .number 8, .number 4, .number 4]
  | .status => [.number 8, .number 2, .number 2, .number 2, .char, .char, .char]
  | .error => [.text errorTextWidth, .number 1, .number 1]
  | .mapping =>
    [.number 1, .text symbolWidth, .number 1, .text symbolWidth, .number 8, .number 8]
  | .system => [.text systemTextWidth, .number 1]

/-- All of a body: the fields that are read, and what is not used behind them. -/
def Kind.layout (k : Kind) : Layout :=
  k.read ++ if k.unused = 0 then [] else [.unused k.unused]

/-- The fields of a body with their offsets in the record. -/
def Kind.fields (k : Kind) : List (Nat × Field) := k.layout.fields Header.width

example : Kind.mapping.fields =
    [(16, .number 1), (17, .text 71), (88, .number 1), (89, .text 71), (160, .number 8),
      (168, .number 8)] := rfl

/-- A layout is as wide as the kind's size says. -/
theorem Kind.width_layout (k : Kind) : Header.width + k.layout.width = k.size := by
  cases k <;> rfl

theorem Kind.width_read (k : Kind) : k.read.width = k.size - Header.width - k.unused := by
  cases k <;> rfl

theorem Kind.normal_layout (k : Kind) (bs : Bytes) :
    k.layout.normal bs = k.read.normal bs ++ List.replicate k.unused 0 := by
  cases k <;> simp [layout, read, unused, Layout.normal, Field.normal]

/-- Every field stands behind the header and inside of the kind's size. -/
theorem Kind.fields_within {k : Kind} {p : Nat × Field} (h : p ∈ k.fields) :
    Header.width ≤ p.1 ∧ p.1 + p.2.width ≤ k.size := by
  rw [← k.width_layout]
  exact Layout.fields_within h

open Scan in
/-- The reader of a kind goes through the fields of its layout that are used. -/
theorem Kind.follows_scan (k : Kind) : Follows k.scan k.read := by
  have u8 : Follows Scan.u8 [.number 1] := follows_number takes_u8
  have u16 : Follows Scan.u16 [.number 2] := follows_number takes_u16
  have u32 : Follows Scan.u32 [.number 4] := follows_number takes_u32
  have u64 : Follows Scan.u64 [.number 8] := follows_number takes_u64
  cases k with
  | trade =>
    have h : Follows Trade.scan Kind.trade.read :=
      (follows_number takes_i64).cons fun _ => u32.cons fun _ => follows_char.cons fun _ =>
        follows_char.cons fun _ => u8.cons fun _ => u8.cons fun _ => u64.cons fun _ =>
        (follows_number takes_i32).cons fun _ => u32.map _
    exact h.map _
  | status =>
    have h : Follows TradingStatus.scan Kind.status.read :=
      u64.cons fun _ => u16.cons fun _ => u16.cons fun _ => u16.cons fun _ =>
        follows_char.cons fun _ => follows_char.cons fun _ => follows_char.map _
    exact h.map _
  | error =>
    have h : Follows GatewayError.scan Kind.error.read :=
      (follows_text errorTextWidth).cons fun _ => u8.cons fun _ => u8.map _
    exact h.map _
  | mapping =>
    have h : Follows SymbolMapping.scan Kind.mapping.read :=
      u8.cons fun _ => (follows_text symbolWidth).cons fun _ => u8.cons fun _ =>
        (follows_text symbolWidth).cons fun _ => u64.cons fun _ => u64.map _
    exact h.map _
  | system =>
    have h : Follows SystemNotice.scan Kind.system.read :=
      (follows_text systemTextWidth).cons fun _ => u8.map _
    exact h.map _

/-! ## Writers -/

namespace Scan

variable {α β : Type} {sc : Scan α} {f : Field} {l : Layout} {P : α → Bytes → Prop}

/-- What the scan answers stands in the relation `P` to the normal form of the bytes it took. -/
def Renders (sc : Scan α) (l : Layout) (P : α → Bytes → Prop) : Prop :=
  ∀ bs v rest, sc.run bs = some (v, rest) → P v (l.normal bs) ∧ rest = bs.drop l.width

/-- The answer is written as the normal form of the field. -/
abbrev Writes (sc : Scan α) (f : Field) (write : α → Bytes) : Prop :=
  Renders sc [f] fun v normal => normal = write v

/-- Where all of a body is used, nothing is written behind it. -/
theorem Renders.whole {write : α → Bytes} (h : Renders sc l fun v normal => normal = write v) :
    Renders sc l fun v normal => normal ++ List.replicate 0 0 = write v := by
  intro bs v rest hrun
  obtain ⟨hn, hr⟩ := h bs v rest hrun
  exact ⟨(List.append_nil _).trans hn, hr⟩

theorem Renders.pure {v : α} (h : P v []) : Renders (Pure.pure v) [] P := by
  intro bs w rest hrun
  cases hrun
  exact ⟨h, rfl⟩

theorem Renders.cons {g : α → Scan β} {write : α → Bytes} {Q : β → Bytes → Prop}
    (h : Writes sc f write) (h' : ∀ v, Renders (g v) l fun w normal => Q w (write v ++ normal)) :
    Renders (sc >>= g) (f :: l) Q := by
  intro bs w rest hrun
  rw [StateT.run_bind, Option.bind_eq_bind, Option.bind_eq_some_iff] at hrun
  obtain ⟨⟨v, r⟩, hv, hw⟩ := hrun
  obtain ⟨hn, hr⟩ := h bs v r hv
  obtain ⟨hq, hrest⟩ := h' v r w rest hw
  have hr : r = bs.drop f.width := hr
  subst hr
  refine ⟨?_, by rw [hrest, List.drop_drop]; rfl⟩
  rw [← hn] at hq
  simpa [Layout.normal] using hq

theorem Renders.map {Q : β → Bytes → Prop} {g : α → β} (h : Renders sc l fun v => Q (g v)) :
    Renders (do return g (← sc)) l Q := by
  intro bs w out hrun
  rw [StateT.run_bind, Option.bind_eq_bind, Option.bind_eq_some_iff] at hrun
  obtain ⟨⟨v, rest⟩, hv, hw⟩ := hrun
  cases hw
  exact h bs v rest hv

/-- A number is written as it was spelt. -/
theorem writes_number {n : Nat} {write : α → Bytes} (h : Spells sc write)
    (hn : ∀ v, (write v).length = n) : Writes sc (.number n) write := by
  intro bs v rest hrun
  have hb := h bs v rest hrun
  have hw : Layout.width [.number n] = (write v).length := by rw [hn]; rfl
  refine ⟨?_, by rw [hb, hw, List.drop_left]⟩
  simp only [Layout.normal, Field.normal, Field.width, List.append_nil]
  rw [hb, ← hn v, List.take_left]

theorem writes_u8 : Writes u8 (.number 1) fun v => [v] := writes_number spells_u8 fun _ => rfl

theorem writes_u16 : Writes u16 (.number 2) u16Bytes :=
  writes_number spells_u16 fun _ => LittleEndian.length_bytes ..

theorem writes_u32 : Writes u32 (.number 4) u32Bytes :=
  writes_number spells_u32 fun _ => LittleEndian.length_bytes ..

theorem writes_u64 : Writes u64 (.number 8) u64Bytes :=
  writes_number spells_u64 fun _ => LittleEndian.length_bytes ..

theorem writes_i32 : Writes i32 (.number 4) i32Bytes :=
  Renders.map (g := UInt32.toInt32) fun bs v rest h => by
    simpa [i32Bytes] using writes_u32 bs v rest h

theorem writes_i64 : Writes i64 (.number 8) i64Bytes :=
  Renders.map (g := UInt64.toInt64) fun bs v rest h => by
    simpa [i64Bytes] using writes_u64 bs v rest h

theorem charByte_byteChar (b : UInt8) : charByte (byteChar b) = if b < 0x80 then b else 0 := by
  have hb := b.toNat_lt
  have hn : (byteChar b).toNat = b.toNat := Utf8.toNat_char_ofNat (by omega)
  have hlt : b.toNat < 128 ↔ b < 0x80 := by
    rw [UInt8.lt_iff_toNat_lt]
    rfl
  rw [charByte, hn]
  by_cases h : b < 0x80
  · rw [if_pos (hlt.mpr h), if_pos h]
    exact UInt8.ofNat_toNat
  · rw [if_neg (fun h' => h (hlt.mp h')), if_neg h]

theorem writes_char : Writes char .char fun c => [charByte c] := by
  refine Renders.map (g := byteChar) fun bs b rest h => ?_
  cases bs with
  | nil => cases h
  | cons b bs =>
    cases h
    exact ⟨by simp [Layout.normal, Field.normal, Field.width, charByte_byteChar], rfl⟩

theorem run_take {n : Nat} {bs kept rest : Bytes} (h : (take n).run bs = some (kept, rest)) :
    kept = bs.take n ∧ rest = bs.drop n := by
  by_cases hn : n ≤ bs.length
  · rw [take_run hn] at h
    cases h
    exact ⟨rfl, rfl⟩
  · have hnone : (take n).run bs = none := if_neg hn
    rw [hnone] at h
    cases h

theorem writes_text (width : Nat) :
    Writes (text width) (.text width) fun value => FixedField.write width value := by
  refine Renders.map (g := FixedField.read) fun bs kept rest h => ?_
  obtain ⟨rfl, rfl⟩ := run_take h
  exact ⟨by simp [Layout.normal, Field.normal, Field.width], rfl⟩

end Scan

open Scan

theorem Trade.renders_scan : Renders scan Kind.trade.read fun t normal => normal = t.bytes :=
  writes_i64.cons fun _ => writes_u32.cons fun _ => writes_char.cons fun _ =>
    writes_char.cons fun _ => writes_u8.cons fun _ => writes_u8.cons fun _ =>
    writes_u64.cons fun _ => writes_i32.cons fun _ => writes_u32.cons fun _ =>
    .pure (by simp [bytes])

theorem TradingStatus.renders_scan : Renders scan Kind.status.read fun s normal =>
    normal ++ List.replicate Kind.status.unused 0 = s.bytes :=
  writes_u64.cons fun _ => writes_u16.cons fun _ => writes_u16.cons fun _ =>
    writes_u16.cons fun _ => writes_char.cons fun _ => writes_char.cons fun _ =>
    writes_char.cons fun _ => .pure (by simp [bytes])

theorem GatewayError.renders_scan :
    Renders scan Kind.error.read fun e normal => normal = e.bytes :=
  (writes_text _).cons fun _ => writes_u8.cons fun _ => writes_u8.cons fun _ =>
    .pure (by simp [bytes])

theorem SymbolMapping.renders_scan :
    Renders scan Kind.mapping.read fun m normal => normal = m.bytes :=
  writes_u8.cons fun _ => (writes_text _).cons fun _ => writes_u8.cons fun _ =>
    (writes_text _).cons fun _ => writes_u64.cons fun _ => writes_u64.cons fun _ =>
    .pure (by simp [bytes])

theorem SystemNotice.renders_scan :
    Renders scan Kind.system.read fun s normal => normal = s.bytes :=
  (writes_text _).cons fun _ => writes_u8.cons fun _ => .pure (by simp [bytes])

/-- A body that was read is written as the normal form of its bytes. -/
theorem Body.bytes_of_scan {k : Kind} {bs rest : Bytes} {b : Body}
    (h : k.scan.run bs = some (b, rest)) : b.bytes = k.layout.normal bs := by
  have hall : Renders k.scan k.read fun b normal =>
      normal ++ List.replicate k.unused 0 = b.bytes := by
    cases k with
    | trade => exact Trade.renders_scan.whole.map
    | status => exact TradingStatus.renders_scan.map
    | error => exact GatewayError.renders_scan.whole.map
    | mapping => exact SymbolMapping.renders_scan.whole.map
    | system => exact SystemNotice.renders_scan.whole.map
  rw [k.normal_layout]
  exact (hall bs b rest h).1.symm

end MarketFeed
