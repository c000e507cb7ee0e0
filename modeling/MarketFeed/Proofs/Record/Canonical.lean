import MarketFeed.Proofs.Record.Codec
import MarketFeed.Proofs.Record.Layout

set_option autoImplicit false

/-!
# Records survive being read

A record that was read as a message is written with the same header, but for the length of its
kind, and with every field of its body in normal form (`Record.encode_get`, `Record.cut_encode`).
Numbers are their own normal form, whatever their bytes, and a field of a canonical record is as
well (`Field.normal_of_canonical`): so the message of a canonical record is written as the record
that it was read from (`encode_decode`).
-/

namespace MarketFeed

namespace Field

/-- What writing leaves as it is: ASCII characters, a text in UTF-8 that is followed by a NUL inside
of the field and by nothing else, and unused bytes that are zero. -/
def Canonical : Field → Bytes → Prop
  | number _, _ => True
  | char, bs => ∀ b ∈ bs, b < 0x80
  | text _, bs =>
    (Utf8.decode? (bs.takeWhile (· != 0))).isSome ∧ 0 ∈ bs ∧ ∀ b ∈ bs.dropWhile (· != 0), b = 0
  | unused _, bs => ∀ b ∈ bs, b = 0

instance (f : Field) (bs : Bytes) : Decidable (f.Canonical bs) :=
  match f with
  | number _ => .isTrue trivial
  | char => List.decidableBAll (· < 0x80) bs
  | text _ =>
    have := List.decidableBAll (· = 0) (bs.dropWhile (· != 0))
    inferInstanceAs (Decidable (_ ∧ _ ∧ ∀ b ∈ bs.dropWhile (· != 0), b = 0))
  | unused _ => List.decidableBAll (· = 0) bs

theorem length_normal {f : Field} {bs : Bytes} (h : bs.length = f.width) :
    (f.normal bs).length = f.width := by
  cases f with
  | number w => exact h
  | char => rwa [normal, List.length_map]
  | text w => exact FixedField.length_write _
  | unused w => exact List.length_replicate

/-- Writing a text of UTF-8 puts back the NULs that filled the field. -/
theorem write_read_of_canonical {w : Nat} {bs : Bytes} (h : (text w).Canonical bs)
    (hw : bs.length = w) : FixedField.write w (FixedField.read bs) = bs := by
  obtain ⟨hutf8, hzero, hrest⟩ := h
  let kept := bs.takeWhile (· != 0)
  let fill := bs.dropWhile (· != 0)
  have hsplit : kept ++ fill = bs := List.takeWhile_append_dropWhile
  have hkept : 0 ∉ kept := by
    intro hm
    simpa using List.all_eq_true.mp List.all_takeWhile 0 hm
  have hfill : fill = List.replicate fill.length 0 := List.eq_replicate_of_mem hrest
  have hpos : 0 < fill.length := by
    rw [← hsplit, List.mem_append] at hzero
    exact List.length_pos_of_mem (hzero.resolve_left hkept)
  have hlen : kept.length + fill.length = w := by rw [← List.length_append, hsplit, hw]
  obtain ⟨cs, hcs⟩ := Option.isSome_iff_exists.mp hutf8
  have henc : kept = Utf8.encode cs := Utf8.decode?_eq_some_iff.mp hcs
  have hread : FixedField.read bs = String.ofList cs := by
    show String.ofList (Utf8.decodeLossy kept) = _
    rw [henc, Utf8.decodeLossy_encode]
  have htake : (Utf8.encode cs).take (w - 1) = kept := by
    rw [← henc]
    exact List.take_of_length_le (by omega)
  have hzeros : w - kept.length = fill.length := by omega
  rw [hread, FixedField.write, String.toList_ofList, htake, hzeros, ← hfill, hsplit]

theorem normal_of_canonical {f : Field} {bs : Bytes} (h : f.Canonical bs)
    (hw : bs.length = f.width) : f.normal bs = bs := by
  cases f with
  | number w => rfl
  | char =>
    rw [normal]
    refine (List.map_congr_left fun b hb => ?_).trans (List.map_id bs)
    exact if_pos (h b hb)
  | text w => exact write_read_of_canonical h hw
  | unused w =>
    have hz : bs = List.replicate bs.length 0 := List.eq_replicate_of_mem h
    rw [hw] at hz
    exact hz.symm

end Field

namespace Layout

variable {l : Layout} {start : Nat} {bs : Bytes}

/-- In the normal form a field stands where it stood. -/
theorem cut_normal {p : Nat × Field} (hp : p ∈ l.fields start) (hb : start + l.width ≤ bs.length)
    {front : Bytes} (hf : front.length = start) :
    p.2.cut p.1 (front ++ l.normal (bs.drop start)) = p.2.normal (p.2.cut p.1 bs) := by
  induction l generalizing start front with
  | nil => cases hp
  | cons f l ih =>
    rw [width] at hb
    have hn : (f.normal (f.cut start bs)).length = f.width :=
      Field.length_normal (Field.length_cut (by omega))
    have hcons : normal (f :: l) (bs.drop start) =
        f.normal (f.cut start bs) ++ normal l (bs.drop (start + f.width)) := by
      rw [normal, List.drop_drop]
      rfl
    rw [hcons]
    rcases List.mem_cons.mp hp with rfl | hp
    · rw [Field.cut, List.drop_left' hf, ← hn, List.take_left]
    · rw [← List.append_assoc]
      refine ih hp (by omega) ?_
      rw [List.length_append, hf, hn]

/-- Canonical fields make up the bytes that they were cut from. -/
theorem normal_of_canonical (h : ∀ p ∈ l.fields start, p.2.Canonical (p.2.cut p.1 bs))
    (hb : start + l.width ≤ bs.length) :
    l.normal (bs.drop start) = (bs.drop start).take l.width := by
  induction l generalizing start with
  | nil => rfl
  | cons f l ih =>
    rw [width] at hb
    obtain ⟨hf, hl⟩ := List.forall_mem_cons.mp h
    have hcut : f.normal (f.cut start bs) = f.cut start bs :=
      Field.normal_of_canonical hf (Field.length_cut (by omega))
    have hrest := ih hl (by omega)
    rw [normal, List.drop_drop, hrest, width, List.take_add, List.drop_drop]
    exact congrArg (· ++ _) hcut

end Layout

/-- A record of the kind that is written as its message is. -/
structure Kind.Canonical (k : Kind) (bs : Bytes) : Prop where
  size : bs.length = k.size
  words : bs[0]? = some (k.size / 4).toUInt8
  tag : bs[1]? = some k.tag
  fields : ∀ p ∈ k.fields, p.2.Canonical (p.2.cut p.1 bs)

instance (k : Kind) (bs : Bytes) : Decidable (k.Canonical bs) :=
  decidable_of_iff
    (bs.length = k.size ∧ bs[0]? = some (k.size / 4).toUInt8 ∧ bs[1]? = some k.tag ∧
      ∀ p ∈ k.fields, p.2.Canonical (p.2.cut p.1 bs))
    ⟨fun ⟨hs, hw, ht, hf⟩ => ⟨hs, hw, ht, hf⟩, fun h => ⟨h.size, h.words, h.tag, h.fields⟩⟩

namespace Record

variable {buffer : Bytes} {r : Record} {k : Kind} {m : Message}

/-- A message that was read is written with the header of its kind and the fields of its record in
normal form. -/
theorem encode_get (h : r.get k = .ok m) :
    m.encode = ({ r.header with length := (k.size / 4).toUInt8, rtype := k.tag } : Header).bytes ++
      k.layout.normal r.body := by
  obtain ⟨hheader, rest, hscan⟩ := Router.scan_of_get h
  rw [Message.encode, Message.wireHeader, hheader, Kind.scan_kind hscan, Body.bytes_of_scan hscan]

/-- Every field stands where it stood, in its normal form. -/
theorem cut_encode (h : r.get k = .ok m) (hs : k.size ≤ r.size) {p : Nat × Field}
    (hp : p ∈ k.fields) : p.2.cut p.1 m.encode = p.2.normal (p.2.cut p.1 r.bytes) := by
  have hb : Header.width + k.layout.width ≤ r.bytes.length := by
    rw [k.width_layout]
    exact hs
  rw [encode_get h]
  exact Layout.cut_normal hp hb (Header.length_bytes _)

/-- The header of a record is in its first 16 bytes. -/
theorem header_bytes (h : decode buffer = .ok r) :
    r.bytes.take Header.width = r.header.bytes := by
  have hi : r.header.bytes ++ r.body = r.bytes := intact_of_decode h
  rw [← hi, ← r.header.length_bytes, List.take_left]

/-- Past the length byte the header is written as it was read. -/
theorem header_encode (hd : decode buffer = .ok r) (ht : r.header.rtype = k.tag)
    (h : r.get k = .ok m) :
    (m.encode.take Header.width).drop 1 = (r.bytes.take Header.width).drop 1 := by
  rw [header_bytes hd, encode_get h, List.take_left' (Header.length_bytes _), ← ht]
  rfl

/-- A canonical record is decoded, read, and written as it was. -/
theorem encode_of_canonical {bs : Bytes} (h : k.Canonical bs) :
    ∃ r m, decode bs = .ok r ∧ r.get k = .ok m ∧ m.encode = bs := by
  obtain ⟨hs, hw⟩ := k.size_eq
  have hframe : IsFrame bs := by
    refine ⟨?_, by rw [h.size]; exact hw⟩
    rw [h.size, List.headD_eq_head?_getD, List.head?_eq_getElem?, h.words]
    exact hs
  obtain ⟨hd, -, hdec⟩ := decode_frame hframe []
  rw [List.append_nil] at hdec
  have hbytes : bs = hd.bytes ++ bs.drop Header.width := (intact_of_decode hdec).symm
  have hlength : hd.length = (k.size / 4).toUInt8 := by
    have h0 := h.words
    rw [hbytes] at h0
    exact Option.some.inj h0
  have htag : hd.rtype = k.tag := by
    have h1 := h.tag
    rw [hbytes] at h1
    exact Option.some.inj h1
  obtain ⟨m, hm⟩ := get_long (r := ⟨hd, bs⟩) htag (Nat.le_of_eq h.size.symm)
  have hwidth : Header.width + k.layout.width = bs.length := by rw [k.width_layout, h.size]
  have hnormal := Layout.normal_of_canonical h.fields (Nat.le_of_eq hwidth)
  have htake : (bs.drop Header.width).take k.layout.width = bs.drop Header.width := by
    apply List.take_of_length_le
    rw [List.length_drop]
    omega
  have hheader : ({ hd with length := (k.size / 4).toUInt8, rtype := k.tag } : Header) = hd := by
    rw [← hlength, ← htag]
  refine ⟨⟨hd, bs⟩, m, hdec, hm, ?_⟩
  rw [encode_get hm, hheader]
  show hd.bytes ++ k.layout.normal (bs.drop Header.width) = bs
  rw [hnormal, htake, ← hbytes]

end Record

/-- What is read of a record, written again, for each kind:

* A canonical record is decoded and read as the kind, and the message is written as the record.
* Any record of the kind's tag that is long enough is read as the kind. What is written of it has
  the kind's size, and agrees with it in the header past the length byte and in every number of the
  body, at the number's place. -/
theorem encode_decode (k : Kind) :
    (∀ bs, k.Canonical bs →
      ∃ r m, Record.decode bs = .ok r ∧ r.get k = .ok m ∧ m.encode = bs) ∧
    ∀ buffer r, Record.decode buffer = .ok r → r.header.rtype = k.tag → k.size ≤ r.size →
      ∃ m, r.get k = .ok m ∧ m.encode.length = k.size ∧
        (m.encode.take Header.width).drop 1 = (r.bytes.take Header.width).drop 1 ∧
        ∀ offset width, (offset, .number width) ∈ k.fields →
          (m.encode.drop offset).take width = (r.bytes.drop offset).take width := by
  refine ⟨fun bs h => Record.encode_of_canonical h, fun buffer r hd ht hs => ?_⟩
  obtain ⟨m, hm⟩ := Record.get_long ht hs
  refine ⟨m, hm, ?_, Record.header_encode hd ht hm, fun offset width hp => ?_⟩
  · rw [m.length_encode, (Router.get_kind hm).2]
  · exact Record.cut_encode hm hs hp

/-- A mapping whose first text is in two scripts and whose second is empty. -/
theorem encode_decode_mapping :
    let record : Bytes := [44, 22, 1, 0, 2, 0, 0, 0, 3, 0, 0, 0, 0, 0, 0, 255] ++
      [1, 0x45, 0xC3, 0xA9, 0xE2, 0x82, 0xAC] ++ List.replicate 65 0 ++ [8] ++
      List.replicate 71 0 ++ [1, 2, 3, 4, 5, 6, 7, 0x88] ++ List.replicate 8 255
    Kind.mapping.Canonical record ∧
      ∃ r m, Record.decode record = .ok r ∧ r.get .mapping = .ok m ∧ m.encode = record := by
  intro record
  have h : Kind.mapping.Canonical record := by
    unfold record
    decide +kernel
  exact ⟨h, (encode_decode .mapping).1 record h⟩

end MarketFeed
