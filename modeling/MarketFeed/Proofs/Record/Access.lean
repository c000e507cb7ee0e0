import MarketFeed.Proofs.Record.Canonical

set_option autoImplicit false

/-!
# What a typed record depends on

`Kind.Idle k bs i`: the byte at `i` of a record of the kind says nothing, since it stands beyond the
kind's size, is not used, or follows the NUL that ends a text. Two records that agree in all other
bytes past the length byte are read as the same message, up to the length (`Record.get_agree`).
`typed_access` says this of every record that was decoded, and when it is not read at all.
-/

namespace MarketFeed

/-- The byte at `i` of the field's bytes is not seen. -/
def Field.Idle : Field → Bytes → Nat → Prop
  | number _, _, _ | char, _, _ => False
  | text _, bs, i => ∃ j : Nat, j < i ∧ bs[j]? = some 0
  | unused _, _, _ => True

/-- The byte at `i` of a record of the kind is not seen. -/
def Kind.Idle (k : Kind) (bs : Bytes) (i : Nat) : Prop :=
  k.size ≤ i ∨
    ∃ p ∈ k.fields, p.1 ≤ i ∧ i < p.1 + p.2.width ∧ p.2.Idle (p.2.cut p.1 bs) (i - p.1)

/-! ## What is seen of a layout -/

/-- Texts that agree up to their first NUL are the same up to it. -/
theorem takeWhile_eq_of_agree {bs bs' : Bytes} (hl : bs.length = bs'.length)
    (h : ∀ i : Nat, ¬ (∃ j : Nat, j < i ∧ bs[j]? = some 0) → bs'[i]? = bs[i]?) :
    bs.takeWhile (· != 0) = bs'.takeWhile (· != 0) := by
  induction bs generalizing bs' with
  | nil =>
    rw [List.length_nil] at hl
    rw [List.length_eq_zero_iff.mp hl.symm]
  | cons b bs ih =>
    cases bs' with
    | nil => cases hl
    | cons b' bs' =>
      have hb : b' = b := by
        have h0 := h 0 (by rintro ⟨j, hj, -⟩; cases hj)
        exact Option.some.inj h0
      subst hb
      by_cases hz : b' = 0
      · simp [hz]
      · have hne : (b' != 0) = true := by simpa using hz
        have htail : bs.takeWhile (· != 0) = bs'.takeWhile (· != 0) := by
          refine ih (by simpa using hl) fun i hi => ?_
          refine h (i + 1) ?_
          rintro ⟨j, hj, hj0⟩
          cases j with
          | zero => exact hz (Option.some.inj hj0)
          | succ j => exact hi ⟨j, by omega, hj0⟩
        rw [List.takeWhile_cons, List.takeWhile_cons, if_pos hne, if_pos hne, htail]

theorem Field.seen_eq_of_agree {f : Field} {bs bs' : Bytes} (hl : bs.length = bs'.length)
    (h : ∀ i, ¬ f.Idle bs i → bs'[i]? = bs[i]?) : f.seen bs = f.seen bs' := by
  cases f with
  | number w => exact (List.ext_getElem? fun i => h i id).symm
  | char => exact (List.ext_getElem? fun i => h i id).symm
  | text w => exact takeWhile_eq_of_agree hl h
  | unused w => rfl

/-- Byte strings that agree wherever no field of the layout is idle are alike. -/
theorem Layout.alike_of_agree {l : Layout} {start : Nat} {bs bs' : Bytes}
    (hb : start + l.width ≤ bs.length) (hb' : start + l.width ≤ bs'.length)
    (h : ∀ i, start ≤ i → i < start + l.width →
      (∀ p ∈ l.fields start, p.1 ≤ i → i < p.1 + p.2.width →
        ¬ p.2.Idle (p.2.cut p.1 bs) (i - p.1)) → bs'[i]? = bs[i]?) :
    Alike l (bs.drop start) (bs'.drop start) := by
  induction l generalizing start with
  | nil => trivial
  | cons f l ih =>
    rw [width] at hb hb' h
    have hcut : (f.cut start bs).length = f.width := Field.length_cut (by omega)
    have hcut' : (f.cut start bs').length = f.width := Field.length_cut (by omega)
    refine ⟨by rw [List.length_drop]; omega, by rw [List.length_drop]; omega, ?_, ?_⟩
    · refine Field.seen_eq_of_agree (by rw [← Field.cut, ← Field.cut, hcut, hcut']) fun i hi => ?_
      by_cases hlt : i < f.width
      · rw [List.getElem?_take_of_lt hlt, List.getElem?_take_of_lt hlt, List.getElem?_drop,
          List.getElem?_drop]
        refine h (start + i) (by omega) (by omega) fun p hp hle _ => ?_
        rcases List.mem_cons.mp hp with rfl | hp
        · rwa [Nat.add_sub_cancel_left]
        · have := (fields_within hp).1
          omega
      · rw [List.getElem?_eq_none (by rw [← Field.cut, hcut']; omega),
          List.getElem?_eq_none (by rw [← Field.cut, hcut]; omega)]
    · rw [List.drop_drop, List.drop_drop]
      refine ih (by omega) (by omega) fun i hi hlt hidle => ?_
      refine h i (by omega) (by omega) fun p hp hle hend => ?_
      rcases List.mem_cons.mp hp with rfl | hp
      · dsimp only at hend
        omega
      · exact hidle p hp hle hend

/-! ## Records that agree -/

theorem Header.bytes_inj {h h' : Header} (he : h.bytes = h'.bytes) : h = h' := by
  have hr := h.reads_scan
  rw [he] at hr
  exact hr.unique h'.reads_scan

namespace Record

variable {buffer buffer' : Bytes} {r r' : Record} {k : Kind} {m : Message}

theorem get_of_scan (ht : r.header.rtype = k.tag) (hs : k.size ≤ r.size) {b : Body} {rest : Bytes}
    (h : k.scan.run r.body = some (b, rest)) : r.get k = .ok ⟨r.header, b⟩ := by
  have hsz : ¬ r.size < k.size := Nat.not_lt.mpr hs
  simp only [get, ht, ne_eq, not_true_eq_false, if_false, hsz, h]

theorem tag_of_get (h : r.get k = .ok m) : r.header.rtype = k.tag := by
  by_cases ht : r.header.rtype = k.tag
  · exact ht
  · rw [get, if_pos ht] at h
    cases h

/-- The first byte of a record is its length. -/
theorem length_eq (h : decode buffer = .ok r) : r.bytes[0]? = some r.header.length := by
  have hi : r.header.bytes ++ r.body = r.bytes := intact_of_decode h
  rw [← hi]
  rfl

/-- Headers that agree past the first byte are the same up to the length. -/
theorem header_agree (hd : decode buffer = .ok r) (hd' : decode buffer' = .ok r')
    (h : ∀ i, i ≠ 0 → i < Header.width → r'.bytes[i]? = r.bytes[i]?) :
    r'.header = { r.header with length := r'.header.length } := by
  apply Header.bytes_inj
  have htail : r'.header.bytes.drop 1 = r.header.bytes.drop 1 := by
    rw [← header_bytes hd, ← header_bytes hd']
    refine List.ext_getElem? fun i => ?_
    rw [List.getElem?_drop, List.getElem?_drop]
    by_cases hi : 1 + i < Header.width
    · rw [List.getElem?_take_of_lt hi, List.getElem?_take_of_lt hi]
      exact h _ (by omega) hi
    · rw [List.getElem?_eq_none (by rw [List.length_take]; omega),
        List.getElem?_eq_none (by rw [List.length_take]; omega)]
  show r'.header.length :: r'.header.bytes.drop 1 = r'.header.length :: r.header.bytes.drop 1
  rw [htail]

/-- A record that agrees with one that was read, in all bytes that are seen, is read as the same
message with its own length. -/
theorem get_agree (hd : decode buffer = .ok r) (hd' : decode buffer' = .ok r')
    (hs : k.size ≤ r.size) (hs' : k.size ≤ r'.size) (hm : r.get k = .ok m)
    (h : ∀ i, i ≠ 0 → ¬ k.Idle r.bytes i → r'.bytes[i]? = r.bytes[i]?) :
    r'.get k = .ok ⟨{ m.header with length := r'.header.length }, m.body⟩ := by
  have hwidth := k.width_layout
  have hheader : r'.header = { r.header with length := r'.header.length } := by
    refine header_agree hd hd' fun i hi hlt => h i hi ?_
    rintro (hsz | ⟨p, hp, hle, -, -⟩)
    · omega
    · have := (Kind.fields_within hp).1
      omega
  have halike : k.layout.Alike r.body r'.body := by
    refine Layout.alike_of_agree (by rw [hwidth]; exact hs) (by rw [hwidth]; exact hs')
      fun i hi hlt hidle => h i ?_ ?_
    · rw [Header.width] at hi
      omega
    · rintro (hsz | ⟨p, hp, hle, hend, hpi⟩)
      · omega
      · exact hidle p hp hle hend hpi
  obtain ⟨b, hrun, hrun'⟩ := k.follows_scan _ _ halike.left
  obtain ⟨hmh, rest, hbody⟩ := Router.scan_of_get hm
  have hb : b = m.body := by
    rw [hrun] at hbody
    cases hbody
    rfl
  have ht' : r'.header.rtype = k.tag := by
    rw [hheader]
    exact tag_of_get hm
  rw [get_of_scan ht' hs' hrun', hb, hmh, ← hheader]

/-- The bytes after a record's kind may be replaced by any others that make up the length. -/
theorem get_extended (hd : decode buffer = .ok r) (hs : k.size ≤ r.size) (hm : r.get k = .ok m)
    {length : UInt8} {tail : Bytes} (hle : k.size ≤ 4 * length.toNat)
    (hge : 4 * length.toNat ≤ k.size + tail.length) :
    ∃ r', decode (length :: ((r.bytes.take k.size).drop 1 ++ tail)) = .ok r' ∧
      r'.get k = .ok ⟨{ m.header with length }, m.body⟩ := by
  have hw : 16 ≤ k.size := k.size_eq.2
  let changed := length :: ((r.bytes.take k.size).drop 1 ++ tail)
  let f := changed.take (4 * length.toNat)
  have htake : ((r.bytes.take k.size).drop 1).length = k.size - 1 := by
    rw [List.length_drop, List.length_take_of_le hs]
  have hlen : changed.length = k.size + tail.length := by
    simp only [changed, List.length_cons, List.length_append, htake]
    omega
  have hflen : f.length = 4 * length.toNat := List.length_take_of_le (by rw [hlen]; exact hge)
  have hframe : IsFrame f := by
    have hhead : f[0]? = some length := List.getElem?_take_of_lt (by omega)
    refine ⟨?_, by rw [hflen, Header.width]; omega⟩
    rw [hflen, List.headD_eq_head?_getD, List.head?_eq_getElem?, hhead]
    rfl
  obtain ⟨header, -, hdec⟩ := decode_frame hframe (changed.drop (4 * length.toNat))
  rw [List.take_append_drop] at hdec
  have hlength : header.length = length := by
    have h0 := length_eq hdec
    have hhead : f[0]? = some length := List.getElem?_take_of_lt (by omega)
    rw [hhead] at h0
    exact (Option.some.inj h0).symm
  refine ⟨_, hdec, ?_⟩
  have hget := get_agree hd hdec hs (by rw [size, hflen]; exact hle) hm ?_
  · rwa [hlength] at hget
  · intro i hi hidle
    have hlt : i < k.size := Nat.not_le.mp fun h => hidle (.inl h)
    obtain ⟨j, rfl⟩ := Nat.exists_eq_succ_of_ne_zero hi
    show f[j + 1]? = _
    rw [List.getElem?_take_of_lt (by omega), List.getElem?_cons_succ,
      List.getElem?_append_left (by omega), List.getElem?_drop, Nat.add_comm 1 j,
      List.getElem?_take_of_lt hlt]

/-- A reader takes the bytes that the kind uses, and no others. -/
theorem scan_exact (hs : k.size ≤ r.size) (hm : r.get k = .ok m) :
    (∀ n, k.read.width ≤ n →
      k.scan.run (r.body.take n) = some (m.body, (r.body.take n).drop k.read.width)) ∧
      ∀ n < k.read.width, k.scan.run (r.body.take n) = none := by
  have htakes := k.takes_scan
  rw [← k.width_read] at htakes
  have hb : k.read.width ≤ r.body.length := by
    rw [body, List.length_drop, k.width_read]
    exact Nat.le_trans (Nat.sub_le ..) (Nat.sub_le_sub_right hs _)
  obtain ⟨b, hreads, hrun⟩ := htakes.run hb
  obtain ⟨-, rest, hbody⟩ := Router.scan_of_get hm
  have hbm : b = m.body := by
    rw [hrun] at hbody
    cases hbody
    rfl
  refine ⟨fun n hn => ?_, fun n hn => htakes.short _ ?_⟩
  · have h := hreads ((r.body.take n).drop k.read.width)
    have hfront : r.body.take k.read.width = (r.body.take n).take k.read.width := by
      rw [List.take_take, Nat.min_eq_left hn]
    rwa [hfront, List.take_append_drop, hbm] at h
  · rw [List.length_take]
    omega

theorem get_unexpected_iff {expected actual : UInt8} :
    r.get k = .error (.unexpectedType expected actual) ↔
      r.header.rtype ≠ k.tag ∧ expected = k.tag ∧ actual = r.header.rtype := by
  by_cases ht : r.header.rtype = k.tag
  · by_cases hs : r.size < k.size
    · simp [get, ht, hs]
    · obtain ⟨m, hm⟩ := get_long ht (Nat.le_of_not_lt hs)
      simp [hm, ht]
  · rw [get, if_pos ht, Except.error.injEq, DecodeError.unexpectedType.injEq, eq_comm (a := k.tag),
      eq_comm (a := r.header.rtype)]
    exact (and_iff_right ht).symm

theorem get_tooShort_iff {tag : UInt8} {need available : Nat} :
    r.get k = .error (.bodyTooShort tag need available) ↔
      r.header.rtype = k.tag ∧ r.size < k.size ∧ tag = k.tag ∧ need = k.size - Header.width ∧
        available = r.size - Header.width := by
  by_cases ht : r.header.rtype = k.tag
  · by_cases hs : r.size < k.size
    · simp only [get, ht, ne_eq, not_true_eq_false, if_false, hs, if_true, Except.error.injEq,
        DecodeError.bodyTooShort.injEq, true_and]
      exact and_congr eq_comm (and_congr eq_comm eq_comm)
    · obtain ⟨m, hm⟩ := get_long ht (Nat.le_of_not_lt hs)
      simp [hm, hs]
  · simp [get, ht]

end Record

/-- What a decoder cut off a buffer, read as one of the kinds:

* A record is a header and a body of the buffer, 16 bytes or more of it, and no kind is smaller.
* Each field of the kind stands behind the header and inside of the kind's size.
* The tag is refused just if it is not the kind's. A record is too short just if its tag is the
  kind's and its size is below the kind's; the error says how many bytes a body has and needs.
* Otherwise a message is read. The bytes of the body up to the last field that is read are enough,
  however many follow, and with fewer of them there is no answer. They are all that the kind's size
  leaves for the body, but for seven unused bytes of a status.
* Any other record that agrees in the bytes that are seen is read as the same message, with its own
  length; and whatever bytes stand behind the kind's size, up to any length that they make up, the
  message is the same but for the length. -/
theorem typed_access {buffer : Bytes} {r : Record} (hd : Record.decode buffer = .ok r) (k : Kind) :
    (r.header.bytes ++ r.body = r.bytes ∧ r.bytes ++ buffer.drop r.size = buffer ∧
      r.size = 4 * r.header.length.toNat ∧ Header.width ≤ r.size ∧ Header.width ≤ k.size) ∧
    (∀ p ∈ k.fields, Header.width ≤ p.1 ∧ p.1 + p.2.width ≤ k.size) ∧
    (∀ expected actual, r.get k = .error (.unexpectedType expected actual) ↔
      r.header.rtype ≠ k.tag ∧ expected = k.tag ∧ actual = r.header.rtype) ∧
    (∀ tag need available, r.get k = .error (.bodyTooShort tag need available) ↔
      r.header.rtype = k.tag ∧ r.size < k.size ∧ tag = k.tag ∧ need = k.size - Header.width ∧
        available = r.size - Header.width) ∧
    (r.header.rtype = k.tag → k.size ≤ r.size →
      ∃ m, r.get k = .ok m ∧ m.header = r.header ∧ m.body.kind = k ∧
        Header.width + k.read.width + (if k = .status then 7 else 0) = k.size ∧
        (∀ n, k.read.width ≤ n →
          k.scan.run (r.body.take n) = some (m.body, (r.body.take n).drop k.read.width)) ∧
        (∀ n < k.read.width, k.scan.run (r.body.take n) = none) ∧
        (∀ buffer' r', Record.decode buffer' = .ok r' → k.size ≤ r'.size →
          (∀ i, i ≠ 0 → ¬ k.Idle r.bytes i → r'.bytes[i]? = r.bytes[i]?) →
          r'.get k = .ok ⟨{ m.header with length := r'.header.length }, m.body⟩) ∧
        ∀ length tail, k.size ≤ 4 * length.toNat → 4 * length.toNat ≤ k.size + tail.length →
          ∃ r', Record.decode (length :: ((r.bytes.take k.size).drop 1 ++ tail)) = .ok r' ∧
            r'.get k = .ok ⟨{ m.header with length }, m.body⟩) := by
  obtain ⟨hframe, hread, hbuffer⟩ := Record.decode_ok hd
  refine ⟨⟨Record.intact_of_decode hd, hbuffer.symm, ?_, hframe.2, k.size_eq.2⟩,
    fun p hp => Kind.fields_within hp, fun _ _ => Record.get_unexpected_iff,
    fun _ _ _ => Record.get_tooShort_iff, fun ht hs => ?_⟩
  · have h0 := Record.length_eq hd
    have hlen : r.bytes.length = 4 * (r.bytes.headD 0).toNat := hframe.1
    rwa [List.headD_eq_head?_getD, List.head?_eq_getElem?, h0] at hlen
  · obtain ⟨m, hm⟩ := Record.get_long ht hs
    obtain ⟨hheader, hkind⟩ := Router.get_kind hm
    obtain ⟨hexact, hshort⟩ := Record.scan_exact hs hm
    have hwidth : Header.width + k.read.width + (if k = .status then 7 else 0) = k.size := by
      cases k <;> rfl
    exact ⟨m, hm, hheader, hkind, hwidth, hexact, hshort,
      fun _ _ hd' hs' h => Record.get_agree hd hd' hs hs' hm h,
      fun _ _ hle hge => Record.get_extended hd hs hm hle hge⟩

/-- A trade that is made a word longer is the same trade. -/
theorem typed_access_trade :
    let trade : Message := ⟨.bare 0 1 2 3, .trade ⟨-5, 7, 'T', 'B', 0, 1, 4, -6, 8⟩⟩
    Record.decode trade.encode = .ok ⟨trade.wireHeader, trade.encode⟩ ∧
      ∃ r, Record.decode (13 :: ((trade.encode.take 48).drop 1 ++ [9, 9, 9, 9])) = .ok r ∧
        r.get .trade = .ok ⟨{ trade.wireHeader with length := 13 }, trade.body⟩ := by
  intro trade
  have hd : Record.decode trade.encode = .ok ⟨trade.wireHeader, trade.encode⟩ := by
    have h := trade.decode_encode_append []
    rwa [List.append_nil] at h
  obtain ⟨m, hm, -, -, -, -, -, -, hlonger⟩ :=
    (typed_access hd .trade).2.2.2.2 rfl (Nat.le_of_eq trade.length_encode.symm)
  have hkept : m = ⟨trade.wireHeader, trade.body.kept⟩ :=
    Except.ok.inj (hm.symm.trans trade.get_encode)
  obtain ⟨r, hr, hget⟩ := hlonger 13 [9, 9, 9, 9] (by decide) (by decide)
  refine ⟨hd, r, hr, ?_⟩
  rw [hkept] at hget
  exact hget

end MarketFeed
