import MarketFeed.Router

set_option autoImplicit false

/-!
# What routing does to the symbol table

`Router.route_get?`: a record enters a symbol for an instrument just when it `maps` it, which is
read off its header and its size, and the symbol is read off fixed bytes (`Record.outSymbol`).
`Router.route_trade`: the symbol of a trade is the one in the table.
-/

namespace MarketFeed

namespace Record

/-- Whether the record maps the instrument: by its tag it is a mapping, and it is long enough. -/
def maps (r : Record) (id : UInt32) : Bool :=
  r.header.rtype == Kind.mapping.tag && decide (176 ≤ r.size) && r.header.instrumentId == id

/-- The `stype_out_symbol` of a mapping, a text field of 71 bytes. -/
def outSymbol (r : Record) : String := FixedField.read ((r.bytes.drop 89).take symbolWidth)

end Record

/-! ## Scans with enough bytes -/

namespace Scan

variable {bs : Bytes}

theorem take_run {n : Nat} (h : n ≤ bs.length) :
    (take n).run bs = some (bs.take n, bs.drop n) := if_pos h

theorem u8_run (h : 1 ≤ bs.length) : ∃ b, u8.run bs = some (b, bs.drop 1) := by
  cases bs with
  | nil => cases h
  | cons b bs => exact ⟨b, rfl⟩

theorem u64_run (h : 8 ≤ bs.length) : ∃ v, u64.run bs = some (v, bs.drop 8) := by
  refine ⟨UInt64.ofNat (LittleEndian.value (bs.take 8)), ?_⟩
  simp only [u64, StateT.run_bind, take_run h]
  rfl

theorem text_run (width : Nat) (h : width ≤ bs.length) :
    (text width).run bs = some (FixedField.read (bs.take width), bs.drop width) := by
  simp only [text, StateT.run_bind, take_run h]
  rfl

end Scan

/-- The body of a mapping can be read if it is long enough. -/
theorem SymbolMapping.scan_run {body : Bytes} (h : 160 ≤ body.length) :
    ∃ m rest, scan.run body = some (m, rest) ∧
      m.symbolOut = FixedField.read ((body.drop 73).take symbolWidth) := by
  let b₁ := body.drop 1
  let b₂ := b₁.drop symbolWidth
  let b₃ := b₂.drop 1
  let b₄ := b₃.drop symbolWidth
  let b₅ := b₄.drop 8
  have hw : symbolWidth = 71 := rfl
  have hb₁ : 159 ≤ b₁.length := by simp only [b₁, List.length_drop]; omega
  have hb₂ : 88 ≤ b₂.length := by simp only [b₂, List.length_drop]; omega
  have hb₃ : 87 ≤ b₃.length := by simp only [b₃, List.length_drop]; omega
  have hb₄ : 16 ≤ b₄.length := by simp only [b₄, List.length_drop]; omega
  have hb₅ : 8 ≤ b₅.length := by simp only [b₅, List.length_drop]; omega
  obtain ⟨stypeIn, h₁⟩ := Scan.u8_run (show 1 ≤ body.length by omega)
  have h₂ := Scan.text_run symbolWidth (show symbolWidth ≤ b₁.length by omega)
  obtain ⟨stypeOut, h₃⟩ := Scan.u8_run (show 1 ≤ b₂.length by omega)
  have h₄ := Scan.text_run symbolWidth (show symbolWidth ≤ b₃.length by omega)
  obtain ⟨startTs, h₅⟩ := Scan.u64_run (show 8 ≤ b₄.length by omega)
  obtain ⟨endTs, h₆⟩ := Scan.u64_run hb₅
  let m : SymbolMapping :=
    ⟨stypeIn, FixedField.read (b₁.take symbolWidth), stypeOut,
      FixedField.read (b₃.take symbolWidth), startTs, endTs⟩
  have hrun : scan.run body = some (m, b₅.drop 8) := by
    simp only [scan, StateT.run_bind, h₁, h₂, h₃, h₄, h₅, h₆, Option.bind_eq_bind,
      Option.bind_some, b₁, b₂, b₃, b₄, b₅]
    rfl
  refine ⟨m, b₅.drop 8, hrun, ?_⟩
  simp [m, b₃, b₂, b₁, List.drop_drop, symbolWidth]

namespace Kind

theorem ofTag?_tag (k : Kind) : ofTag? k.tag = some k := by
  cases k <;> rfl

theorem tag_of_ofTag? {b : UInt8} {k : Kind} (h : ofTag? b = some k) : k.tag = b := by
  simpa using List.find?_some h

/-- The reader of a kind reads bodies of this kind. -/
theorem scan_kind {k : Kind} {bs rest : Bytes} {body : Body}
    (h : k.scan.run bs = some (body, rest)) : body.kind = k := by
  cases k <;>
    · simp only [scan, StateT.run_bind, Option.bind_eq_bind, Option.bind_eq_some_iff] at h
      obtain ⟨_, -, h⟩ := h
      cases h
      rfl

end Kind

/-! ## Routing -/

namespace Router

variable {symbols : SymbolTable} {r : Record}

/-- A record with the tag of a mapping maps just if it is long enough. -/
theorem get_mapping (ht : r.header.rtype = Kind.mapping.tag) :
    (∃ m, r.get .mapping = .ok ⟨r.header, .mapping m⟩ ∧ 176 ≤ r.size ∧ m.symbolOut = r.outSymbol) ∨
      ∃ e, r.get .mapping = .error e ∧ r.size < 176 := by
  by_cases hsz : r.size < 176
  · refine .inr ⟨.bodyTooShort r.header.rtype (Kind.mapping.size - Header.width)
      (r.size - Header.width), ?_, hsz⟩
    simp [Record.get, ht, Kind.size, hsz]
  · have hb : 160 ≤ r.body.length := by
      simp only [Record.body, List.length_drop, Header.width, Record.size] at hsz ⊢
      omega
    obtain ⟨m, rest, hrun, hout⟩ := SymbolMapping.scan_run hb
    refine .inl ⟨m, ?_, by omega, ?_⟩
    · have hk : Kind.mapping.scan.run r.body = some (.mapping m, rest) := by
        simp only [Kind.scan, StateT.run_bind, hrun, Option.bind_eq_bind, Option.bind_some]
        rfl
      simp [Record.get, ht, Kind.size, hsz, hk]
    · rw [hout, Record.body, List.drop_drop]
      rfl

/-- A message that is read has the header of its record, and a body scanned from the record's. -/
theorem scan_of_get {k : Kind} {m : Message} (h : r.get k = .ok m) :
    m.header = r.header ∧ ∃ rest, k.scan.run r.body = some (m.body, rest) := by
  unfold Record.get at h
  split at h
  · cases h
  · split at h
    · cases h
    · split at h
      · rename_i body rest hs
        cases h
        exact ⟨rfl, rest, hs⟩
      · cases h

/-- What is read as a kind is of this kind. -/
theorem get_kind {k : Kind} {m : Message} (h : r.get k = .ok m) :
    m.header = r.header ∧ m.body.kind = k := by
  obtain ⟨hheader, rest, hs⟩ := scan_of_get h
  exact ⟨hheader, Kind.scan_kind hs⟩

theorem learn_of_kind {m : Message} (hk : m.body.kind ≠ .mapping) : learn symbols m = symbols := by
  obtain ⟨header, body⟩ := m
  cases body with
  | mapping => exact absurd rfl hk
  | trade | status | error | system => rfl

/-- A record that does not have the tag of a mapping changes nothing. -/
theorem route_other (ht : r.header.rtype ≠ Kind.mapping.tag) : (route symbols r).2 = symbols := by
  cases hk : Kind.ofTag? r.header.rtype with
  | none => simp [route, hk]
  | some k =>
    have hkm : k ≠ .mapping := by
      rintro rfl
      exact ht (Kind.tag_of_ofTag? hk).symm
    cases hg : r.get k with
    | error e => simp [route, hk, hg]
    | ok m =>
      have hl : learn symbols m = symbols := learn_of_kind (by rw [(get_kind hg).2]; exact hkm)
      cases hh : isHeartbeat m <;> simp [route, hk, hg, hh, hl]

/-- A record that makes no event changes nothing. -/
theorem route_no_event (h : ∀ ev, (route symbols r).1 ≠ .event ev) :
    (route symbols r).2 = symbols := by
  cases hk : Kind.ofTag? r.header.rtype with
  | none => simp [route, hk]
  | some k =>
    cases hg : r.get k with
    | error e => simp [route, hk, hg]
    | ok m =>
      cases hh : isHeartbeat m with
      | true => simp [route, hk, hg, hh]
      | false => exact absurd (by simp [route, hk, hg, hh]) (h (event (learn symbols m) m))

/-- The symbols known after a record: a record that maps an instrument enters its symbol, and no
other record changes anything. -/
theorem route_get? (symbols : SymbolTable) (r : Record) (id : UInt32) :
    (route symbols r).2.get? id = if r.maps id then some r.outSymbol else symbols.get? id := by
  by_cases ht : r.header.rtype = Kind.mapping.tag
  · have hk : Kind.ofTag? r.header.rtype = some .mapping := by rw [ht, Kind.ofTag?_tag]
    rcases get_mapping ht with ⟨m, hg, hsz, hout⟩ | ⟨e, hg, hsz⟩
    · have hr : (route symbols r).2 = symbols.insert r.header.instrumentId r.outSymbol := by
        simp [route, hk, hg, isHeartbeat, learn, hout]
      rw [hr, SymbolTable.get?_insert]
      by_cases hid : id = r.header.instrumentId
      · simp [Record.maps, ht, hsz, hid]
      · simp [Record.maps, ht, hsz, hid, Ne.symm hid]
    · have hm : r.maps id = false := by
        have : ¬ 176 ≤ r.size := by omega
        simp [Record.maps, this]
      simp [route, hk, hg, hm]
  · rw [route_other ht]
    simp [Record.maps, ht]

/-- An event of a record of a known kind is that of its message. -/
theorem event_of_route {k : Kind} {ev : Event} (hk : Kind.ofTag? r.header.rtype = some k)
    (h : (route symbols r).1 = .event ev) :
    ∃ m, r.get k = .ok m ∧ ev = event (learn symbols m) m ∧
      (route symbols r).2 = learn symbols m := by
  cases hg : r.get k with
  | error e => simp [route, hk, hg] at h
  | ok m =>
    cases hh : isHeartbeat m with
    | true => simp [route, hk, hg, hh] at h
    | false =>
      simp only [route, hk, hg, hh, Bool.false_eq_true, if_false, Routed.event.injEq] at h ⊢
      exact ⟨m, rfl, h.symm, rfl⟩

/-- Only a record with the tag of a trade becomes a trade, and its symbol is the one known for its
instrument. -/
theorem route_trade {ev : Event} (h : (route symbols r).1 = .event ev) (hk : ev.kind = .trade) :
    (route symbols r).2 = symbols ∧ ev.instrumentId = r.header.instrumentId ∧
      ev.symbol = symbols.resolve r.header.instrumentId := by
  cases ho : Kind.ofTag? r.header.rtype with
  | none =>
    simp only [route, ho, Routed.event.injEq] at h
    subst h
    cases hk
  | some k =>
    obtain ⟨m, hg, rfl, hlearn⟩ := event_of_route ho h
    obtain ⟨hd, -⟩ := get_kind hg
    obtain ⟨header, body⟩ := m
    cases body with
    | trade t =>
      subst hd
      exact ⟨hlearn, rfl, rfl⟩
    | mapping | status | error | system => cases hk

end Router

end MarketFeed
