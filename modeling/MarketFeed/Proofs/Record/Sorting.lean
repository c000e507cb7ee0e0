import MarketFeed.Proofs.Record.Scan
import MarketFeed.Proofs.Routing

set_option autoImplicit false

/-!
# What becomes of a record

Routing makes an event of a record, or suppresses it, or fails. Which of the three it is can be read
off the bytes: `Record.isHeartbeat` and `Record.isShort` look at the tag, the size and, of a notice,
the fields. `Router.route_sorted` says that routing agrees, whatever the symbols known.
-/

namespace MarketFeed

namespace Record

/-- The code of a notice, its last byte. -/
def noticeCode (r : Record) : UInt8 := (r.bytes.drop 319).headD 0

/-- The text of a notice, a field of 303 bytes. -/
def noticeText (r : Record) : String :=
  FixedField.read ((r.bytes.drop Header.width).take systemTextWidth)

/-- Whether the record is a whole notice that marks a heartbeat: by code zero, or in its text if the
code is undefined. -/
def isHeartbeat (r : Record) : Bool :=
  r.header.rtype == Kind.system.tag && decide (320 ≤ r.size) &&
    (r.noticeCode == 0 ||
      r.noticeCode == undefinedCode && "Heartbeat".toList.isPrefixOf r.noticeText.toList)

/-- Whether the record has the tag of a kind with a body and is too short for it. -/
def isShort (r : Record) : Bool :=
  (Kind.ofTag? r.header.rtype).any fun k => decide (r.size < k.size)

/-- Whether the record is routed to an event: it is neither a heartbeat nor too short. -/
def isRouted (r : Record) : Bool := !r.isHeartbeat && !r.isShort

/-- Only a record with the tag of a notice is a heartbeat. -/
theorem not_isHeartbeat_of_rtype {r : Record} (h : r.header.rtype ≠ Kind.system.tag) :
    r.isHeartbeat = false := by
  simp [isHeartbeat, h]

/-- A heartbeat is not too short. -/
theorem isShort_of_isHeartbeat {r : Record} (h : r.isHeartbeat = true) : r.isShort = false := by
  simp only [isHeartbeat, Bool.and_eq_true, beq_iff_eq, decide_eq_true_eq] at h
  obtain ⟨⟨ht, hsz⟩, -⟩ := h
  have hk : Kind.ofTag? r.header.rtype = some .system := by rw [ht, Kind.ofTag?_tag]
  have hn : ¬ r.size < Kind.system.size := Nat.not_lt.mpr hsz
  simp [isShort, hk, hn]

end Record

/-! ## Whole bodies -/

namespace Scan

theorem takes_char : Takes char 1 := takes_u8.map _

theorem takes_i32 : Takes i32 4 := takes_u32.map _

theorem takes_i64 : Takes i64 8 := takes_u64.map _

theorem takes_text (width : Nat) : Takes (text width) width := (takes_take width).map _

end Scan

open Scan in
/-- The reader of a kind takes the bytes of the body that are used. -/
theorem Kind.takes_scan (k : Kind) : Takes k.scan (k.size - Header.width - k.unused) := by
  cases k with
  | trade =>
    have h : Takes Trade.scan (8 + (4 + (1 + (1 + (1 + (1 + (8 + (4 + 4)))))))) :=
      takes_i64.bind fun _ => takes_u32.bind fun _ => takes_char.bind fun _ =>
        takes_char.bind fun _ => takes_u8.bind fun _ => takes_u8.bind fun _ =>
        takes_u64.bind fun _ => takes_i32.bind fun _ => takes_u32.map _
    exact h.map Body.trade
  | status =>
    have h : Takes TradingStatus.scan (8 + (2 + (2 + (2 + (1 + (1 + 1)))))) :=
      takes_u64.bind fun _ => takes_u16.bind fun _ => takes_u16.bind fun _ =>
        takes_u16.bind fun _ => takes_char.bind fun _ => takes_char.bind fun _ => takes_char.map _
    exact h.map Body.status
  | error =>
    have h : Takes GatewayError.scan (302 + (1 + 1)) :=
      (takes_text 302).bind fun _ => takes_u8.bind fun _ => takes_u8.map _
    exact h.map Body.error
  | mapping =>
    have h : Takes SymbolMapping.scan (1 + (71 + (1 + (71 + (8 + 8))))) :=
      takes_u8.bind fun _ => (takes_text 71).bind fun _ => takes_u8.bind fun _ =>
        (takes_text 71).bind fun _ => takes_u64.bind fun _ => takes_u64.map _
    exact h.map Body.mapping
  | system =>
    have h : Takes SystemNotice.scan (303 + 1) :=
      (takes_text 303).bind fun _ => takes_u8.map _
    exact h.map Body.system

namespace Record

variable {r : Record} {k : Kind}

theorem get_short (ht : r.header.rtype = k.tag) (h : r.size < k.size) :
    ∃ e, r.get k = .error e := by
  refine ⟨.bodyTooShort k.tag (k.size - Header.width) (r.size - Header.width), ?_⟩
  simp only [get, ht, ne_eq, not_true_eq_false, if_false, h, if_true]

/-- A record that is long enough for the kind of its tag can be read. -/
theorem get_long (ht : r.header.rtype = k.tag) (h : k.size ≤ r.size) : ∃ m, r.get k = .ok m := by
  have hb : k.size - Header.width ≤ r.body.length := by
    simp only [body, List.length_drop, size] at h ⊢
    omega
  obtain ⟨b, -, hrun⟩ := k.takes_scan.run (Nat.le_trans (Nat.sub_le ..) hb)
  have hsz : ¬ r.size < k.size := Nat.not_lt.mpr h
  exact ⟨⟨r.header, b⟩, by simp only [get, ht, ne_eq, not_true_eq_false, if_false, hsz, hrun]⟩

theorem u8_run_headD {bs : Bytes} (h : 1 ≤ bs.length) :
    Scan.u8.run bs = some (bs.headD 0, bs.drop 1) := by
  cases bs with
  | nil => cases h
  | cons b bs => rfl

/-- A notice as it is read. -/
theorem get_notice (ht : r.header.rtype = Kind.system.tag) (h : 320 ≤ r.size) :
    r.get .system = .ok ⟨r.header, .system ⟨r.noticeText, r.noticeCode⟩⟩ := by
  have hb : 304 ≤ r.body.length := by
    simp only [body, List.length_drop, size, Header.width] at h ⊢
    omega
  have hw : systemTextWidth ≤ r.body.length := by
    simp only [systemTextWidth]
    omega
  have hd : 1 ≤ (r.body.drop systemTextWidth).length := by
    simp only [List.length_drop, systemTextWidth]
    omega
  have hrun : SystemNotice.scan.run r.body =
      some (⟨r.noticeText, r.noticeCode⟩, (r.body.drop systemTextWidth).drop 1) := by
    simp only [SystemNotice.scan, StateT.run_bind, Scan.text_run systemTextWidth hw,
      u8_run_headD hd, Option.bind_eq_bind, Option.bind_some]
    simp only [noticeText, noticeCode, body, List.drop_drop]
    rfl
  have hsz : ¬ r.size < Kind.system.size := Nat.not_lt.mpr h
  simp only [get, ht, ne_eq, not_true_eq_false, if_false, hsz, Kind.scan, StateT.run_bind, hrun,
    Option.bind_eq_bind, Option.bind_some]
  rfl

end Record

/-! ## Routing -/

namespace Router

/-- What routing makes of a record, by its bytes. -/
inductive Sorted (r : Record) : Routed → Prop
  | suppressed : r.isHeartbeat = true → r.isShort = false → Sorted r .suppressed
  | failed {e : DecodeError} : r.isHeartbeat = false → r.isShort = true → Sorted r (.failed e)
  | event {ev : Event} : r.isHeartbeat = false → r.isShort = false → Sorted r (.event ev)

theorem isHeartbeat_of_kind {m : Message} (h : m.body.kind ≠ .system) :
    Router.isHeartbeat m = false := by
  obtain ⟨header, body⟩ := m
  cases body with
  | system => exact absurd rfl h
  | trade | status | error | mapping => rfl

theorem isHeartbeat_notice (hd : Header) (n : SystemNotice) :
    Router.isHeartbeat ⟨hd, .system n⟩ = (n.code == 0 ||
      n.code == undefinedCode && "Heartbeat".toList.isPrefixOf n.msg.toList) := by
  simp only [isHeartbeat, SystemNotice.isHeartbeat]
  by_cases hu : n.code = undefinedCode
  · have hz : (n.code == 0) = false := by rw [hu]; rfl
    rw [if_pos hu, hz, hu]
    simp
  · have hub : (n.code == undefinedCode) = false := by simpa using hu
    rw [if_neg hu, hub, Bool.false_and, Bool.or_false]
    rfl

/-- The message that is read of a record marks a heartbeat if the bytes do. -/
theorem isHeartbeat_of_get {r : Record} {k : Kind} (ht : r.header.rtype = k.tag)
    (hsz : k.size ≤ r.size) {m : Message} (hm : r.get k = .ok m) :
    isHeartbeat m = r.isHeartbeat := by
  by_cases hsys : k = .system
  · subst hsys
    have h320 : 320 ≤ r.size := hsz
    rw [Record.get_notice ht h320] at hm
    cases hm
    rw [isHeartbeat_notice]
    simp [Record.isHeartbeat, ht, h320]
  · rw [isHeartbeat_of_kind (by rw [(get_kind hm).2]; exact hsys), Record.not_isHeartbeat_of_rtype]
    intro he
    have hk := Kind.ofTag?_tag k
    rw [← ht, he, Kind.ofTag?_tag] at hk
    exact hsys (Option.some.inj hk).symm

/-- Routing agrees with what the bytes say. -/
theorem route_sorted (symbols : SymbolTable) (r : Record) : Sorted r (route symbols r).1 := by
  cases hk : Kind.ofTag? r.header.rtype with
  | none =>
    have hh : r.isHeartbeat = false := by
      refine Record.not_isHeartbeat_of_rtype fun ht => ?_
      rw [ht, Kind.ofTag?_tag] at hk
      cases hk
    simp only [route, hk]
    exact .event hh (by simp [Record.isShort, hk])
  | some k =>
    have ht : r.header.rtype = k.tag := (Kind.tag_of_ofTag? hk).symm
    by_cases hsz : r.size < k.size
    · have hs : r.isShort = true := by simp [Record.isShort, hk, hsz]
      have hh : r.isHeartbeat = false := by
        cases hb : r.isHeartbeat with
        | false => rfl
        | true => rw [Record.isShort_of_isHeartbeat hb] at hs; cases hs
      obtain ⟨e, he⟩ := Record.get_short ht hsz
      have hr : (route symbols r).1 = .failed e := by simp only [route, hk, he]
      rw [hr]
      exact .failed hh hs
    · have hs : r.isShort = false := by simpa [Record.isShort, hk] using hsz
      obtain ⟨m, hm⟩ := Record.get_long ht (Nat.le_of_not_lt hsz)
      have hh := isHeartbeat_of_get ht (Nat.le_of_not_lt hsz) hm
      cases hb : Router.isHeartbeat m with
      | true =>
        have hr : (route symbols r).1 = .suppressed := by simp [route, hk, hm, hb]
        rw [hr]
        exact .suppressed (hh ▸ hb) hs
      | false =>
        have hr : (route symbols r).1 = .event (event (learn symbols m) m) := by
          simp [route, hk, hm, hb]
        rw [hr]
        exact .event (hh ▸ hb) hs

end Router

end MarketFeed
