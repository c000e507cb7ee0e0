import MarketFeed.Proofs.Json.Messages
import MarketFeed.Proofs.Record.Spelling
import MarketFeed.Proofs.Session.Symbols

set_option autoImplicit false

/-!
# Calls pass the boundary unaltered

A foreign callback is given what the callbacks of a session are given. A record is its header and
its body, from which its bytes can be put together again (`Record.Intact`), and the texts of an
event and of metadata lose nothing, as they have no NUL. Only the message of a fault may have one,
which becomes a blank. `Session.Portable` is the invariant that makes it so for every call of every
run (`Session.Portable.run`).
-/

namespace MarketFeed

/-! ## Events -/

namespace Router

variable {symbols : SymbolTable}

theorem route_table_nulFree (hs : symbols.NulFree) (r : Record) : (route symbols r).2.NulFree := by
  intro id symbol hid
  rw [route_get?] at hid
  split at hid
  · rw [← Option.some.inj hid]
    exact FixedField.nul_not_mem_read _
  · exact hs id symbol hid

theorem event_nulFree (hs : symbols.NulFree) (m : Message) : (event symbols m).NulFree := by
  have htext := m.json_wellSpelt.nul_not_mem_compact
  have hempty : '\x00' ∉ "".toList := by decide
  unfold event
  split
  · exact ⟨hempty, htext⟩
  · exact ⟨hs.resolve _, htext⟩
  all_goals exact ⟨hempty, htext⟩

theorem nul_not_mem_unhandled (tag : UInt8) :
    '\x00' ∉ ("Unhandled record rtype=" ++ DecodeError.hexTag tag).toList := by
  have hb := (Json.printable_hexByte tag).nul_not_mem
  rw [DecodeError.hexTag, String.toList_append, String.toList_append, List.mem_append,
    List.mem_append, not_or, not_or]
  exact ⟨by decide, by decide, by rwa [String.toList_ofList]⟩

theorem route_event_nulFree (hs : symbols.NulFree) {r : Record} {ev : Event}
    (h : (route symbols r).1 = .event ev) : ev.NulFree := by
  have htable := route_table_nulFree hs r
  cases hk : Kind.ofTag? r.header.rtype with
  | none =>
    simp only [route, hk, Routed.event.injEq] at h
    have hempty : '\x00' ∉ "".toList := by decide
    rw [← h]
    exact ⟨hempty, nul_not_mem_unhandled _⟩
  | some kind =>
    obtain ⟨m, -, rfl, hlearn⟩ := event_of_route hk h
    rw [hlearn] at htable
    exact event_nulFree htable m

end Router

/-! ## Calls -/

/-- The foreign callback is given what the call carries, unaltered; but the message of a fault gets
through only if it has no NUL. -/
def Call.Verbatim (c : Call) : Prop :=
  match c with
  | .record r => ∃ header body, c.foreign = .record header body ∧ header.bytes ++ body = r.bytes
  | .event ev _ => c.foreign = .event ev.kind.name ev.instrumentId ev.symbol ev.text
  | .metadata m => c.foreign = .metadata m.json.compact
  | .exception cause => c.foreign = .exception cause.message ↔ '\x00' ∉ cause.message.toList

/-- What the call carries can be passed on. -/
def Call.Portable : Call → Prop
  | .record r => r.Intact
  | .event ev r => ev.NulFree ∧ r.Intact
  | .metadata _ | .exception _ => True

@[simp] theorem Call.portable_timeless (c : Call) : c.timeless.Portable ↔ c.Portable := by
  cases c <;> exact .rfl

theorem EventKind.nul_not_mem_name (k : EventKind) : '\x00' ∉ k.name.toList := by
  cases k <;> decide

theorem Call.Portable.verbatim {c : Call} (h : c.Portable) : c.Verbatim := by
  cases c with
  | record r => exact ⟨_, _, rfl, h⟩
  | event ev r =>
    have hname := Boundary.withoutNul_eq_iff.mpr ev.kind.nul_not_mem_name
    have hsymbol := Boundary.withoutNul_eq_iff.mpr h.1.symbol
    have htext := Boundary.withoutNul_eq_iff.mpr h.1.text
    simp only [Verbatim, foreign, hname, hsymbol, htext]
  | metadata m =>
    have hjson := Boundary.withoutNul_eq_iff.mpr m.json_wellSpelt.nul_not_mem_compact
    simp only [Verbatim, foreign, hjson]
  | exception cause => simp only [Verbatim, foreign, ForeignCall.exception.injEq,
      Boundary.withoutNul_eq_iff]

/-! ## Runs -/

namespace Session

/-- The symbols that are known can be passed on, and so can what the callback that runs was given. -/
structure Portable (s : Session) : Prop where
  symbols : s.symbols.NulFree
  calling : ∀ c, s.calling = some c → c.Portable

variable {s s' : Session} {t : List Mark}

theorem offered_decoded {m : Move} {r : Record} (h : s.offered m = some r) : r.Intact := by
  have hdecoded : ∀ {bytes : Bytes}, (Record.decode bytes).toOption = some r → r.Intact := by
    intro bytes hd
    cases hb : Record.decode bytes with
    | error e =>
      rw [hb] at hd
      cases hd
    | ok r' =>
      rw [hb] at hd
      cases hd
      exact Record.intact_of_decode hb
  unfold offered at h
  split at h
  · obtain ⟨event, -, hr⟩ := Option.bind_eq_some_iff.mp h
    cases event with
    | record bytes => exact hdecoded hr
    | fault | close => cases hr
  · split at h
    · exact hdecoded h
    · cases h
  · cases h

/-- A session that goes on to `p`, with these symbols known, can pass on what it calls with. -/
theorem Portable.follow {p : Progress × Session} (hs : p.2.symbols.NulFree)
    (hp : ∀ c, p.1 = .call c → c.Portable) :
    (follow p).Portable ∧ ∀ c, .called c ∈ p.1.marks → c.Portable := by
  have hcall : ∀ c, p.1.call? = some c → c.Portable := by
    intro c hc
    refine hp c ?_
    cases hpr : p.1 with
    | done o =>
      rw [hpr] at hc
      cases hc
    | call c' =>
      rw [hpr] at hc
      rw [Option.some.inj hc]
  refine ⟨⟨by rwa [follow_symbols], fun c hc => hcall c (by rwa [follow_calling] at hc)⟩, ?_⟩
  intro c hc
  obtain ⟨c', hc', hcc⟩ := List.mem_map.mp hc
  cases hcc
  exact c'.portable_timeless.mpr (hcall c' (Option.mem_toList.mp hc'))

theorem offer_portable {s : Session} {r : Record} (hr : r.Intact) :
    ∀ c, s.offer r = .call c → c.Portable := by
  intro c hc
  unfold offer at hc
  split at hc
  · cases hc
    exact hr
  · cases hc

theorem resume_portable {c : Call} (hc : c.Portable) (r : Reply) :
    ∀ c', (s.resume c r).1 = .call c' → c'.Portable := by
  intro c' h
  cases c with
  | metadata | record => cases h
  | event ev rec => exact offer_portable hc.2 c' h
  | exception cause =>
    cases hrc : r.recovery <;> simp only [resume, hrc] at h <;> cases h

theorem brought_portable (hs : s.symbols.NulFree) {r : Record} (hr : r.Intact) :
    ∀ c, s.brought r (Router.route s.symbols r).1 = .call c → c.Portable := by
  intro c hc
  unfold brought at hc
  split at hc
  · rename_i ev hev
    split at hc
    · cases hc
      exact ⟨Router.route_event_nulFree hs hev, hr⟩
    · exact offer_portable hr c hc
  · exact offer_portable hr c hc

/-- What a move does to a session that can pass on what it has, if the records that it delivers can
be passed on. -/
theorem Does.portable (h : s.Does t s') (hs : s.Portable)
    (hd : ∀ r routed, .delivered r routed ∈ t → r.Intact) :
    s'.Portable ∧ ∀ c, .called c ∈ t → c.Portable := by
  cases h with
  | keeps hk => exact ⟨⟨hk.symbols ▸ hs.symbols, hk.calling ▸ hs.calling⟩, by simp⟩
  | claims hk =>
    refine ⟨⟨?_, hk.calling ▸ hs.calling⟩, by simp⟩
    rw [hk.symbols]
    intro id symbol hid
    cases hid
  | @resumes c r hc =>
    obtain ⟨hp, hcalls⟩ := Portable.follow (p := s.resume c r)
      ((s.resume_symbols c r).1 ▸ hs.symbols) (resume_portable (hs.calling c hc) r)
    refine ⟨hp, fun c' hm => ?_⟩
    rcases List.mem_cons.mp hm with h | hm
    · cases h
    · exact hcalls c' hm
  | @greets m engine =>
    refine Portable.follow (p := (s.greet m, { s with engine })) hs.symbols fun c hc => ?_
    unfold greet at hc
    split at hc
    · cases hc
      trivial
    · cases hc
  | @accepts r engine _ _ hsr =>
    have hr : r.Intact := hd r _ (List.mem_cons_self ..)
    have hacc := accept_eq (s := { s with engine }) hsr r
    obtain ⟨hp, hcalls⟩ := Portable.follow (p := (s.brought r (Router.route s.symbols r).1,
      ({ s with engine } : Session).routed r)) (Router.route_table_nulFree hs.symbols r)
      (brought_portable hs.symbols hr)
    rw [hacc]
    refine ⟨hp, fun c hm => ?_⟩
    rcases List.mem_cons.mp hm with h | hm
    · cases h
    · exact hcalls c hm
  | @consults cause engine =>
    have hy := consult_symbols { s with engine } cause
    refine Portable.follow (p := ({ s with engine } : Session).consult cause)
      (by rw [hy.1]; exact hs.symbols) fun c hc => ?_
    unfold consult at hc
    split at hc
    · cases hc
    · split at hc <;> cases hc
      trivial

theorem delivered_intact {m : Move} {r : Record} {routed : Routed}
    (h : .delivered r routed ∈ s.marks m) : r.Intact := by
  have harrivals : .delivered r routed ∉ s.arrivals m := by
    unfold arrivals
    split
    · split <;> simp
    all_goals simp
  simp only [marks, List.mem_append, harrivals, false_or, List.mem_map] at h
  rcases h with (h | ⟨c, -, hc⟩) | h
  · unfold deliveries at h
    split at h
    · cases h
    · obtain ⟨r', hr', heq⟩ := List.mem_map.mp h
      cases heq
      exact offered_decoded (Option.mem_toList.mp hr')
  · cases hc
  · split at h <;> simp at h

/-- Every move lets a session pass on what it has. -/
theorem Portable.move (hs : s.Portable) (m : Move) :
    (s.move m).Portable ∧ ∀ c ∈ calls (s.marks m), c.Portable := by
  obtain ⟨before, t, after, hm, hd, hb, ha⟩ := s.does m
  have hdelivered : ∀ r routed, .delivered r routed ∈ t → r.Intact := by
    intro r routed hr
    have hmarks : .delivered r routed ∈ s.marks m := by
      rw [hm]
      exact List.mem_append_left _ (List.mem_append_right _ hr)
    exact delivered_intact hmarks
  obtain ⟨hp, hcalls⟩ := hd.portable hs hdelivered
  refine ⟨hp, fun c hc => hcalls c ?_⟩
  obtain ⟨mark, hmark, hcalled⟩ := List.mem_filterMap.mp hc
  have hmark' : mark = .called c := by
    cases mark <;> simp only [Mark.called?, reduceCtorEq, Option.some.injEq] at hcalled
    rw [hcalled]
  rw [hm, hmark', List.mem_append, List.mem_append] at hmark
  rcases hmark with (h | h) | h
  · cases hb _ h
  · exact h
  · cases ha _ h

theorem Portable.run (hs : s.Portable) (ms : List Move) :
    (s.after ms).Portable ∧ ∀ c ∈ calls (s.trace ms), c.Portable := by
  induction ms generalizing s with
  | nil => exact ⟨hs, by simp [calls]⟩
  | cons m ms ih =>
    obtain ⟨hp, hcalls⟩ := hs.move m
    obtain ⟨hp', hcalls'⟩ := ih hp
    refine ⟨hp', fun c hc => ?_⟩
    rw [trace_cons, calls_append, List.mem_append] at hc
    exact hc.elim (hcalls c) (hcalls' c)

theorem Portable.new (config : Config) (engine : Engine) : (new config engine).Portable :=
  ⟨fun _ _ h => (by cases h), fun _ h => (by cases h)⟩

end Session

end MarketFeed
