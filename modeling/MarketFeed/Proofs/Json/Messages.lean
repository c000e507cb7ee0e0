import Mathlib.Data.List.Basic
import MarketFeed.Boundary.Foreign
import MarketFeed.Proofs.Record.Codec
import MarketFeed.Proofs.Routing
import MarketFeed.Proofs.Text.NulFree

set_option autoImplicit false

/-!
# What messages say as JSON

The text of a message, or of metadata, is a document that says all of its fields and nothing else
(`Json.Says`): a strict reader gets back the object that was printed, and no other object is spelt
by the text. Numbers, characters and texts can be read off that object, so what is told apart as a
message is told apart as a text (`Message.json_inj`, `Metadata.json_inj`). `events_say_messages`
puts this together for what is routed and for what is passed to a foreign callback.
-/

namespace MarketFeed

/-! ## Documents -/

namespace Json

theorem wellSpelt_object {members : List (String × Json)} (h : ∀ m ∈ members, m.2.WellSpelt) :
    (object members).WellSpelt := by
  refine .obj fun m hm => ?_
  obtain ⟨member, hmember, rfl⟩ := List.mem_map.mp hm
  exact h member hmember

theorem wellSpelt_orNull {α : Type} {f : α → Json} (h : ∀ a, (f a).WellSpelt) (o : Option α) :
    (orNull f o).WellSpelt := by
  cases o with
  | none => exact .null
  | some a => exact h a

end Json

theorem Header.json_wellSpelt (h : Header) : h.json.WellSpelt := by
  refine Json.wellSpelt_object fun m hm => ?_
  simp only [List.mem_cons, List.not_mem_nil, or_false] at hm
  rcases hm with rfl | rfl | rfl | rfl | rfl <;> exact .int

theorem Body.members_wellSpelt (b : Body) : ∀ m ∈ b.members, m.2.WellSpelt := by
  intro m hm
  cases b <;> simp only [members, List.mem_cons, List.not_mem_nil, or_false] at hm <;>
    rcases hm with rfl | rfl | rfl | rfl | rfl | rfl | rfl | rfl | rfl <;>
    first | exact .int | exact .str

theorem Message.json_wellSpelt (m : Message) : m.json.WellSpelt := by
  refine Json.wellSpelt_object fun member hm => ?_
  rcases List.mem_cons.mp hm with rfl | hm
  · exact m.header.json_wellSpelt
  · exact m.body.members_wellSpelt member hm

theorem Metadata.json_wellSpelt (m : Metadata) : m.json.WellSpelt := by
  refine Json.wellSpelt_object fun member hm => ?_
  simp only [List.mem_cons, List.not_mem_nil, or_false] at hm
  rcases hm with rfl | rfl | rfl | rfl | rfl | rfl | rfl | rfl
  · exact .int
  · exact .str
  · exact Json.wellSpelt_orNull (fun _ => .str) _
  · exact .int
  · exact Json.wellSpelt_orNull (fun _ => .str) _
  · exact .str
  · exact .bool
  · refine .arr fun j hj => ?_
    obtain ⟨s, -, rfl⟩ := List.mem_map.mp hj
    exact .str

/-! ## Values -/

namespace Json

theorem nat_inj {n n' : Nat} : nat n = nat n' ↔ n = n' := by
  rw [nat, nat, Json.int.injEq, Int.natCast_inj]

theorem text_inj {s s' : String} : text s = text s' ↔ s = s' := by
  simp [text]

theorem char_inj {c c' : Char} : char c = char c' ↔ c = c' := by
  simp [char, text]

theorem orNull_inj {α : Type} {f : α → Json} (hf : ∀ a b, f a = f b → a = b)
    (hn : ∀ a, f a ≠ .null) {o o' : Option α} (h : orNull f o = orNull f o') : o = o' := by
  cases o with
  | none =>
    cases o' with
    | none => rfl
    | some b => exact absurd h.symm (hn b)
  | some a =>
    cases o' with
    | none => exact absurd h (hn a)
    | some b => exact congrArg some (hf a b h)

end Json

theorem Schema.ofName?_name (s : Schema) : ofName? s.name = some s := by
  cases s <;> decide

theorem Symbology.ofName?_name (s : Symbology) : ofName? s.name = some s := by
  cases s <;> decide

theorem Schema.name_inj {s s' : Schema} (h : s.name = s'.name) : s = s' := by
  have hn := s.ofName?_name
  rw [h, ofName?_name] at hn
  exact (Option.some.inj hn).symm

theorem Symbology.name_inj {s s' : Symbology} (h : s.name = s'.name) : s = s' := by
  have hn := s.ofName?_name
  rw [h, ofName?_name] at hn
  exact (Option.some.inj hn).symm

theorem Header.json_inj {h h' : Header} (he : h.json = h'.json) : h = h' := by
  cases h
  cases h'
  simpa [json, Json.object, Json.nat_inj, UInt8.toNat_inj, UInt16.toNat_inj, UInt32.toNat_inj,
    UInt64.toNat_inj] using he

theorem Body.members_inj {b b' : Body} (hk : b.kind = b'.kind) (h : b.members = b'.members) :
    b = b' := by
  cases b with
  | trade t =>
    cases b' <;> try cases hk
    rename_i t'
    cases t
    cases t'
    simpa [members, Json.nat_inj, Json.char_inj, UInt8.toNat_inj, UInt32.toNat_inj,
      UInt64.toNat_inj, Int32.toInt_inj, Int64.toInt_inj] using h
  | status s =>
    cases b' <;> try cases hk
    rename_i s'
    cases s
    cases s'
    simpa [members, Json.nat_inj, Json.char_inj, UInt16.toNat_inj, UInt64.toNat_inj] using h
  | error e =>
    cases b' <;> try cases hk
    rename_i e'
    cases e
    cases e'
    simpa [members, Json.nat_inj, Json.text_inj, UInt8.toNat_inj] using h
  | mapping m =>
    cases b' <;> try cases hk
    rename_i m'
    cases m
    cases m'
    simpa [members, Json.nat_inj, Json.text_inj, UInt8.toNat_inj, UInt64.toNat_inj] using h
  | system s =>
    cases b' <;> try cases hk
    rename_i s'
    cases s
    cases s'
    simpa [members, Json.nat_inj, Json.text_inj, UInt8.toNat_inj] using h

theorem Json.object_inj {members members' : List (String × Json)}
    (h : object members = object members') : members = members' := by
  have hinj : Function.Injective fun m : String × Json => (some m.1, m.2) := by
    rintro ⟨k, v⟩ ⟨k', v'⟩ he
    cases he
    rfl
  exact List.map_injective_iff.mpr hinj (Json.obj.inj h)

/-- Messages of one kind that are the same object are the same message. -/
theorem Message.json_inj {m m' : Message} (hk : m.body.kind = m'.body.kind)
    (h : m.json = m'.json) : m = m' := by
  have hmembers := Json.object_inj h
  simp only [List.cons.injEq, Prod.mk.injEq, true_and] at hmembers
  have hheader := Header.json_inj hmembers.1
  have hbody := Body.members_inj hk hmembers.2
  cases m
  cases m'
  rw [Message.mk.injEq]
  exact ⟨hheader, hbody⟩

theorem Metadata.json_inj {m m' : Metadata} (h : m.json = m'.json) : m = m' := by
  have hmembers := Json.object_inj h
  simp only [List.cons.injEq, Prod.mk.injEq, true_and, Json.nat_inj, Json.text_inj,
    UInt8.toNat_inj, UInt64.toNat_inj, Json.bool.injEq, Json.arr.injEq, and_true] at hmembers
  obtain ⟨hversion, hdataset, hschema, hstart, hin, hout, htsOut, hsymbols⟩ := hmembers
  have hschema := Json.orNull_inj (fun _ _ he => Schema.name_inj (Json.text_inj.mp he))
    (fun _ he => by cases he) hschema
  have hin := Json.orNull_inj (fun _ _ he => Symbology.name_inj (Json.text_inj.mp he))
    (fun _ he => by cases he) hin
  have hsymbols := List.map_injective_iff.mpr (fun _ _ he => Json.text_inj.mp he) hsymbols
  cases m
  cases m'
  rw [Metadata.mk.injEq]
  exact ⟨hversion, hdataset, hschema, hstart, hin, Symbology.name_inj hout, htsOut, hsymbols⟩

/-! ## Texts -/

/-- The text says the document and nothing else. -/
structure Json.Says (text : String) (j : Json) : Prop where
  document : Document text j
  printable : Printable text.toList
  read : parse? text = some j
  /-- No other document is spelt by the text. -/
  only : ∀ j', Document text j' → j' = j

theorem Json.WellSpelt.says {j : Json} (h : j.WellSpelt) : Says j.compact j where
  document := h.document
  printable := by
    rw [compact, String.toList_ofList]
    exact h.printable
  read := h.parse?_compact
  only j' hj' := by
    have hread := h.parse?_compact
    rw [parse?_eq_some_iff.mpr hj'] at hread
    exact Option.some.inj hread

theorem Router.text_event (symbols : SymbolTable) (m : Message) :
    (event symbols m).text = m.json.compact := by
  unfold event
  split <;> rfl

/-- What is passed on as JSON:

* The event of a record of a known kind has a text that says the header and the fields of the
  message that is read from the record, in the order of the kind.
* Metadata is passed to a foreign callback as a text that says its fields.
* Messages of one kind with the same text are the same message, and so it is with metadata. -/
theorem events_say_messages :
    (∀ (symbols : SymbolTable) (r : Record) (k : Kind) (ev : Event),
      Kind.ofTag? r.header.rtype = some k → (Router.route symbols r).1 = .event ev →
      ∃ m, r.get k = .ok m ∧
        Json.Says ev.text (.object (("hd", m.header.json) :: m.body.members))) ∧
    (∀ m : Metadata, ∃ text, Call.foreign (.metadata m) = .metadata text ∧
      Json.Says text m.json) ∧
    (∀ m m' : Message, m.body.kind = m'.body.kind → m.json.compact = m'.json.compact → m = m') ∧
    ∀ m m' : Metadata, m.json.compact = m'.json.compact → m = m' := by
  refine ⟨fun symbols r k ev hk h => ?_, fun m => ?_, fun m m' hk h => ?_, fun m m' h => ?_⟩
  · obtain ⟨m, hm, rfl, -⟩ := Router.event_of_route hk h
    refine ⟨m, hm, ?_⟩
    rw [Router.text_event]
    exact m.json_wellSpelt.says
  · have hnul := Boundary.withoutNul_eq_iff.mpr m.json_wellSpelt.nul_not_mem_compact
    refine ⟨m.json.compact, ?_, m.json_wellSpelt.says⟩
    rw [Call.foreign, hnul]
  · exact Message.json_inj hk (m.json_wellSpelt.compact_inj m'.json_wellSpelt h)
  · exact Metadata.json_inj (m.json_wellSpelt.compact_inj m'.json_wellSpelt h)

/-- An error whose text is a quote, a backslash and a line feed. -/
theorem events_say_messages_escaped :
    let m : Message := ⟨.bare 0 1 2 3, .error ⟨"\"\\\n", 2, 1⟩⟩
    ∃ ev, (Router.route .empty ⟨m.wireHeader, m.encode⟩).1 = .event ev ∧
      Json.Says ev.text (.object (("hd", m.wireHeader.json) :: m.body.members)) := by
  intro m
  have hplain : m.body.Plain := show FixedField.Fits errorTextWidth "\"\\\n" by decide
  have hget : Record.get ⟨m.wireHeader, m.encode⟩ .error = .ok ⟨m.wireHeader, m.body⟩ := by
    have h := m.get_encode
    rwa [Body.kept_of_plain hplain] at h
  have hk : Kind.ofTag? m.wireHeader.rtype = some .error := rfl
  have hroute : (Router.route .empty ⟨m.wireHeader, m.encode⟩).1 =
      .event (Router.event .empty ⟨m.wireHeader, m.body⟩) := by
    simp only [Router.route, hk, hget]
    rfl
  obtain ⟨m', hm', hsays⟩ := events_say_messages.1 _ _ _ _ hk hroute
  rw [hget] at hm'
  cases hm'
  exact ⟨_, hroute, hsays⟩

end MarketFeed
