import MarketFeed.Proofs.Boundary.CopyOut
import MarketFeed.Proofs.Rehearsal.Registry
import MarketFeed.Proofs.Session.Symbols

set_option autoImplicit false

/-!
# Symbols behind the boundary

Every symbol that a session knows was read from a text field of a record, whatever the session has
gone through (`Session.Reached.fromFields`). So it has no NUL, and its length is a small number. A
call that looks it up gives its length whatever the length of the buffer, and copies into the buffer
what `Memory.copySymbol` writes (`symbols_are_copied_out`).
-/

namespace MarketFeed

/-! ## Symbols that were read from fields -/

/-- Every symbol was read from a text field. -/
def SymbolTable.FromFields (t : SymbolTable) : Prop :=
  ∀ id symbol, t.get? id = some symbol →
    ∃ field : Bytes, field.length ≤ symbolWidth ∧ symbol = FixedField.read field

namespace SymbolTable.FromFields

variable {t : SymbolTable}

theorem empty : SymbolTable.empty.FromFields := by
  intro id symbol h
  rw [get?_empty] at h
  cases h

theorem route (h : t.FromFields) (r : Record) : (Router.route t r).2.FromFields := by
  intro id symbol hs
  rw [Router.route_get?] at hs
  split at hs
  · cases hs
    exact ⟨_, List.length_take_le _ _, rfl⟩
  · exact h id symbol hs

theorem nul_not_mem (h : t.FromFields) (id : UInt32) : '\x00' ∉ (t.resolve id).toList := by
  rw [resolve]
  cases hs : t.get? id with
  | none => exact List.not_mem_nil
  | some symbol =>
    obtain ⟨field, -, rfl⟩ := h id symbol hs
    exact FixedField.nul_not_mem_read field

theorem length_le (h : t.FromFields) (id : UInt32) :
    (Utf8.encode (t.resolve id).toList).length ≤ 4 * symbolWidth := by
  rw [resolve]
  cases hs : t.get? id with
  | none => exact Nat.zero_le _
  | some symbol =>
    obtain ⟨field, hf, rfl⟩ := h id symbol hs
    exact Nat.le_trans (FixedField.length_read_le field) (Nat.mul_le_mul_left 4 hf)

end SymbolTable.FromFields

theorem Learns.fromFields {x y : SymbolTable} {t : List Mark} (h : Learns x t y)
    (hx : x.FromFields) : y.FromFields := by
  induction h with
  | nil => exact hx
  | neutral _ _ ih => exact ih hx
  | claimed _ ih => exact ih .empty
  | @delivered x y r t _ ih => exact ih (hx.route r)
  | event _ _ ih => exact ih hx

namespace Session

/-- The session is what moves, and the holder of its engine if it is a manual one, have made of a
new session. -/
inductive Reached : Session → Prop
  | new (config : Config) (engine : Engine) : Reached (.new config engine)
  | move {s : Session} (h : Reached s) (m : Move) : Reached (s.move m)
  | manual {s : Session} (h : Reached s) (f : Manual → Manual) : Reached (s.modifyManual f)

theorem Reached.fromFields {s : Session} (h : s.Reached) : s.symbols.FromFields := by
  induction h with
  | new => exact .empty
  | @move s _ m ih => exact (s.learns_move m).fromFields ih
  | @manual s _ f ih =>
    rw [(Keeps.modifyManual s f).symbols]
    exact ih

end Session

namespace Rehearsal

open Boundary

/-! ## Worlds that requests lead to -/

theorem Upkeep.serve {J : Scripted HandleStep HandleReply → Prop} {R : Reply → Prop}
    {T : Out → Prop} (h : Upkeep J R T) {w : World} (hw : w.All J) (rs : List Request) :
    (w.serve rs).All J := by
  induction rs generalizing w with
  | nil => exact hw
  | cons r rs ih =>
    have hfacing : (r.facing w).All J := hw
    exact ih (h.performs r.budget (r.depth + 1) r.caller r.step (r.facing w) hfacing).1

namespace World

/-- The symbol of an instrument in a session, empty if it has none. -/
def symbol (w : World) (number : Nat) (id : UInt32) : String :=
  (w.scripted number).session.symbols.resolve id

/-- Whatever is asked for, sessions only come to what moves make of them. -/
theorem reached (allocator : Allocator) (rs : List Request) :
    ((fresh allocator).serve rs).All (·.session.Reached) := by
  have hupkeep : Upkeep (·.session.Reached) (fun _ => True) fun _ => True :=
    .ofSession .new (fun _ m h => h.move m) fun _ f h => h.manual f
  have hfresh : (fresh allocator).All (·.session.Reached) :=
    fun _ => show noSession.session.Reached from .new _ _
  exact hupkeep.serve hfresh rs

/-! ## The call -/

/-- The call that looks a symbol up. It is given a buffer in which the bytes `before` stand, or null
in place of it. -/
def resolving (p : Pointer) (id : UInt32) (before : Bytes) (buffer : Bool) : EntryPoint :=
  .number "fb_session_resolve_symbol" (onSession p (resolve id before.length buffer))
    (min ·.length 0x7FFFFFFF)
    (fun symbol => some (.buffer (if buffer then copyOut symbol before else before)))
    (some (.buffer before))

theorem entryPoint?_resolve (hosts : Hosts) (w : World) (handle : Option String) (id : UInt32)
    (length : Nat) (buffer : Bool) :
    entryPoint? hosts w (.resolve handle id length buffer) =
      some (resolving (w.pointer handle) id (List.replicate length fillByte) buffer) := by
  rw [resolving, List.length_replicate]
  rfl

variable {w : World} {t : Thread} {p : Pointer} {number : Nat} {id : UInt32} {before : Bytes}
  {buffer : Bool}

/-- Null is refused in place of a buffer that is not empty. -/
theorem enter_resolving_null (h : w.registry.session p = .ok number) (hb : before ≠ []) :
    let message := withoutNul (SessionError.nullArgument "buffer").message
    enter t (resolving p id before false) w =
      (⟨.number (-1), some (some message), some (.buffer before)⟩, w.setSlot t (some message)) := by
  have h' : (w.setSlot t none).registry.session p = .ok number := h
  have hlen : (before.length != 0) = true := by
    rwa [bne_iff_ne, ne_eq, List.length_eq_zero_iff]
  have hresolve : resolve id before.length false number (w.setSlot t none) =
      (.error (.failed (.nullArgument "buffer")), w.setSlot t none) := by
    simp only [resolve, hlen, Bool.not_false, Bool.and_true, if_true, Host.pure_run]
  have hbody : (resolving p id before false).body (w.setSlot t none) =
      (.error (.failed (.nullArgument "buffer")), w.setSlot t none) :=
    giving_run ((onSession_run h').trans hresolve)
  rw [enter_error hbody, setSlot_setSlot]
  rfl

theorem enter_resolving {symbol : Bytes} (h : w.registry.session p = .ok number)
    (hs : Utf8.encode (w.symbol number id).toList = symbol) (hb : buffer = true ∨ before = []) :
    enter t (resolving p id before buffer) w =
      (⟨.number (min symbol.length 0x7FFFFFFF : Nat), some none,
        some (.buffer (copyOut symbol before))⟩, w.setSlot t none) := by
  have h' : (w.setSlot t none).registry.session p = .ok number := h
  have hroom : ¬ (!buffer && before.length != 0) = true := by
    rcases hb with rfl | rfl
    · exact Bool.false_ne_true
    · rw [List.length_nil, bne_self_eq_false, Bool.and_false]
      exact Bool.false_ne_true
  have hresolve : resolve id before.length buffer number (w.setSlot t none) =
      (.ok symbol, w.setSlot t none) := by
    simp only [resolve, if_neg hroom, Host.bind_run, Host.get_run, Host.pure_run]
    exact congrArg (fun symbol => (Except.ok symbol, _)) hs
  have hout : (if buffer then copyOut symbol before else before) = copyOut symbol before := by
    rcases hb with rfl | rfl
    · rfl
    · cases buffer <;> rfl
  rw [enter_ok (giving_run ((onSession_run h').trans hresolve)), slot_note, slot_setSlot_self]
  exact congrArg (fun out => ((⟨_, _, some (.buffer out)⟩ : HandleReply), _)) hout

end World

/-! ## The theorem -/

/-- Whatever a host program asks for, the sessions behind the boundary are reached by moves. The
call that looks a symbol up is `World.resolving`, at first with a filled buffer. In every world where
a pointer is the live handle of such a session, also while one of its callbacks runs, let
`symbol` be the symbol of an instrument as it is encoded, empty if none is mapped to it:

* The symbol has no NUL.
* Given a buffer of any length, the call returns the length of the symbol, and what it leaves in the
  buffer is what `Memory.copySymbol` writes. In memory nothing outside of the buffer changes, and
  nothing at all if it is empty. Otherwise as many bytes of the symbol are written as leave room for
  a NUL, then the NUL, and what stands behind it is left.
* Null in place of an empty buffer will do, but is refused in place of any other, and then nothing
  is written.
* The call changes nothing else but the caller's error slot. So if it is first made with no buffer,
  and then with one that is longer than what was returned, the symbol can be read from it. -/
theorem symbols_are_copied_out :
    (∀ (allocator : Allocator) (rs : List Request),
      ((World.fresh allocator).serve rs).All (·.session.Reached)) ∧
    (∀ (hosts : World.Hosts) (w : World) (handle : Option String) (id : UInt32) (length : Nat)
      (buffer : Bool), World.entryPoint? hosts w (.resolve handle id length buffer) =
        some (World.resolving (w.pointer handle) id (List.replicate length World.fillByte)
          buffer)) ∧
    ∀ (w : World) (p : Pointer) (number : Nat), w.registry.session p = .ok number →
      (w.scripted number).session.Reached → ∀ (t : Thread) (id : UInt32),
      let s := w.symbol number id
      let symbol := Utf8.encode s.toList
      let call (w : World) (before : Bytes) (buffer : Bool) :=
        World.enter t (World.resolving p id before buffer) w
      0 ∉ symbol ∧
      (∀ (m : Memory) (a length : Nat),
        let m' := m.copySymbol a length symbol
        call w (m.window a length) true =
          (⟨.number symbol.length, some none, some (.buffer (m'.window a length))⟩,
            w.setSlot t none) ∧
        (∀ i, i < a ∨ a + length ≤ i → m' i = m i) ∧
        (length = 0 → m' = m) ∧
        (0 < length →
          let n := min symbol.length (length - 1)
          (∀ i, i < n → some (m' (a + i)) = symbol[i]?) ∧ m' (a + n) = 0 ∧
            ∀ i, n < i → m' (a + i) = m (a + i))) ∧
      call w [] false =
        (⟨.number symbol.length, some none, some (.buffer [])⟩, w.setSlot t none) ∧
      (∀ before, before ≠ [] → ∃ message, call w before false =
        (⟨.number (-1), some (some message), some (.buffer before)⟩,
          w.setSlot t (some message))) ∧
      ∀ (buffer : Bool) (m : Memory) (a length : Nat),
        let asked := call w [] buffer
        asked.1.value = .number symbol.length ∧ (symbol.length < length →
          let m' := m.copySymbol a length symbol
          (call asked.2 (m.window a length) true).1 =
            ⟨.number symbol.length, some none, some (.buffer (m'.window a length))⟩ ∧
          text (some (m'.window a length)) "buffer" = .ok s) := by
  refine ⟨World.reached, World.entryPoint?_resolve, fun w p number hp hs t id => ?_⟩
  intro s symbol call
  have hnul : '\x00' ∉ s.toList := hs.fromFields.nul_not_mem id
  have hlen : min symbol.length 0x7FFFFFFF = symbol.length := by
    have hle : symbol.length ≤ 4 * symbolWidth := hs.fromFields.length_le id
    exact Nat.min_eq_left (Nat.le_trans hle (by decide))
  -- also for the second of two calls, when an error slot may be another
  have hcall (v : World) (hv : v.registry = w.registry) (hc : v.cells = w.cells) (before : Bytes)
      (buffer : Bool) (hb : buffer = true ∨ before = []) :
      call v before buffer =
        (⟨.number symbol.length, some none, some (.buffer (copyOut symbol before))⟩,
          v.setSlot t none) := by
    have hsymbol : Utf8.encode (v.symbol number id).toList = symbol := by
      simp only [World.symbol, World.scripted, World.cell?, hc, s, symbol]
    have henter := World.enter_resolving (t := t) (hv ▸ hp) hsymbol hb
    rwa [hlen] at henter
  have hwindow (m : Memory) (a length : Nat) := m.window_copySymbol a length symbol
  refine ⟨Utf8.zero_not_mem_encode hnul, fun m a length => ⟨?_, ?_, ?_, ?_⟩, ?_, ?_, ?_⟩
  · rw [hcall w rfl rfl _ true (.inl rfl), hwindow]
  · exact fun i => Memory.copySymbol_outside
  · rintro rfl
    exact m.copySymbol_empty a symbol
  · intro hl
    exact ⟨fun i => Memory.copySymbol_symbol hl, Memory.copySymbol_nul hl,
      fun i => Memory.copySymbol_rest⟩
  · exact hcall w rfl rfl [] false (.inr rfl)
  · exact fun before hb => ⟨_, World.enter_resolving_null hp hb⟩
  · intro buffer m a length asked
    have hasked : asked = _ := hcall w rfl rfl [] buffer (.inr rfl)
    refine ⟨by rw [hasked], fun hl => ⟨?_, ?_⟩⟩
    · rw [hasked, hcall (w.setSlot t none) rfl rfl _ true (.inl rfl), hwindow]
    · rw [hwindow]
      exact text_copyOut hnul (by rwa [Memory.length_window])

/-- A session that was delivered a mapping of instrument 7 to a symbol of two characters, the second
of three bytes. A buffer of four bytes has room for three of the four bytes. -/
theorem symbols_are_copied_out_cut :
    let mapping : Bytes := [44, 22, 0, 0, 7, 0, 0, 0] ++ List.replicate 81 0 ++
      [0x45, 0xE2, 0x82, 0xAC] ++ List.replicate 83 0
    let request (step : HandleStep) : Request :=
      { names := [("s", 2), ("b", 1)], caller := {}, budget := 9, depth := 1, step }
    let rs := [HandleStep.builderNew "b", .edit (some "b") (.key (some [107])),
      .edit (some "b") (.dataset (some [71, 76, 66, 88, 46, 77, 68, 80, 51])),
      .build (some "b") "s" .replay, .push "s" (.record mapping),
      .start (some "s") .record { record := some [] }].map request
    let w := (World.fresh .ascending).serve rs
    let call (before : Bytes) :=
      (World.enter (.host 0) (World.resolving (some 2) 7 before true) w).1
    w.registry.session (some 2) = .ok 0 ∧ (call []).value = .number 4 ∧
      (call [1, 2, 3, 4]).out = some (.buffer [0x45, 0xE2, 0x82, 0]) ∧
      (call [1, 2, 3, 4, 5, 6]).out = some (.buffer [0x45, 0xE2, 0x82, 0xAC, 0, 6]) := by
  intro mapping request rs w call
  have hp : w.registry.session (some 2) = .ok 0 := by
    have hlive : w.registry.live.lookup 2 = some (.session 0) := by decide +kernel
    rw [Registry.session, hlive]
  have hs : Utf8.encode (w.symbol 0 7).toList = [0x45, 0xE2, 0x82, 0xAC] := by decide +kernel
  obtain ⟨-, hcopied, -⟩ := symbols_are_copied_out.2.2 w (some 2) 0 hp
    (symbols_are_copied_out.1 .ascending rs 0) (.host 0) 7
  rw [hs] at hcopied
  clear_value w
  -- the bytes of the buffers stand at the beginning of the memory
  let m : Memory := fun i => UInt8.ofNat (i + 1)
  have hcall (length : Nat) : call (m.window 0 length) = ⟨.number 4, some none,
      some (.buffer ((m.copySymbol 0 length [0x45, 0xE2, 0x82, 0xAC]).window 0 length))⟩ :=
    congrArg Prod.fst (hcopied m 0 length).1
  have h0 : m.window 0 0 = [] := rfl
  have h4 : m.window 0 4 = [1, 2, 3, 4] := rfl
  have h6 : m.window 0 6 = [1, 2, 3, 4, 5, 6] := rfl
  refine ⟨hp, ?_, ?_, ?_⟩
  · rw [← h0, hcall]
  · rw [← h4, hcall]
    rfl
  · rw [← h6, hcall]
    rfl

end Rehearsal

end MarketFeed
