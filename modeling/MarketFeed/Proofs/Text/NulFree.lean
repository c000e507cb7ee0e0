import MarketFeed.Boundary.Argument
import MarketFeed.Proofs.Json.Printing
import MarketFeed.Proofs.Text.FixedField
import MarketFeed.Router

set_option autoImplicit false

/-!
# Texts without NUL

A text that has no NUL crosses the boundary as it is (`withoutNul_eq_iff`). What is read from a
field of fixed width has none (`FixedField.nul_not_mem_read`), as it ends at the first zero byte and
no other byte is read as NUL. Nor has a document in compact form, whatever the texts in it, as a
control character in a string literal is escaped (`Json.WellSpelt.nul_not_mem_compact`).
-/

namespace MarketFeed

theorem Boundary.withoutNul_eq_iff {s : String} : withoutNul s = s ↔ '\x00' ∉ s.toList := by
  rw [withoutNul, ← String.toList_inj, String.toList_map]
  constructor
  · intro h hz
    rw [← h] at hz
    obtain ⟨c, -, hc⟩ := List.mem_map.mp hz
    split at hc
    · exact absurd hc (by decide)
    · contradiction
  · intro h
    refine (List.map_congr_left fun c hc => ?_).trans (List.map_id _)
    have hne : c ≠ '\x00' := fun hz => h (hz ▸ hc)
    exact if_neg hne

/-! ## Fields -/

namespace Utf8

/-- Only zero, and a number of no character, is taken for NUL. -/
theorem ofNat_ne_nul {n : Nat} (h : 0 < n) (hv : n < 0xD800 ∨ (0xDFFF < n ∧ n < 0x110000)) :
    Char.ofNat n ≠ '\x00' := by
  intro hc
  have hn := toNat_char_ofNat hv
  rw [hc] at hn
  exact Nat.ne_of_lt h hn

/-- What follows a unit was there before. -/
theorem mem_of_mem_unitAfter {lead b : UInt8} {rest : Bytes}
    (h : b ∈ (unitAfter lead rest).2) : b ∈ rest := by
  unfold unitAfter at h
  repeat' split at h
  all_goals simp_all

/-- A unit that does not start with a zero byte is no NUL. -/
theorem unitAfter_ne_nul {lead : UInt8} (rest : Bytes) (hl : lead ≠ 0) :
    (unitAfter lead rest).1 ≠ some '\x00' := by
  have hl : lead.toNat ≠ 0 := fun h => hl (UInt8.toNat_inj.mp h)
  have hsome : ∀ {n : Nat}, 0 < n ∧ (n < 0xD800 ∨ (0xDFFF < n ∧ n < 0x110000)) →
      some (Char.ofNat n) ≠ some '\x00' := fun h hc => ofNat_ne_nul h.1 h.2 (Option.some.inj hc)
  unfold unitAfter
  cases hw : width? lead with
  | none => simp
  | some n =>
    rcases width?_bounds hw with ⟨rfl, h⟩ | ⟨rfl, h⟩ | ⟨rfl, h⟩ | ⟨rfl, h⟩
    · exact hsome (by omega)
    · rcases rest with _ | ⟨b, r⟩ <;> simp only
      · simp
      split
      · rename_i hb
        have := secondOk_bounds hb
        exact hsome (by simp only [payload]; omega)
      · simp
    · rcases rest with _ | ⟨b, _ | ⟨c, r⟩⟩ <;> simp only
      · simp
      · split <;> simp
      split
      · rename_i hb
        have := secondOk_bounds hb
        split
        · exact hsome (by simp only [payload]; omega)
        · simp
      · simp
    · rcases rest with _ | ⟨b, _ | ⟨c, _ | ⟨d, r⟩⟩⟩ <;> simp only
      · simp
      · split <;> simp
      · repeat' split
        all_goals simp
      split
      · rename_i hb
        have := secondOk_bounds hb
        repeat' split
        · exact hsome (by simp only [payload]; omega)
        all_goals simp
      · simp

theorem nul_not_mem_units {bs : Bytes} (h : 0 ∉ bs) : some '\x00' ∉ units bs := by
  induction bs using units.induct with
  | case1 => simp [units]
  | case2 lead rest ih =>
    have hlead : lead ≠ 0 := fun hz => h (hz ▸ List.mem_cons_self ..)
    have hrest : 0 ∉ (unitAfter lead rest).2 :=
      fun hz => h (List.mem_cons_of_mem _ (mem_of_mem_unitAfter hz))
    rw [units, List.mem_cons, not_or]
    exact ⟨(unitAfter_ne_nul rest hlead).symm, ih hrest⟩

end Utf8

theorem FixedField.nul_not_mem_read (field : Bytes) : '\x00' ∉ (read field).toList := by
  have hz : 0 ∉ field.takeWhile (· != 0) := by
    intro h
    simpa using List.all_eq_true.mp List.all_takeWhile 0 h
  rw [read, String.toList_ofList, Utf8.decodeLossy, List.mem_map]
  rintro ⟨u, hu, hc⟩
  cases u with
  | none => exact absurd hc (by decide)
  | some c =>
    rw [Option.getD_some] at hc
    exact Utf8.nul_not_mem_units hz (hc ▸ hu)

/-! ## What is passed to callbacks -/

theorem Json.Printable.nul_not_mem {s : List Char} (h : Printable s) : '\x00' ∉ s :=
  fun hz => absurd (h _ hz) (by decide)

theorem Json.WellSpelt.nul_not_mem_compact {j : Json} (h : j.WellSpelt) :
    '\x00' ∉ j.compact.toList := by
  rw [compact, String.toList_ofList]
  exact h.printable.nul_not_mem

/-- The texts of an event have no NUL. -/
structure Event.NulFree (ev : Event) : Prop where
  symbol : '\x00' ∉ ev.symbol.toList
  text : '\x00' ∉ ev.text.toList

/-- The symbols of a table have no NUL. -/
def SymbolTable.NulFree (t : SymbolTable) : Prop :=
  ∀ id symbol, t.get? id = some symbol → '\x00' ∉ symbol.toList

theorem SymbolTable.NulFree.resolve {t : SymbolTable} (h : t.NulFree) (id : UInt32) :
    '\x00' ∉ (t.resolve id).toList := by
  rw [SymbolTable.resolve]
  cases hs : t.get? id with
  | none => simp
  | some symbol => exact h id symbol hs

end MarketFeed
