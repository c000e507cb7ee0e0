import MarketFeed.Boundary.Argument
import MarketFeed.Boundary.Memory
import MarketFeed.Proofs.Text.NulFree

set_option autoImplicit false

/-!
# Copying a symbol out

What a copy does to the memory of a caller: nothing outside of the buffer (`copySymbol_outside`), and
inside of it the symbol as far as there is room, a NUL, and then what was there
(`window_copySymbol`). A symbol without NUL for which there is room is read back (`text_copyOut`).
-/

namespace MarketFeed

open Boundary

namespace Memory

variable {m : Memory} {a i length : Nat} {bs symbol : Bytes}

theorem write_outside (h : i < a ∨ a + bs.length ≤ i) : m.write a bs i = m i := by
  unfold write
  split
  · rw [List.getD_eq_getElem?_getD, List.getElem?_eq_none (by omega), Option.getD_none]
  · rfl

theorem write_inside (h : i < bs.length) : m.write a bs (a + i) = bs[i] := by
  rw [write, if_pos (Nat.le_add_right a i), Nat.add_sub_cancel_left, List.getD_eq_getElem?_getD,
    List.getElem?_eq_getElem h, Option.getD_some]

@[simp] theorem length_window (m : Memory) (a length : Nat) :
    (m.window a length).length = length := by
  rw [window, List.length_map, List.length_range]

theorem getElem?_window (h : i < length) : (m.window a length)[i]? = some (m (a + i)) := by
  rw [window, List.getElem?_map, List.getElem?_range h]
  rfl

theorem length_take_kept (symbol : Bytes) (length : Nat) :
    (symbol.take (kept symbol length)).length = kept symbol length := by
  rw [List.length_take, kept]
  omega

theorem copySymbol_empty (m : Memory) (a : Nat) (symbol : Bytes) :
    m.copySymbol a 0 symbol = m := rfl

theorem kept_lt (h : 0 < length) : kept symbol length < length := by
  unfold kept
  omega

/-- Nothing is written outside of the buffer. -/
theorem copySymbol_outside (h : i < a ∨ a + length ≤ i) : m.copySymbol a length symbol i = m i := by
  unfold copySymbol
  split
  · rfl
  · rename_i hl
    have hk : kept symbol length < length := kept_lt (by omega)
    have hlen := length_take_kept symbol length
    rw [write_outside (by rw [List.length_singleton]; omega), write_outside (by omega)]

theorem copySymbol_symbol (hl : 0 < length) (h : i < kept symbol length) :
    some (m.copySymbol a length symbol (a + i)) = symbol[i]? := by
  have hlen := length_take_kept symbol length
  rw [copySymbol, if_neg (by omega), write_outside (by omega), write_inside (by omega),
    ← List.getElem?_eq_getElem, List.getElem?_take_of_lt h]

theorem copySymbol_nul (hl : 0 < length) :
    m.copySymbol a length symbol (a + kept symbol length) = 0 := by
  rw [copySymbol, if_neg (by omega)]
  exact write_inside (i := 0) (by decide)

/-- What stands in the buffer behind the NUL is left. -/
theorem copySymbol_rest (h : kept symbol length < i) :
    m.copySymbol a length symbol (a + i) = m (a + i) := by
  unfold copySymbol
  split
  · rfl
  · have hlen := length_take_kept symbol length
    rw [write_outside (by rw [List.length_singleton]; omega), write_outside (by omega)]

/-- The buffer after the copy: what was kept of the symbol, a NUL, and what was there behind it. -/
theorem window_copySymbol_eq (m : Memory) (a : Nat) (symbol : Bytes) (hl : 0 < length) :
    (m.copySymbol a length symbol).window a length = symbol.take (kept symbol length) ++
      0 :: (m.window a length).drop (kept symbol length + 1) := by
  have hn : kept symbol length < length := kept_lt hl
  have hlen := length_take_kept symbol length
  apply List.ext_getElem?
  intro i
  by_cases hi : i < length
  · rw [getElem?_window hi]
    rcases Nat.lt_trichotomy i (kept symbol length) with hik | rfl | hik
    · rw [copySymbol_symbol hl hik, List.getElem?_append_left (by omega),
        List.getElem?_take_of_lt hik]
    · rw [copySymbol_nul hl, List.getElem?_append_right (by omega), hlen, Nat.sub_self]
      rfl
    · obtain ⟨j, rfl⟩ := Nat.exists_eq_add_of_le (Nat.succ_le_of_lt hik)
      rw [copySymbol_rest hik, List.getElem?_append_right (by omega), hlen,
        show kept symbol length + 1 + j - kept symbol length = j + 1 by omega,
        List.getElem?_cons_succ, List.getElem?_drop, getElem?_window hi]
  · rw [List.getElem?_eq_none (by rw [length_window]; omega), List.getElem?_eq_none]
    rw [List.length_append, List.length_cons, List.length_drop, length_window, hlen]
    omega

theorem window_write (m : Memory) (a : Nat) (bs : Bytes) :
    (m.write a bs).window a bs.length = bs := by
  apply List.ext_getElem?
  intro i
  by_cases hi : i < bs.length
  · rw [getElem?_window hi, write_inside hi, List.getElem?_eq_getElem hi]
  · rw [List.getElem?_eq_none (by rw [length_window]; omega),
      List.getElem?_eq_none (Nat.le_of_not_lt hi)]

theorem copyOut_eq {buffer : Bytes} (h : 0 < buffer.length) :
    copyOut symbol buffer = symbol.take (kept symbol buffer.length) ++
      0 :: buffer.drop (kept symbol buffer.length + 1) := by
  rw [copyOut, window_copySymbol_eq _ _ _ h, window_write]

/-- Wherever a buffer stands, its bytes become what `copyOut` makes of them. -/
theorem window_copySymbol (m : Memory) (a length : Nat) (symbol : Bytes) :
    (m.copySymbol a length symbol).window a length = copyOut symbol (m.window a length) := by
  rcases Nat.eq_zero_or_pos length with rfl | hl
  · rfl
  · rw [window_copySymbol_eq m a symbol hl, copyOut_eq (by rwa [length_window]), length_window]

end Memory

/-! ## Reading it back -/

/-- If there is room, the buffer begins with the whole symbol and a NUL. -/
theorem Boundary.copyOut_of_lt {symbol buffer : Bytes} (h : symbol.length < buffer.length) :
    copyOut symbol buffer = symbol ++ 0 :: buffer.drop (symbol.length + 1) := by
  have hk : Memory.kept symbol buffer.length = symbol.length := by
    unfold Memory.kept
    omega
  rw [Memory.copyOut_eq (by omega), hk, List.take_length]

/-- Then a text without NUL is read back from it. -/
theorem Boundary.text_copyOut {s name : String} {buffer : Bytes} (hs : '\x00' ∉ s.toList)
    (h : (Utf8.encode s.toList).length < buffer.length) :
    text (some (copyOut (Utf8.encode s.toList) buffer)) name = .ok s := by
  have hz : ∀ b ∈ Utf8.encode s.toList, (b != 0) = true := by
    intro b hb
    rw [bne_iff_ne]
    rintro rfl
    exact Utf8.zero_not_mem_encode hs hb
  have htake : (copyOut (Utf8.encode s.toList) buffer).takeWhile (· != 0) =
      Utf8.encode s.toList := by
    rw [copyOut_of_lt h, List.takeWhile_append_of_pos hz, List.takeWhile_cons_of_neg (by decide),
      List.append_nil]
  simp only [text, htake, Utf8.decode?_eq_some_iff.mpr rfl, String.ofList_toList]

end MarketFeed
