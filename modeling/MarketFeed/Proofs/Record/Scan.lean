import Mathlib.Algebra.Group.Nat.Defs
import MarketFeed.Record.Message

set_option autoImplicit false

/-!
# What scans read

`Scan.Reads sc bs v`: whatever follows, the scan takes the bytes `bs` off its input and answers `v`.
`Scan.Takes sc n`: the scan takes `n` bytes if there are as many, and fails if there are not. Both
are closed under sequence, so what a layout reads is put together from its fields in their order.
-/

namespace MarketFeed

namespace LittleEndian

theorem value_bytes {width v : Nat} (h : v < 256 ^ width) : value (bytes width v) = v := by
  induction width generalizing v with
  | zero =>
    have hv : v = 0 := by simpa using h
    rw [hv]
    rfl
  | succ width ih =>
    have hd : v / 256 < 256 ^ width := by
      rw [Nat.div_lt_iff_lt_mul (by decide), ← Nat.pow_succ]
      exact h
    simp only [bytes, value, ih hd, UInt8.toNat_ofNat']
    omega

end LittleEndian

namespace Scan

variable {α β : Type} {bs bs' : Bytes}

/-- The scan takes `bs` off its input, whatever follows, and answers `v`. -/
def Reads (sc : Scan α) (bs : Bytes) (v : α) : Prop := ∀ rest, sc.run (bs ++ rest) = some (v, rest)

/-- The scan takes `n` bytes, and fails if there are fewer. -/
structure Takes (sc : Scan α) (n : Nat) : Prop where
  short : ∀ bs, bs.length < n → sc.run bs = none
  enough : ∀ bs, bs.length = n → ∃ v, Reads sc bs v

theorem Reads.pure (v : α) : Reads (Pure.pure v) [] v := fun _ => rfl

theorem Reads.bind {sc : Scan α} {f : α → Scan β} {v : α} {w : β} (h : Reads sc bs v)
    (h' : Reads (f v) bs' w) : Reads (sc >>= f) (bs ++ bs') w := by
  intro rest
  rw [StateT.run_bind, List.append_assoc, h]
  exact h' rest

theorem Reads.map {sc : Scan α} {v : α} (h : Reads sc bs v) (f : α → β) :
    Reads (do return f (← sc)) bs (f v) := by
  intro rest
  rw [StateT.run_bind, h]
  rfl

namespace Takes

variable {sc : Scan α} {n m : Nat}

theorem pure (v : α) : Takes (Pure.pure v : Scan α) 0 where
  short _ h := absurd h (Nat.not_lt_zero _)
  enough bs h := by
    rw [List.length_eq_zero_iff.mp h]
    exact ⟨v, .pure v⟩

/-- With enough bytes the scan answers by the first `n` of them. -/
theorem run (h : Takes sc n) (hb : n ≤ bs.length) :
    ∃ v, Reads sc (bs.take n) v ∧ sc.run bs = some (v, bs.drop n) := by
  obtain ⟨v, hv⟩ := h.enough (bs.take n) (List.length_take_of_le hb)
  have hr := hv (bs.drop n)
  rw [List.take_append_drop] at hr
  exact ⟨v, hv, hr⟩

theorem bind {f : α → Scan β} (h : Takes sc n) (h' : ∀ v, Takes (f v) m) :
    Takes (sc >>= f) (n + m) where
  short bs hb := by
    rw [StateT.run_bind]
    by_cases hn : bs.length < n
    · rw [h.short bs hn]
      rfl
    · obtain ⟨v, -, hr⟩ := h.run (Nat.le_of_not_lt hn)
      have hd : (bs.drop n).length < m := by
        rw [List.length_drop]
        omega
      rw [hr]
      exact (h' v).short _ hd
  enough bs hb := by
    have hn : n ≤ bs.length := by omega
    obtain ⟨v, hv, -⟩ := h.run hn
    have hd : (bs.drop n).length = m := by
      rw [List.length_drop]
      omega
    obtain ⟨w, hw⟩ := (h' v).enough _ hd
    refine ⟨w, ?_⟩
    rw [← List.take_append_drop n bs]
    exact hv.bind hw

theorem map (h : Takes sc n) (f : α → β) : Takes (do return f (← sc)) n :=
  h.bind fun v => .pure (f v)

end Takes

/-! ## Fields -/

theorem reads_take {n : Nat} (h : bs.length = n) : Reads (take n) bs bs := by
  intro rest
  have hn : n ≤ (bs ++ rest).length := by
    rw [List.length_append]
    omega
  show (if n ≤ (bs ++ rest).length then some (_, _) else none) = _
  rw [if_pos hn, ← h, List.take_left, List.drop_left]

theorem reads_u8 (b : UInt8) : Reads u8 [b] b := fun _ => rfl

/-- A number is read back if the field is wide enough for it. -/
theorem reads_number (width : Nat) {v : Nat} (ofNat : Nat → α) (h : v < 256 ^ width) :
    Reads (do return ofNat (LittleEndian.value (← take width))) (LittleEndian.bytes width v)
      (ofNat v) := by
  have hr := (reads_take (LittleEndian.length_bytes width v)).map
    fun bs => ofNat (LittleEndian.value bs)
  rwa [LittleEndian.value_bytes h] at hr

theorem reads_u16 (v : UInt16) : Reads u16 (u16Bytes v) v := by
  have h := reads_number 2 UInt16.ofNat v.toNat_lt
  rwa [UInt16.ofNat_toNat] at h

theorem reads_u32 (v : UInt32) : Reads u32 (u32Bytes v) v := by
  have h := reads_number 4 UInt32.ofNat v.toNat_lt
  rwa [UInt32.ofNat_toNat] at h

theorem reads_u64 (v : UInt64) : Reads u64 (u64Bytes v) v := by
  have h := reads_number 8 UInt64.ofNat v.toNat_lt
  rwa [UInt64.ofNat_toNat] at h

theorem reads_i32 (v : Int32) : Reads i32 (i32Bytes v) v := (reads_u32 v.toUInt32).map _

theorem reads_i64 (v : Int64) : Reads i64 (i64Bytes v) v := (reads_u64 v.toUInt64).map _

theorem reads_char (b : UInt8) : Reads char [b] (byteChar b) := (reads_u8 b).map _

theorem reads_text {width : Nat} (h : bs.length = width) :
    Reads (text width) bs (FixedField.read bs) := (reads_take h).map _

theorem takes_take (n : Nat) : Takes (take n) n where
  short _ h := if_neg (Nat.not_le_of_lt h)
  enough bs h := ⟨bs, reads_take h⟩

theorem takes_u8 : Takes u8 1 where
  short bs h := by
    rw [List.length_eq_zero_iff.mp (Nat.lt_one_iff.mp h)]
    rfl
  enough bs h := by
    obtain ⟨b, rfl⟩ := List.length_eq_one_iff.mp h
    exact ⟨b, reads_u8 b⟩

theorem takes_u16 : Takes u16 2 := (takes_take 2).map _

theorem takes_u32 : Takes u32 4 := (takes_take 4).map _

theorem takes_u64 : Takes u64 8 := (takes_take 8).map _

end Scan

end MarketFeed
