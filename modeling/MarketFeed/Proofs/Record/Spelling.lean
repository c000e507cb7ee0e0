import MarketFeed.Proofs.Record.Framing

set_option autoImplicit false

/-!
# What is read, written again

`Scan.Spells sc write`: the bytes a scan takes are those that `write` makes of its answer, so they
can be put together again from the value. Numbers are spelt in one way only, and so is a header
(`Header.spells_scan`); a record that was cut off a buffer is its header and its body
(`Record.intact_of_decode`).
-/

namespace MarketFeed

namespace LittleEndian

theorem bytes_value (bs : Bytes) : bytes bs.length (value bs) = bs := by
  induction bs with
  | nil => rfl
  | cons b bs ih =>
    have hb := b.toNat_lt
    have hdiv : (b.toNat + 256 * value bs) / 256 = value bs := by omega
    have hmod : UInt8.ofNat (b.toNat + 256 * value bs) = b := by
      apply UInt8.toNat_inj.mp
      rw [UInt8.toNat_ofNat']
      omega
    rw [List.length_cons, value, bytes, hdiv, hmod, ih]

theorem value_lt (bs : Bytes) : value bs < 256 ^ bs.length := by
  induction bs with
  | nil => decide
  | cons b bs ih =>
    have hb := b.toNat_lt
    rw [List.length_cons, value, Nat.pow_succ]
    omega

end LittleEndian

namespace Scan

variable {α : Type}

/-- What the scan takes off its input is how the value is written. -/
def Spells (sc : Scan α) (write : α → Bytes) : Prop :=
  ∀ bs v rest, sc.run bs = some (v, rest) → bs = write v ++ rest

theorem spells_u8 : Spells u8 fun v => [v] := by
  intro bs v rest h
  cases bs with
  | nil => cases h
  | cons b bs =>
    cases h
    rfl

/-- A number of a fixed width. -/
theorem spells_number {width : Nat} {ofNat : Nat → α} {toNat : α → Nat}
    (h : ∀ v, v < 256 ^ width → toNat (ofNat v) = v) :
    Spells (do return ofNat (LittleEndian.value (← take width)))
      fun v => LittleEndian.bytes width (toNat v) := by
  intro bs v rest hrun
  rw [StateT.run_bind] at hrun
  by_cases hl : width ≤ bs.length
  · have htake : (take width).run bs = some (bs.take width, bs.drop width) := if_pos hl
    have hlen : (bs.take width).length = width := List.length_take_of_le hl
    rw [htake] at hrun
    cases hrun
    have hlt := LittleEndian.value_lt (bs.take width)
    have hback := LittleEndian.bytes_value (bs.take width)
    rw [hlen] at hlt hback
    simp only [h _ hlt, hback, List.take_append_drop]
  · have htake : (take width).run bs = none := if_neg hl
    rw [htake] at hrun
    cases hrun

theorem spells_u16 : Spells u16 u16Bytes :=
  spells_number fun _ h => UInt16.toNat_ofNat'.trans (Nat.mod_eq_of_lt h)

theorem spells_u32 : Spells u32 u32Bytes :=
  spells_number fun _ h => UInt32.toNat_ofNat'.trans (Nat.mod_eq_of_lt h)

theorem spells_u64 : Spells u64 u64Bytes :=
  spells_number fun _ h => UInt64.toNat_ofNat'.trans (Nat.mod_eq_of_lt h)

end Scan

theorem Header.spells_scan : Scan.Spells scan bytes := by
  intro bs hd rest h
  simp only [scan, StateT.run_bind, Option.bind_eq_bind, Option.bind_eq_some_iff] at h
  obtain ⟨⟨length, r₁⟩, h₁, ⟨rtype, r₂⟩, h₂, ⟨publisher, r₃⟩, h₃, ⟨instrument, r₄⟩, h₄,
    ⟨time, r₅⟩, h₅, hpure⟩ := h
  cases hpure
  dsimp only at h₂ h₃ h₄ h₅
  simp only [Scan.spells_u8 _ _ _ h₁, Scan.spells_u8 _ _ _ h₂, Scan.spells_u16 _ _ _ h₃,
    Scan.spells_u32 _ _ _ h₄, Scan.spells_u64 _ _ _ h₅, bytes, List.append_assoc,
    List.cons_append, List.nil_append]

/-- The header, written again, and the body are the bytes of the record. -/
def Record.Intact (r : Record) : Prop := r.header.bytes ++ r.body = r.bytes

theorem Record.intact_of_decode {bs : Bytes} {r : Record} (h : decode bs = .ok r) : r.Intact := by
  obtain ⟨-, hread, -⟩ := decode_ok h
  rw [Header.read?, Option.map_eq_some_iff] at hread
  obtain ⟨⟨hd, rest⟩, hrun, hhd⟩ := hread
  have hbytes := Header.spells_scan _ _ _ hrun
  have hlen : hd.bytes.length = Header.width := by
    simp [Header.bytes, u16Bytes, u32Bytes, u64Bytes, Header.width]
  rw [Intact, body, ← hhd, hbytes, List.drop_left' hlen]

end MarketFeed
