import MarketFeed.Proofs.Record.Access

set_option autoImplicit false

/-!
# Headers and the bytes they take up

A header takes up the first 16 bytes of a buffer and says everything about them: it is read back
after it was written (`Header.read?_write`), and the header that is read, written again, changes
nothing (`Header.write_of_read?`). So a buffer with room for a header begins with just one
(`headers_fill_buffers`). What the length byte declares is at most 1020 bytes, which no machine word
is too narrow for (`Header.recordSize_word`).
-/

namespace MarketFeed

namespace Header

variable {h : Header} {buffer : Bytes}

theorem read?_write (h : Header) (buffer : Bytes) : read? (h.write buffer) = some h := by
  rw [read?, write, h.reads_scan]
  rfl

theorem length_write (h : Header) (hb : width ≤ buffer.length) :
    (h.write buffer).length = buffer.length := by
  rw [write, List.length_append, length_bytes, List.length_drop]
  omega

/-- No byte beyond the header is written. -/
theorem getElem?_write (h : Header) (buffer : Bytes) {i : Nat} (hi : width ≤ i) :
    (h.write buffer)[i]? = buffer[i]? := by
  have hl : h.bytes.length ≤ i := by rwa [length_bytes]
  rw [write, List.getElem?_append_right hl, List.getElem?_drop, length_bytes,
    Nat.add_sub_cancel' hi]

theorem exists_read? (hb : width ≤ buffer.length) : ∃ h, read? buffer = some h := by
  obtain ⟨h, -, hrun⟩ := takes_scan.run hb
  exact ⟨h, by rw [read?, hrun]; rfl⟩

/-- A header is spelt in one way only, so writing what was read changes nothing. -/
theorem write_of_read? (hr : read? buffer = some h) : h.write buffer = buffer := by
  rw [read?, Option.map_eq_some_iff] at hr
  obtain ⟨⟨_, rest⟩, hrun, rfl⟩ := hr
  have hbytes := spells_scan _ _ _ hrun
  rw [write, hbytes, List.drop_left' (length_bytes _)]

theorem read?_of_write (hw : h.write buffer = buffer) : read? buffer = some h := by
  have hr := h.read?_write buffer
  rwa [hw] at hr

/-- The size that is declared fits a machine word, so no product is cut off. -/
theorem recordSize_word (h : Header) {w : Nat} (hw : 10 ≤ w) :
    (BitVec.ofNat w h.length.toNat * BitVec.ofNat w 4).toNat = h.recordSize := by
  have hlength := h.length.toNat_lt
  have hpow : 2 ^ 10 ≤ 2 ^ w := Nat.pow_le_pow_right (by decide) hw
  rw [BitVec.toNat_mul, BitVec.toNat_ofNat, BitVec.toNat_ofNat, recordSize,
    Nat.mod_eq_of_lt (a := h.length.toNat) (by omega), Nat.mod_eq_of_lt (a := 4) (by omega),
    Nat.mod_eq_of_lt (by omega), Nat.mul_comm]

end Header

/-- Of a buffer with room for a header:

* Every header is read back after it was written. Writing it neither lengthens nor shortens the
  buffer and leaves every byte beyond the first 16 as it is.
* A header is read from the buffer, and it is the only one that can be written without changing
  the buffer.
* The size that a header declares is four times its first byte, also when it is computed in a
  machine word of ten bits or more. -/
theorem headers_fill_buffers {buffer : Bytes} (hb : Header.width ≤ buffer.length) :
    (∀ h : Header, Header.read? (h.write buffer) = some h ∧
      (h.write buffer).length = buffer.length ∧
      ∀ i, Header.width ≤ i → (h.write buffer)[i]? = buffer[i]?) ∧
    (∃ h, Header.read? buffer = some h ∧ h.write buffer = buffer ∧
      ∀ h' : Header, h'.write buffer = buffer → h' = h) ∧
    ∀ h : Header, (h.write buffer)[0]? = some h.length ∧ h.recordSize = 4 * h.length.toNat ∧
      ∀ w, 10 ≤ w → (BitVec.ofNat w h.length.toNat * BitVec.ofNat w 4).toNat = h.recordSize := by
  refine ⟨fun h => ⟨h.read?_write buffer, h.length_write hb, fun i => h.getElem?_write buffer⟩,
    ?_, fun h => ⟨rfl, rfl, fun w => h.recordSize_word⟩⟩
  obtain ⟨h, hr⟩ := Header.exists_read? hb
  refine ⟨h, hr, Header.write_of_read? hr, fun h' hw => ?_⟩
  have hr' := Header.read?_of_write hw
  rw [hr] at hr'
  exact (Option.some.inj hr').symm

/-- The greatest header there is, over a buffer of 18 zeros. -/
theorem headers_fill_buffers_greatest :
    let h : Header := ⟨255, 255, 65535, 4294967295, 18446744073709551615⟩
    let buffer : Bytes := List.replicate 18 0
    Header.width ≤ buffer.length ∧ h.write buffer = List.replicate 16 255 ++ [0, 0] ∧
      Header.read? (h.write buffer) = some h ∧ h.recordSize = 1020 := by
  intro h buffer
  have hb : Header.width ≤ buffer.length := by decide
  obtain ⟨hwrite, -, hsize⟩ := headers_fill_buffers hb
  exact ⟨hb, by decide +kernel, (hwrite h).1, (hsize h).2.1⟩

end MarketFeed
