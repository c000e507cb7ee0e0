import MarketFeed.Proofs.Text.Utf8
import MarketFeed.Text.FixedField

set_option autoImplicit false

/-!
# What a fixed-width field keeps of a text

A field always has its width (`length_write`). A text without NUL that leaves room for one is read
back as it was written (`read_write`).
-/

namespace MarketFeed.FixedField

/-- The text fits the field: it has no NUL, and its bytes leave room for one. -/
def Fits (width : Nat) (text : String) : Prop := '\x00' ∉ text.toList ∧ text.utf8ByteSize < width

instance (width : Nat) (text : String) : Decidable (Fits width text) :=
  inferInstanceAs (Decidable (_ ∧ _))

theorem length_write {width : Nat} (text : String) : (write width text).length = width := by
  simp only [write, List.length_append, List.length_replicate, List.length_take]
  omega

/-- What stands before the first NUL is read. -/
theorem read_append_zeros {bs : Bytes} (h : 0 ∉ bs) (n : Nat) :
    read (bs ++ List.replicate n 0) = String.ofList (Utf8.decodeLossy bs) := by
  have htake : (bs ++ List.replicate n 0).takeWhile (· != 0) = bs := by
    rw [List.takeWhile_append_of_pos]
    · simp
    · intro b hb
      simp only [bne_iff_ne, ne_eq]
      rintro rfl
      exact h hb
  rw [read, htake]

theorem read_write {width : Nat} {text : String} (h : Fits width text) :
    read (write width text) = text := by
  obtain ⟨hz, hlen⟩ := h
  rw [← Utf8.length_encode_toList] at hlen
  have hkept : (Utf8.encode text.toList).take (width - 1) = Utf8.encode text.toList :=
    List.take_of_length_le (by omega)
  rw [write, hkept, read_append_zeros (Utf8.zero_not_mem_encode hz), Utf8.decodeLossy_encode,
    String.ofList_toList]

theorem length_read_le (field : Bytes) :
    (Utf8.encode (read field).toList).length ≤ 4 * field.length := by
  have hbefore : (field.takeWhile (· != 0)).length ≤ field.length :=
    (List.takeWhile_prefix _).length_le
  have hread := Utf8.length_encode_decodeLossy_le (field.takeWhile (· != 0))
  rw [read, String.toList_ofList]
  omega

end MarketFeed.FixedField
