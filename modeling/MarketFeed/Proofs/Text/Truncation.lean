import Mathlib.Data.List.TakeWhile
import MarketFeed.Proofs.Text.FixedField

set_option autoImplicit false

/-!
# Texts that are cut to a field

A field is cut at a number of bytes, which need not be where a character ends (`Utf8.Boundary`).
What is read of the bytes before the cut are the characters that are there as a whole
(`Utf8.LongestWithin`), and one U+FFFD for the character that was cut, as the bytes which are left
of it are one invalid part (`Utf8.units_take_encodeChar`). Before it is read a text is also cut at
its first NUL, which is a byte that no other character has (`FixedField.before_write`).
`fields_keep_fronts` puts this together for a field of any width with any earlier content.
-/

namespace MarketFeed

namespace Utf8

variable {cs p q : List Char} {c : Char} {k : Nat}

/-- A character of the text ends after `k` bytes, or `k` is zero. -/
def Boundary (cs : List Char) (k : Nat) : Prop := ∃ p, p <+: cs ∧ (encode p).length = k

/-- The characters of the text that lie within its first `k` bytes. -/
structure LongestWithin (k : Nat) (cs p : List Char) : Prop where
  starts : p <+: cs
  fits : (encode p).length ≤ k
  longest : ∀ q, q <+: cs → (encode q).length ≤ k → q <+: p

theorem encode_append (cs cs' : List Char) : encode (cs ++ cs') = encode cs ++ encode cs' :=
  List.flatMap_append

theorem length_encode_cons (c : Char) (cs : List Char) :
    (encode (c :: cs)).length = (String.utf8EncodeChar c).length + (encode cs).length := by
  rw [encode_cons, List.length_append]

theorem length_encode_le_of_prefix (h : p <+: q) : (encode p).length ≤ (encode q).length := by
  obtain ⟨t, rfl⟩ := h
  rw [encode_append, List.length_append]
  omega

/-- A text lies within `k` bytes, or the character after those that do does not. -/
theorem exists_longestWithin (k : Nat) (cs : List Char) :
    ∃ p, LongestWithin k cs p ∧ (p = cs ∨ ∃ c rest, cs = p ++ c :: rest ∧
      k < (encode p).length + (String.utf8EncodeChar c).length) := by
  -- a character that fits leaves the rest of the text with that much less room
  induction cs generalizing k with
  | nil => exact ⟨[], ⟨List.nil_prefix, Nat.zero_le k, fun _ hq _ => hq⟩, .inl rfl⟩
  | cons c cs ih =>
    by_cases hc : (String.utf8EncodeChar c).length ≤ k
    · obtain ⟨p, ⟨hp, hk, hlongest⟩, hend⟩ := ih (k - (String.utf8EncodeChar c).length)
      refine ⟨c :: p, ⟨List.cons_prefix_cons.mpr ⟨rfl, hp⟩, ?_, fun q hq hle => ?_⟩, ?_⟩
      · rw [length_encode_cons]
        omega
      · rcases List.prefix_cons_iff.mp hq with rfl | ⟨q', rfl, hq'⟩
        · exact List.nil_prefix
        · rw [length_encode_cons] at hle
          exact List.cons_prefix_cons.mpr ⟨rfl, hlongest q' hq' (by omega)⟩
      · rcases hend with rfl | ⟨d, rest, rfl, hd⟩
        · exact .inl rfl
        · refine .inr ⟨d, rest, rfl, ?_⟩
          rw [length_encode_cons]
          omega
    · refine ⟨[], ⟨List.nil_prefix, Nat.zero_le k, fun q hq hle => ?_⟩, .inr ⟨c, cs, rfl, ?_⟩⟩
      · rcases List.prefix_cons_iff.mp hq with rfl | ⟨q', rfl, -⟩
        · exact List.nil_prefix
        · rw [length_encode_cons] at hle
          omega
      · show k < 0 + _
        omega

/-- The cut falls on the end of a character just if it is where the whole characters end. -/
theorem LongestWithin.boundary_iff (h : LongestWithin k cs p) :
    Boundary cs k ↔ (encode p).length = k := by
  refine ⟨?_, fun hk => ⟨p, h.starts, hk⟩⟩
  rintro ⟨q, hq, rfl⟩
  have hle := length_encode_le_of_prefix (h.longest q hq (Nat.le_refl _))
  exact Nat.le_antisymm h.fits hle

/-! ## A character that is cut -/

/-- Some bytes of a character, but not all of them, are one invalid part. -/
theorem unitAfter_take {lead : UInt8} {tail : Bytes} (h : unitAfter lead tail = (some c, []))
    {i : Nat} (hi : i < tail.length) : unitAfter lead (tail.take i) = (none, []) := by
  cases hw : width? lead with
  | none => simp [unitAfter, hw] at h
  | some n =>
    rcases width?_bounds hw with ⟨rfl, -⟩ | ⟨rfl, -⟩ | ⟨rfl, -⟩ | ⟨rfl, -⟩
    · rw [unitAfter_one _ hw] at h
      cases h
      cases hi
    · obtain ⟨b, -, rfl, -⟩ := unitAfter_two_some hw h
      obtain rfl : i = 0 := Nat.lt_one_iff.mp hi
      simp [unitAfter, hw]
    · obtain ⟨b, d, hb, -, rfl, -⟩ := unitAfter_three_some hw h
      have hi : i = 0 ∨ i = 1 := by simp at hi; omega
      rcases hi with rfl | rfl <;> simp [unitAfter, hw, hb]
    · obtain ⟨b, d, e, hb, hd, -, rfl, -⟩ := unitAfter_four_some hw h
      have hi : i = 0 ∨ i = 1 ∨ i = 2 := by simp at hi; omega
      rcases hi with rfl | rfl | rfl <;> simp [unitAfter, hw, hb, hd]

theorem units_take_encodeChar (c : Char) {j : Nat} (hj : 0 < j)
    (hc : j < (String.utf8EncodeChar c).length) :
    units ((String.utf8EncodeChar c).take j) = [none] := by
  obtain ⟨lead, tail, he, hu⟩ := unitAfter_encodeChar c
  have hwhole := hu []
  rw [List.append_nil] at hwhole
  obtain ⟨i, rfl⟩ : ∃ i, j = i + 1 := ⟨j - 1, by omega⟩
  rw [he, List.length_cons] at hc
  rw [he, List.take_succ_cons, units, unitAfter_take hwhole (by omega), units]

/-- What is read of a text that was cut: the characters before the cut, and one U+FFFD if it does
not fall on the end of a character. -/
theorem decodeLossy_take (cs : List Char) {k : Nat} (hk : k < (encode cs).length) :
    ∃ p, LongestWithin k cs p ∧
      (Boundary cs k → decodeLossy ((encode cs).take k) = p) ∧
      (¬ Boundary cs k → decodeLossy ((encode cs).take k) = p ++ ['\uFFFD']) := by
  obtain ⟨p, hp, hend⟩ := exists_longestWithin k cs
  have hfits := hp.fits
  rcases hend with rfl | ⟨c, rest, hcs, hc⟩
  · omega
  have hj : k - (encode p).length ≤ (String.utf8EncodeChar c).length := by omega
  have htake : (encode cs).take k =
      encode p ++ (String.utf8EncodeChar c).take (k - (encode p).length) := by
    rw [hcs, encode_append, encode_cons, List.take_append, List.take_of_length_le hfits,
      List.take_append_of_le_length hj]
  refine ⟨p, hp, fun hb => ?_, fun hb => ?_⟩
  · have hlen := hp.boundary_iff.mp hb
    rw [htake, hlen, Nat.sub_self, List.take_zero, List.append_nil, decodeLossy_encode]
  · have hlen : (encode p).length ≠ k := fun h => hb (hp.boundary_iff.mpr h)
    have hcut := units_take_encodeChar c (j := k - (encode p).length) (by omega) (by omega)
    rw [htake, decodeLossy, units_encode_append, hcut, List.map_append, List.map_map]
    exact congrArg (· ++ ['\uFFFD']) (List.map_id p)

/-! ## ASCII -/

theorem length_encode_of_ascii (h : ∀ c ∈ cs, c.toNat < 128) : (encode cs).length = cs.length := by
  induction cs with
  | nil => rfl
  | cons c cs ih =>
    obtain ⟨hc, hcs⟩ := List.forall_mem_cons.mp h
    have hone : String.utf8EncodeChar c = [.ofNat c.toNat] := by
      rw [encodeChar_eq, if_pos (Nat.le_of_lt_succ hc)]
    rw [length_encode_cons, hone, ih hcs, List.length_singleton, List.length_cons, Nat.add_comm]

/-- A text of single bytes can be cut anywhere. -/
theorem boundary_of_ascii (h : ∀ c ∈ cs, c.toNat < 128) (hk : k ≤ (encode cs).length) :
    Boundary cs k := by
  rw [length_encode_of_ascii h] at hk
  refine ⟨cs.take k, List.take_prefix k cs, ?_⟩
  rw [length_encode_of_ascii fun c hc => h c (List.mem_of_mem_take hc), List.length_take_of_le hk]

end Utf8

namespace FixedField

open Utf8

/-- What is done to a field that was there: it is cleared, and as much of the text as leaves room
for one NUL is copied over its front. -/
def overwrite (field : Bytes) (text : String) : Bytes :=
  let cleared := field.map fun _ => 0
  let kept := (encode text.toList).take (field.length - 1)
  kept ++ cleared.drop kept.length

theorem overwrite_eq (field : Bytes) (text : String) :
    overwrite field text = write field.length text := by
  simp only [overwrite, write, List.map_const', List.drop_replicate]

/-- Each byte of a field is one of the text, or zero. -/
theorem getElem?_write {width i : Nat} (text : String) (hi : i < width) :
    (write width text)[i]? =
      if i < min (encode text.toList).length (width - 1) then (encode text.toList)[i]?
      else some 0 := by
  have hkept : ((encode text.toList).take (width - 1)).length =
      min (encode text.toList).length (width - 1) := by
    rw [List.length_take, Nat.min_comm]
  by_cases hlt : i < min (encode text.toList).length (width - 1)
  · rw [if_pos hlt, write, List.getElem?_append_left (by omega),
      List.getElem?_take_of_lt (by omega)]
  · rw [if_neg hlt, write, List.getElem?_append_right (by omega), List.getElem?_replicate,
      if_pos (by omega)]

theorem getLast?_write {width : Nat} (text : String) (hw : 0 < width) :
    (write width text).getLast? = some 0 := by
  rw [List.getLast?_eq_getElem?, length_write, getElem?_write text (by omega), if_neg (by omega)]

/-- The text up to its first NUL. -/
def front (text : String) : List Char := text.toList.takeWhile (· != '\x00')

theorem nul_not_mem_front (text : String) : '\x00' ∉ front text := by
  intro h
  simpa using List.all_eq_true.mp List.all_takeWhile _ h

/-- The bytes up to the first zero are those of the characters up to the first NUL. -/
theorem takeWhile_encode (text : String) :
    (encode text.toList).takeWhile (· != 0) = encode (front text) := by
  have hzero : ∀ b ∈ encode (front text), (b != 0) = true := by
    intro b hb
    have hne : b ≠ 0 := fun h => zero_not_mem_encode (nul_not_mem_front text) (h ▸ hb)
    simpa using hne
  have hrest : (encode (text.toList.dropWhile (· != '\x00'))).takeWhile (· != 0) = [] := by
    cases hd : text.toList.dropWhile (· != '\x00') with
    | nil => rfl
    | cons c cs =>
      have hc : c = '\x00' := by
        have hhead := List.head?_dropWhile_not (· != '\x00') text.toList
        rw [hd] at hhead
        simpa using hhead
      rw [hc]
      rfl
  have hsplit : text.toList = front text ++ text.toList.dropWhile (· != '\x00') :=
    List.takeWhile_append_dropWhile.symm
  conv => lhs; rw [hsplit]
  rw [encode_append, List.takeWhile_append_of_pos hzero, hrest, List.append_nil]

/-- What is read of a field: the text up to its first NUL, cut to the width. -/
theorem before_write (width : Nat) (text : String) :
    (write width text).takeWhile (· != 0) = (encode (front text)).take (width - 1) := by
  have hzeros (n : Nat) : (List.replicate n (0 : UInt8)).takeWhile (· != 0) = [] := by
    rw [List.takeWhile_replicate, if_neg (by decide)]
  rw [write, ← takeWhile_encode, List.take_takeWhile, List.takeWhile_append, hzeros,
    List.append_nil]
  split
  · rename_i h
    exact ((List.takeWhile_prefix _).eq_of_length h).symm
  · rfl

theorem toList_read_write (width : Nat) (text : String) :
    (read (write width text)).toList = decodeLossy ((encode (front text)).take (width - 1)) := by
  rw [read, before_write, String.toList_ofList]

theorem read_write_of_le {width : Nat} {text : String}
    (h : (encode (front text)).length ≤ width - 1) :
    (read (write width text)).toList = front text := by
  rw [toList_read_write, List.take_of_length_le h, decodeLossy_encode]

/-- Of ASCII text nothing but a front is read. -/
theorem read_write_of_ascii {width : Nat} {text : String} (h : ∀ c ∈ text.toList, c.toNat < 128) :
    (read (write width text)).toList <+: text.toList := by
  have hfront : front text <+: text.toList := List.takeWhile_prefix _
  by_cases hle : (encode (front text)).length ≤ width - 1
  · rwa [read_write_of_le hle]
  · have hlt := Nat.lt_of_not_le hle
    have hascii : ∀ c ∈ front text, c.toNat < 128 := fun c hc => h c (hfront.subset hc)
    obtain ⟨p, hp, hwhole, -⟩ := decodeLossy_take (front text) hlt
    rw [toList_read_write, hwhole (boundary_of_ascii hascii (Nat.le_of_lt hlt))]
    exact hp.starts.trans hfront

/-- Of a field with any earlier content, after a text was stored in it (there is no room in a field
without bytes):

* It is as long as before, and holds what `write` gives: the first bytes of the text, as many as
  leave room for one NUL, and zeros in all other places. So its last byte is zero.
* If the text up to its first NUL has room, it is read back.
* If it has not, what is read are the characters of it that have room as a whole, and just if the
  cut falls within a character, one U+FFFD after them.
* Of a text that is ASCII, what is read is a front. -/
theorem fields_keep_fronts (field : Bytes) (text : String) :
    let stored := overwrite field text
    let room := field.length - 1
    stored = write field.length text ∧ stored.length = field.length ∧
    (∀ i, i < field.length →
      stored[i]? = if i < min (encode text.toList).length room then (encode text.toList)[i]?
        else some 0) ∧
    (field ≠ [] → stored.getLast? = some 0) ∧
    ((encode (front text)).length ≤ room → (read stored).toList = front text) ∧
    (room < (encode (front text)).length → ∃ whole, LongestWithin room (front text) whole ∧
      (Boundary (front text) room → (read stored).toList = whole) ∧
      (¬ Boundary (front text) room → (read stored).toList = whole ++ ['\uFFFD'])) ∧
    ((∀ c ∈ text.toList, c.toNat < 128) → (read stored).toList <+: text.toList) := by
  intro stored room
  have hstored : stored = write field.length text := overwrite_eq field text
  rw [hstored]
  refine ⟨rfl, length_write text, fun i => getElem?_write text, fun hf => ?_, read_write_of_le,
    fun hlt => ?_, read_write_of_ascii⟩
  · exact getLast?_write text (List.length_pos_iff.mpr hf)
  · rw [toList_read_write]
    exact decodeLossy_take (front text) hlt

example : read (overwrite [255, 255, 255] "aé") = "a\uFFFD" := by decide +kernel

end FixedField

end MarketFeed
