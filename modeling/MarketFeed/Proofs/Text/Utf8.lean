import MarketFeed.Text.Utf8

set_option autoImplicit false

/-!
# Texts survive UTF-8

`units_encode`: the bytes of a text are read as its characters, with no invalid part, so a lossy
reading of them gives the text back (`decodeLossy_encode`). A character is read off the one to four
bytes it has whatever follows them (`unitAfter_encodeChar`), one case for each number of bytes.
In the other direction a character that is read is spelt with its own bytes
(`eq_encodeChar_of_unitAfter`), so nothing but the bytes of a text is read as UTF-8
(`decode?_eq_some_iff`).
-/

namespace MarketFeed.Utf8

/-! ## Bytes -/

theorem isContinuation_of {b : UInt8} (h : 0x80 ≤ b.toNat) (h' : b.toNat ≤ 0xBF) :
    isContinuation b = true := by
  simp [isContinuation, UInt8.le_iff_toNat_le, h, h']

/-- A second byte may not make the form overlong, nor the number a surrogate or too large. -/
theorem secondOk_of {lead b : UInt8} (h : 0x80 ≤ b.toNat) (h' : b.toNat ≤ 0xBF)
    (hE0 : lead.toNat = 0xE0 → 0xA0 ≤ b.toNat) (hED : lead.toNat = 0xED → b.toNat ≤ 0x9F)
    (hF0 : lead.toNat = 0xF0 → 0x90 ≤ b.toNat) (hF4 : lead.toNat = 0xF4 → b.toNat ≤ 0x8F) :
    secondOk lead b = true := by
  simp only [secondOk, beq_iff_eq, ← UInt8.toNat_inj]
  split
  · rename_i hl
    simp [UInt8.le_iff_toNat_le, hE0 hl, h']
  · split
    · rename_i hl
      simp [UInt8.le_iff_toNat_le, hED hl, h]
    · split
      · rename_i hl
        simp [UInt8.le_iff_toNat_le, hF0 hl, h']
      · split
        · rename_i hl
          simp [UInt8.le_iff_toNat_le, hF4 hl, h]
        · exact isContinuation_of h h'

theorem width?_eq (lead : UInt8) : width? lead =
    if lead.toNat < 0x80 then some 1
    else if lead.toNat < 0xC2 then none
    else if lead.toNat < 0xE0 then some 2
    else if lead.toNat < 0xF0 then some 3
    else if lead.toNat < 0xF5 then some 4
    else none := by
  simp [width?, UInt8.lt_iff_toNat_lt]

/-! ## Characters -/

section

variable {lead b c d : UInt8} (rest : Bytes)

theorem unitAfter_one (hw : width? lead = some 1) :
    unitAfter lead rest = (some (Char.ofNat lead.toNat), rest) := by
  simp [unitAfter, hw]

theorem unitAfter_two (hw : width? lead = some 2) (hb : secondOk lead b = true) :
    unitAfter lead (b :: rest) = (some (Char.ofNat (lead.toNat % 32 * 64 + payload b)), rest) := by
  simp [unitAfter, hw, hb]

theorem unitAfter_three (hw : width? lead = some 3) (hb : secondOk lead b = true)
    (hc : isContinuation c = true) :
    unitAfter lead (b :: c :: rest) =
      (some (Char.ofNat ((lead.toNat % 16 * 64 + payload b) * 64 + payload c)), rest) := by
  simp [unitAfter, hw, hb, hc]

theorem unitAfter_four (hw : width? lead = some 4) (hb : secondOk lead b = true)
    (hc : isContinuation c = true) (hd : isContinuation d = true) :
    unitAfter lead (b :: c :: d :: rest) =
      (some (Char.ofNat
        (((lead.toNat % 8 * 64 + payload b) * 64 + payload c) * 64 + payload d)), rest) := by
  simp [unitAfter, hw, hb, hc, hd]

end

theorem encodeChar_eq (c : Char) : String.utf8EncodeChar c =
    if c.toNat ≤ 0x7F then [.ofNat c.toNat]
    else if c.toNat ≤ 0x7FF then
      [.ofNat (c.toNat / 64 % 0x20 + 0xC0), .ofNat (c.toNat % 0x40 + 0x80)]
    else if c.toNat ≤ 0xFFFF then
      [.ofNat (c.toNat / 4096 % 0x10 + 0xE0), .ofNat (c.toNat / 64 % 0x40 + 0x80),
        .ofNat (c.toNat % 0x40 + 0x80)]
    else
      [.ofNat (c.toNat / 262144 % 0x08 + 0xF0), .ofNat (c.toNat / 4096 % 0x40 + 0x80),
        .ofNat (c.toNat / 64 % 0x40 + 0x80), .ofNat (c.toNat % 0x40 + 0x80)] := rfl

theorem toNat_ofNat_of_lt {n : Nat} (h : n < 256) : (UInt8.ofNat n).toNat = n := by
  rw [UInt8.toNat_ofNat', Nat.mod_eq_of_lt h]

/-- The bytes of a character are read as this character, whatever follows. -/
theorem unitAfter_encodeChar (c : Char) : ∃ lead tail,
    String.utf8EncodeChar c = lead :: tail ∧
      ∀ rest, unitAfter lead (tail ++ rest) = (some c, rest) := by
  have hvalid : c.toNat < 0xD800 ∨ (0xDFFF < c.toNat ∧ c.toNat < 0x110000) := c.valid
  have hc : ∀ v, v = c.toNat → Char.ofNat v = c := fun v h => by rw [h, Char.ofNat_toNat]
  rw [encodeChar_eq]
  generalize c.toNat = v at hvalid hc
  have hlast : (UInt8.ofNat (v % 0x40 + 0x80)).toNat = v % 64 + 128 := toNat_ofNat_of_lt (by omega)
  have hmid : (UInt8.ofNat (v / 64 % 0x40 + 0x80)).toNat = v / 64 % 64 + 128 :=
    toNat_ofNat_of_lt (by omega)
  split
  · have hlead : (UInt8.ofNat v).toNat = v := toNat_ofNat_of_lt (by omega)
    refine ⟨_, _, rfl, fun rest => ?_⟩
    rw [List.nil_append, unitAfter_one, hlead, hc v rfl]
    rw [width?_eq, if_pos (by omega)]
  · split
    · have hlead : (UInt8.ofNat (v / 64 % 0x20 + 0xC0)).toNat = v / 64 % 32 + 192 :=
        toNat_ofNat_of_lt (by omega)
      refine ⟨_, _, rfl, fun rest => ?_⟩
      rw [List.cons_append, List.nil_append, unitAfter_two, payload, hlead, hlast, hc _ (by omega)]
      · rw [width?_eq, hlead, if_neg (by omega), if_neg (by omega), if_pos (by omega)]
      · apply secondOk_of <;> omega
    · split
      · have hlead : (UInt8.ofNat (v / 4096 % 0x10 + 0xE0)).toNat = v / 4096 % 16 + 224 :=
          toNat_ofNat_of_lt (by omega)
        refine ⟨_, _, rfl, fun rest => ?_⟩
        rw [List.cons_append, List.cons_append, List.nil_append, unitAfter_three, payload, payload,
          hlead, hmid, hlast, hc _ (by omega)]
        · rw [width?_eq, hlead, if_neg (by omega), if_neg (by omega), if_neg (by omega),
            if_pos (by omega)]
        · apply secondOk_of <;> omega
        · apply isContinuation_of <;> omega
      · have hlead : (UInt8.ofNat (v / 262144 % 0x08 + 0xF0)).toNat = v / 262144 % 8 + 240 :=
          toNat_ofNat_of_lt (by omega)
        have hsecond : (UInt8.ofNat (v / 4096 % 0x40 + 0x80)).toNat = v / 4096 % 64 + 128 :=
          toNat_ofNat_of_lt (by omega)
        refine ⟨_, _, rfl, fun rest => ?_⟩
        rw [List.cons_append, List.cons_append, List.cons_append, List.nil_append, unitAfter_four,
          payload, payload, payload, hlead, hsecond, hmid, hlast, hc _ (by omega)]
        · rw [width?_eq, hlead, if_neg (by omega), if_neg (by omega), if_neg (by omega),
            if_neg (by omega), if_pos (by omega)]
        · apply secondOk_of <;> omega
        · apply isContinuation_of <;> omega
        · apply isContinuation_of <;> omega

/-! ## Texts -/

theorem encode_cons (c : Char) (cs : List Char) :
    encode (c :: cs) = String.utf8EncodeChar c ++ encode cs := List.flatMap_cons

theorem units_encode_append (cs : List Char) (rest : Bytes) :
    units (encode cs ++ rest) = cs.map some ++ units rest := by
  induction cs with
  | nil => rfl
  | cons c cs ih =>
    obtain ⟨lead, tail, he, hu⟩ := unitAfter_encodeChar c
    rw [encode_cons, he, List.cons_append, List.cons_append, List.append_assoc, units, hu, ih]
    rfl

theorem units_encode (cs : List Char) : units (encode cs) = cs.map some := by
  have h := units_encode_append cs []
  rwa [List.append_nil, units, List.append_nil] at h

theorem decodeLossy_encode (cs : List Char) : decodeLossy (encode cs) = cs := by
  rw [decodeLossy, units_encode, List.map_map]
  exact List.map_id cs

theorem encodeChar_ne_zero {c : Char} (hc : c.toNat ≠ 0) :
    ∀ b ∈ String.utf8EncodeChar c, b ≠ 0 := by
  have hbyte : ∀ n, 0 < n ∧ n < 256 → UInt8.ofNat n ≠ 0 := by
    rintro n ⟨hn, hlt⟩ h
    have := congrArg UInt8.toNat h
    rw [toNat_ofNat_of_lt hlt, UInt8.toNat_zero] at this
    omega
  rw [encodeChar_eq]
  repeat' split
  all_goals
    simp only [List.forall_mem_cons, List.not_mem_nil, false_implies, implies_true, and_true]
  · exact hbyte _ (by omega)
  · exact ⟨hbyte _ (by omega), hbyte _ (by omega)⟩
  · exact ⟨hbyte _ (by omega), hbyte _ (by omega), hbyte _ (by omega)⟩
  · exact ⟨hbyte _ (by omega), hbyte _ (by omega), hbyte _ (by omega), hbyte _ (by omega)⟩

/-- Only the character NUL has a byte that is NUL. -/
theorem zero_not_mem_encode {cs : List Char} (h : '\x00' ∉ cs) : 0 ∉ encode cs := by
  intro hm
  obtain ⟨c, hc, hb⟩ := List.mem_flatMap.mp hm
  refine encodeChar_ne_zero (fun hz => h ?_) 0 hb rfl
  have : c = '\x00' := Char.toNat_inj.mp hz
  rwa [← this]

theorem length_encode_toList (text : String) :
    (encode text.toList).length = text.utf8ByteSize := by
  have h := congrArg ByteArray.size (String.utf8Encode_toList (b := text))
  simpa [List.utf8Encode, encode] using h

/-! ## Lengths -/

theorem length_units_le (bs : Bytes) : (units bs).length ≤ bs.length := by
  induction bs using units.induct with
  | case1 =>
    rw [units]
    exact Nat.le_refl 0
  | case2 lead rest ih =>
    have hrest := length_unitAfter_le lead rest
    rw [units, List.length_cons, List.length_cons]
    omega

theorem length_encode_le (cs : List Char) : (encode cs).length ≤ 4 * cs.length := by
  induction cs with
  | nil => exact Nat.le_refl 0
  | cons c cs ih =>
    have hc : (String.utf8EncodeChar c).length ≤ 4 := by
      rw [encodeChar_eq]
      repeat' split
      all_goals simp only [List.length_cons, List.length_nil, Nat.reduceAdd, Nat.reduceLeDiff]
    rw [encode_cons, List.length_append, List.length_cons]
    omega

/-- No part of a byte string is read as a character of more than four bytes. -/
theorem length_encode_decodeLossy_le (bs : Bytes) :
    (encode (decodeLossy bs)).length ≤ 4 * bs.length := by
  have hunits := length_units_le bs
  have hencode := length_encode_le (decodeLossy bs)
  rw [decodeLossy, List.length_map] at hencode
  rw [decodeLossy]
  omega

/-! ## Bytes that are UTF-8 -/

theorem toNat_char_ofNat {n : Nat} (h : n < 0xD800 ∨ (0xDFFF < n ∧ n < 0x110000)) :
    (Char.ofNat n).toNat = n := by
  rw [Char.ofNat, dif_pos h]
  rfl

theorem isContinuation_bounds {b : UInt8} (h : isContinuation b = true) :
    0x80 ≤ b.toNat ∧ b.toNat ≤ 0xBF := by
  simpa [isContinuation, UInt8.le_iff_toNat_le] using h

theorem byte_eq {b : UInt8} {n : Nat} (h : n = b.toNat) : UInt8.ofNat n = b := by
  rw [h, UInt8.ofNat_toNat]

theorem secondOk_bounds {lead b : UInt8} (h : secondOk lead b = true) :
    0x80 ≤ b.toNat ∧ b.toNat ≤ 0xBF ∧ (lead.toNat = 0xE0 → 0xA0 ≤ b.toNat) ∧
      (lead.toNat = 0xED → b.toNat ≤ 0x9F) ∧ (lead.toNat = 0xF0 → 0x90 ≤ b.toNat) ∧
      (lead.toNat = 0xF4 → b.toNat ≤ 0x8F) := by
  simp only [secondOk, beq_iff_eq, ← UInt8.toNat_inj, UInt8.le_iff_toNat_le, isContinuation]
    at h
  split at h
  · simp at *; omega
  · split at h
    · simp at *; omega
    · split at h
      · simp at *; omega
      · split at h
        · simp at *; omega
        · simp at *; omega

theorem width?_bounds {lead : UInt8} {n : Nat} (h : width? lead = some n) :
    (n = 1 ∧ lead.toNat < 0x80) ∨ (n = 2 ∧ 0xC2 ≤ lead.toNat ∧ lead.toNat < 0xE0) ∨
      (n = 3 ∧ 0xE0 ≤ lead.toNat ∧ lead.toNat < 0xF0) ∨
      (n = 4 ∧ 0xF0 ≤ lead.toNat ∧ lead.toNat < 0xF5) := by
  rw [width?_eq] at h
  grind

section

variable {lead : UInt8} {rest r : Bytes} {c : Char}

theorem unitAfter_two_some (hw : width? lead = some 2) (h : unitAfter lead rest = (some c, r)) :
    ∃ b, secondOk lead b = true ∧ rest = b :: r ∧
      c = Char.ofNat (lead.toNat % 32 * 64 + payload b) := by
  rcases rest with _ | ⟨b, rest⟩
  · simp [unitAfter, hw] at h
  · by_cases hb : secondOk lead b = true
    · rw [unitAfter_two _ hw hb] at h
      cases h
      exact ⟨b, hb, rfl, rfl⟩
    · simp [unitAfter, hw, hb] at h

theorem unitAfter_three_some (hw : width? lead = some 3)
    (h : unitAfter lead rest = (some c, r)) :
    ∃ b d, secondOk lead b = true ∧ isContinuation d = true ∧ rest = b :: d :: r ∧
      c = Char.ofNat ((lead.toNat % 16 * 64 + payload b) * 64 + payload d) := by
  rcases rest with _ | ⟨b, _ | ⟨d, rest⟩⟩
  · simp [unitAfter, hw] at h
  · by_cases hb : secondOk lead b = true <;> simp [unitAfter, hw, hb] at h
  · by_cases hb : secondOk lead b = true
    · by_cases hd : isContinuation d = true
      · rw [unitAfter_three _ hw hb hd] at h
        cases h
        exact ⟨b, d, hb, hd, rfl, rfl⟩
      · simp [unitAfter, hw, hb, hd] at h
    · simp [unitAfter, hw, hb] at h

theorem unitAfter_four_some (hw : width? lead = some 4)
    (h : unitAfter lead rest = (some c, r)) :
    ∃ b d e, secondOk lead b = true ∧ isContinuation d = true ∧ isContinuation e = true ∧
      rest = b :: d :: e :: r ∧
      c = Char.ofNat (((lead.toNat % 8 * 64 + payload b) * 64 + payload d) * 64 + payload e) := by
  rcases rest with _ | ⟨b, _ | ⟨d, _ | ⟨e, rest⟩⟩⟩
  · simp [unitAfter, hw] at h
  · by_cases hb : secondOk lead b = true <;> simp [unitAfter, hw, hb] at h
  · by_cases hb : secondOk lead b = true <;> by_cases hd : isContinuation d = true <;>
      simp [unitAfter, hw, hb, hd] at h
  · by_cases hb : secondOk lead b = true
    · by_cases hd : isContinuation d = true
      · by_cases he : isContinuation e = true
        · rw [unitAfter_four _ hw hb hd he] at h
          cases h
          exact ⟨b, d, e, hb, hd, he, rfl, rfl⟩
        · simp [unitAfter, hw, hb, hd, he] at h
      · simp [unitAfter, hw, hb, hd] at h
    · simp [unitAfter, hw, hb] at h

end

/-- A unit that is a character is spelt with the bytes of this character. -/
theorem eq_encodeChar_of_unitAfter {lead : UInt8} {rest r : Bytes} {c : Char}
    (h : unitAfter lead rest = (some c, r)) : lead :: rest = String.utf8EncodeChar c ++ r := by
  rw [encodeChar_eq]
  cases hw : width? lead with
  | none => simp [unitAfter, hw] at h
  | some n =>
    rcases width?_bounds hw with ⟨rfl, hl⟩ | ⟨rfl, hl⟩ | ⟨rfl, hl⟩ | ⟨rfl, hl⟩
    · rw [unitAfter_one _ hw] at h
      cases h
      rw [toNat_char_ofNat (by omega), if_pos (by omega), byte_eq rfl]
      rfl
    · obtain ⟨b, hb, rfl, rfl⟩ := unitAfter_two_some hw h
      have hb := secondOk_bounds hb
      rw [payload, toNat_char_ofNat (by omega), if_neg (by omega), if_pos (by omega),
        byte_eq (b := lead) (by omega), byte_eq (b := b) (by omega)]
      rfl
    · obtain ⟨b, d, hb, hd, rfl, rfl⟩ := unitAfter_three_some hw h
      have hb := secondOk_bounds hb
      have hd := isContinuation_bounds hd
      rw [payload, payload, toNat_char_ofNat (by omega), if_neg (by omega), if_neg (by omega),
        if_pos (by omega), byte_eq (b := lead) (by omega), byte_eq (b := b) (by omega),
        byte_eq (b := d) (by omega)]
      rfl
    · obtain ⟨b, d, e, hb, hd, he, rfl, rfl⟩ := unitAfter_four_some hw h
      have hb := secondOk_bounds hb
      have hd := isContinuation_bounds hd
      have he := isContinuation_bounds he
      rw [payload, payload, payload, toNat_char_ofNat (by omega), if_neg (by omega),
        if_neg (by omega), if_neg (by omega), byte_eq (b := lead) (by omega),
        byte_eq (b := b) (by omega), byte_eq (b := d) (by omega), byte_eq (b := e) (by omega)]
      rfl

/-- Bytes that are read without an invalid part are the bytes of what is read. -/
theorem eq_encode_of_units {bs : Bytes} {cs : List Char} (h : units bs = cs.map some) :
    bs = encode cs := by
  induction bs using units.induct generalizing cs with
  | case1 =>
    rw [units] at h
    rw [List.map_eq_nil_iff.mp h.symm]
    rfl
  | case2 lead rest ih =>
    rw [units] at h
    cases cs with
    | nil => cases h
    | cons c cs =>
      injection h with hc hcs
      have hlead := eq_encodeChar_of_unitAfter (Prod.ext hc rfl)
      rw [hlead, encode_cons, ← ih hcs]

theorem mapM_id_eq_some {α : Type} {l : List (Option α)} {as : List α} :
    l.mapM id = some as ↔ l = as.map some := by
  induction l generalizing as with
  | nil => cases as <;> simp
  | cons o l ih =>
    cases o with
    | none => cases as <;> simp
    | some a =>
      have hcons : (some a :: l).mapM id = (l.mapM id).map (a :: ·) := by
        rw [List.mapM_cons]
        cases l.mapM id <;> rfl
      rw [hcons, Option.map_eq_some_iff]
      constructor
      · rintro ⟨tail, htail, rfl⟩
        rw [ih.mp htail, List.map_cons]
      · intro h
        cases as with
        | nil => cases h
        | cons b as =>
          injection h with ha htail
          cases ha
          exact ⟨as, ih.mpr htail, rfl⟩

/-- Just the bytes of a text are read as UTF-8. -/
theorem decode?_eq_some_iff {bs : Bytes} {cs : List Char} :
    decode? bs = some cs ↔ bs = encode cs := by
  rw [decode?, mapM_id_eq_some]
  exact ⟨eq_encode_of_units, fun h => by rw [h, units_encode]⟩

end MarketFeed.Utf8
