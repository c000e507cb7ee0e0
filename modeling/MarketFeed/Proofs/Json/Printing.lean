import MarketFeed.Json.Printer
import MarketFeed.Proofs.Json.Grammar

set_option autoImplicit false

/-!
# Printed documents are read back

Every document whose numbers are spelt as numbers (`WellSpelt`) is printed as a text that spells it,
and in front of any other text (`WellSpelt.spells`), so it is read back as it was
(`WellSpelt.parse?_compact`). The text has no control characters (`WellSpelt.printable`).
-/

namespace MarketFeed.Json

/-- The numbers of the document that are not integers are spelt as such numbers. -/
inductive WellSpelt : Json → Prop
  | null : WellSpelt .null
  | bool {b : Bool} : WellSpelt (.bool b)
  | int {n : Int} : WellSpelt (.int n)
  | real {s : List Char} : Number s (.real s) → WellSpelt (.real s)
  | str {l : Literal} : WellSpelt (.str l)
  | arr {items : List Json} : (∀ j ∈ items, WellSpelt j) → WellSpelt (.arr items)
  | obj {members : List (Literal × Json)} : (∀ m ∈ members, WellSpelt m.2) →
      WellSpelt (.obj members)

/-! ## Strings -/

theorem hexValue?_hexDigit {n : Nat} (h : n < 16) : hexValue? (hexDigit n) = some n := by
  have hall : ∀ n : Fin 16, hexValue? (hexDigit n) = some n.val := by decide
  exact hall ⟨n, h⟩

/-- A control character is escaped by its number. -/
theorem hexFour?_hexByte {n : Nat} (h : n < 256) :
    hexFour? '0' '0' (hexDigit (n / 16)) (hexDigit (n % 16)) = some n := by
  have hzero : hexValue? '0' = some 0 := rfl
  simp only [hexFour?, hzero, hexValue?_hexDigit (show n / 16 < 16 by omega),
    hexValue?_hexDigit (show n % 16 < 16 by omega)]
  simp only [Option.bind_eq_bind, Option.bind_some, Option.pure_def, Option.some.injEq]
  omega

/-- A character is escaped, or written as it is, so that it stands for itself. -/
theorem units_escape {c : Char} {s rest : List Char} {us : List Nat} (h : Units s us rest) :
    Units (escape c ++ s) (c.toNat :: us) rest := by
  unfold escape
  by_cases hq : c = '"'
  · rw [if_pos hq, hq]
    exact .short rfl h
  rw [if_neg hq]
  by_cases hb : c = '\\'
  · rw [if_pos hb, hb]
    exact .short rfl h
  rw [if_neg hb]
  iterate 5
    split
    · rename_i hc
      rw [hc]
      exact .short rfl h
  split
  · rename_i hc
    have hn : c.toNat.toUInt8.toNat = c.toNat :=
      UInt8.toNat_ofNat_of_lt' (Nat.lt_trans hc (by decide))
    refine .hex ?_ h
    rw [hn]
    exact hexFour?_hexByte (by omega)
  · rename_i hc
    exact .plain hq hb (Nat.le_of_not_lt hc) h

theorem units_flatMap_escape (cs rest : List Char) :
    Units (cs.flatMap escape ++ '"' :: rest) (cs.map Char.toNat) rest := by
  induction cs with
  | nil => exact .close
  | cons c cs ih =>
    rw [List.flatMap_cons, List.append_assoc]
    exact units_escape ih

theorem ofUnits_toNat (cs : List Char) : ofUnits (cs.map Char.toNat) = some cs := by
  induction cs with
  | nil => rfl
  | cons c cs ih =>
    have hc : c.toNat < 0xD800 ∨ 0xDFFF < c.toNat ∧ c.toNat < 0x110000 := c.valid
    rw [List.map_cons, ofUnits.eq_def]
    simp only
    rw [if_neg (by omega), if_neg (by omega), ih, Option.map_some, Char.ofNat_toNat]

theorem quoted_literal (l : Literal) (rest : List Char) :
    ∃ s, literal l ++ rest = '"' :: s ∧ Quoted s l rest := by
  cases l with
  | none => exact ⟨_, rfl, [0xD800], .hex rfl .close, rfl⟩
  | some text =>
    refine ⟨text.toList.flatMap escape ++ '"' :: rest, ?_, _, units_flatMap_escape _ _, ?_⟩
    · rw [literal, quote]
      simp
    · rw [ofUnits_toNat, Option.map_some, String.ofList_toList]

/-! ## Numbers -/

theorem decimal_toDigits (n : Nat) : decimal (Nat.toDigits 10 n) = n :=
  Nat.ofDigitChars_ten_toDigits

/-- No number above zero begins with a zero. -/
theorem head_toDigits {n : Nat} (h : 0 < n) : (Nat.toDigits 10 n).head? ≠ some '0' := by
  induction n using Nat.strongRecOn with
  | ind n ih =>
    by_cases hn : n < 10
    · rw [Nat.toDigits_of_lt_base hn]
      have hall : ∀ n : Fin 10, 0 < n.val → [n.val.digitChar].head? ≠ some '0' := by decide
      exact hall ⟨n, hn⟩ h
    · have hrest := ih (n / 10) (by omega) (by omega)
      have hne : Nat.toDigits 10 (n / 10) ≠ [] := Nat.toDigits_ne_nil
      obtain ⟨c, cs, hcs⟩ := List.exists_cons_of_ne_nil hne
      rw [Nat.toDigits_of_base_le (by decide) (by omega), hcs]
      rwa [hcs] at hrest

theorem isDigit_of_mem_toDigits {n : Nat} {c : Char} (h : c ∈ Nat.toDigits 10 n) :
    isDigit c = true := by
  have hd := Nat.isDigit_of_mem_toDigits (by decide) (by decide) h
  simpa [isDigit, Char.isDigit, Char.le_def] using hd

theorem whole_toDigits (n : Nat) : Whole (Nat.toDigits 10 n) := by
  refine ⟨⟨Nat.toDigits_ne_nil, fun c => isDigit_of_mem_toDigits⟩, ?_⟩
  rintro ⟨hz, hl⟩
  cases n with
  | zero => exact hl rfl
  | succ n => exact head_toDigits (Nat.succ_pos n) hz

theorem number_toDigits {sign : List Char} (h : sign = [] ∨ sign = ['-']) (n : Nat) :
    Number (sign ++ Nat.toDigits 10 n) (numeral sign (Nat.toDigits 10 n) [] []) := by
  have h := Number.intro h (whole_toDigits n) .absent .absent
  rwa [List.append_nil, List.append_nil] at h

theorem number_digits (n : Int) : Number (digits n) (.int n) := by
  have hd := decimal_toDigits n.natAbs
  unfold digits
  by_cases hn : n < 0
  · have hvalue : numeral ['-'] (Nat.toDigits 10 n.natAbs) [] [] = .int n := by
      have hsign : ['-'] ≠ ([] : List Char) := List.cons_ne_nil _ _
      rw [numeral, if_pos ⟨rfl, rfl⟩, if_neg hsign, hd, if_neg (by omega)]
      exact congrArg Json.int (by omega)
    have h := number_toDigits (.inr rfl) n.natAbs
    rw [hvalue] at h
    rwa [if_pos hn]
  · have hvalue : numeral [] (Nat.toDigits 10 n.natAbs) [] [] = .int n := by
      rw [numeral, if_pos ⟨rfl, rfl⟩, if_pos rfl, hd]
      exact congrArg Json.int (by omega)
    have h := number_toDigits (.inl rfl) n.natAbs
    rw [hvalue] at h
    rwa [if_neg hn]

/-! ## Documents -/

/-- Items that are printed so that they are spelt are spelt as an array. -/
theorem spells_renderItems {j : Json} {js : List Json}
    (h : ∀ j' ∈ j :: js, ∀ rest, Spells (j'.render ++ rest) (.value j') rest) (rest : List Char) :
    Spells (renderItems (j :: js) ++ rest) (.items (j :: js)) rest := by
  induction js generalizing j with
  | nil =>
    rw [renderItems, List.append_assoc]
    exact .lastItem (h j (List.mem_cons_self ..) _) .refl
  | cons k js ih =>
    rw [renderItems, List.append_assoc]
    · exact .item (h j (List.mem_cons_self ..) _) .refl
        (ih fun j' hj => h j' (List.mem_cons_of_mem _ hj))
    · simp

theorem spells_renderMembers {m : Literal × Json} {ms : List (Literal × Json)}
    (h : ∀ m' ∈ m :: ms, ∀ rest, Spells (m'.2.render ++ rest) (.value m'.2) rest)
    (rest : List Char) : Spells (renderMembers (m :: ms) ++ rest) (.members (m :: ms)) rest := by
  induction ms generalizing m with
  | nil =>
    obtain ⟨l, j⟩ := m
    obtain ⟨s, hs, hq⟩ := quoted_literal l (':' :: (j.render ++ '\x7d' :: rest))
    have htext : renderMembers [(l, j)] ++ rest = '"' :: s := by simp [renderMembers, ← hs]
    rw [htext]
    exact .lastMember hq .refl (h (l, j) (List.mem_cons_self ..) _) .refl
  | cons n ms ih =>
    obtain ⟨l, j⟩ := m
    obtain ⟨s, hs, hq⟩ := quoted_literal l
      (':' :: (j.render ++ ',' :: (renderMembers (n :: ms) ++ rest)))
    have htext : renderMembers ((l, j) :: n :: ms) ++ rest = '"' :: s := by
      simp [renderMembers, ← hs]
    rw [htext]
    exact .member hq .refl (h (l, j) (List.mem_cons_self ..) _) .refl
      (ih fun m' hm => h m' (List.mem_cons_of_mem _ hm))

/-- A document is printed as it is spelt, whatever text follows. -/
theorem WellSpelt.spells {j : Json} (h : j.WellSpelt) (rest : List Char) :
    Spells (j.render ++ rest) (.value j) rest := by
  induction h generalizing rest with
  | null => exact .null
  | @bool b =>
    cases b
    · exact .false
    · exact .true
  | @int n =>
    rw [render]
    exact .number (number_digits n)
  | real h =>
    rw [render]
    exact .number h
  | @str l =>
    obtain ⟨s, hs, hq⟩ := quoted_literal l rest
    rw [render, hs]
    exact .str hq
  | @arr items _ ih =>
    cases items with
    | nil => exact .noItems .refl
    | cons j js => exact .arr (spells_renderItems ih rest)
  | @obj members _ ih =>
    cases members with
    | nil => exact .noMembers .refl
    | cons m ms => exact .obj (spells_renderMembers ih rest)

theorem WellSpelt.document {j : Json} (h : j.WellSpelt) : Document j.compact j := by
  have hs := h.spells []
  rw [List.append_nil] at hs
  exact ⟨[], by rwa [compact, String.toList_ofList], .refl⟩

/-- A printed document is read back. -/
theorem WellSpelt.parse?_compact {j : Json} (h : j.WellSpelt) : parse? j.compact = some j :=
  parse?_eq_some_iff.mpr h.document

/-- Different documents are printed differently. -/
theorem WellSpelt.compact_inj {j j' : Json} (h : j.WellSpelt) (h' : j'.WellSpelt)
    (he : j.compact = j'.compact) : j = j' := by
  have hp := h.parse?_compact
  rw [he, h'.parse?_compact] at hp
  exact (Option.some.inj hp).symm

/-! ## Control characters -/

/-- The text has no control character below U+0020. -/
def Printable (s : List Char) : Prop := ∀ c ∈ s, 32 ≤ c.toNat

instance (s : List Char) : Decidable (Printable s) :=
  List.decidableBAll (fun c : Char => 32 ≤ c.toNat) s

theorem printable_cons {c : Char} {s : List Char} :
    Printable (c :: s) ↔ 32 ≤ c.toNat ∧ Printable s := List.forall_mem_cons

theorem printable_append {s t : List Char} : Printable (s ++ t) ↔ Printable s ∧ Printable t :=
  List.forall_mem_append

theorem printable_hexByte (b : UInt8) : Printable (hexByte b) := by
  have hall : ∀ n : Fin 16, 32 ≤ (hexDigit n).toNat := by decide
  have hb := b.toNat_lt
  simp only [hexByte, printable_cons]
  exact ⟨hall ⟨b.toNat / 16, by omega⟩, hall ⟨b.toNat % 16, by omega⟩, by decide⟩

/-- Control characters are escaped, and an escape is made of no others. -/
theorem printable_escape (c : Char) : Printable (escape c) := by
  unfold escape
  repeat' split
  all_goals try decide
  · simp only [printable_cons]
    exact ⟨by decide, by decide, by decide, by decide, printable_hexByte _⟩
  · rename_i h
    exact printable_cons.mpr ⟨Nat.le_of_not_lt h, by decide⟩

theorem printable_literal (l : Literal) : Printable (literal l) := by
  cases l with
  | none => decide
  | some s =>
    rw [literal, quote, List.cons_append, printable_cons, printable_append]
    refine ⟨by decide, fun c hc => ?_, by decide⟩
    obtain ⟨d, -, hd⟩ := List.mem_flatMap.mp hc
    exact printable_escape d c hd

theorem Digits.printable {ds : List Char} (h : Digits ds) : Printable ds := by
  intro c hc
  have hd := h.2 c hc
  simp only [isDigit, Bool.and_eq_true, decide_eq_true_eq, Char.le_def] at hd
  exact Nat.le_trans (by decide) (UInt32.le_iff_toNat_le.mp hd.1)

theorem Number.printable {text : List Char} {j : Json} (h : Number text j) : Printable text := by
  obtain ⟨hsign, ⟨hd, -⟩, hf, he⟩ := h
  simp only [printable_append]
  refine ⟨?_, hd.printable, ?_, ?_⟩
  · rcases hsign with rfl | rfl <;> decide
  · cases hf with
    | absent => decide
    | point hd => exact printable_cons.mpr ⟨by decide, hd.printable⟩
  · cases he with
    | absent => decide
    | plain hc hd =>
      refine printable_cons.mpr ⟨?_, hd.printable⟩
      rcases hc with rfl | rfl <;> decide
    | signed hc hs hd =>
      refine printable_cons.mpr ⟨?_, printable_cons.mpr ⟨?_, hd.printable⟩⟩
      · rcases hc with rfl | rfl <;> decide
      · rcases hs with rfl | rfl <;> decide

theorem printable_renderItems {js : List Json} (h : ∀ j ∈ js, Printable j.render) :
    Printable (renderItems js) := by
  induction js with
  | nil => decide
  | cons j js ih =>
    obtain ⟨hj, hjs⟩ := List.forall_mem_cons.mp h
    have hrest := ih hjs
    cases js with
    | nil =>
      rw [renderItems, printable_append]
      exact ⟨hj, by decide⟩
    | cons k js =>
      rw [renderItems, printable_append, printable_cons]
      · exact ⟨hj, by decide, hrest⟩
      · simp

theorem printable_renderMembers {ms : List (Literal × Json)}
    (h : ∀ m ∈ ms, Printable m.2.render) : Printable (renderMembers ms) := by
  induction ms with
  | nil => decide
  | cons m ms ih =>
    obtain ⟨l, j⟩ := m
    obtain ⟨hj, hms⟩ := List.forall_mem_cons.mp h
    have hrest := ih hms
    have hl := printable_literal l
    cases ms with
    | nil =>
      simp only [renderMembers, printable_append, printable_cons]
      exact ⟨hl, by decide, hj, by decide, by decide⟩
    | cons n ms =>
      simp only [renderMembers, printable_append, printable_cons]
      exact ⟨hl, by decide, hj, by decide, hrest⟩

theorem WellSpelt.printable {j : Json} (h : j.WellSpelt) : Printable j.render := by
  induction h with
  | null => decide
  | @bool b => cases b <;> decide
  | @int n =>
    rw [render]
    exact (number_digits n).printable
  | real h =>
    rw [render]
    exact h.printable
  | @str l =>
    rw [render]
    exact printable_literal l
  | arr _ ih =>
    rw [render, printable_cons]
    exact ⟨by decide, printable_renderItems ih⟩
  | obj _ ih =>
    rw [render, printable_cons]
    exact ⟨by decide, printable_renderMembers ih⟩

end MarketFeed.Json
