import MarketFeed.Json.Reader

set_option autoImplicit false

/-!
# Strings and numbers of JSON

What the text of a string or of a number looks like, and what it stands for. `Units` is the grammar
of a string after its opening quote, with the text that follows it as an index; `Number` is the
grammar of a number. The readers keep to both in either direction: `readUnits_eq_some_iff` for
strings; for numbers `number_of_readNumber`, and `readNumber_append` in front of a text that does
not go on with the number (`Ends`).
-/

namespace MarketFeed.Json

/-! ## Strings -/

/-- The code units of a string, up to its closing quote. -/
inductive Units : List Char → List Nat → List Char → Prop
  | close {rest : List Char} : Units ('"' :: rest) [] rest
  | plain {c : Char} {s rest : List Char} {us : List Nat} : c ≠ '"' → c ≠ '\\' → 32 ≤ c.toNat →
      Units s us rest → Units (c :: s) (c.toNat :: us) rest
  | short {c : Char} {s rest : List Char} {u : Nat} {us : List Nat} : shortEscape? c = some u →
      Units s us rest → Units ('\\' :: c :: s) (u :: us) rest
  | hex {a b c d : Char} {s rest : List Char} {u : Nat} {us : List Nat} :
      hexFour? a b c d = some u → Units s us rest →
      Units ('\\' :: 'u' :: a :: b :: c :: d :: s) (u :: us) rest

theorem Units.length_lt {s rest : List Char} {us : List Nat} (h : Units s us rest) :
    rest.length < s.length := by
  induction h with
  | close => exact Nat.lt_succ_self _
  | plain _ _ _ _ ih | short _ _ ih | hex _ _ ih =>
    simp only [List.length_cons]
    omega

theorem readUnits_plain {c : Char} (hq : c ≠ '"') (hb : c ≠ '\\') (hc : 32 ≤ c.toNat)
    (s : List Char) :
    readUnits (c :: s) = (readUnits s).map fun p => (c.toNat :: p.1, p.2) := by
  rw [readUnits, if_neg (Nat.not_lt.mpr hc)]
  · cases readUnits s <;> rfl
  · exact hq
  · exact fun _ _ _ _ _ h _ => hb h
  · exact fun _ _ h _ => hb h

theorem readUnits_short {c : Char} {u : Nat} (hc : shortEscape? c = some u) (s : List Char) :
    readUnits ('\\' :: c :: s) = (readUnits s).map fun p => (u :: p.1, p.2) := by
  rw [readUnits, hc]
  · cases readUnits s <;> rfl
  · rintro _ _ _ _ _ rfl
    cases hc

theorem readUnits_hex {a b c d : Char} {u : Nat} (hu : hexFour? a b c d = some u)
    (s : List Char) :
    readUnits ('\\' :: 'u' :: a :: b :: c :: d :: s) =
      (readUnits s).map fun p => (u :: p.1, p.2) := by
  rw [readUnits, hu]
  cases readUnits s <;> rfl

theorem units_of_readUnits {s rest : List Char} {us : List Nat}
    (h : readUnits s = some (us, rest)) : Units s us rest := by
  fun_induction readUnits s generalizing us with
  | case1 => cases h
  | case2 _ =>
    cases h
    exact .close
  | case3 a b c d s ih =>
    simp only [Option.bind_eq_bind, Option.bind_eq_some_iff] at h
    obtain ⟨u, hu, ⟨us', _⟩, hs, hp⟩ := h
    cases hp
    exact .hex hu (ih hs)
  | case4 c s _ ih =>
    simp only [Option.bind_eq_bind, Option.bind_eq_some_iff] at h
    obtain ⟨u, hu, ⟨us', _⟩, hs, hp⟩ := h
    cases hp
    exact .short hu (ih hs)
  | case5 => cases h
  | case6 c s hq _ hb hc ih =>
    simp only [Option.bind_eq_bind, Option.bind_eq_some_iff] at h
    obtain ⟨⟨us', _⟩, hs, hp⟩ := h
    cases hp
    refine .plain hq (fun hc => ?_) (Nat.le_of_not_lt hc) (ih hs)
    cases s with
    | nil => cases hs
    | cons d s => exact hb d s hc rfl

theorem readUnits_eq_some_iff {s rest : List Char} {us : List Nat} :
    readUnits s = some (us, rest) ↔ Units s us rest := by
  refine ⟨units_of_readUnits, fun h => ?_⟩
  induction h with
  | close => rfl
  | plain hq hb hc _ ih => rw [readUnits_plain hq hb hc, ih]; rfl
  | short hc _ ih => rw [readUnits_short hc, ih]; rfl
  | hex hu _ ih => rw [readUnits_hex hu, ih]; rfl

/-- The text of a string, after its opening quote. -/
def Quoted (s : List Char) (l : Literal) (rest : List Char) : Prop :=
  ∃ us, Units s us rest ∧ l = (ofUnits us).map String.ofList

theorem readLiteral_eq_some_iff {s rest : List Char} {l : Literal} :
    readLiteral s = some (l, rest) ↔ Quoted s l rest := by
  simp only [readLiteral, Quoted, Option.bind_eq_bind, Option.bind_eq_some_iff, Prod.exists]
  constructor
  · rintro ⟨us, _, hs, hp⟩
    cases hp
    exact ⟨us, readUnits_eq_some_iff.mp hs, rfl⟩
  · rintro ⟨us, hs, rfl⟩
    exact ⟨us, rest, readUnits_eq_some_iff.mpr hs, rfl⟩

theorem Quoted.length_lt {s rest : List Char} {l : Literal} (h : Quoted s l rest) :
    rest.length < s.length := by
  obtain ⟨us, hs, -⟩ := h
  exact hs.length_lt

/-! ## Numbers -/

/-- A run of digits. -/
def Digits (ds : List Char) : Prop := ds ≠ [] ∧ ∀ c ∈ ds, isDigit c = true

/-- The digits before the point: a zero stands alone. -/
def Whole (ds : List Char) : Prop := Digits ds ∧ ¬ (ds.head? = some '0' ∧ ds.length ≠ 1)

inductive Fraction : List Char → Prop
  | absent : Fraction []
  | point {ds : List Char} : Digits ds → Fraction ('.' :: ds)

inductive Exponent : List Char → Prop
  | absent : Exponent []
  | plain {e : Char} {ds : List Char} : e = 'e' ∨ e = 'E' → Digits ds → Exponent (e :: ds)
  | signed {e sign : Char} {ds : List Char} : e = 'e' ∨ e = 'E' → sign = '+' ∨ sign = '-' →
      Digits ds → Exponent (e :: sign :: ds)

/-- What a number stands for: an integer, unless it has a fraction or an exponent, or is minus
zero. -/
def numeral (sign whole fraction exponent : List Char) : Json :=
  if fraction = [] ∧ exponent = [] then
    if sign = [] then .int (decimal whole)
    else if decimal whole = 0 then .real (sign ++ whole)
    else .int (-decimal whole)
  else .real (sign ++ whole ++ fraction ++ exponent)

inductive Number : List Char → Json → Prop
  | intro {sign ds fs es : List Char} : sign = [] ∨ sign = ['-'] → Whole ds → Fraction fs →
      Exponent es → Number (sign ++ (ds ++ (fs ++ es))) (numeral sign ds fs es)

/-- The text does not go on with a run of digits. -/
def NoDigit (s : List Char) : Prop := ∀ c ∈ s.head?, isDigit c = false

/-- The text does not go on with a number. -/
def Ends (s : List Char) : Prop :=
  ∀ c ∈ s.head?, isDigit c = false ∧ c ≠ '.' ∧ c ≠ 'e' ∧ c ≠ 'E'

theorem Ends.noDigit {s : List Char} (h : Ends s) : NoDigit s := fun c hc => (h c hc).1

theorem noDigit_cons {c : Char} (h : isDigit c = false) (s : List Char) : NoDigit (c :: s) := by
  rintro _ ⟨⟩
  exact h

section Readers

variable {s ds fs es rest : List Char}

theorem readDigits_append (h : Digits ds) (ht : NoDigit rest) :
    readDigits (ds ++ rest) = some (ds, rest) := by
  obtain ⟨hne, hds⟩ := h
  have hrest : rest.takeWhile isDigit = [] ∧ rest.dropWhile isDigit = rest := by
    cases rest with
    | nil => exact ⟨rfl, rfl⟩
    | cons c t => simp [ht c rfl]
  rw [readDigits, List.takeWhile_append_of_pos hds, List.dropWhile_append_of_pos hds, hrest.1,
    hrest.2, List.append_nil, if_neg hne]

theorem digits_of_readDigits (h : readDigits s = some (ds, rest)) : Digits ds ∧ s = ds ++ rest := by
  simp only [readDigits] at h
  split at h
  · cases h
  · rename_i hne
    cases h
    exact ⟨⟨hne, fun c hc => List.all_eq_true.mp List.all_takeWhile c hc⟩,
      List.takeWhile_append_dropWhile.symm⟩

theorem readWhole_append (h : Whole ds) (ht : NoDigit rest) :
    readWhole (ds ++ rest) = some (ds, rest) := by
  rw [readWhole, readDigits_append h.1 ht]
  exact if_neg h.2

theorem whole_of_readWhole (h : readWhole s = some (ds, rest)) : Whole ds ∧ s = ds ++ rest := by
  simp only [readWhole, Option.bind_eq_bind, Option.bind_eq_some_iff] at h
  obtain ⟨⟨ds', rest'⟩, hd, hp⟩ := h
  split at hp
  · cases hp
  · rename_i hz
    cases hp
    exact ⟨⟨(digits_of_readDigits hd).1, hz⟩, (digits_of_readDigits hd).2⟩

theorem readFraction_append (h : Fraction fs) (ht : NoDigit rest)
    (hp : rest.head? ≠ some '.') :
    readFraction (fs ++ rest) = some (fs, rest) := by
  cases h with
  | absent =>
    rw [List.nil_append, readFraction]
    rintro t rfl
    exact hp rfl
  | point hd =>
    rw [List.cons_append, readFraction, readDigits_append hd ht]
    rfl

theorem fraction_of_readFraction (h : readFraction s = some (fs, rest)) :
    Fraction fs ∧ s = fs ++ rest := by
  unfold readFraction at h
  split at h
  · simp only [Option.bind_eq_bind, Option.bind_eq_some_iff] at h
    obtain ⟨⟨ds, rest'⟩, hd, hp⟩ := h
    cases hp
    obtain ⟨hds, rfl⟩ := digits_of_readDigits hd
    exact ⟨.point hds, rfl⟩
  · cases h
    exact ⟨.absent, rfl⟩

theorem readExponent_append (h : Exponent es) (ht : NoDigit rest)
    (he : rest.head? ≠ some 'e') (hE : rest.head? ≠ some 'E') :
    readExponent (es ++ rest) = some (es, rest) := by
  cases h with
  | absent =>
    cases rest with
    | nil => rfl
    | cons c t =>
      have hc : ¬ (c = 'e' ∨ c = 'E') := by
        rintro (rfl | rfl)
        · exact he rfl
        · exact hE rfl
      simp only [List.nil_append, readExponent, if_neg hc]
  | @plain e ds hchar hd =>
    obtain ⟨hne, hds⟩ := hd
    cases ds with
    | nil => exact absurd rfl hne
    | cons d ds =>
      have hsign : ¬ (d = '+' ∨ d = '-') := by
        have := hds d (List.mem_cons_self ..)
        rintro (rfl | rfl) <;> exact absurd this (by decide)
      have hread := readDigits_append ⟨hne, hds⟩ ht
      rw [List.cons_append] at hread
      simp only [List.cons_append, readExponent, if_pos hchar, if_neg hsign, hread]
      rfl
  | signed hchar hsign hd =>
    simp only [List.cons_append, readExponent, if_pos hchar, if_pos hsign, readDigits_append hd ht]
    rfl

theorem exponent_of_readExponent (h : readExponent s = some (es, rest)) :
    Exponent es ∧ s = es ++ rest := by
  unfold readExponent at h
  split at h
  · rename_i e t
    split at h
    · rename_i hchar
      split at h
      · rename_i sign t'
        split at h <;> simp only [Option.bind_eq_bind, Option.bind_eq_some_iff] at h <;>
          obtain ⟨⟨ds, rest'⟩, hd, hp⟩ := h <;> cases hp <;>
          obtain ⟨hds, heq⟩ := digits_of_readDigits hd
        · rename_i hsign
          exact ⟨.signed hchar hsign hds, by rw [heq]; rfl⟩
        · exact ⟨.plain hchar hds, by rw [heq]; rfl⟩
      · cases h
    · cases h
      exact ⟨.absent, rfl⟩
  · cases h
    exact ⟨.absent, rfl⟩

/-- A number after its sign. -/
def readMagnitude (sign s : List Char) : Option (Json × List Char) := do
  let (whole, s) ← readWhole s
  let (fraction, s) ← readFraction s
  let (exponent, s) ← readExponent s
  return (numeral sign whole fraction exponent, s)

theorem pure_numeral (sign ds fs es s : List Char) :
    (if fs = [] ∧ es = [] then
      if sign = [] then pure (.int (decimal ds), s)
      else if decimal ds = 0 then pure (.real (sign ++ ds), s)
      else pure (.int (-decimal ds), s)
    else pure (.real (sign ++ ds ++ fs ++ es), s) : Option (Json × List Char)) =
      pure (numeral sign ds fs es, s) := by
  unfold numeral
  repeat' split
  all_goals rfl

theorem readNumber_minus (s : List Char) : readNumber ('-' :: s) = readMagnitude ['-'] s := by
  unfold readNumber
  rw [if_pos (show ('-' :: s).head? = some '-' from rfl)]
  exact bind_congr fun ⟨_, _⟩ => bind_congr fun ⟨_, _⟩ => bind_congr fun ⟨_, _⟩ => pure_numeral ..

theorem readNumber_eq (h : s.head? ≠ some '-') : readNumber s = readMagnitude [] s := by
  unfold readNumber
  rw [if_neg h]
  exact bind_congr fun ⟨_, _⟩ => bind_congr fun ⟨_, _⟩ => bind_congr fun ⟨_, _⟩ => pure_numeral ..

theorem readMagnitude_append (sign : List Char) (hd : Whole ds) (hf : Fraction fs)
    (he : Exponent es) (hr : Ends rest) :
    readMagnitude sign (ds ++ (fs ++ (es ++ rest))) = some (numeral sign ds fs es, rest) := by
  have hexp : NoDigit (es ++ rest) ∧ (es ++ rest).head? ≠ some '.' := by
    cases he with
    | absent => exact ⟨hr.noDigit, fun h => (hr _ h).2.1 rfl⟩
    | plain hc _ | signed hc _ _ =>
      rcases hc with rfl | rfl <;> exact ⟨noDigit_cons rfl _, by simp⟩
  have hfrac : NoDigit (fs ++ (es ++ rest)) := by
    cases hf with
    | absent => exact hexp.1
    | point _ => exact noDigit_cons rfl _
  have hwhole := readWhole_append hd hfrac
  have hfraction := readFraction_append hf hexp.1 hexp.2
  have hexponent := readExponent_append he hr.noDigit (fun h => (hr _ h).2.2.1 rfl)
    (fun h => (hr _ h).2.2.2 rfl)
  simp only [readMagnitude, hwhole, hfraction, hexponent, Option.bind_eq_bind, Option.bind_some]
  rfl

theorem parts_of_readMagnitude {sign : List Char} {j : Json}
    (h : readMagnitude sign s = some (j, rest)) :
    ∃ ds fs es, Whole ds ∧ Fraction fs ∧ Exponent es ∧ s = ds ++ (fs ++ (es ++ rest)) ∧
      j = numeral sign ds fs es := by
  simp only [readMagnitude, Option.bind_eq_bind, Option.bind_eq_some_iff] at h
  obtain ⟨⟨ds, _⟩, hd, ⟨fs, _⟩, hf, ⟨es, _⟩, he, hp⟩ := h
  cases hp
  obtain ⟨hwhole, rfl⟩ := whole_of_readWhole hd
  obtain ⟨hfraction, rfl⟩ := fraction_of_readFraction hf
  obtain ⟨hexponent, rfl⟩ := exponent_of_readExponent he
  exact ⟨ds, fs, es, hwhole, hfraction, hexponent, rfl, rfl⟩

/-- What a number begins with. -/
theorem head_whole (h : Whole ds) : ∃ c ∈ (ds ++ rest).head?, isDigit c = true := by
  obtain ⟨⟨hne, hds⟩, -⟩ := h
  cases ds with
  | nil => exact absurd rfl hne
  | cons c ds => exact ⟨c, rfl, hds c (List.mem_cons_self ..)⟩

theorem Number.head {text : List Char} {j : Json} (h : Number text j) (rest : List Char) :
    ∃ c ∈ (text ++ rest).head?, c = '-' ∨ isDigit c = true := by
  obtain ⟨rfl | rfl, hd, -, -⟩ := h
  · obtain ⟨c, hc, hdigit⟩ := head_whole hd
    rw [List.nil_append, List.append_assoc]
    exact ⟨c, hc, .inr hdigit⟩
  · exact ⟨'-', rfl, .inl rfl⟩

theorem readNumber_append {text : List Char} {j : Json} (h : Number text j) (hr : Ends rest) :
    readNumber (text ++ rest) = some (j, rest) := by
  obtain @⟨sign, ds, fs, es, hsign, hd, hf, he⟩ := h
  have hread (sign : List Char) := readMagnitude_append sign hd hf he hr
  have happ : sign ++ (ds ++ (fs ++ es)) ++ rest = sign ++ (ds ++ (fs ++ (es ++ rest))) := by simp
  rw [happ]
  rcases hsign with rfl | rfl
  · have hminus : (ds ++ (fs ++ (es ++ rest))).head? ≠ some '-' := by
      intro hm
      obtain ⟨c, hc, hdigit⟩ := head_whole hd
      rw [hm] at hc
      cases hc
      cases hdigit
    rw [List.nil_append, readNumber_eq hminus, hread]
  · exact (readNumber_minus _).trans (hread _)

theorem number_of_readNumber {j : Json} (h : readNumber s = some (j, rest)) :
    ∃ text, Number text j ∧ s = text ++ rest := by
  by_cases hm : s.head? = some '-'
  · obtain ⟨t, rfl⟩ := List.head?_eq_some_iff.mp hm
    rw [readNumber_minus] at h
    obtain ⟨ds, fs, es, hd, hf, he, rfl, rfl⟩ := parts_of_readMagnitude h
    exact ⟨_, .intro (.inr rfl) hd hf he, by simp⟩
  · rw [readNumber_eq hm] at h
    obtain ⟨ds, fs, es, hd, hf, he, rfl, rfl⟩ := parts_of_readMagnitude h
    exact ⟨_, .intro (.inl rfl) hd hf he, by simp⟩

end Readers

end MarketFeed.Json
