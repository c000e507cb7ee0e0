import MarketFeed.Proofs.Json.Lexemes

set_option autoImplicit false

/-!
# The grammar of JSON

`Spells s p rest`: the text `s` begins with the part `p` of a document, and `rest` follows it. A
document is a value with blanks around it (`Document`). The reader accepts the documents and no
other texts, and answers what they spell (`parse?_eq_some_iff`). That the fuel is enough rests on
one count: a reader needs no more of it than the text it consumes is long (`Spells.read`).
-/

namespace MarketFeed.Json

/-- `t` is what is left of `s` after some of the blanks that it begins with. -/
inductive Blanks : List Char → List Char → Prop
  | refl {s : List Char} : Blanks s s
  | cons {c : Char} {s t : List Char} : isBlank c = true → Blanks s t → Blanks (c :: s) t

/-- The parts of a document that are read in one go. The items of an array and the members of an
object, at least one of them, are read up to the closing bracket. -/
inductive Part where
  | value (j : Json)
  | items (js : List Json)
  | members (ms : List (Literal × Json))

inductive Spells : List Char → Part → List Char → Prop
  | blank {c : Char} {s rest : List Char} {p : Part} : isBlank c = true → Spells s p rest →
      Spells (c :: s) p rest
  | null {rest : List Char} : Spells ('n' :: 'u' :: 'l' :: 'l' :: rest) (.value .null) rest
  | true {rest : List Char} :
      Spells ('t' :: 'r' :: 'u' :: 'e' :: rest) (.value (.bool Bool.true)) rest
  | false {rest : List Char} :
      Spells ('f' :: 'a' :: 'l' :: 's' :: 'e' :: rest) (.value (.bool Bool.false)) rest
  | number {text rest : List Char} {j : Json} : Number text j →
      Spells (text ++ rest) (.value j) rest
  | str {s rest : List Char} {l : Literal} : Quoted s l rest →
      Spells ('"' :: s) (.value (.str l)) rest
  | noItems {s rest : List Char} : Blanks s (']' :: rest) →
      Spells ('[' :: s) (.value (.arr [])) rest
  | arr {s rest : List Char} {js : List Json} : Spells s (.items js) rest →
      Spells ('[' :: s) (.value (.arr js)) rest
  | noMembers {s rest : List Char} : Blanks s ('\x7d' :: rest) →
      Spells ('\x7b' :: s) (.value (.obj [])) rest
  | obj {s rest : List Char} {ms : List (Literal × Json)} : Spells s (.members ms) rest →
      Spells ('\x7b' :: s) (.value (.obj ms)) rest
  | lastItem {s t rest : List Char} {j : Json} : Spells s (.value j) t →
      Blanks t (']' :: rest) → Spells s (.items [j]) rest
  | item {s t u rest : List Char} {j : Json} {js : List Json} : Spells s (.value j) t →
      Blanks t (',' :: u) → Spells u (.items js) rest → Spells s (.items (j :: js)) rest
  | lastMember {s t u v rest : List Char} {l : Literal} {j : Json} : Quoted s l t →
      Blanks t (':' :: u) → Spells u (.value j) v → Blanks v ('\x7d' :: rest) →
      Spells ('"' :: s) (.members [(l, j)]) rest
  | member {s t u v w rest : List Char} {l : Literal} {j : Json} {ms : List (Literal × Json)} :
      Quoted s l t → Blanks t (':' :: u) → Spells u (.value j) v → Blanks v (',' :: w) →
      Spells w (.members ms) rest → Spells ('"' :: s) (.members ((l, j) :: ms)) rest

/-- A text that spells one value and nothing else. -/
def Document (text : String) (j : Json) : Prop :=
  ∃ rest, Spells text.toList (.value j) rest ∧ Blanks rest []

/-! ## Blanks -/

section Blanks

variable {s t u : List Char} {c : Char}

theorem skipBlanks_cons (hc : isBlank c = true) (s : List Char) :
    skipBlanks (c :: s) = skipBlanks s := List.dropWhile_cons_of_pos hc

theorem skipBlanks_of_ne (hc : isBlank c = false) (s : List Char) :
    skipBlanks (c :: s) = c :: s := by
  rw [skipBlanks, List.dropWhile_cons_of_neg]
  simp [hc]

theorem blanks_skipBlanks (s : List Char) : Blanks s (skipBlanks s) := by
  induction s with
  | nil => exact .refl
  | cons c s ih =>
    cases hc : isBlank c with
    | true =>
      rw [skipBlanks_cons hc]
      exact .cons hc ih
    | false =>
      rw [skipBlanks_of_ne hc]
      exact .refl

theorem Blanks.skip (h : Blanks s t) : skipBlanks s = skipBlanks t := by
  induction h with
  | refl => rfl
  | cons hc _ ih => rw [skipBlanks_cons hc, ih]

theorem Blanks.skip_cons (h : Blanks s (c :: t)) (hc : isBlank c = false) :
    skipBlanks s = c :: t := h.skip.trans (skipBlanks_of_ne hc t)

theorem Blanks.length_le (h : Blanks s t) : t.length ≤ s.length := by
  induction h with
  | refl => exact Nat.le_refl _
  | cons _ _ ih => exact Nat.le_succ_of_le ih

theorem ends_of_blank (hc : isBlank c = true) (s : List Char) : Ends (c :: s) := by
  rintro _ ⟨⟩
  simp only [isBlank, Bool.or_eq_true, decide_eq_true_eq] at hc
  rcases hc with ((rfl | rfl) | rfl) | rfl <;> decide

theorem Blanks.ends (h : Blanks s t) (ht : Ends t) : Ends s := by
  cases h with
  | refl => exact ht
  | cons hc _ => exact ends_of_blank hc _

theorem Blanks.spells {p : Part} (h : Blanks s t) (hp : Spells t p u) : Spells s p u := by
  induction h with
  | refl => exact hp
  | cons hc _ ih => exact .blank hc (ih hp)

end Blanks

/-- What comes after a value in an array or an object does not go on with a number. -/
theorem ends_cons {c : Char} (hc : c = ',' ∨ c = ']' ∨ c = '\x7d') (s : List Char) :
    Ends (c :: s) := by
  rintro _ ⟨⟩
  rcases hc with rfl | rfl | rfl <;> decide

theorem Number.length_pos {text : List Char} {j : Json} (h : Number text j) : 0 < text.length := by
  obtain ⟨-, ⟨⟨hne, -⟩, -⟩, -, -⟩ := h
  have := List.length_pos_iff.mpr hne
  simp only [List.length_append]
  omega

theorem Spells.length_lt {s rest : List Char} {p : Part} (h : Spells s p rest) :
    rest.length < s.length := by
  induction h with
  | blank _ _ ih => exact Nat.lt_succ_of_lt ih
  | null | true | false => simp only [List.length_cons]; omega
  | number h =>
    have := h.length_pos
    rw [List.length_append]
    omega
  | str h => exact Nat.lt_succ_of_lt h.length_lt
  | noItems h | noMembers h =>
    have := h.length_le
    simp only [List.length_cons] at this ⊢
    omega
  | arr _ ih | obj _ ih => exact Nat.lt_succ_of_lt ih
  | lastItem _ hb ih =>
    have := hb.length_le
    rw [List.length_cons] at this
    omega
  | item _ hb _ ih ih' =>
    have := hb.length_le
    rw [List.length_cons] at this
    omega
  | lastMember hq hb _ hb' ih =>
    have := hq.length_lt
    have := hb.length_le
    have := hb'.length_le
    simp only [List.length_cons] at *
    omega
  | member hq hb _ hb' _ ih ih' =>
    have := hq.length_lt
    have := hb.length_le
    have := hb'.length_le
    simp only [List.length_cons] at *
    omega

/-! ## What is spelt is read -/

/-- What the reader of a part does with a text. -/
def Part.Read : Part → Nat → List Char → List Char → Prop
  | value j, fuel, s, rest => Ends rest → readValue fuel s = some (j, rest)
  | items js, fuel, s, rest => readItems fuel s = some (js, rest)
  | members ms, fuel, s, rest => readMembers fuel s = some (ms, rest)

section Readers

variable {s t rest : List Char} {c : Char} {p : Part} {fuel : Nat}

theorem readValue_blank (hc : isBlank c = true) (fuel : Nat) (s : List Char) :
    readValue fuel (c :: s) = readValue fuel s := by
  cases fuel with
  | zero => rfl
  | succ fuel => simp only [readValue, skipBlanks_cons hc]

theorem readItems_blank (hc : isBlank c = true) (fuel : Nat) (s : List Char) :
    readItems fuel (c :: s) = readItems fuel s := by
  cases fuel with
  | zero => rfl
  | succ fuel => simp only [readItems, readValue_blank hc]

theorem readMembers_blank (hc : isBlank c = true) (fuel : Nat) (s : List Char) :
    readMembers fuel (c :: s) = readMembers fuel s := by
  cases fuel with
  | zero => rfl
  | succ fuel => simp only [readMembers, skipBlanks_cons hc]

theorem Part.read_blank (hc : isBlank c = true) (h : p.Read fuel s rest) :
    p.Read fuel (c :: s) rest := by
  cases p with
  | value j => exact fun hr => (readValue_blank hc fuel s).trans (h hr)
  | items js => exact (readItems_blank hc fuel s).trans h
  | members ms => exact (readMembers_blank hc fuel s).trans h

theorem Blanks.read_iff (h : Blanks s t) : p.Read fuel t rest ↔ p.Read fuel s rest := by
  induction h with
  | refl => rfl
  | @cons c s t hc _ ih =>
    rw [ih]
    cases p <;> simp only [Part.Read, readValue_blank hc, readItems_blank hc, readMembers_blank hc]

theorem isBlank_of_number (hc : c = '-' ∨ isDigit c = true) : isBlank c = false := by
  cases hb : isBlank c with
  | false => rfl
  | true =>
    have hne := (ends_of_blank hb []) c rfl
    rcases hc with rfl | hc
    · cases hb
    · rw [hne.1] at hc
      cases hc

theorem readValue_number {text : List Char} {j : Json} (h : Number text j) (hr : Ends rest) :
    readValue (fuel + 1) (text ++ rest) = some (j, rest) := by
  have hread := readNumber_append h hr
  obtain ⟨c, hc, hfirst⟩ := h.head rest
  obtain ⟨s, hs⟩ := List.head?_eq_some_iff.mp hc
  rw [hs] at hread ⊢
  have hne : ∀ d, isDigit d = false → d ≠ '-' → c ≠ d := by
    rintro d hd hm rfl
    rcases hfirst with h | h
    · exact hm h
    · rw [hd] at h
      cases h
  rw [readValue, skipBlanks_of_ne (isBlank_of_number hfirst)]
  split
  all_goals first
    | exact hread
    | rename_i heq
      cases heq
      exact absurd rfl (hne _ rfl (by decide))

/-- Neither a value nor an item or a member begins with a closing bracket. -/
theorem Spells.skip (h : Spells s p rest) :
    ∃ c t, skipBlanks s = c :: t ∧ c ≠ ']' ∧ c ≠ '\x7d' := by
  induction h with
  | blank hc _ ih => rwa [skipBlanks_cons hc]
  | null | true | false | str | noItems | arr | noMembers | obj | lastMember | member =>
    exact ⟨_, _, skipBlanks_of_ne rfl _, by decide, by decide⟩
  | @number text rest j h =>
    obtain ⟨c, hc, hfirst⟩ := h.head rest
    obtain ⟨t, ht⟩ := List.head?_eq_some_iff.mp hc
    rw [ht, skipBlanks_of_ne (isBlank_of_number hfirst)]
    refine ⟨c, t, rfl, ?_, ?_⟩ <;> rintro rfl <;> exact absurd hfirst (by decide)
  | lastItem _ _ ih | item _ _ _ ih => exact ih

theorem readValue_arr {js : List Json} (h : Spells s (.items js) rest)
    (hread : readItems fuel s = some (js, rest)) :
    readValue (fuel + 1) ('[' :: s) = some (.arr js, rest) := by
  obtain ⟨c, t, hs, hc, -⟩ := h.skip
  have hskipped : readItems fuel (skipBlanks s) = some (js, rest) :=
    (blanks_skipBlanks s).read_iff (p := .items js).mpr hread
  rw [readValue, skipBlanks_of_ne rfl]
  simp only
  rw [hs] at hskipped ⊢
  split
  · rename_i heq
    cases heq
    exact absurd rfl hc
  · rw [hskipped]
    rfl

theorem readValue_obj {ms : List (Literal × Json)} (h : Spells s (.members ms) rest)
    (hread : readMembers fuel s = some (ms, rest)) :
    readValue (fuel + 1) ('\x7b' :: s) = some (.obj ms, rest) := by
  obtain ⟨c, t, hs, -, hc⟩ := h.skip
  have hskipped : readMembers fuel (skipBlanks s) = some (ms, rest) :=
    (blanks_skipBlanks s).read_iff (p := .members ms).mpr hread
  rw [readValue, skipBlanks_of_ne rfl]
  simp only
  rw [hs] at hskipped ⊢
  split
  · rename_i heq
    cases heq
    exact absurd rfl hc
  · rw [hskipped]
    rfl

theorem readItems_last {j : Json} (hread : readValue fuel s = some (j, t))
    (hb : Blanks t (']' :: rest)) : readItems (fuel + 1) s = some ([j], rest) := by
  rw [readItems, hread]
  simp only [Option.bind_eq_bind, Option.bind_some, hb.skip_cons (c := ']') rfl]
  rfl

theorem readItems_cons {u : List Char} {j : Json} {js : List Json}
    (hread : readValue fuel s = some (j, t)) (hb : Blanks t (',' :: u))
    (hitems : readItems fuel u = some (js, rest)) :
    readItems (fuel + 1) s = some (j :: js, rest) := by
  rw [readItems, hread]
  simp only [Option.bind_eq_bind, Option.bind_some, hb.skip_cons (c := ',') rfl, hitems]
  rfl

theorem readMembers_last {u v : List Char} {l : Literal} {j : Json} (hq : Quoted s l t)
    (hb : Blanks t (':' :: u)) (hread : readValue fuel u = some (j, v))
    (hb' : Blanks v ('\x7d' :: rest)) :
    readMembers (fuel + 1) ('"' :: s) = some ([(l, j)], rest) := by
  rw [readMembers, skipBlanks_of_ne rfl]
  simp only [readLiteral_eq_some_iff.mpr hq, Option.bind_eq_bind, Option.bind_some,
    hb.skip_cons (c := ':') rfl, hread, hb'.skip_cons (c := '\x7d') rfl]
  rfl

theorem readMembers_cons {u v w : List Char} {l : Literal} {j : Json}
    {ms : List (Literal × Json)} (hq : Quoted s l t) (hb : Blanks t (':' :: u))
    (hread : readValue fuel u = some (j, v)) (hb' : Blanks v (',' :: w))
    (hmembers : readMembers fuel w = some (ms, rest)) :
    readMembers (fuel + 1) ('"' :: s) = some ((l, j) :: ms, rest) := by
  rw [readMembers, skipBlanks_of_ne rfl]
  simp only [readLiteral_eq_some_iff.mpr hq, Option.bind_eq_bind, Option.bind_some,
    hb.skip_cons (c := ':') rfl, hread, hb'.skip_cons (c := ',') rfl, hmembers]
  rfl

/-- Fuel for the text that a part takes up is enough to read it. -/
theorem Spells.read (h : Spells s p rest) (hf : s.length ≤ fuel + rest.length) :
    p.Read fuel s rest := by
  obtain ⟨fuel, rfl⟩ : ∃ n, fuel = n + 1 := by
    have := h.length_lt
    exact ⟨fuel - 1, by omega⟩
  -- What a reader hands on is shorter by the bracket or the separator that it reads itself.
  induction h generalizing fuel with
  | blank hc h ih =>
    rw [List.length_cons] at hf
    exact Part.read_blank hc (ih fuel (by omega))
  | null | true | false => exact fun _ => rfl
  | number h => exact fun hr => readValue_number h hr
  | str h =>
    intro _
    rw [readValue, skipBlanks_of_ne rfl]
    simp only [readLiteral_eq_some_iff.mpr h]
    rfl
  | noItems h | noMembers h =>
    intro _
    rw [readValue, skipBlanks_of_ne rfl]
    simp only [h.skip_cons rfl]
  | arr h ih =>
    have hl := h.length_lt
    rw [List.length_cons] at hf
    obtain ⟨fuel, rfl⟩ : ∃ n, fuel = n + 1 := ⟨fuel - 1, by omega⟩
    exact fun _ => readValue_arr h (ih fuel (by omega))
  | obj h ih =>
    have hl := h.length_lt
    rw [List.length_cons] at hf
    obtain ⟨fuel, rfl⟩ : ∃ n, fuel = n + 1 := ⟨fuel - 1, by omega⟩
    exact fun _ => readValue_obj h (ih fuel (by omega))
  | lastItem h hb ih =>
    have hl := h.length_lt
    have hle := hb.length_le
    rw [List.length_cons] at hle
    obtain ⟨fuel, rfl⟩ : ∃ n, fuel = n + 1 := ⟨fuel - 1, by omega⟩
    have hends := hb.ends (ends_cons (by decide) _)
    exact readItems_last (ih fuel (by omega) hends) hb
  | item h hb hs ih ih' =>
    have hl := h.length_lt
    have hl' := hs.length_lt
    have hle := hb.length_le
    rw [List.length_cons] at hle
    obtain ⟨fuel, rfl⟩ : ∃ n, fuel = n + 1 := ⟨fuel - 1, by omega⟩
    have hends := hb.ends (ends_cons (by decide) _)
    exact readItems_cons (ih fuel (by omega) hends) hb (ih' fuel (by omega))
  | lastMember hq hb h hb' ih =>
    have hl := h.length_lt
    have hlq := hq.length_lt
    have hle := hb.length_le
    have hle' := hb'.length_le
    simp only [List.length_cons] at hf hle hle'
    obtain ⟨fuel, rfl⟩ : ∃ n, fuel = n + 1 := ⟨fuel - 1, by omega⟩
    have hends := hb'.ends (ends_cons (by decide) _)
    exact readMembers_last hq hb (ih fuel (by omega) hends) hb'
  | member hq hb h hb' hs ih ih' =>
    have hl := h.length_lt
    have hl' := hs.length_lt
    have hlq := hq.length_lt
    have hle := hb.length_le
    have hle' := hb'.length_le
    simp only [List.length_cons] at hf hle hle'
    obtain ⟨fuel, rfl⟩ : ∃ n, fuel = n + 1 := ⟨fuel - 1, by omega⟩
    have hends := hb'.ends (ends_cons (by decide) _)
    exact readMembers_cons hq hb (ih fuel (by omega) hends) hb' (ih' fuel (by omega))

end Readers

/-! ## What is read is spelt -/

theorem expect_eq_some {word s rest : List Char} (h : expect word s = some rest) :
    s = word ++ rest := by
  unfold expect at h
  split at h
  · rename_i hp
    obtain ⟨t, rfl⟩ := List.isPrefixOf_iff_prefix.mp hp
    rw [List.drop_left] at h
    cases h
    rfl
  · cases h

section Step

variable {fuel : Nat} {s rest : List Char}

/-- Readers of values, items and members that read what is spelt. -/
structure Sound (fuel : Nat) : Prop where
  value : ∀ {s j rest}, readValue fuel s = some (j, rest) → Spells s (.value j) rest
  items : ∀ {s js rest}, readItems fuel s = some (js, rest) → Spells s (.items js) rest
  members : ∀ {s ms rest}, readMembers fuel s = some (ms, rest) → Spells s (.members ms) rest

theorem Sound.readValue (h : Sound fuel) {j : Json}
    (hread : readValue (fuel + 1) s = some (j, rest)) : Spells s (.value j) rest := by
  refine (blanks_skipBlanks s).spells ?_
  rw [Json.readValue] at hread
  split at hread
  case h_1 t heq =>
    obtain ⟨_, he, hp⟩ := Option.map_eq_some_iff.mp hread
    cases hp
    rw [heq, expect_eq_some he]
    exact .null
  case h_2 t heq =>
    obtain ⟨_, he, hp⟩ := Option.map_eq_some_iff.mp hread
    cases hp
    rw [heq, expect_eq_some he]
    exact .true
  case h_3 t heq =>
    obtain ⟨_, he, hp⟩ := Option.map_eq_some_iff.mp hread
    cases hp
    rw [heq, expect_eq_some he]
    exact .false
  case h_4 t heq =>
    obtain ⟨⟨l, _⟩, hq, hp⟩ := Option.map_eq_some_iff.mp hread
    cases hp
    rw [heq]
    exact .str (readLiteral_eq_some_iff.mp hq)
  case h_5 t heq =>
    rw [heq]
    have hb := blanks_skipBlanks t
    split at hread
    · rename_i hclose
      cases hread
      exact .noItems (hclose ▸ hb)
    · obtain ⟨⟨js, _⟩, hjs, hp⟩ := Option.map_eq_some_iff.mp hread
      cases hp
      exact .arr (hb.spells (h.items hjs))
  case h_6 t heq =>
    rw [heq]
    have hb := blanks_skipBlanks t
    split at hread
    · rename_i hclose
      cases hread
      exact .noMembers (hclose ▸ hb)
    · obtain ⟨⟨ms, _⟩, hms, hp⟩ := Option.map_eq_some_iff.mp hread
      cases hp
      exact .obj (hb.spells (h.members hms))
  case h_7 =>
    obtain ⟨text, hn, ht⟩ := number_of_readNumber hread
    rw [ht]
    exact .number hn

theorem Sound.readItems (h : Sound fuel) {js : List Json}
    (hread : readItems (fuel + 1) s = some (js, rest)) : Spells s (.items js) rest := by
  rw [Json.readItems] at hread
  simp only [Option.bind_eq_bind, Option.bind_eq_some_iff] at hread
  obtain ⟨⟨j, t⟩, hj, hread⟩ := hread
  have hb := blanks_skipBlanks t
  split at hread
  · rename_i heq
    cases hread
    exact .lastItem (h.value hj) (heq ▸ hb)
  · rename_i heq
    simp only [Option.bind_eq_some_iff] at hread
    obtain ⟨⟨js', u⟩, hjs, hp⟩ := hread
    cases hp
    exact .item (h.value hj) (heq ▸ hb) (h.items hjs)
  · cases hread

theorem Sound.readMembers (h : Sound fuel) {ms : List (Literal × Json)}
    (hread : readMembers (fuel + 1) s = some (ms, rest)) : Spells s (.members ms) rest := by
  refine (blanks_skipBlanks s).spells ?_
  rw [Json.readMembers] at hread
  split at hread
  · rename_i hquote
    rw [hquote]
    simp only [Option.bind_eq_bind, Option.bind_eq_some_iff] at hread
    obtain ⟨⟨l, t⟩, hq, hread⟩ := hread
    have hq := readLiteral_eq_some_iff.mp hq
    have hb := blanks_skipBlanks t
    split at hread
    · rename_i hcolon
      simp only [Option.bind_eq_some_iff] at hread
      obtain ⟨⟨j, v⟩, hj, hread⟩ := hread
      have hb' := blanks_skipBlanks v
      split at hread
      · rename_i hclose
        cases hread
        exact .lastMember hq (hcolon ▸ hb) (h.value hj) (hclose ▸ hb')
      · rename_i hcomma
        simp only [Option.bind_eq_some_iff] at hread
        obtain ⟨⟨ms', w⟩, hms, hp⟩ := hread
        cases hp
        exact .member hq (hcolon ▸ hb) (h.value hj) (hcomma ▸ hb') (h.members hms)
      · cases hread
    · cases hread
  · cases hread

end Step

theorem sound (fuel : Nat) : Sound fuel := by
  induction fuel with
  | zero => exact ⟨fun h => (by cases h), fun h => (by cases h), fun h => (by cases h)⟩
  | succ fuel ih => exact ⟨ih.readValue, ih.readItems, ih.readMembers⟩

/-- The reader accepts the documents and no other texts, and answers what they spell. -/
theorem parse?_eq_some_iff {text : String} {j : Json} :
    parse? text = some j ↔ Document text j := by
  simp only [parse?, Document]
  constructor
  · intro h
    split at h
    · rename_i v rest hread
      split at h
      · rename_i hrest
        cases h
        exact ⟨rest, (sound _).value hread, hrest ▸ blanks_skipBlanks rest⟩
      · cases h
    · cases h
  · rintro ⟨rest, hs, hb⟩
    have hends : Ends rest := hb.ends fun _ h => by cases h
    have hread : readValue (text.toList.length + 1) text.toList = some (j, rest) :=
      hs.read (by omega) hends
    rw [hread]
    exact if_pos hb.skip

end MarketFeed.Json
