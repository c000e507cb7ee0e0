set_option autoImplicit false

/-!
# Named things

A list of things under distinct names, the latest first.
-/

namespace MarketFeed

section

variable {κ α : Type} [BEq κ] [LawfulBEq κ]

/-- What is left out of a list is not found in it. -/
theorem lookup_filter_self (l : List (κ × α)) (key : κ) :
    (l.filter (·.1 != key)).lookup key = none := by
  simp only [List.lookup_eq_none_iff, List.mem_filter, bne_iff_ne, ne_eq]
  rintro e ⟨-, h⟩
  simpa using fun he => h he.symm

/-- Leaving out one key does not change what is found under another. -/
theorem lookup_filter_ne {key other : κ} (h : other ≠ key) (l : List (κ × α)) :
    (l.filter (·.1 != key)).lookup other = l.lookup other := by
  induction l with
  | nil => rfl
  | cons e l ih =>
    obtain ⟨k, a⟩ := e
    by_cases hk : k = key
    · subst hk
      have hne : (other == k) = false := beq_false_of_ne h
      simp [List.lookup_cons, hne, ih]
    · simp only [bne_iff_ne, ne_eq, hk, not_false_eq_true, List.filter_cons_of_pos,
        List.lookup_cons, ih]

/-- Puts a thing in place of the first one under a key. -/
def replaceAt (key : κ) (a : α) : List (κ × α) → List (κ × α)
  | [] => []
  | (k, x) :: l => if k == key then (k, a) :: l else (k, x) :: replaceAt key a l

theorem lookup_replaceAt (key : κ) (a : α) (l : List (κ × α)) (other : κ) :
    (replaceAt key a l).lookup other =
      if other == key then (l.lookup key).map fun _ => a else l.lookup other := by
  induction l with
  | nil => simp [replaceAt]
  | cons e l ih =>
    obtain ⟨k, x⟩ := e
    by_cases hk : k = key
    · subst hk
      by_cases ho : other = k
      · simp [replaceAt, ho]
      · have hne : (other == k) = false := beq_false_of_ne ho
        simp [replaceAt, List.lookup_cons, hne]
    · have hne : (key == k) = false := beq_false_of_ne fun h => hk h.symm
      have hne' : (k == key) = false := beq_false_of_ne hk
      by_cases ho : other = key
      · subst ho
        simpa [replaceAt, hne', List.lookup_cons, hne] using ih
      · have ho' : (other == key) = false := beq_false_of_ne ho
        simp only [ho', Bool.false_eq_true, if_false] at ih
        simp [replaceAt, hne', List.lookup_cons, ih, ho']

/-- What is under the key already can be put there again. -/
theorem replaceAt_self {key : κ} {a : α} {l : List (κ × α)} (h : l.lookup key = some a) :
    replaceAt key a l = l := by
  induction l with
  | nil => rfl
  | cons e l ih =>
    obtain ⟨k, x⟩ := e
    by_cases hk : k = key
    · subst hk
      rw [List.lookup_cons_self, Option.some.injEq] at h
      simp [replaceAt, h]
    · have hne : (key == k) = false := beq_false_of_ne fun h => hk h.symm
      rw [List.lookup_cons, hne] at h
      simp [replaceAt, hk, ih h]

end

abbrev Named (α : Type) := List (String × α)

namespace Named

variable {α : Type}

def get? (t : Named α) (name : String) : Option α := t.lookup name

def erase (t : Named α) (name : String) : Named α := t.filter (·.1 != name)

/-- Puts a thing under a name, in place of any earlier one. -/
def put (t : Named α) (name : String) (a : α) : Named α := (name, a) :: t.erase name

theorem get?_erase_self (t : Named α) (name : String) : (t.erase name).get? name = none :=
  lookup_filter_self t name

theorem get?_erase_ne {name other : String} (h : other ≠ name) (t : Named α) :
    (t.erase name).get? other = t.get? other := lookup_filter_ne h t

theorem get?_put_self (t : Named α) (name : String) (a : α) :
    (t.put name a).get? name = some a := by
  simp [put, get?]

theorem filter_put (t : Named α) (name : String) (a : α) :
    (t.put name a).filter (·.1 == name) = [(name, a)] := by
  rw [put, List.filter_cons_of_pos (by simp), erase, List.filter_filter]
  simp

theorem get?_put_ne {name other : String} (h : other ≠ name) (t : Named α) (a : α) :
    (t.put name a).get? other = t.get? other := by
  have hne : (other == name) = false := by simpa using h
  rw [← get?_erase_ne h t]
  simp only [put, get?, List.lookup_cons, hne]

end Named

end MarketFeed
