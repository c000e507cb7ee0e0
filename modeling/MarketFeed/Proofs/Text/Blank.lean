import Mathlib.Data.List.DropRight
import MarketFeed.Text.Blank

set_option autoImplicit false

/-!
# Trimmed texts

`trim` takes nothing from a text that it has trimmed, and leaves nothing of a text exactly when the
text is blank.
-/

namespace MarketFeed

section
variable {α : Type} (p : α → Bool) (l : List α)

theorem trimList_eq : trimList p l = (l.dropWhile p).rdropWhile p := rfl

theorem trimList_eq_nil : trimList p l = [] ↔ ∀ x ∈ l, p x = true := by
  rw [trimList_eq, List.rdropWhile_eq_nil_iff]
  refine ⟨fun h => ?_, fun h x hx => h x ((List.dropWhile_suffix p).subset hx)⟩
  -- the first of what is not dropped would have been dropped
  have hd : l.dropWhile p = [] := by
    cases hl : l.dropWhile p with
    | nil => rfl
    | cons x xs =>
      have hx := List.head_dropWhile_not p (l := l) (by simp [hl])
      simp only [hl, List.head_cons] at hx
      rw [h x (by simp [hl])] at hx
      cases hx
  exact List.dropWhile_eq_nil_iff.mp hd

theorem trimList_trimList : trimList p (trimList p l) = trimList p l := by
  have hd : (trimList p l).dropWhile p = trimList p l := by
    refine List.dropWhile_eq_self_iff.mpr fun hl hx => ?_
    -- what is left of the list begins as the list without its front does
    have hp : trimList p l <+: l.dropWhile p := List.rdropWhile_prefix p _
    have h0 : 0 < (l.dropWhile p).length := hl.trans_le hp.length_le
    refine (List.dropWhile_get_zero_not p l h0) ?_
    rw [List.get_eq_getElem, ← hp.getElem hl]
    exact hx
  rw [trimList_eq p (trimList p l), hd, trimList_eq, List.rdropWhile_idempotent]

end

@[simp] theorem trim_trim (s : String) : trim (trim s) = trim s := by
  simp [trim, trimList_trimList]

theorem isBlankText_iff {s : String} : isBlankText s = true ↔ trim s = "" := by
  rw [isBlankText, List.all_eq_true, ← trimList_eq_nil, trim]
  exact ⟨fun h => by rw [h], fun h => by simpa using congrArg String.toList h⟩

end MarketFeed
