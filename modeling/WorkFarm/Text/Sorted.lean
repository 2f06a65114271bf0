/-!
# Sorted texts

Texts are sorted by the code points of their characters, which is also the order of their bytes in UTF-8.

## Main definitions

* `Text.sorted` — texts in order
-/

namespace WorkFarm

namespace Text

def sorted (texts : List String) : List String := texts.mergeSort fun a b => !decide (b < a)

/-- Sorting neither adds nor drops a text. -/
theorem sorted_perm (texts : List String) : (sorted texts).Perm texts :=
  List.mergeSort_perm texts _

/-- No sorted text stands behind a greater one. -/
theorem pairwise_sorted (texts : List String) : (sorted texts).Pairwise (· ≤ ·) := by
  have trans : ∀ a b c : String, !decide (b < a) → !decide (c < b) → !decide (c < a) := by
    intro a b c hab hbc
    simp only [Bool.not_eq_true', decide_eq_false_iff_not, String.not_lt] at *
    exact String.le_trans hab hbc
  have total : ∀ a b : String, !decide (b < a) || !decide (a < b) := by
    intro a b
    simp only [Bool.or_eq_true, Bool.not_eq_true', decide_eq_false_iff_not, String.not_lt]
    exact String.le_total a b
  exact (List.pairwise_mergeSort trans total texts).imp fun h =>
    String.not_lt.1 (of_decide_eq_false (Bool.not_eq_true' _ ▸ h))

end Text

end WorkFarm
