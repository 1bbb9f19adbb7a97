/-
# YamlShape.Text.Bytes -- the bytes of a text and their order

Texts are ordered by the bytes of their UTF-8 form.

* `bytes_injective`: the bytes determine the text.
* `byteOrder_total`, `byteOrder_trans`, `byteOrder_antisymm`: the order is linear.
* `bytes_lt_of_byteOrder`: texts that differ are strictly ordered.
* `mergeSort_eq_of_perm`: sorted texts depend on nothing but which texts there are.
-/

namespace YamlShape.Text

set_option autoImplicit false

/-- The bytes of a text. -/
def bytes (text : String) : List UInt8 :=
  text.toByteArray.data.toList

/-- Whether a text comes before another or is the same. -/
def byteOrder (left right : String) : Bool :=
  bytes left ≤ bytes right

theorem bytes_injective {left right : String} (same : bytes left = bytes right) :
    left = right := by
  apply String.toByteArray_inj.1
  apply ByteArray.ext
  exact Array.toList_inj.1 same

theorem byteOrder_total (left right : String) :
    (byteOrder left right || byteOrder right left) = true := by
  simpa [byteOrder] using List.le_total (bytes left) (bytes right)

theorem byteOrder_trans (left middle right : String) (first : byteOrder left middle = true)
    (second : byteOrder middle right = true) : byteOrder left right = true := by
  simp only [byteOrder, decide_eq_true_eq] at *
  exact List.le_trans first second

theorem byteOrder_antisymm {left right : String} (first : byteOrder left right = true)
    (second : byteOrder right left = true) : left = right := by
  simp only [byteOrder, decide_eq_true_eq] at *
  exact bytes_injective (List.le_antisymm first second)

theorem bytes_lt_of_byteOrder {left right : String} (ordered : byteOrder left right = true)
    (differ : left ≠ right) : bytes left < bytes right := by
  rcases List.le_iff_lt_or_eq.1 (of_decide_eq_true ordered) with before | same
  · exact before
  · exact absurd (bytes_injective same) differ

/-- Texts sort to the same list, in whatever order they come. -/
theorem mergeSort_eq_of_perm {texts others : List String} (same : texts.Perm others) :
    texts.mergeSort byteOrder = others.mergeSort byteOrder := by
  refine List.Perm.eq_of_pairwise (fun _ _ _ _ => byteOrder_antisymm)
    (List.pairwise_mergeSort byteOrder_trans byteOrder_total texts)
    (List.pairwise_mergeSort byteOrder_trans byteOrder_total others) ?_
  exact (List.mergeSort_perm texts _).trans (same.trans (List.mergeSort_perm others _).symm)

theorem filter_mergeSort (keep : String → Bool) (texts : List String) :
    (texts.mergeSort byteOrder).filter keep = (texts.filter keep).mergeSort byteOrder := by
  refine List.Perm.eq_of_pairwise (fun _ _ _ _ => byteOrder_antisymm)
    ((List.pairwise_mergeSort byteOrder_trans byteOrder_total texts).filter _)
    (List.pairwise_mergeSort byteOrder_trans byteOrder_total _) ?_
  exact ((List.mergeSort_perm texts _).filter keep).trans (List.mergeSort_perm _ _).symm

end YamlShape.Text
