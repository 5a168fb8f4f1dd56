/-
Byte offsets in a text. The offsets that a table of boundaries holds are the widths of the fronts of
the text, and a text can be cut at the width of a front, which gives that front.
-/
import Mathlib
import ShardSearch.Text.Search

namespace ShardSearch.Text

@[simp, grind =]
theorem width_nil : width [] = 0 := rfl

@[simp, grind =]
theorem width_cons (c : Char) (s : List Char) : width (c :: s) = c.utf8Size + width s := rfl

@[simp, grind =]
theorem width_append (a b : List Char) : width (a ++ b) = width a + width b := by
  induction a with
  | nil => simp
  | cons c a ih => simp [ih, Nat.add_assoc]

@[simp]
theorem cutAt?_width (a b : List Char) : cutAt? (width a) (a ++ b) = some (a, b) := by
  induction a with
  | nil => simp [cutAt?]
  | cons c a ih =>
    have hpos := c.utf8Size_pos
    obtain ⟨n, hn⟩ : ∃ n, width (c :: a) = n + 1 := ⟨width (c :: a) - 1, by rw [width_cons]; omega⟩
    have hrest : n + 1 - c.utf8Size = width a := by
      rw [← hn, width_cons]
      omega
    have hle : c.utf8Size ≤ n + 1 := by
      rw [← hn, width_cons]
      omega
    rw [hn, List.cons_append, cutAt?, if_pos hle, hrest, ih]
    rfl

/-- Between the widths of two fronts lies what the longer one adds. -/
@[simp]
theorem slice?_width (a w b : List Char) :
    slice? (width a) (width a + width w) (a ++ (w ++ b)) = some w := by
  have hfront := cutAt?_width (a ++ w) b
  rw [List.append_assoc, width_append] at hfront
  simp [slice?, hfront]

@[simp]
theorem length_boundariesFrom (s : List Char) (offset : Nat) :
    (boundariesFrom offset s).length = s.length + 1 := by
  induction s generalizing offset with
  | nil => rfl
  | cons c s ih => simp [boundariesFrom, ih]

theorem getElem?_boundariesFrom (a b : List Char) (offset : Nat) :
    (boundariesFrom offset (a ++ b))[a.length]? = some (offset + width a) := by
  induction a generalizing offset with
  | nil => cases b <;> simp [boundariesFrom]
  | cons c a ih =>
    simp only [List.cons_append, boundariesFrom, List.length_cons, List.getElem?_cons_succ, ih, width_cons]
    rw [Nat.add_assoc]

@[simp]
theorem length_boundaries (s : List Char) : (boundaries s).length = s.length + 1 :=
  length_boundariesFrom s 0

theorem getElem?_boundaries (a b : List Char) : (boundaries (a ++ b))[a.length]? = some (width a) := by
  rw [boundaries, getElem?_boundariesFrom, Nat.zero_add]

end ShardSearch.Text
