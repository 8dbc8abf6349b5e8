/-!
# Separated lists

A separator cuts a list into fields, of which there is always at least one; writing the fields with
the separator between them gives the list back.

* `Separated.fields` — the fields of a list.
* `Separated.intercalate_fields` — the fields, joined again.
-/

set_option autoImplicit false

namespace ColumnFold
namespace Separated

variable {α : Type} [DecidableEq α]

/-- The fields of a list between the occurrences of `sep`. -/
def fields (sep : α) : List α → List (List α)
  | [] => [[]]
  | x :: xs =>
    if x = sep then [] :: fields sep xs
    else match fields sep xs with
      | [] => [[x]]
      | f :: fs => (x :: f) :: fs

theorem fields_ne_nil (sep : α) (xs : List α) : fields sep xs ≠ [] := by
  cases xs with
  | nil => simp [fields]
  | cons x xs => rw [fields]; split <;> (try split) <;> simp

theorem fields_cons_sep (sep : α) (xs : List α) :
    fields sep (sep :: xs) = [] :: fields sep xs := by
  rw [fields, if_pos rfl]

theorem fields_of_notMem {sep : α} {xs : List α} (h : sep ∉ xs) : fields sep xs = [xs] := by
  induction xs with
  | nil => rfl
  | cons x xs ih =>
    rw [List.mem_cons, not_or] at h
    rw [fields, if_neg (Ne.symm h.1), ih h.2]

theorem fields_append_sep (sep : α) (xs ys : List α) :
    fields sep (xs ++ sep :: ys) = fields sep xs ++ fields sep ys := by
  induction xs with
  | nil => rw [List.nil_append, fields_cons_sep]; rfl
  | cons x xs ih =>
    rw [List.cons_append, fields, fields]
    split
    · rw [ih]; rfl
    · rw [ih]
      cases h : fields sep xs with
      | nil => exact absurd h (fields_ne_nil sep xs)
      | cons f fs => rfl

theorem intercalate_fields (sep : α) (xs : List α) :
    List.intercalate [sep] (fields sep xs) = xs := by
  induction xs with
  | nil => simp [fields, List.intercalate]
  | cons x xs ih =>
    rw [fields]
    cases h : fields sep xs with
    | nil => exact absurd h (fields_ne_nil sep xs)
    | cons f fs =>
      rw [h] at ih
      split
      · rename_i hx
        rw [← ih, hx]
        cases fs <;> simp [List.intercalate]
      · rw [← ih]
        cases fs <;> simp [List.intercalate]

end Separated
end ColumnFold
