/-!
# Separators

The separator between fields is given on the command line, where a line feed is written as a
backslash and an `n`, and a backslash as two of them.  Any other backslash stands for itself.

* `Separator.read` — the separator that a written form stands for.
* `Separator.write` — a written form of a separator.
* `Separator.read_write` — every separator has a written form.
-/

set_option autoImplicit false

namespace ColumnFold
namespace Separator

/-- The text that a written form stands for. -/
def read : List Char → List Char
  | [] => []
  | '\\' :: 'n' :: cs => '\n' :: read cs
  | '\\' :: '\\' :: cs => '\\' :: read cs
  | c :: cs => c :: read cs

/-- The written form of a text. -/
def write (cs : List Char) : List Char :=
  cs.flatMap fun c =>
    if c = '\\' then ['\\', '\\'] else if c = '\n' then ['\\', 'n'] else [c]

theorem read_write (cs : List Char) : read (write cs) = cs := by
  induction cs with
  | nil => rfl
  | cons c cs ih =>
    rw [write.eq_def] at ih ⊢
    rw [List.flatMap_cons]
    split
    · simp_all [read]
    · split
      · simp_all [read]
      · rename_i h _
        rw [List.cons_append, List.nil_append, read, ih] <;> simp_all

/-- The separator that a command line word stands for. -/
def ofWord (word : String) : String := String.ofList (read word.toList)

end Separator
end ColumnFold
