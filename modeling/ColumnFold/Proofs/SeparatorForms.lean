import ColumnFold.Command.Separator

/-!
# Written forms of separators

A written form is read from left to right, and a backslash takes the character after it along if
that is an `n` or a backslash.  So whether an `n` stands for itself depends on the whole run of
backslashes before it, and many texts are read as the same separator: a lone backslash is read like
two of them.  What is written for a separator is one of these texts, and it is known by two things
that can be seen without reading it: there is no line feed in it, and its backslashes can be paired
from left to right (`Separator.Paired`).

* `Separator.toWord` — the word that is written for a separator.
* `Separator.Paired` — every backslash is the first or the second half of a pair.
* `Separator.toWord_ofWord_iff` — which words are written for some separator.
-/

set_option autoImplicit false

namespace ColumnFold
namespace Separator

variable {c : Char} {cs : List Char}

/-! ## Reading and writing one character -/

theorem read_pair_n (cs : List Char) : read ('\\' :: 'n' :: cs) = '\n' :: read cs := rfl

theorem read_pair_backslash (cs : List Char) : read ('\\' :: '\\' :: cs) = '\\' :: read cs := rfl

theorem read_cons (h : c ≠ '\\') (cs : List Char) : read (c :: cs) = c :: read cs := by
  rw [read] <;> simp [h]

theorem write_cons (c : Char) (cs : List Char) : write (c :: cs) = write [c] ++ write cs := by
  simp [write]

theorem write_plain (hc : c ≠ '\\') (hlf : c ≠ '\n') : write [c] = [c] := by
  simp [write, hc, hlf]

/-! ## Pairs -/

/-- From left to right, every backslash is paired with an `n` or a backslash after it. -/
inductive Paired : List Char → Prop
  /-- The end of the text. -/
  | nil : Paired []
  /-- A pair. -/
  | pair {c : Char} {cs : List Char} (hc : c = 'n' ∨ c = '\\') (h : Paired cs) :
      Paired ('\\' :: c :: cs)
  /-- A character that is no backslash. -/
  | plain {c : Char} {cs : List Char} (hc : c ≠ '\\') (h : Paired cs) : Paired (c :: cs)

theorem lf_notMem_write (cs : List Char) : '\n' ∉ write cs := by
  intro h
  obtain ⟨c, -, hc⟩ := List.mem_flatMap.1 h
  split at hc
  · simp at hc
  · split at hc
    · simp at hc
    · rename_i hlf
      exact hlf (List.mem_singleton.1 hc).symm

/-- What is written for a separator is made of pairs and other characters. -/
theorem paired_write (cs : List Char) : Paired (write cs) := by
  induction cs with
  | nil => exact .nil
  | cons c cs ih =>
    rw [write_cons]
    by_cases hc : c = '\\'
    · subst hc
      exact .pair (.inr rfl) ih
    · by_cases hlf : c = '\n'
      · subst hlf
        exact .pair (.inl rfl) ih
      · rw [write_plain hc hlf]
        exact .plain hc ih

/-- Pairs are read and written again, and so are other characters but line feeds. -/
theorem Paired.write_read (h : Paired cs) (hlf : '\n' ∉ cs) : write (read cs) = cs := by
  induction h with
  | nil => rfl
  | pair hc _ ih =>
    rw [List.mem_cons, List.mem_cons, not_or, not_or] at hlf
    have hrest := ih hlf.2.2
    obtain rfl | rfl := hc
    · rw [read_pair_n, write_cons, hrest]
      rfl
    · rw [read_pair_backslash, write_cons, hrest]
      rfl
  | plain hc _ ih =>
    rw [List.mem_cons, not_or] at hlf
    rw [read_cons hc, write_cons, write_plain hc (Ne.symm hlf.1), ih hlf.2]
    rfl

/-! ## Words -/

/-- The word that is written for a separator. -/
def toWord (separator : String) : String := String.ofList (write separator.toList)

/-- **Every string can be written as a separator**, and the words that are written are those without
line feeds whose backslashes are paired from left to right; any other word is read as a separator
for which another word is written. -/
theorem toWord_ofWord_iff :
    (∀ separator, ofWord (toWord separator) = separator) ∧
      ∀ word, toWord (ofWord word) = word ↔ '\n' ∉ word.toList ∧ Paired word.toList := by
  refine ⟨fun separator => ?_, fun word => ⟨fun h => ?_, fun ⟨hlf, hpaired⟩ => ?_⟩⟩
  · rw [ofWord, toWord, String.toList_ofList, read_write, String.ofList_toList]
  · have hlist : write (ofWord word).toList = word.toList := by
      rw [← String.toList_ofList (l := write _), ← toWord, h]
    exact hlist ▸ ⟨lf_notMem_write _, paired_write _⟩
  · rw [toWord, ofWord, String.toList_ofList, hpaired.write_read hlf, String.ofList_toList]

/-- A backslash that stands for itself, and an `n` after a pair. -/
example : ofWord "\\t\\\\n\\" = "\\t\\n\\" ∧ toWord "\\t\\n\\" = "\\\\t\\\\n\\\\" := by decide

end Separator
end ColumnFold
