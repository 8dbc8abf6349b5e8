import ColumnFold.Unicode.Alphanumeric
import ColumnFold.Unicode.Blank
import ColumnFold.Unicode.Decimal

/-!
# Wrapping

A paragraph is wrapped into lines of a given number of characters.  First it is cut into chunks:
runs of spaces, words, and parts of words.  A word may be parted after a hyphen between letters, and
before and after a dash of several hyphens.  A line takes as many chunks as fit; a chunk that fits
into no line is broken, if possible after a hyphen.  A blank chunk at the beginning of a line, other
than the first line, or at the end of a line is dropped.

* `Wrap.chunks` — the chunks of a text.
* `Wrap.lines` — the lines of chunks.
* `Wrap.paragraph` — a text, wrapped.
* `Wrap.closeUp` — a text without more than one empty line at a time.
-/

set_option autoImplicit false

namespace ColumnFold
namespace Wrap

/-! ## Characters -/

/-- Whether a character separates words. -/
def isSeparator (c : Char) : Bool := c == ' ' || decide (9 ≤ c.toNat ∧ c.toNat ≤ 13)

/-- Whether a character may stand after a dash. -/
def isWordChar (c : Char) : Bool := Unicode.isAlphanumeric c || c == '_'

/-- Whether a character is a letter of a word. -/
def isLetter (c : Char) : Bool := isWordChar c && !Unicode.isDigit c

/-- Whether a character may stand before a dash. -/
def endsWord (c : Char) : Bool := isWordChar c || ['!', '"', '\'', '&', '.', ',', '?'].contains c

/-! ## Chunks

Where a word may be parted depends on the text before the place, nearest character first, and on the
text after it. -/

/-- Whether a text begins with two letters, perhaps with a hyphen in between. -/
def beginsWithLetters : List Char → Bool
  | x :: '-' :: y :: _ => isLetter x && isLetter y
  | x :: y :: _ => isLetter x && isLetter y
  | _ => false

/-- Whether a hyphen follows, after which a word may be parted: it stands between letters, at least
two on each side. -/
def atHyphen (before : List Char) : List Char → Bool
  | '-' :: after => beginsWithLetters before && beginsWithLetters after
  | _ => false

/-- Whether a dash follows that stands between words. -/
def atDash (before : List Char) : List Char → Bool
  | '-' :: '-' :: after =>
    (before.head?.any endsWord) && ((after.dropWhile (· == '-')).head?.any isWordChar)
  | _ => false

/-- The rest of a chunk that begins with a word. -/
def restOfWord (before : List Char) : List Char → List Char
  | [] => []
  | c :: cs =>
    if atHyphen before (c :: cs) then [c]
    else if isSeparator c || atDash before (c :: cs) then []
    else c :: restOfWord (c :: before) cs

/-- The rest of a chunk that begins with `c`. -/
def restOfChunk (before : List Char) (c : Char) (cs : List Char) : List Char :=
  if isSeparator c then cs.takeWhile isSeparator
  else if atDash before (c :: cs) then cs.takeWhile (· == '-')
  else restOfWord (c :: before) cs

/-- The chunks of a text that stands after `before`. -/
def chunksFrom (before : List Char) : List Char → List (List Char)
  | [] => []
  | c :: cs =>
    let chunk := c :: restOfChunk before c cs
    chunk :: chunksFrom (chunk.reverse ++ before) (cs.drop (restOfChunk before c cs).length)
termination_by cs => cs.length
decreasing_by
  simp only [List.length_drop, List.length_cons]
  omega

/-- The chunks of a text. -/
def chunks (cs : List Char) : List (List Char) := chunksFrom [] cs

/-! ## Lines -/

/-- Whether a chunk shows nothing. -/
def isBlankChunk (chunk : List Char) : Bool := chunk.all Unicode.isSpace

/-- The chunks from the front that fit into `space` characters, and the others. -/
def fit (space : Nat) : List (List Char) → List (List Char) × List (List Char)
  | [] => ([], [])
  | k :: ks =>
    if k.length ≤ space then
      let (taken, rest) := fit (space - k.length) ks
      (k :: taken, rest)
    else ([], k :: ks)

/-- How much of a chunk that is too long for any line goes into `space` characters: what ends in the
last hyphen there, unless only hyphens stand before it. -/
def breakAt (space : Nat) (chunk : List Char) : Nat :=
  let head := chunk.take space
  let hyphened := head.length - (head.reverse.takeWhile (· != '-')).length
  if (chunk.take (hyphened - 1)).any (· != '-') then hyphened else space

/-- The chunks of the first line, and the others. -/
def firstLine (width : Nat) (ks : List (List Char)) : List (List Char) × List (List Char) :=
  match fit width ks with
  | (taken, k :: rest) =>
    if width < k.length then
      let n := breakAt (width - taken.flatten.length) k
      (taken ++ [k.take n], k.drop n :: rest)
    else (taken, k :: rest)
  | (taken, []) => (taken, [])

/-- Chunks without a blank one at the front. -/
def dropBlankFirst : List (List Char) → List (List Char)
  | k :: ks => if isBlankChunk k then ks else k :: ks
  | [] => []

/-- Chunks without a blank one at the end. -/
def dropBlankLast (ks : List (List Char)) : List (List Char) :=
  if ks.getLast?.any isBlankChunk then ks.dropLast else ks

/-- A measure of what is left to be put into lines. -/
def size (ks : List (List Char)) : Nat := ks.length + ks.flatten.length

theorem size_dropBlankFirst (ks : List (List Char)) : size (dropBlankFirst ks) ≤ size ks := by
  rw [dropBlankFirst.eq_def]
  split
  · split
    · simp only [size, List.length_cons, List.flatten_cons, List.length_append]
      omega
    · exact Nat.le_refl _
  · exact Nat.le_refl _

theorem size_append (ks ls : List (List Char)) : size (ks ++ ls) = size ks + size ls := by
  simp only [size, List.length_append, List.flatten_append]
  omega

theorem fit_append (space : Nat) (ks : List (List Char)) :
    (fit space ks).1 ++ (fit space ks).2 = ks := by
  fun_induction fit space ks with
  | case1 => rfl
  | case2 space k ks _ taken rest h ih =>
    rw [h] at ih
    rw [List.cons_append, ih]
  | case3 => rfl

theorem breakAt_pos {space : Nat} (h : 0 < space) (chunk : List Char) :
    0 < breakAt space chunk := by
  rw [breakAt.eq_def]
  simp only
  split
  · rename_i ha
    rcases Nat.eq_zero_or_pos
      ((chunk.take space).length - ((chunk.take space).reverse.takeWhile (· != '-')).length)
      with h0 | h0
    · rw [h0] at ha
      simp at ha
    · exact h0
  · exact h

/-- Putting chunks into a line leaves less. -/
theorem size_firstLine {width : Nat} (hw : 0 < width) {ks : List (List Char)} (hks : ks ≠ []) :
    size (firstLine width ks).2 < size ks := by
  have happ := fit_append width ks
  rw [firstLine.eq_def]
  split
  · rename_i taken k rest hfit
    rw [hfit] at happ
    simp only at happ
    have htaken : taken = [] → width < k.length := by
      intro ht
      subst ht
      rw [List.nil_append] at happ
      subst happ
      rw [fit] at hfit
      split at hfit
      · simp at hfit
      · omega
    rw [← happ, size_append]
    split
    · rename_i hlong
      simp only [size, List.length_cons, List.flatten_cons, List.length_append, List.length_drop]
      cases taken with
      | nil =>
        have hb := breakAt_pos hw k
        simp only [List.flatten_nil, List.length_nil, Nat.sub_zero, Nat.zero_add]
        omega
      | cons t ts =>
        simp only [List.length_cons]
        omega
    · rename_i hshort
      cases taken with
      | nil => exact absurd (htaken rfl) hshort
      | cons t ts =>
        simp only [size, List.length_cons]
        omega
  · rename_i taken hfit
    cases ks with
    | nil => exact absurd rfl hks
    | cons k ks =>
      simp only [size, List.length_cons, List.length_nil, List.flatten_nil]
      omega

/-- The lines of chunks; `first` tells whether no line stands before them. -/
def linesFrom (width : Nat) (hw : 0 < width) (first : Bool) (ks : List (List Char)) :
    List (List Char) :=
  match _h : if first then ks else dropBlankFirst ks with
  | [] => []
  | k :: rest =>
    let line := firstLine width (k :: rest)
    let shown := dropBlankLast line.1
    if shown.isEmpty then linesFrom width hw first line.2
    else shown.flatten :: linesFrom width hw false line.2
termination_by size ks
decreasing_by
  all_goals
    refine Nat.lt_of_lt_of_le (size_firstLine hw (List.cons_ne_nil k rest)) ?_
    rw [← _h]
    split
    · exact Nat.le_refl _
    · exact size_dropBlankFirst ks

/-- The lines of chunks. -/
def lines (width : Nat) (hw : 0 < width) (ks : List (List Char)) : List (List Char) :=
  linesFrom width hw true ks

/-! ## Texts -/

/-- A text with a single space for every run of separators. -/
def collapse : List Char → List Char
  | [] => []
  | c :: cs =>
    if isSeparator c then ' ' :: (collapse cs).dropWhile (· == ' ')
    else c :: collapse cs

/-- A text without white space at its ends. -/
def strip (cs : List Char) : List Char :=
  ((cs.dropWhile Unicode.isSpace).reverse.dropWhile Unicode.isSpace).reverse

/-- A text as a paragraph whose lines have at most `width` characters. -/
def paragraph (width : Nat) (hw : 0 < width) (text : String) : String :=
  let ls := lines width hw (chunks (strip (collapse text.toList)))
  "\n".intercalate (ls.map String.ofList)

/-- A text in which two line feeds stand for every longer run of them. -/
def closeUp : List Char → List Char
  | '\n' :: '\n' :: '\n' :: cs => closeUp ('\n' :: '\n' :: cs)
  | c :: cs => c :: closeUp cs
  | [] => []
termination_by cs => cs.length

end Wrap
end ColumnFold
