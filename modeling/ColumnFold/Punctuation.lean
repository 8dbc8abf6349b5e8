import ColumnFold.Cell

/-!
# Punctuation at the ends of a line

Closing punctuation should not begin a line, and opening punctuation should not end one.  In
Japanese text the small kana and the iteration and length marks should not begin a line either.

* `Cell.isClosing`, `Cell.isOpening` — the glyphs concerned, by their first character.
-/

set_option autoImplicit false

namespace ColumnFold
namespace Punctuation

/-- ASCII characters that should not begin a line. -/
def closingAscii : List Char :=
  [',', '.', ':', ';', '!', '?', ')', ']', '}']

/-- Other punctuation, iteration and length marks that should not begin a line. -/
def closingMarks : List Char :=
  ['、', '。', '，', '．', '・', '：', '；', '？', '！', '゛', '゜', 'ヽ', 'ヾ', 'ゝ', 'ゞ',
   '々', 'ー', '’', '”', '）', '〕', '］', '｝', '〉', '》', '」', '』', '】', '〙', '〗',
   '〟', '｠', '»']

/-- Small kana, which should not begin a line. -/
def smallKana : List Char :=
  ['ァ', 'ィ', 'ゥ', 'ェ', 'ォ', 'ッ', 'ャ', 'ュ', 'ョ', 'ヮ', 'ヵ', 'ヶ', 'ぁ', 'ぃ', 'ぅ',
   'ぇ', 'ぉ', 'っ', 'ゃ', 'ゅ', 'ょ', 'ゎ', 'ゕ', 'ゖ']

/-- Characters that should not begin a line. -/
def closing : List Char := closingAscii ++ closingMarks ++ smallKana

/-- Characters that should not end a line. -/
def opening : List Char :=
  ['(', '[', '{', '‘', '“', '（', '〔', '［', '｛', '〈', '《', '「', '『', '【', '〘',
   '〖', '〝', '｟', '«']

theorem all_opening_notClosing : opening.all (fun c => !closing.contains c) = true := by
  decide

theorem notMem_closing_of_mem_opening {c : Char} (h : c ∈ opening) : c ∉ closing := by
  have hc := List.all_eq_true.1 all_opening_notClosing c h
  intro hmem
  simp [hmem] at hc

end Punctuation

namespace Cell

/-- Whether a cell is a glyph that should not begin a line. -/
def isClosing (c : Cell) : Bool := c.headIs Punctuation.closing.contains

/-- Whether a cell is a glyph that should not end a line. -/
def isOpening (c : Cell) : Bool := c.headIs Punctuation.opening.contains

end Cell
end ColumnFold
