import ColumnFold.Proofs.PunctuationRules
import ColumnFold.Proofs.Widths

/-!
# When a word is split

Where lines are cut between words, a cut that would split a word goes back to the first glyph of the
run of word glyphs before it, so it has a glyph of another kind on one side.  If there is no such
glyph, the whole fragment is one run and stays as it is.  A forced cut ends with a glyph that is too
wide to be part of a word, and cells without columns.

Punctuation may move the cut again, but never into a word: it then ends with a closing glyph, or is
followed by an opening one, and neither is part of a word.  For the opening glyphs, and most of the
closing ones, that is so because they are no letters; the small kana are letters, but wide.

* `Breaking.Shift.eq_of_splitsWord` — punctuation does not move a cut into a word.
* `Split.toWordStart_latest` — every later cut would split the word that a cut goes back over.
* `Breaking.cut_splitsWord` — a word is split only if it fills the whole fragment.
-/

set_option autoImplicit false

namespace ColumnFold

open Cell

/-! ## Punctuation and words -/

theorem Punctuation.all_opening_notWord :
    opening.all (fun c => !(Unicode.isAlphanumeric c || c == '_')) = true := by
  decide +kernel

theorem Punctuation.underscore_notMem_closing : '_' ∉ closing := by
  decide

namespace Cell

variable {c : Cell}

theorem isWord_of_isOpening (h : c.isOpening = true) : c.isWord = false := by
  rcases c with ⟨ch | _, tail, width⟩ | body
  · have hc := List.all_eq_true.1 Punctuation.all_opening_notWord ch (List.contains_iff_mem.1 h)
    rw [Bool.not_eq_true'] at hc
    exact (congrArg (_ && ·) hc).trans (Bool.and_false _)
  · cases h
  · cases h

/-- A closing glyph is part of a word only if it is a letter or number of one column. -/
theorem isAlphanumeric_of_isClosing (h : c.isClosing = true) (hword : c.isWord = true) :
    c.headIs Unicode.isAlphanumeric = true ∧ c.width = 1 := by
  rw [isWord, Bool.and_eq_true, beq_iff_eq] at hword
  refine ⟨?_, hword.1⟩
  rcases c with ⟨ch | _, tail, width⟩ | body
  · refine (Bool.or_eq_true _ _ ▸ hword.2).resolve_right fun hch => ?_
    have hclosing : ch ∈ Punctuation.closing := List.contains_iff_mem.1 h
    rw [beq_iff_eq.1 hch] at hclosing
    exact Punctuation.underscore_notMem_closing hclosing
  · cases h
  · cases h

end Cell

/-! ## Cuts that split a word -/

namespace Split

variable {s : Split}

/-- The first glyph of a run of word glyphs is one of them, or comes after the run. -/
theorem any_isWord_find_append {run cells : List Cell} (hrun : ∀ c ∈ run, inWordRun c = true)
    (h : (∃ c ∈ run, c.isEscape = false) ∨ (cells.find? (!·.isEscape)).any isWord = true) :
    ((run ++ cells).find? (!·.isEscape)).any isWord = true := by
  induction run with
  | nil => simpa using h
  | cons c run ih =>
    obtain ⟨hc, hrun⟩ := List.forall_mem_cons.1 hrun
    rw [List.cons_append]
    rcases he : c.isEscape with _ | _
    · rw [List.find?_cons_of_pos (by rw [he]; rfl)]
      exact isWord_of_inWordRun hc he
    · rw [List.find?_cons_of_neg (by rw [he]; exact Bool.false_ne_true)]
      refine ih hrun (h.imp_left ?_)
      rintro ⟨d, hd, hglyph⟩
      rcases List.mem_cons.1 hd with rfl | hd
      · rw [he] at hglyph
        cases hglyph
      · exact ⟨d, hd, hglyph⟩

/-- **Every cut within a run of word glyphs splits a word**, if a glyph of the run stands before it,
and the run goes on up to a cut that splits a word. -/
theorem splitsWord_of_within {greedy : Split} {before run : List Cell} {word : Cell}
    (hgreedy : greedy.splitsWord = true) (ht : greedy.taken = before ++ word :: run)
    (hword : word.isWord = true) (hrun : ∀ c ∈ run, inWordRun c = true)
    (hall : s.all = greedy.all) (hbefore : before.length < s.taken.length)
    (hlength : s.taken.length ≤ greedy.taken.length) : s.splitsWord = true := by
  rw [splitsWord, Bool.and_eq_true] at hgreedy ⊢
  have hglyph : word.isEscape = false :=
    isEscape_eq_false_of_width (by rw [width_of_isWord hword]; exact Nat.one_pos)
  -- `s` takes some cells of the run, and leaves the others
  obtain ⟨left, hleft⟩ : s.taken <+: greedy.taken :=
    List.prefix_of_prefix_length_le ⟨s.rest, hall⟩ ⟨greedy.rest, rfl⟩ hlength
  obtain ⟨part, hpart⟩ : before <+: s.taken :=
    List.prefix_of_prefix_length_le (ht ▸ ⟨word :: run, rfl⟩) ⟨left, hleft⟩
      (Nat.le_of_lt hbefore)
  have hrest : s.rest = left ++ greedy.rest := by
    rw [all, all, ← hleft, List.append_assoc] at hall
    exact List.append_cancel_left hall
  have hsplit : part ++ left = word :: run := by
    rw [← hleft, ← hpart, List.append_assoc] at ht
    exact List.append_cancel_left ht
  have hinRun : ∀ c ∈ part ++ left, inWordRun c = true := by
    rw [hsplit, List.forall_mem_cons, inWordRun, hword, Bool.or_true]
    exact ⟨rfl, hrun⟩
  constructor
  · rw [← hpart, List.reverse_append]
    refine any_isWord_find_append
      (fun c hc => hinRun c (List.mem_append_left _ (List.mem_reverse.1 hc))) (.inl ?_)
    rcases part with _ | ⟨first, part⟩
    · rw [← hpart, List.append_nil] at hbefore
      exact absurd hbefore (Nat.lt_irrefl _)
    · obtain ⟨rfl⟩ := (List.cons.inj hsplit).1
      exact ⟨word, by simp, hglyph⟩
  · rw [hrest]
    exact any_isWord_find_append (fun c hc => hinRun c (List.mem_append_right _ hc))
      (.inr hgreedy.2)

/-- **Going back to a word makes the latest cut that splits none.**  A cut that splits a word after
another glyph goes back to the first glyph of the run of word glyphs before it, and every cut in
between splits a word as well. -/
theorem toWordStart_latest {greedy : Split} (hgreedy : greedy.splitsWord = true)
    (hother : ∃ c ∈ greedy.taken, c.isEscape = false ∧ c.isWord = false) :
    ∃ before brk escapes word run,
      greedy.taken = before ++ brk :: (escapes ++ word :: run) ∧
      greedy.toWordStart = ⟨before ++ brk :: escapes, word :: run ++ greedy.rest⟩ ∧
      brk.isEscape = false ∧ brk.isWord = false ∧ (∀ e ∈ escapes, e.isEscape = true) ∧
      word.isWord = true ∧ (∀ c ∈ run, c.isEscape = false → c.isWord = true) ∧
      ∀ s : Split, s.all = greedy.all → greedy.toWordStart.taken.length < s.taken.length →
        s.taken.length ≤ greedy.taken.length → s.splitsWord = true := by
  obtain ⟨other, hother, hglyph, hnotWord⟩ := hother
  rcases greedy.toWordStart_cases with ⟨-, hfalse | hall⟩ |
    ⟨-, before, brk, escapes, word, run, htaken, hcut, hbrk, hescapes, hword, hrun⟩
  · rw [hfalse] at hgreedy
    cases hgreedy
  · rw [isWord_of_inWordRun (hall other hother) hglyph] at hnotWord
    cases hnotWord
  · rw [inWordRun, Bool.or_eq_false_iff] at hbrk
    refine ⟨before, brk, escapes, word, run, htaken, hcut, hbrk.1, hbrk.2, hescapes, hword,
      fun c hc he => isWord_of_inWordRun (hrun c hc) he, fun s hall hlt hle => ?_⟩
    rw [hcut] at hlt
    have ht : greedy.taken = (before ++ brk :: escapes) ++ word :: run := by
      rw [htaken, List.append_assoc, List.cons_append]
    exact splitsWord_of_within hgreedy ht hword hrun hall hlt hle

/-- A forced cut takes no word glyph: the only one with columns is too wide. -/
theorem isWord_of_mem_force {width : Int} (hw : 0 < width) {cells : List Cell}
    (hrest : (fit width cells).rest ≠ []) (hzero : columns (fit width cells).taken = 0) :
    ∀ c ∈ (fit width cells).force.taken, c.isWord = false := by
  obtain ⟨wide, after, hwide⟩ := List.exists_cons_of_ne_nil hrest
  have hlt := lt_of_fit_rest hwide
  rw [hzero] at hlt
  have hone := filter_force hwide hzero (by omega)
  intro c hc
  refine Bool.eq_false_iff.2 fun hword => ?_
  have hwidth := width_of_isWord hword
  have hmem : c ∈ [wide] := by
    rw [← hone, List.mem_filter]
    exact ⟨hc, by simp [hwidth]⟩
  rw [List.mem_singleton.1 hmem] at hwidth
  omega

end Split

/-! ## The whole cut -/

namespace Breaking

variable {b : Breaking} {width : Int} {cells : List Cell}

/-- Punctuation does not move a cut into a word. -/
theorem Shift.eq_of_splitsWord {s s' : Split} {ranIn ranOut : List Cell}
    (h : b.Shift s s' ranIn ranOut)
    (hwide : ∀ c ∈ s.rest, c.isClosing = true → c.headIs Unicode.isAlphanumeric = true →
      c.width ≠ 1)
    (hsplit : s'.splitsWord = true) : s' = s := by
  rcases h with _ | ⟨hrest, -, hlast, -⟩ | ⟨-, hfirst, -, -⟩
  · rfl
  · have hword := Split.isWord_of_splitsWord_taken hsplit rfl (isEscape_of_headIs hlast) (by simp)
    obtain ⟨halpha, hwidth⟩ := isAlphanumeric_of_isClosing hlast hword
    exact absurd hwidth (hwide _ (by rw [hrest]; simp) hlast halpha)
  · have hword := Split.isWord_of_splitsWord_rest hsplit rfl (isEscape_of_headIs hfirst)
    rw [isWord_of_isOpening hfirst] at hword
    cases hword

/-- The plain cut splits a word only if there is no glyph of another kind before it. -/
theorem inWordRun_of_splitsWord_plain (hb : b.boundary = .word)
    (h : (b.plain width cells).splitsWord = true) :
    ∀ c ∈ (b.plain width cells).taken, Split.inWordRun c = true := by
  have hplain : b.plain width cells = (Split.fit width cells).toWordStart := by
    rw [plain, atWord, hb]
  rw [hplain] at h ⊢
  rcases (Split.fit width cells).toWordStart_cases with
    ⟨hs, hfalse | hall⟩ | ⟨-, before, brk, escapes, word, run, -, hs, hbrk, hescapes, -, -⟩
  · rw [hs, hfalse] at h
    cases h
  · rwa [hs]
  · rw [hs] at h
    have hword := Split.isWord_of_splitsWord_taken h rfl (Split.isEscape_of_not_inWordRun hbrk)
      hescapes
    rw [Split.inWordRun, hword, Bool.or_true] at hbrk
    cases hbrk

theorem inWordRun_of_splitsWord (hb : b.boundary = .word) (hw : 0 < width)
    (hwide : ∀ c ∈ cells, c.isClosing = true → c.headIs Unicode.isAlphanumeric = true →
      c.width ≠ 1)
    (h : (b.cut width cells).splitsWord = true) :
    ∀ c ∈ (b.cut width cells).taken, Split.inWordRun c = true := by
  rcases b.cut_cases hw cells with ⟨hnil, hcut⟩ | ⟨hrest, hzero, hcut⟩ | ⟨hover, hcut⟩
  · rw [hcut] at h
    exact absurd hnil (Split.rest_ne_nil_of_splitsWord h)
  · obtain ⟨c, hc, hword⟩ := Split.exists_isWord_of_splitsWord h
    rw [hcut] at hc
    rw [Split.isWord_of_mem_force hw hrest hzero c hc] at hword
    cases hword
  · have hsame : b.cut width cells = b.plain width cells := by
      rcases hk : b.kinsoku with _ | _
      · rw [hcut, atPunctuation, hk]
      · obtain ⟨c, hc, -⟩ := b.exists_glyph_plain hover
        obtain ⟨next, rest, hnext, hwidth⟩ := b.plain_rest hw hover
        obtain ⟨ranIn, ranOut, hshift, -⟩ :=
          shift_atPunctuation hk (List.ne_nil_of_mem hc) hnext hwidth
        rw [← hcut] at hshift
        refine hshift.eq_of_splitsWord (fun d hd => hwide d ?_) h
        rw [← Split.all_fit width cells, ← b.all_atWord]
        exact List.mem_append_right _ hd
    rw [hsame] at h ⊢
    exact inWordRun_of_splitsWord_plain hb h

/-- **A word is split only if it fills the whole fragment.**  Where lines are cut between words, and
no closing glyph is a letter or number of one column, a cut that splits a word takes word glyphs
only, whatever punctuation does.  If punctuation does not matter, a greedy cut that splits a word
after another glyph goes back to the first glyph of the run of word glyphs before it, and every
later cut would split a word as well. -/
theorem cut_splitsWord (hb : b.boundary = .word) (hw : 0 < width)
    (hwide : ∀ c ∈ cells, c.isClosing = true → c.headIs Unicode.isAlphanumeric = true →
      c.width ≠ 1) :
    let cut := b.cut width cells
    let greedy := Split.fit width cells
    (cut.splitsWord = true → ∀ c ∈ cut.taken, c.isEscape = false → c.isWord = true) ∧
      (b.kinsoku = .free → greedy.splitsWord = true →
        (∃ c ∈ greedy.taken, c.isEscape = false ∧ c.isWord = false) →
        ∃ before brk escapes word run,
          greedy.taken = before ++ brk :: (escapes ++ word :: run) ∧
          cut = ⟨before ++ brk :: escapes, word :: run ++ greedy.rest⟩ ∧
          brk.isEscape = false ∧ brk.isWord = false ∧ (∀ e ∈ escapes, e.isEscape = true) ∧
          word.isWord = true ∧ (∀ c ∈ run, c.isEscape = false → c.isWord = true) ∧
          ∀ s : Split, s.all = cells → cut.taken.length < s.taken.length →
            s.taken.length ≤ greedy.taken.length → s.splitsWord = true) := by
  intro cut greedy
  refine ⟨fun h c hc he => ?_, ?_⟩
  · exact Split.isWord_of_inWordRun (inWordRun_of_splitsWord hb hw hwide h c hc) he
  intro hk hsplit hother
  have hcut : cut = greedy.toWordStart := by
    have hplain := b.cut_of_overflows hw (overflows_of_splitsWord hsplit)
    rwa [atPunctuation, hk, plain, atWord, hb] at hplain
  have hall : greedy.all = cells := Split.all_fit width cells
  rw [hcut, ← hall]
  exact Split.toWordStart_latest hsplit hother

/-- A word that is too long under the strict rules, and one without them that goes to the next line,
after a small kana. -/
theorem cut_splitsWord_kana :
    let strict : Breaking := ⟨.word, .strict, 2, 2⟩
    let free : Breaking := ⟨.word, .free, 2, 2⟩
    let long := Cell.ofText .narrow (Text.ofString "a\x1b[1mbcd)")
    let cells := Cell.ofText .narrow (Text.ofString "中ァ \x1b[4ma\x1b[1mb\x1b[mcde")
    let greedy := Split.fit 8 cells
    let cut := free.cut 8 cells
    strict.boundary = .word ∧ free.boundary = .word ∧ (0 : Int) < 2 ∧ (0 : Int) < 8 ∧
      (∀ c ∈ long, c.isClosing = true → c.headIs Unicode.isAlphanumeric = true → c.width ≠ 1) ∧
      (∀ c ∈ cells, c.isClosing = true → c.headIs Unicode.isAlphanumeric = true → c.width ≠ 1) ∧
      (strict.cut 2 long).splitsWord = true ∧
      (∀ c ∈ (strict.cut 2 long).taken, c.isEscape = false → c.isWord = true) ∧
      free.kinsoku = .free ∧ greedy.splitsWord = true ∧
      (∃ c ∈ greedy.taken, c.isEscape = false ∧ c.isWord = false) ∧
      greedy.taken.length = 9 ∧ cut.taken.length = 4 ∧
      ∀ s : Split, s.all = cells → cut.taken.length < s.taken.length →
        s.taken.length ≤ greedy.taken.length → s.splitsWord = true := by
  intro strict free long cells greedy cut
  have hlong : ∀ c ∈ long, c.isClosing = true → c.headIs Unicode.isAlphanumeric = true →
      c.width ≠ 1 := by decide +kernel
  have hcells : ∀ c ∈ cells, c.isClosing = true → c.headIs Unicode.isAlphanumeric = true →
      c.width ≠ 1 := by decide +kernel
  have hsplit : (strict.cut 2 long).splitsWord = true := by decide +kernel
  have hgreedy : greedy.splitsWord = true := by decide +kernel
  have hother : ∃ c ∈ greedy.taken, c.isEscape = false ∧ c.isWord = false := by decide +kernel
  obtain ⟨hword, -⟩ := cut_splitsWord (b := strict) rfl (by decide : (0 : Int) < 2) hlong
  obtain ⟨-, hback⟩ := cut_splitsWord (b := free) rfl (by decide : (0 : Int) < 8) hcells
  obtain ⟨before, brk, escapes, word, run, -, -, -, -, -, -, -, hlatest⟩ := hback rfl hgreedy hother
  exact ⟨rfl, rfl, by decide, by decide, hlong, hcells, hsplit, hword hsplit, rfl, hgreedy, hother,
    by decide +kernel, by decide +kernel, hlatest⟩

end Breaking
end ColumnFold
