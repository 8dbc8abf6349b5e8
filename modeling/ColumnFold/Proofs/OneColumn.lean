import ColumnFold.Proofs.Checked
import ColumnFold.Proofs.Reading
import ColumnFold.Proofs.Separate

/-!
# Characters of one column

The characters that fragments are padded with and that tabs are expanded to are checked when the
command line is read: they take one column where ambiguous characters are narrow, measured as a
whole.  When lines are folded they are measured glyph by glyph, and as wide as the user asks for.
So a single character that was accepted takes one column when lines are folded unless ambiguous
characters are wide and it is one of them.

A padded fragment is as wide as its own text and one filler for each column that it lacks.  For that
the fillers must not run together with the text or with each other, which is what
`Symbol.Separate` says.

* `Cell.columns_ofText_replicate` — the columns of a text that a symbol is repeated after.
* `Span.columns_text` — the columns of a padded fragment.
* `Config.columns_of_accepted` — what accepted characters and padded fragments take.
-/

set_option autoImplicit false

namespace ColumnFold

open Unicode

/-! ## Glyphs -/

namespace Escape.Token

theorem ofText_append_of_notMem {t : Text} (h : .esc ∉ t) (u : Text) :
    ofText (t ++ u) = t.map .plain ++ ofText u := by
  induction t with
  | nil => rfl
  | cons s t ih =>
    rw [List.mem_cons, not_or] at h
    rw [List.cons_append, ofText_cons_of_ne (Ne.symm h.1), ih h.2]
    rfl

theorem ofText_of_notMem {t : Text} (h : .esc ∉ t) : ofText t = t.map .plain := by
  have hall := ofText_append_of_notMem h []
  rwa [List.append_nil, ofText_nil, List.append_nil] at hall

end Escape.Token

/-- A control character leaves an escape sequence without columns. -/
theorem Measure.columns_esc (a : Ambiguity) (body : Text) : columns a (.esc :: body) = 0 := rfl

namespace Cell

variable {a : Ambiguity}

/-- Every cell is as wide as its symbols together, measured by themselves: those of an escape
sequence have no columns, because it begins with a control character. -/
theorem width_of_mem_ofTokens {p : Option Pending} {ts : List Escape.Token} {c : Cell}
    (h : c ∈ ofTokens a p ts) : c.width = Measure.columns a c.text := by
  fun_induction ofTokens a p ts with
  | case1 => cases h
  | case2 p => rw [List.mem_singleton.1 h]; rfl
  | case3 body ts ih =>
    obtain rfl | h := List.mem_cons.1 h
    · exact (Measure.columns_esc a body).symm
    · exact ih h
  | case4 p body ts ih =>
    obtain rfl | h := List.mem_cons.1 h
    · rfl
    · obtain rfl | h := List.mem_cons.1 h
      · exact (Measure.columns_esc a body).symm
      · exact ih h
  | case5 s ts ih => exact ih h
  | case6 p s ts hj ih => exact ih h
  | case7 p s ts hj ih =>
    obtain rfl | h := List.mem_cons.1 h
    · rfl
    · exact ih h

/-- **A symbol that belongs to no cluster is counted each time** it is repeated after a text. -/
theorem columns_ofText_replicate {s : Symbol} (hs : s.Separate) {w : Nat}
    (hw : Measure.symbolColumns? a s = some w) (hpos : 0 < w) {t : Text} (ht : .esc ∉ t) (n : Nat) :
    columns (ofText a (t ++ List.replicate n s)) = columns (ofText a t) + n * w := by
  have hesc : s ≠ .esc := by
    rintro rfl
    exact absurd hs (by decide)
  induction n with
  | zero => simp
  | succ n ih =>
    have hmem : .esc ∉ t ++ List.replicate n s := by
      rw [List.mem_append, not_or]
      exact ⟨ht, fun h => hesc (List.eq_of_mem_replicate h).symm⟩
    have htokens := Escape.Token.ofText_append_of_notMem hmem [s]
    rw [List.replicate_succ', ← List.append_assoc, ofText, htokens,
      Escape.Token.ofText_cons_of_ne hesc, Escape.Token.ofText_nil,
      columns_ofTokens_concat (p := none) hs hw hpos (by simp), Nat.succ_mul, ← Nat.add_assoc, ← ih,
      ofText, Escape.Token.ofText_of_notMem hmem]

theorem isEscape_of_notMem {t : Text} (ht : .esc ∉ t) {c : Cell} (hc : c ∈ ofText a t) :
    c.isEscape = false := by
  cases c with
  | glyph head tail width => rfl
  | escape body =>
    have htoken := mem_of_escape_mem_ofText a hc
    rw [Escape.Token.ofText_of_notMem ht] at htoken
    simp at htoken

end Cell

/-! ## Characters -/

namespace Measure

theorem columns_eq_one_iff (a : Ambiguity) (t : Text) :
    columns a t = 1 ↔ columns? a t = some 1 := by
  rw [columns]
  cases columns? a t with
  | none => simp
  | some n =>
    rw [Option.getD_some, Option.some.injEq]
    omega

end Measure

/-- Whether a character is ambiguous where ambiguous characters are wide. -/
def Ambiguity.Widens (a : Ambiguity) (ch : Char) : Prop :=
  a = .wide ∧ ambiguousRanges.contains ch.toNat = true

instance (a : Ambiguity) (ch : Char) : Decidable (a.Widens ch) :=
  inferInstanceAs (Decidable (_ ∧ _))

/-- A character that takes one column where ambiguous characters are narrow takes two where it is
widened, and one elsewhere. -/
theorem Unicode.charColumns?_of_narrow {ch : Char} (h : charColumns? .narrow ch = some 1)
    (a : Ambiguity) : charColumns? a ch = some (if a.Widens ch then 2 else 1) := by
  by_cases hlt : ch.toNat < 0x7F
  · have hascii : ambiguousRanges.contains ch.toNat = false := by
      rw [ambiguousRanges, Ranges.contains, if_pos (by omega)]
    simp only [charColumns?, hlt, if_true, Ambiguity.Widens, hascii] at h ⊢
    repeat' split at h
    all_goals simp_all
  · simp only [charColumns?, hlt, if_false, Ambiguity.Widens] at h ⊢
    repeat' split at h
    all_goals simp_all
    exact (apply_ite some _ _ _).symm

theorem Unicode.charColumns?_eq_one_iff {ch : Char} (h : charColumns? .narrow ch = some 1)
    (a : Ambiguity) : charColumns? a ch = some 1 ↔ ¬a.Widens ch := by
  rw [charColumns?_of_narrow h]
  split <;> simp_all

theorem Text.ofString_singleton (ch : Char) : ofString (String.singleton ch) = [.char ch] := by
  simp [ofString, ofChars]

theorem Measure.charColumns?_of_columns? {ch : Char}
    (h : columns? .narrow (Text.ofString (String.singleton ch)) = some 1) :
    charColumns? .narrow ch = some 1 := by
  rw [Text.ofString_singleton, columns?_singleton, Option.map_eq_some_iff] at h
  obtain ⟨w, hw, hone⟩ := h
  rwa [Int.ofNat_inj.1 hone] at hw

namespace FoldOptions

variable {o : FoldOptions}

/-- The columns of a single glyph are measured as a whole. -/
theorem columns_of_cells_eq_singleton {t : Text} {c : Cell} (h : o.cells t = [c]) :
    o.columns t = Measure.columns o.ambiguity t := by
  have hspell : Cell.spell (o.cells t) = t := Cell.spell_ofText _ t
  rw [h, Cell.spell_cons, Cell.spell_nil, List.append_nil] at hspell
  have hwidth : c.width = Measure.columns o.ambiguity c.text :=
    Cell.width_of_mem_ofTokens (h ▸ List.mem_singleton_self c : c ∈ o.cells t)
  rw [columns, h, Cell.columns_cons, Cell.columns_nil, Nat.add_zero, hwidth, hspell]

/-- A symbol by itself takes its own columns when lines are folded. -/
theorem columns_singleton_eq_one_iff {s : Symbol} (hs : s ≠ .esc) :
    o.columns [s] = 1 ↔ Measure.symbolColumns? o.ambiguity s = some 1 := by
  have hcells : o.cells [s] = [(Cell.Pending.start s).cell o.ambiguity] := by
    rw [cells, Cell.ofText, Escape.Token.ofText_cons_of_ne hs, Escape.Token.ofText_nil]
    rfl
  rw [columns_of_cells_eq_singleton hcells, Measure.columns_eq_one_iff,
    Measure.columns?_singleton]
  cases Measure.symbolColumns? o.ambiguity s with
  | none => simp
  | some w =>
    rw [Option.map_some, Option.some.injEq, Option.some.injEq]
    exact Int.ofNat_inj

theorem columns_eq_one_iff_not_widens {ch : Char} (h : charColumns? .narrow ch = some 1) :
    o.columns (Text.ofString (String.singleton ch)) = 1 ↔ ¬o.ambiguity.Widens ch := by
  have hesc : Symbol.char ch ≠ .esc := by
    rintro hesc
    obtain rfl := Symbol.char.inj hesc
    exact absurd h (by decide)
  rw [Text.ofString_singleton, columns_singleton_eq_one_iff hesc]
  exact Unicode.charColumns?_eq_one_iff h _

end FoldOptions

/-! ## Lines -/

variable {o : FoldOptions} {line : Text}

/-- **What a padded fragment takes** if its line has no escape characters: the columns of its own
cells, and those of the filler as often as it is written. -/
theorem Span.columns_text (hline : .esc ∉ o.prepare line) {s : Symbol}
    (hfiller : Text.ofString o.filler = [s]) (hs : s.Separate) {w : Nat}
    (hw : Measure.symbolColumns? o.ambiguity s = some w) (hpos : 0 < w) (sp : Span) :
    o.columns (sp.text o (o.row line)) =
      Cell.columns (sp.cells (o.row line)) + (sp.slack o (o.row line)).toNat * w := by
  have hrow : ∀ c ∈ o.row line, c.isEscape = true → Rendition.parameters? c.text = none :=
    fun c hc he => absurd he (by rw [Cell.isEscape_of_notMem hline hc]; exact Bool.false_ne_true)
  have hspell : Cell.spell (o.row line) = o.prepare line := Cell.spell_ofText _ _
  have hpiece : o.row line =
      (o.row line).take sp.start ++ (sp.cells (o.row line) ++ (o.row line).drop sp.stop) := by
    rw [← sp.drop_start, List.take_append_drop]
  have hesc : .esc ∉ Cell.spell (sp.cells (o.row line)) := by
    rw [← hspell, hpiece, Cell.spell_append, Cell.spell_append, List.mem_append,
      List.mem_append] at hline
    exact fun h => hline (.inr (.inl h))
  have htext : sp.text o (o.row line) = Cell.spell (sp.cells (o.row line)) ++
      List.replicate (sp.slack o (o.row line)).toNat s := by
    rw [text, opening, closing, attributesAt_eq_nil hrow, attributesAt_eq_nil hrow, hfiller]
    simp
  have hcells := Cell.ofText_spell_append o.ambiguity hpiece .none fun h => absurd rfl h
  rw [List.append_nil] at hcells
  rw [htext, FoldOptions.columns, FoldOptions.cells,
    Cell.columns_ofText_replicate hs hw hpos hesc, hcells]
  simp [Cell.ofText, Escape.Token.ofText_nil, Cell.ofTokens]

/-- A fragment that is padded with a single character takes just its width exactly if it needs no
padding, or the character takes one column. -/
theorem Span.columns_text_eq_iff (hline : .esc ∉ o.prepare line) (hp : o.padding = true) {ch : Char}
    (hfiller : o.filler = String.singleton ch) (hs : (Symbol.char ch).Separate)
    (hch : charColumns? .narrow ch = some 1) {sp : Span} {width : Int}
    (hwidth : sp.width = some width) (hfits : Cell.columns (sp.cells (o.row line)) ≤ width) :
    (o.columns (sp.text o (o.row line)) : Int) = width ↔
      (Cell.columns (sp.cells (o.row line)) : Int) = width ∨ ¬o.ambiguity.Widens ch := by
  have htext : Text.ofString o.filler = [.char ch] := by
    rw [hfiller, Text.ofString_singleton]
  have hslack : sp.slack o (o.row line) = width - Cell.columns (sp.cells (o.row line)) := by
    rw [slack, hwidth]
    show (if o.padding = true then _ else 0) = _
    rw [if_pos hp]
    omega
  have hcolumns := charColumns?_of_narrow hch o.ambiguity
  rw [columns_text hline htext hs hcolumns (by split <;> decide), hslack]
  by_cases hw : o.ambiguity.Widens ch
  · simp only [hw, if_true, not_true_eq_false, or_false]
    omega
  · simp only [hw, if_false, not_false_eq_true, or_true, iff_true]
    omega

/-- Whatever is left blank, the fragments of a line are those of its spans. -/
theorem FoldChoices.eq_map_text_spans {c : FoldChoices} {layout : Layout} {fragments : List Text}
    (h : c.fold layout line = .ok fragments) :
    fragments = (c.options.spans layout line).map (Span.text c.options (c.options.row line)) := by
  rw [fold] at h
  split at h
  · cases h
  · cases h
    exact c.options.fold_eq_map_text_spans layout line

/-! ## Configurations -/

/-- **What accepted characters take, and the fragments that they pad.**  A character that was
accepted takes one column as a whole where ambiguous characters are narrow; when lines are folded,
its glyphs are measured one by one, with the chosen width.  Those of a single glyph take one column
exactly if they do so as a whole with this width, a single character exactly if it is not widened.

So if the filler is a single character that belongs to no cluster, a fragment whose own cells fit
takes just the width that it was cut for exactly if it needs no padding, or the filler is not
widened. -/
theorem Config.columns_of_accepted {mode : Mode} {args : List String} {s : Settings} {c : Config}
    (hs : settings mode args = .ok s) (hc : ofSettings mode s = .ok c) :
    (∀ t, some t ∈ [c.choices.filler, c.choices.tabHead, c.choices.tabSpace] →
      Measure.columns? .narrow (Text.ofString t) = some 1 ∧
      (∀ glyph ∈ c.options.cells (Text.ofString t),
        glyph.width = Measure.columns c.options.ambiguity glyph.text) ∧
      (∀ glyph, c.options.cells (Text.ofString t) = [glyph] →
        (c.options.columns (Text.ofString t) = 1 ↔
          Measure.columns? c.options.ambiguity (Text.ofString t) = some 1)) ∧
      (∀ ch, t = String.singleton ch →
        (c.options.columns (Text.ofString t) = 1 ↔ ¬c.options.ambiguity.Widens ch))) ∧
    (∀ ch, c.choices.filler = some (String.singleton ch) → (Symbol.char ch).Separate →
      c.options.padding = true → ∀ layout line fragments, .esc ∉ line →
      (c.options.expandTabs = true → .esc ∉ Text.ofString c.options.tabs.head ∧
        .esc ∉ Text.ofString c.options.tabs.space) →
      c.choices.fold layout line = .ok fragments →
        fragments =
          (c.options.spans layout line).map (Span.text c.options (c.options.row line)) ∧
        ∀ sp ∈ c.options.spans layout line, ∀ width, sp.width = some width →
          (Cell.columns (sp.cells (c.options.row line)) : Int) ≤ width →
          ((c.options.columns (sp.text c.options (c.options.row line)) : Int) = width ↔
            (Cell.columns (sp.cells (c.options.row line)) : Int) = width ∨
              ¬c.options.ambiguity.Widens ch)) := by
  have hchecked := checked_choices hs hc
  have hone : ∀ t, some t ∈ [c.choices.filler, c.choices.tabHead, c.choices.tabSpace] →
      Measure.columns? .narrow (Text.ofString t) = some 1 := by
    intro t ht
    simp only [List.mem_cons, List.not_mem_nil, or_false] at ht
    obtain ht | ht | ht := ht
    · exact hchecked.filler t ht.symm
    · exact hchecked.tabHead t ht.symm
    · exact hchecked.tabSpace t ht.symm
  constructor
  · refine fun t ht =>
      ⟨hone t ht, fun glyph => Cell.width_of_mem_ofTokens, fun glyph hglyph => ?_, ?_⟩
    · rw [FoldOptions.columns_of_cells_eq_singleton hglyph, Measure.columns_eq_one_iff]
    · rintro ch rfl
      exact FoldOptions.columns_eq_one_iff_not_widens
        (Measure.charColumns?_of_columns? (hone _ ht))
  · intro ch hfiller hseparate hpadding layout line fragments hline htabs hfold
    have hch := Measure.charColumns?_of_columns? (hchecked.filler _ hfiller)
    have hprepare : .esc ∉ c.options.prepare line :=
      mt (FoldOptions.mem_prepare (by decide) htabs line).1 hline
    refine ⟨FoldChoices.eq_map_text_spans hfold, fun sp _ width hwidth hfits => ?_⟩
    exact Span.columns_text_eq_iff hprepare hpadding
      (by rw [options, FoldChoices.options, hfiller, Option.getD_some]) hseparate hch hwidth hfits

/-- A filler that is ambiguous, where ambiguous characters are narrow: the second fragment of the
line is padded to its width. -/
theorem Config.columns_of_accepted_narrow :
    let s : Settings :=
      { Settings.start false with
        widths := [some "5"]
        choices := { FoldOptions.default.choices with padding := true, filler := some "±" } }
    let c : Config := ⟨Plan.ofWidths 72 [5], "\n", 0, s.choices, []⟩
    let line := Text.ofString "abcdefgh"
    let row := c.options.row line
    let sp : Span := ⟨5, 8, some 5, by decide⟩
    settings .fold ["--padding", "--padchar", "±", "-w", "5"] = .ok s ∧
      ofSettings .fold s = .ok c ∧
      c.options.columns (Text.ofString "±") = 1 ∧
      c.choices.fold c.plan.layout line = .ok (["abcde", "fgh±±"].map Text.ofString) ∧
      sp ∈ c.options.spans c.plan.layout line ∧
      (c.options.columns (sp.text c.options row) : Int) = 5 := by
  intro s c line row sp
  have hs : settings .fold ["--padding", "--padchar", "±", "-w", "5"] = .ok s :=
    eq_ok_of_toOption (by decide +kernel)
  have hc : ofSettings .fold s = .ok c := eq_ok_of_toOption (by decide +kernel)
  have hfold : c.choices.fold c.plan.layout line = .ok (["abcde", "fgh±±"].map Text.ofString) :=
    eq_ok_of_toOption (by decide +kernel)
  have hsp : sp ∈ c.options.spans c.plan.layout line := by decide +kernel
  have hnarrow : ¬c.options.ambiguity.Widens '±' := fun h => nomatch h.1
  obtain ⟨hcharacters, hfragments⟩ := columns_of_accepted hs hc
  have hcolumns := (hfragments '±' rfl (by decide +kernel) rfl c.plan.layout line _ (by decide)
    nofun hfold).2 sp hsp 5 rfl (by decide +kernel)
  exact ⟨hs, hc, ((hcharacters "±" List.mem_cons_self).2.2.2 '±' rfl).2 hnarrow, hfold, hsp,
    hcolumns.2 (.inr hnarrow)⟩

/-- **An accepted character of two columns**, and a fragment that is padded with it beyond its
width. -/
theorem Config.columns_of_accepted_ne :
    let s : Settings :=
      { Settings.start false with
        widths := [some "5"]
        choices :=
          { FoldOptions.default.choices with
            ambiguity := some .wide
            padding := true
            filler := some "±" } }
    let c : Config := ⟨Plan.ofWidths 72 [5], "\n", 0, s.choices, []⟩
    let line := Text.ofString "abc"
    let row := c.options.row line
    let sp : Span := ⟨0, 3, some 5, by decide⟩
    settings .fold ["--padding", "--padchar", "±", "-w", "5", "--ambiguous", "wide"] = .ok s ∧
      ofSettings .fold s = .ok c ∧
      c.options.columns (Text.ofString c.options.filler) = 2 ∧
      c.choices.fold c.plan.layout line = .ok [Text.ofString "abc±±"] ∧
      c.options.spans c.plan.layout line = [sp] ∧
      Cell.columns (sp.cells row) = 3 ∧ c.options.columns (sp.text c.options row) = 7 := by
  intro s c line row sp
  exact ⟨eq_ok_of_toOption (by decide +kernel), eq_ok_of_toOption (by decide +kernel),
    by decide +kernel, eq_ok_of_toOption (by decide +kernel), by decide +kernel, by decide +kernel,
    by decide +kernel⟩

end ColumnFold
