import ColumnFold.Proofs.Attributes
import ColumnFold.Proofs.Fragments
import ColumnFold.Proofs.Sequences

/-!
# Fragments are read as they were cut

A fragment is a new text: a piece of the line, with sequences written before and after it.  Whoever
reads it finds just the cells that were put into it.  The cells before the piece do not matter,
because a glyph begins anew after each boundary; those after it do not matter, because an escape
sequence that the piece leaves unfinished is not finished by a reset; and the sequences before the
piece are complete.  So the width of a fragment is the one that was measured when it was cut.

* `Cell.ofText_spell_append` — the cells of a piece of a text, read again.
* `Cell.flatMap_tokens_ofText` — the tokens of the cells of a text.
* `Rendition.ofText_flatten_append` — the sequences that restore attributes, read again.
* `FoldOptions.cells_fragments` — the cells of fragments.
-/

set_option autoImplicit false

namespace ColumnFold

open Escape

/-! ## Pieces of a text -/

namespace Cell

variable (a : Ambiguity)

/-- An escape sequence ends the glyph before it, and the cells after it begin anew. -/
theorem ofTokens_append_escape (p : Option Pending) (ts us : List Token) (body : Text) :
    ofTokens a p (ts ++ .escape body :: us) =
      ofTokens a p ts ++ .escape body :: ofTokens a none us := by
  fun_induction ofTokens a p ts with
  | case1 => rfl
  | case2 p => rfl
  | case3 b ts ih => exact congrArg (_ :: ·) ih
  | case4 p b ts ih => exact congrArg (_ :: _ :: ·) ih
  | case5 s ts ih => exact ih
  | case6 p s ts h ih => rw [List.cons_append, ofTokens, if_pos h, ih]
  | case7 p s ts h ih => rw [List.cons_append, ofTokens, if_neg h, ih]; rfl

/-- Where cells are cut, there the tokens are cut; a glyph that has begun belongs to the first
part. -/
theorem exists_tokens_of_append {p : Option Pending} {ts : List Token} {cs₁ cs₂ : List Cell}
    (hne : cs₁ ≠ []) (h : ofTokens a p ts = cs₁ ++ cs₂) :
    ∃ ts₁ ts₂, ts = ts₁ ++ ts₂ ∧ ofTokens a p ts₁ = cs₁ ∧ ofTokens a none ts₂ = cs₂ := by
  fun_induction ofTokens a p ts generalizing cs₁ with
  | case1 => exact absurd (List.append_eq_nil_iff.1 h.symm).1 hne
  | case2 p =>
    obtain ⟨c, cs₁, rfl⟩ := List.exists_cons_of_ne_nil hne
    obtain ⟨rfl, hrest⟩ := List.cons.inj h
    obtain ⟨rfl, rfl⟩ := List.append_eq_nil_iff.1 hrest.symm
    exact ⟨[], [], rfl, rfl, rfl⟩
  | case3 body ts ih =>
    obtain ⟨c, cs₁, rfl⟩ := List.exists_cons_of_ne_nil hne
    obtain ⟨rfl, hrest⟩ := List.cons.inj h
    by_cases hnil : cs₁ = []
    · subst hnil
      exact ⟨[.escape body], ts, rfl, rfl, hrest⟩
    · obtain ⟨ts₁, ts₂, rfl, rfl, h₂⟩ := ih hnil hrest
      exact ⟨.escape body :: ts₁, ts₂, rfl, rfl, h₂⟩
  | case4 p body ts ih =>
    obtain ⟨c, cs₁, rfl⟩ := List.exists_cons_of_ne_nil hne
    obtain ⟨rfl, hrest⟩ := List.cons.inj h
    rcases cs₁ with _ | ⟨d, cs₁⟩
    · exact ⟨[], .escape body :: ts, rfl, rfl, hrest⟩
    · obtain ⟨rfl, htail⟩ := List.cons.inj hrest
      by_cases hnil : cs₁ = []
      · subst hnil
        exact ⟨[.escape body], ts, rfl, rfl, htail⟩
      · obtain ⟨ts₁, ts₂, rfl, rfl, h₂⟩ := ih hnil htail
        exact ⟨.escape body :: ts₁, ts₂, rfl, rfl, h₂⟩
  | case5 s ts ih =>
    obtain ⟨ts₁, ts₂, rfl, rfl, h₂⟩ := ih hne h
    exact ⟨.plain s :: ts₁, ts₂, rfl, rfl, h₂⟩
  | case6 p s ts hj ih =>
    obtain ⟨ts₁, ts₂, rfl, rfl, h₂⟩ := ih hne h
    exact ⟨.plain s :: ts₁, ts₂, rfl, by rw [ofTokens, if_pos hj], h₂⟩
  | case7 p s ts hj ih =>
    obtain ⟨c, cs₁, rfl⟩ := List.exists_cons_of_ne_nil hne
    obtain ⟨rfl, hrest⟩ := List.cons.inj h
    by_cases hnil : cs₁ = []
    · subst hnil
      exact ⟨[], .plain s :: ts, rfl, rfl, hrest⟩
    · obtain ⟨ts₁, ts₂, rfl, rfl, h₂⟩ := ih hnil hrest
      exact ⟨.plain s :: ts₁, ts₂, rfl, by rw [ofTokens, if_neg hj], h₂⟩

theorem exists_tokens {ts : List Token} {cs₁ cs₂ : List Cell}
    (h : ofTokens a none ts = cs₁ ++ cs₂) :
    ∃ ts₁ ts₂, ts = ts₁ ++ ts₂ ∧ ofTokens a none ts₁ = cs₁ ∧ ofTokens a none ts₂ = cs₂ := by
  by_cases hnil : cs₁ = []
  · subst hnil
    exact ⟨[], ts, rfl, rfl, h⟩
  · exact exists_tokens_of_append a hnil h

/-- **The cells of a piece of a text** are those that the text has in its place, also if a new
sequence is written after a piece that does not reach the end. -/
theorem ofText_spell_append {t e : Text} {cs₀ cs₁ cs₂ : List Cell}
    (h : ofText a t = cs₀ ++ (cs₁ ++ cs₂)) (he : Break e) (hne : e ≠ [] → cs₂ ≠ []) :
    ofText a (spell cs₁ ++ e) = cs₁ ++ ofText a e := by
  obtain ⟨ts₀, ts, ht, -, hts⟩ := exists_tokens a h
  obtain ⟨ts₁, ts₂, rfl, rfl, rfl⟩ := exists_tokens a hts
  have hts₂ : e ≠ [] → ts₂ ≠ [] := fun hn => by
    rintro rfl
    exact hne hn rfl
  have hpiece := Token.ofText_append_break (Token.ofText_of_append ht) he hts₂
  have hspell : spell (ofTokens a none ts₁) = ts₁.flatMap Token.text := spell_ofTokens a none ts₁
  rw [ofText, hspell, hpiece, ofText]
  cases he with
  | none => simp [ofTokens]
  | sequence r => rw [Token.ofText_esc, ofTokens_append_escape]; rfl

/-! ## The tokens of cells -/

/-- The tokens of a cell. -/
def tokens : Cell → List Token
  | .glyph head tail _ => (head :: tail).map .plain
  | .escape body => [.escape body]

theorem flatMap_tokens_ofTokens (p : Option Pending) (ts : List Token) :
    (ofTokens a p ts).flatMap tokens =
      (p.elim [] fun p => (p.head :: p.rest.reverse).map .plain) ++ ts := by
  fun_induction ofTokens a p ts <;>
    simp_all [tokens, Pending.cell, Pending.start, Pending.push]

theorem flatMap_tokens_ofText (t : Text) : (ofText a t).flatMap tokens = Token.ofText t :=
  flatMap_tokens_ofTokens a none _

theorem mem_of_escape_mem_ofText {t body : Text} (h : Cell.escape body ∈ ofText a t) :
    Token.escape body ∈ Token.ofText t := by
  rw [← flatMap_tokens_ofText a t]
  exact List.mem_flatMap.2 ⟨_, h, List.mem_singleton_self _⟩

end Cell

/-! ## Sequences that set attributes -/

namespace Rendition

/-- The cells of the sequences of a rendition. -/
def cells (r : Rendition) : List Cell := r.map fun seq => .escape seq.tail

/-- Whether a text is an escape character and a complete control sequence. -/
def IsControl (seq : Text) : Prop := ∃ b, seq = .esc :: b ∧ control b = some b

theorem isControl_of_parameters? {t : Text} {parameters : List Text}
    (h : parameters? (.esc :: body t) = some parameters) : IsControl (.esc :: body t) := by
  obtain ⟨ps, -, hseq, -⟩ := exists_of_parameters?_eq_some h
  have hbody : body t = .char '[' :: (ps ++ [.char 'm']) := (List.cons.inj hseq).2
  obtain ⟨r, hr⟩ := body_isPrefix t
  rw [hbody, List.cons_append] at hr
  cases hc : control t with
  | some b =>
    have hb : body t = b := by rw [body, hc]; rfl
    refine ⟨body t, rfl, ?_⟩
    rw [hb, ← control_self hc [], List.append_nil]
  | none =>
    rw [← hr] at hc hbody
    rw [body_bracket, Option.map_eq_none_iff.1 hc] at hbody
    simp at hbody

theorem mem_apply {active : Rendition} {seq s : Text} (h : s ∈ active.apply seq) :
    s ∈ active ∨ s = seq ∧ ∃ ps, parameters? seq = some ps := by
  rw [apply.eq_def] at h
  split at h
  · exact .inl h
  · rename_i ps hps
    split at h
    · split at h
      · exact .inr ⟨List.mem_singleton.1 h, ps, hps⟩
      · cases h
    · rcases List.mem_append.1 h with h | h
      · exact .inl h
      · exact .inr ⟨List.mem_singleton.1 h, ps, hps⟩

theorem mem_foldl_apply {seqs : List Text} {active : Rendition} {s : Text}
    (h : s ∈ seqs.foldl apply active) :
    s ∈ active ∨ s ∈ seqs ∧ ∃ ps, parameters? s = some ps := by
  induction seqs generalizing active with
  | nil => exact .inl h
  | cons seq seqs ih =>
    rcases ih h with h | ⟨hs, hps⟩
    · rcases mem_apply h with h | ⟨rfl, hps⟩
      · exact .inl h
      · exact .inr ⟨List.mem_cons_self, hps⟩
    · exact .inr ⟨List.mem_cons_of_mem _ hs, hps⟩

/-- The sequences that restore the attributes at a position of a line are among its cells. -/
theorem exists_of_mem_attributesAt {line : List Cell} {position : Nat} {seq : Text}
    (h : seq ∈ attributesAt line position) :
    ∃ body, Cell.escape body ∈ line ∧ seq = .esc :: body ∧ ∃ ps, parameters? seq = some ps := by
  rcases mem_foldl_apply h with h | ⟨h, hps⟩
  · cases h
  · obtain ⟨c, hc, rfl⟩ := List.mem_map.1 h
    obtain ⟨hmem, he⟩ := List.mem_filter.1 hc
    cases c with
    | glyph head tail width => cases he
    | escape body => exact ⟨body, List.mem_of_mem_take hmem, rfl, hps⟩

/-- They are control sequences where the cells are those of a text. -/
theorem isControl_of_mem_attributesAt {a : Ambiguity} {t : Text} {position : Nat} {seq : Text}
    (h : seq ∈ attributesAt (Cell.ofText a t) position) : IsControl seq := by
  obtain ⟨body, hmem, rfl, ps, hps⟩ := exists_of_mem_attributesAt h
  obtain ⟨u, rfl⟩ := Token.exists_body_of_mem (Cell.mem_of_escape_mem_ofText a hmem)
  exact isControl_of_parameters? hps

theorem map_text_cells {r : Rendition} (h : ∀ seq ∈ r, IsControl seq) :
    r.cells.map Cell.text = r := by
  rw [cells, List.map_map, List.map_congr_left (g := id), List.map_id]
  intro seq hseq
  obtain ⟨b, rfl, -⟩ := h seq hseq
  rfl

theorem columns_cells (r : Rendition) : Cell.columns r.cells = 0 := by
  induction r with
  | nil => rfl
  | cons seq r ih => exact (Nat.zero_add _).trans ih

theorem ofText_flatten_append {r : Rendition} (h : ∀ seq ∈ r, IsControl seq) (a : Ambiguity)
    (w : Text) : Cell.ofText a (r.flatten ++ w) = r.cells ++ Cell.ofText a w := by
  induction r with
  | nil => rfl
  | cons seq r ih =>
    obtain ⟨b, rfl, hb⟩ := h seq List.mem_cons_self
    have hbody : body (b ++ (r.flatten ++ w)) = b := by rw [body, control_self hb]; rfl
    rw [List.flatten_cons, List.append_assoc, List.cons_append, Cell.ofText, Token.ofText_esc,
      hbody, List.drop_left]
    exact congrArg (_ :: ·) (ih fun s hs => h s (List.mem_cons_of_mem _ hs))

end Rendition

/-! ## Fragments -/

namespace Span

/-- What is written after the cells of a span is a new sequence, or nothing. -/
theorem break_closing (line : List Cell) (s : Span) : Break (s.closing line).flatten := by
  rw [closing]
  split
  · exact .sequence [.char 'm']
  · exact .none

/-- The reset after a span, read by itself. -/
theorem ofText_closing (a : Ambiguity) (line : List Cell) (s : Span) :
    Cell.ofText a (s.closing line).flatten = (s.closing line).cells := by
  rw [closing]
  split <;> rfl

theorem drop_stop_ne_nil {line : List Cell} {s : Span} (h : (s.closing line).flatten ≠ []) :
    line.drop s.stop ≠ [] := by
  rw [closing] at h
  split at h
  · rename_i hmore
    rw [Ne, List.drop_eq_nil_iff]
    omega
  · exact absurd rfl h

/-- **The cells of a fragment** without padding: the sequences before the piece of the line, the
piece, and the reset after it. -/
theorem cells_text {o : FoldOptions} (hp : o.padding = false) (line : Text) (s : Span) :
    o.cells (s.text o (o.cells line)) =
      (s.opening (o.cells line)).cells ++ s.cells (o.cells line) ++
        (s.closing (o.cells line)).cells := by
  have hline : Cell.ofText o.ambiguity line =
      (o.cells line).take s.start ++ (s.cells (o.cells line) ++ (o.cells line).drop s.stop) := by
    rw [← s.drop_start, List.take_append_drop]
    rfl
  have hpiece := Cell.ofText_spell_append o.ambiguity hline (s.break_closing _)
    drop_stop_ne_nil
  have hopening : ∀ seq ∈ s.opening (o.cells line), Rendition.IsControl seq :=
    fun seq h => Rendition.isControl_of_mem_attributesAt h
  rw [text, slack_of_not_padding hp]
  simp only [Int.toNat_zero, List.replicate_zero, List.flatten_nil, List.append_nil,
    List.append_assoc]
  rw [FoldOptions.cells, Rendition.ofText_flatten_append hopening, hpiece, ofText_closing]

end Span

namespace FoldOptions

theorem fold_every_of_not_pos (o : FoldOptions) {width : Int} (h : ¬0 < width) (line : Text) :
    o.fold (.every width) line =
      (o.spans (.every width) line).map (Span.text o (o.row line)) := by
  have hslices : o.slices (.every width) line = [⟨[], none, false⟩] := by
    rw [slices, Layout.slices, dif_neg h]
  rw [fold, spans, hslices]
  simp [render, pad, closing, Span.ofSlices, Span.text, Span.opening, Span.closing, Span.cells,
    Span.slack, attributesAt]

/-- Every layout folds a line into the fragments of its spans. -/
theorem fold_eq_map_text_spans (o : FoldOptions) (layout : Layout) (line : Text) :
    o.fold layout line = (o.spans layout line).map (Span.text o (o.row line)) := by
  cases layout with
  | fields widths takeRest => exact o.fold_eq_map_text (Layout.ends_fields widths takeRest) line
  | every width =>
    by_cases h : 0 < width
    · exact o.fold_eq_map_text (Layout.ends_every h) line
    · exact o.fold_every_of_not_pos h line

/-- **What was measured is measured again.**  Without padding and tabs, folding a line gives the
fragments of its spans.  The cells of such a fragment are those of the sequences that restore the
attributes, which spell these sequences, then the cells of the span, and then the cell of the reset
if there is one; so the fragment takes as many columns as the cells that were cut. -/
theorem cells_fragments (o : FoldOptions) (he : o.expandTabs = false) (hp : o.padding = false)
    (layout : Layout) (line : Text) :
    o.choices.fold layout line = .ok ((o.spans layout line).map (Span.text o (o.cells line))) ∧
      ∀ s ∈ o.spans layout line,
        o.cells (s.text o (o.cells line)) =
            (s.opening (o.cells line)).cells ++ s.cells (o.cells line) ++
              (s.closing (o.cells line)).cells ∧
          (s.opening (o.cells line)).cells.map Cell.text = s.opening (o.cells line) ∧
          o.columns (s.text o (o.cells line)) = Cell.columns (s.cells (o.cells line)) := by
  refine ⟨?_, fun s _ => ⟨Span.cells_text hp line s, ?_, ?_⟩⟩
  · rw [FoldChoices.fold, FoldChoices.fault?_eq_none hp he rfl, FoldChoices.options_choices,
      fold_eq_map_text_spans, row_eq_cells he]
  · exact Rendition.map_text_cells fun seq h => Rendition.isControl_of_mem_attributesAt h
  · rw [columns, Span.cells_text hp]
    simp only [Cell.columns_append, Rendition.columns_cells, Nat.zero_add, Nat.add_zero]

theorem cells_fragments_unfinished_sequence :
    let line := Text.ofString "\x1b[31mab\x1b[3é\x1bé"
    let row := default.cells line
    let layout := Layout.every 2
    let first : Span := ⟨0, 4, some 2, by decide⟩
    let second : Span := ⟨4, 7, some 2, by decide⟩
    default.expandTabs = false ∧ default.padding = false ∧
      first ∈ default.spans layout line ∧ second ∈ default.spans layout line ∧
      first.text default row = Text.ofString "\x1b[31mab\x1b[\x1b[m" ∧
      second.text default row = Text.ofString "\x1b[31m3é\x1b\x1b[m" ∧
      default.cells (first.text default row) =
        (first.opening row).cells ++ first.cells row ++ (first.closing row).cells ∧
      default.cells (second.text default row) =
        (second.opening row).cells ++ second.cells row ++ (second.closing row).cells ∧
      default.columns (second.text default row) = Cell.columns (second.cells row) := by
  intro line row layout first second
  have hspans : first ∈ default.spans layout line ∧ second ∈ default.spans layout line := by
    decide +kernel
  have hread := (cells_fragments default rfl rfl layout line).2
  exact ⟨rfl, rfl, hspans.1, hspans.2, by decide +kernel, by decide +kernel,
    (hread first hspans.1).1, (hread second hspans.2).1, (hread second hspans.2).2.2⟩

end FoldOptions
end ColumnFold
