import ColumnFold.Proofs.BrokenSequences
import ColumnFold.Proofs.TabStops

/-!
# Sequences of a line with its tabs filled

The tabs of a line are those between its escape sequences, and once they are filled the line is read
again.  Its sequences are those that it had before, up to the first one that goes on in the place of
tabs (`Escape.Resumes`), and this one is different.  So the sequences of the line stay as they are
exactly if none of them goes on, and then no other symbol gets into a sequence.

The proof goes through the tokens of the line.  A symbol between sequences is read by itself, and so
are the spaces for a tab.  What an escape character begins depends on the form that the symbol after
it allows (`Escape.start`), and only a lone escape character and one before a bracket can go on.

* `Escape.Token.TabsFilled` — tokens, and the same tokens with spaces in the place of tabs.
* `Escape.Token.TabsFilled.body_iff` — when a sequence stays as it is.
* `Escape.Token.TabsFilled.sequences_iff` — when all of them do.
* `FoldOptions.sequences_expand_iff` — the same for the cells of a line.
-/

set_option autoImplicit false

namespace ColumnFold
namespace Escape

/-! ## Spaces in the place of tabs -/

namespace Token

/-- Tokens, and the same tokens with one or more spaces in the place of each tab. -/
inductive TabsFilled : List Token → List Token → Prop
  /-- No tokens. -/
  | nil : TabsFilled [] []
  /-- A tab and spaces. -/
  | tab {ts us : List Token} (n : Nat) (h : TabsFilled ts us) :
      TabsFilled (.plain .tab :: ts) ((List.replicate (n + 1) Symbol.space).map .plain ++ us)
  /-- Any other token. -/
  | other {tok : Token} {ts us : List Token} (htok : tok ≠ .plain .tab) (h : TabsFilled ts us) :
      TabsFilled (tok :: ts) (tok :: us)

theorem flatMap_text_plain (t : Text) : (t.map plain).flatMap text = t := by
  rw [List.flatMap_map]
  exact List.flatMap_singleton' t

theorem flatMap_text_spaces (n : Nat) (us : List Token) :
    ((List.replicate (n + 1) Symbol.space).map plain ++ us).flatMap text =
      List.replicate (n + 1) .space ++ us.flatMap text := by
  rw [List.flatMap_append, flatMap_text_plain]

namespace TabsFilled

variable {ts us : List Token}

/-- Runs of intermediates that include the spaces end where those end that include the tabs. -/
theorem head?_dropWhile (h : TabsFilled ts us) :
    ((us.flatMap text).dropWhile isIntermediate).head? =
      ((ts.flatMap text).dropWhile isGap).head? := by
  induction h with
  | nil => rfl
  | tab n _ ih =>
    have hspaces : ∀ s ∈ List.replicate (n + 1) Symbol.space, isIntermediate s = true :=
      fun s hs => List.eq_of_mem_replicate hs ▸ rfl
    rw [flatMap_text_spaces, List.dropWhile_append_of_pos hspaces, ih]
    rfl
  | @other tok ts us htok _ ih =>
    rcases tok with b | s
    · rfl
    · have hs : isGap s = isIntermediate s := by
        have htab : (s == Symbol.tab) = false :=
          beq_eq_false_iff_ne.2 fun heq => htok (congrArg plain heq)
        rw [isGap, htab, Bool.or_false]
      rw [List.flatMap_cons, List.flatMap_cons, text, List.singleton_append,
        List.singleton_append, List.dropWhile_cons, List.dropWhile_cons, hs, apply_ite List.head?,
        apply_ite List.head?, ih]
      rfl

theorem head?_dropWhile_parameters (h : TabsFilled ts us) :
    (((us.flatMap text).dropWhile isParameter).dropWhile isIntermediate).head? =
      (((ts.flatMap text).dropWhile isParameter).dropWhile isGap).head? := by
  have hall := h.head?_dropWhile
  induction h with
  | nil => rfl
  -- neither a tab nor a space is a parameter
  | tab n _ _ => exact hall
  | @other tok ts us htok h ih =>
    rcases tok with b | s
    · rfl
    · rw [List.flatMap_cons, List.flatMap_cons, text, List.singleton_append,
        List.singleton_append] at hall ⊢
      by_cases hs : isParameter s = true
      · rw [List.dropWhile_cons_of_pos hs, List.dropWhile_cons_of_pos hs, ih h.head?_dropWhile]
      · rw [List.dropWhile_cons_of_neg hs, List.dropWhile_cons_of_neg hs, hall]

/-- Both begin with the same symbol, unless it is a tab or a space. -/
theorem head?_eq_some_iff (h : TabsFilled ts us) {s : Symbol} (htab : s ≠ .tab)
    (hspace : s ≠ .space) :
    (us.flatMap text).head? = some s ↔ (ts.flatMap text).head? = some s := by
  cases h with
  | nil => exact Iff.rfl
  | tab n h =>
    exact iff_of_false (fun heq => hspace (Option.some.inj heq).symm)
      fun heq => htab (Option.some.inj heq).symm
  | @other tok ts us htok h => cases tok <;> exact Iff.rfl

theorem flatMap_text_eq_nil_iff (h : TabsFilled ts us) :
    us.flatMap text = [] ↔ ts.flatMap text = [] := by
  cases h with
  | nil => exact Iff.rfl
  | tab n h => exact iff_of_false nofun nofun
  | @other tok ts us htok h => cases tok <;> exact iff_of_false nofun nofun

/-- A control string takes in tabs and spaces alike. -/
theorem stringRest_eq_none_iff (h : TabsFilled ts us) :
    stringRest (us.flatMap text) = none ↔ stringRest (ts.flatMap text) = none := by
  induction h with
  | nil => exact Iff.rfl
  | @tab ts us n _ ih =>
    have hspaces : ∀ s ∈ List.replicate (n + 1) Symbol.space, isStringBody s = true :=
      fun s hs => List.eq_of_mem_replicate hs ▸ rfl
    have htab : ∀ s ∈ [Symbol.tab], isStringBody s = true := by decide
    rw [flatMap_text_spaces, stringRest_append hspaces, List.flatMap_cons, text,
      stringRest_append htab, Option.map_eq_none_iff, Option.map_eq_none_iff, ih]
  | @other tok ts us htok h ih =>
    have hesc : ∀ b : Text, (stringRest (.esc :: (b ++ us.flatMap text)) = none ↔
        stringRest (.esc :: (b ++ ts.flatMap text)) = none) := fun b => by
      rw [stringRest_esc, stringRest_esc]
      rcases b with _ | ⟨s, b⟩
      · exact not_congr (h.head?_eq_some_iff (by decide) (by decide))
      · exact Iff.rfl
    rw [List.flatMap_cons, List.flatMap_cons]
    rcases tok with b | s
    · exact hesc b
    · rw [text]
      by_cases hs : isStringBody s = true
      · have hs' : ∀ x ∈ [s], isStringBody x = true := by simpa using hs
        rw [stringRest_append hs', stringRest_append hs', Option.map_eq_none_iff,
          Option.map_eq_none_iff, ih]
      · have hend : s = .bel ∨ s = .esc := by
          rw [isStringBody, Bool.and_eq_true, bne_iff_ne, bne_iff_ne] at hs
          tauto
        rcases hend with rfl | rfl
        · exact iff_of_false (Option.some_ne_none _) (Option.some_ne_none _)
        · exact hesc []

/-- A character set has its second symbol in either case. -/
theorem characterSet_eq_none_iff (h : TabsFilled ts us) :
    characterSet (us.flatMap text) = none ↔ characterSet (ts.flatMap text) = none := by
  cases h with
  | nil => exact Iff.rfl
  | tab n h =>
    exact iff_of_true (characterSet_cons_eq_none_iff.2 (by simp))
      (characterSet_cons_eq_none_iff.2 (by simp))
  | @other tok ts us htok h =>
    rcases tok with b | s
    · exact iff_of_true (characterSet_cons_eq_none_iff.2 (by simp))
        (characterSet_cons_eq_none_iff.2 (by simp))
    · rw [List.flatMap_cons, List.flatMap_cons, text, List.singleton_append,
        List.singleton_append, characterSet_cons_eq_none_iff, characterSet_cons_eq_none_iff,
        h.flatMap_text_eq_nil_iff]

/-- A lone escape character stays alone unless it goes on with a short sequence. -/
theorem body_nil_iff (h : TabsFilled ts us) (hb : body (ts.flatMap text) = []) :
    body (us.flatMap text) = [] ↔ ¬ Resumes [] (ts.flatMap text) := by
  have hset := h.characterSet_eq_none_iff.2 (body_eq_nil_iff.1 hb).1
  rw [body_eq_nil_iff, and_iff_right hset, resumes_nil_iff, isSome_runThen, ← h.head?_dropWhile,
    ← isSome_runThen, Bool.not_eq_true, Option.isSome_eq_false_iff, Option.isNone_iff_eq_none,
    short]

/-- A bracket stands alone unless it goes on with a control sequence. -/
theorem controlRest_iff (h : TabsFilled ts us) :
    controlRest (us.flatMap text) = none ↔ ¬ Resumes [.char '['] (ts.flatMap text) := by
  rw [controlRest_eq_none_iff, resumes_bracket_iff, isSome_runThen, isSome_runThen,
    h.head?_dropWhile_parameters, Bool.not_eq_true]

/-- **A sequence stays as it is when tabs become spaces** exactly if it does not go on. -/
theorem body_iff (h : TabsFilled ts us) {b : Text} (hb : body (b ++ ts.flatMap text) = b) :
    body (b ++ us.flatMap text) = b ↔ ¬ Resumes b (ts.flatMap text) := by
  rcases b with _ | ⟨s, b⟩
  · exact h.body_nil_iff hb
  rw [List.cons_append] at hb ⊢
  -- only a bracket alone could go on
  have hcomplete : s ≠ .char '[' ∨ b ≠ [] → ¬ Resumes (s :: b) (ts.flatMap text) :=
    fun hne hres => by
      rcases hres.eq_nil_or with heq | heq
      · cases heq
      · obtain ⟨rfl, rfl⟩ := List.cons.inj heq
        simp at hne
  cases start s with
  | control hs hform =>
    rw [hform, List.cons.injEq, and_iff_right rfl] at hb ⊢
    by_cases hnil : b = []
    · subst hnil hs
      rw [List.nil_append, getD_eq_nil_iff fun b => controlRest_ne_nil, h.controlRest_iff]
    · rw [controlRest_self (eq_some_of_getD hb hnil)]
      exact iff_of_true rfl (hcomplete (.inr hnil))
  | string hs hfinal hform =>
    refine iff_of_true ?_ (hcomplete (.inl hs))
    rw [hform, List.cons.injEq, and_iff_right rfl] at hb ⊢
    by_cases hnil : b = []
    · subst hnil
      have hne : ∀ {t : Text} (b : Text), stringRest t = some b → b ≠ [] :=
        fun _ => stringRest_ne_nil
      rw [List.nil_append, getD_eq_nil_iff hne] at hb ⊢
      exact h.stringRest_eq_none_iff.2 hb
    · rw [stringRest_self (eq_some_of_getD hb hnil)]
      rfl
  | set hs hform =>
    refine iff_of_true ?_ (hcomplete (.inl (by rintro rfl; simp at hs)))
    rcases b with _ | ⟨s', b⟩
    · rcases hts : ts.flatMap text with _ | ⟨s', t⟩
      · rw [hts] at hb
        rwa [h.flatMap_text_eq_nil_iff.2 hts]
      · rw [hts, List.nil_append, hform] at hb
        cases hb
    · rw [List.cons_append, hform] at hb ⊢
      exact hb
  | short hs hset hform =>
    refine iff_of_true ?_ (hcomplete (.inl hs))
    rw [hform] at hb ⊢
    have hfit := eq_some_of_getD hb (List.cons_ne_nil s b)
    rw [← List.cons_append, short_self hfit]
    rfl

end TabsFilled

/-! ## The sequences among the tokens -/

/-- What follows the escape characters in the sequences among tokens. -/
def sequences (ts : List Token) : List Text :=
  ts.filterMap fun
    | .escape body => some body
    | .plain _ => none

/-- Whether one of the sequences among tokens goes on once tabs are spaces. -/
def Resumed (ts : List Token) : Prop :=
  ∃ front body back, ts = front ++ escape body :: back ∧ Resumes body (back.flatMap text)

theorem not_resumed_nil : ¬ Resumed [] := fun ⟨_, _, _, h, _⟩ => by simp at h

theorem resumed_plain {s : Symbol} {ts : List Token} : Resumed (plain s :: ts) ↔ Resumed ts := by
  constructor
  · rintro ⟨_ | ⟨tok, front⟩, body, back, h, hres⟩
    · cases h
    · exact ⟨front, body, back, (List.cons.inj h).2, hres⟩
  · rintro ⟨front, body, back, rfl, hres⟩
    exact ⟨plain s :: front, body, back, rfl, hres⟩

theorem resumed_escape {b : Text} {ts : List Token} :
    Resumed (escape b :: ts) ↔ Resumes b (ts.flatMap text) ∨ Resumed ts := by
  constructor
  · rintro ⟨_ | ⟨tok, front⟩, body, back, h, hres⟩
    · cases h
      exact .inl hres
    · exact .inr ⟨front, body, back, (List.cons.inj h).2, hres⟩
  · rintro (hres | ⟨front, body, back, rfl, hres⟩)
    · exact ⟨[], b, ts, rfl, hres⟩
    · exact ⟨escape b :: front, body, back, rfl, hres⟩

theorem sequences_map_plain_append (t : Text) (ts : List Token) :
    sequences (t.map plain ++ ts) = sequences ts := by
  simp [sequences, List.filterMap_append, List.filterMap_map]

theorem ofText_plain {s : Symbol} {t : Text} {ts : List Token}
    (h : ofText (s :: t) = plain s :: ts) : s ≠ .esc ∧ ofText t = ts := by
  by_cases hs : s = .esc
  · subst hs
    rw [ofText_esc] at h
    cases h
  · rw [ofText_cons_of_ne hs] at h
    exact ⟨hs, (List.cons.inj h).2⟩

theorem ofText_escape {b t : Text} {ts : List Token}
    (h : ofText (.esc :: (b ++ t)) = escape b :: ts) : body (b ++ t) = b ∧ ofText t = ts := by
  rw [ofText_esc] at h
  obtain ⟨hbody, hrest⟩ := List.cons.inj h
  have hbody := Token.escape.inj hbody
  rw [hbody, List.drop_left] at hrest
  exact ⟨hbody, hrest⟩

theorem ofText_escape_of_body {b t : Text} (h : body (b ++ t) = b) :
    ofText (.esc :: (b ++ t)) = escape b :: ofText t := by
  rw [ofText_esc, h, List.drop_left]

/-- **The sequences stay as they are when tabs become spaces** exactly if none of them goes on, and
then the other symbols stay outside of them. -/
theorem TabsFilled.sequences_iff {ts us : List Token} (h : TabsFilled ts us)
    (hts : ofText (ts.flatMap text) = ts) :
    (sequences (ofText (us.flatMap text)) = sequences ts ↔ ¬ Resumed ts) ∧
      (¬ Resumed ts → ofText (us.flatMap text) = us) := by
  induction h with
  | nil => exact ⟨iff_of_true rfl not_resumed_nil, fun _ => rfl⟩
  | tab n h ih =>
    obtain ⟨-, hrest⟩ := ofText_plain hts
    have hesc : Symbol.esc ∉ List.replicate (n + 1) Symbol.space := fun hmem =>
      absurd (List.eq_of_mem_replicate hmem) (by decide)
    rw [flatMap_text_spaces, ofText_append_of_notMem hesc, sequences_map_plain_append,
      resumed_plain]
    exact ⟨(ih hrest).1, fun hnot => congrArg _ ((ih hrest).2 hnot)⟩
  | @other tok ts us htok h ih =>
    rw [List.flatMap_cons] at hts ⊢
    rcases tok with b | s
    · obtain ⟨hb, hrest⟩ := ofText_escape hts
      have hbody := h.body_iff hb
      rw [resumed_escape, not_or, ← hbody]
      -- the sequences after one that is different need not be compared
      by_cases hsame : body (b ++ us.flatMap text) = b
      · rw [and_iff_right hsame, text, List.cons_append, ofText_escape_of_body hsame]
        exact ⟨List.cons_inj_right b |>.trans (ih hrest).1,
          fun hnot => congrArg _ ((ih hrest).2 hnot)⟩
      · rw [text, List.cons_append, ofText_esc]
        exact ⟨iff_of_false (fun heq => hsame (List.cons.inj heq).1) fun hnot => hsame hnot.1,
          fun hnot => absurd hnot.1 hsame⟩
    · obtain ⟨hs, hrest⟩ := ofText_plain hts
      rw [text, List.singleton_append, ofText_cons_of_ne hs, resumed_plain]
      exact ⟨(ih hrest).1, fun hnot => congrArg _ ((ih hrest).2 hnot)⟩

end Token
end Escape

/-! ## Cells -/

namespace Cell

open Escape.Token (sequences)

theorem flatMap_text_tokens (c : Cell) : c.tokens.flatMap Escape.Token.text = c.text := by
  cases c with
  | glyph head tail width => exact Escape.Token.flatMap_text_plain (head :: tail)
  | escape body => exact List.append_nil _

/-- The sequences among cells are those among their tokens. -/
theorem filter_isEscape (cells : List Cell) :
    cells.filter isEscape = (sequences (cells.flatMap tokens)).map .escape := by
  induction cells with
  | nil => rfl
  | cons c cells ih =>
    cases c with
    | glyph head tail width =>
      rw [List.flatMap_cons, tokens, Escape.Token.sequences_map_plain_append, ← ih]
      rfl
    | escape body =>
      rw [List.filter_cons_of_pos rfl, ih]
      rfl

theorem filter_isEscape_ofText (a : Ambiguity) (t : Text) :
    (ofText a t).filter isEscape = (sequences (Escape.Token.ofText t)).map .escape := by
  rw [filter_isEscape, flatMap_tokens_ofText]

/-- Whether a cell is a tab or has none. -/
def TabAlone (c : Cell) : Prop := c.isTab = true ∨ .plain .tab ∉ c.tokens

/-- Whether a glyph to be continued is a tab or has none. -/
def Pending.TabAlone (p : Pending) : Prop := p = .start .tab ∨ .tab ∉ p.head :: p.rest

theorem Pending.tabAlone_start (s : Symbol) : (start s).TabAlone := by
  by_cases hs : s = .tab
  · exact .inl (congrArg start hs)
  · exact .inr (by simpa [start] using Ne.symm hs)

/-- No cluster takes in a tab, or is taken in by one. -/
theorem Pending.TabAlone.push {p : Pending} {s : Symbol} (hp : p.TabAlone)
    (hjoins : p.state.joins s = true) : (p.push s).TabAlone := by
  have hs : s ≠ .tab := by
    rintro rfl
    exact absurd hjoins (Bool.eq_false_iff.1 (Symbol.joins_control (by decide) _))
  rcases hp with rfl | hp
  · exact absurd hjoins (Bool.eq_false_iff.1 (Symbol.tab_splits s .blank))
  · exact .inr (by simpa [Pending.push, Ne.symm hs] using hp)

theorem Pending.TabAlone.cell {p : Pending} (hp : p.TabAlone) (a : Ambiguity) :
    (p.cell a).TabAlone := by
  rcases hp with rfl | hp
  · exact .inl rfl
  · exact .inr (by simpa [Pending.cell, tokens] using hp)

theorem tabAlone_escape (body : Text) : TabAlone (.escape body) := .inr (by simp [tokens])

theorem tabAlone_of_mem_ofTokens {a : Ambiguity} {p : Option Pending} {ts : List Escape.Token}
    (hp : ∀ q ∈ p, q.TabAlone) : ∀ c ∈ ofTokens a p ts, c.TabAlone := by
  have hnone : ∀ q ∈ (none : Option Pending), q.TabAlone := by simp
  fun_induction ofTokens a p ts with
  | case1 => simp
  | case2 q => simpa using (hp q rfl).cell a
  | case3 body ts ih => simpa [tabAlone_escape] using ih hnone
  | case4 q body ts ih => simpa [tabAlone_escape, (hp q rfl).cell a] using ih hnone
  | case5 s ts ih => exact ih (by simpa using Pending.tabAlone_start s)
  | case6 q s ts hjoins ih => exact ih (by simpa using (hp q rfl).push hjoins)
  | case7 q s ts hjoins ih =>
    simpa [(hp q rfl).cell a] using ih (by simpa using Pending.tabAlone_start s)

theorem tabAlone_of_mem_ofText (a : Ambiguity) (t : Text) : ∀ c ∈ ofText a t, c.TabAlone :=
  tabAlone_of_mem_ofTokens (by simp)

theorem tokens_of_isTab {c : Cell} (h : c.isTab = true) : c.tokens = [.plain .tab] := by
  rw [isTab.eq_def] at h
  split at h
  · rfl
  · cases h

end Cell

theorem Escape.Token.TabsFilled.append {front ts us : List Escape.Token}
    (hfront : .plain .tab ∉ front) (h : TabsFilled ts us) :
    TabsFilled (front ++ ts) (front ++ us) := by
  induction front with
  | nil => exact h
  | cons tok front ih =>
    rw [List.mem_cons, not_or] at hfront
    exact .other (Ne.symm hfront.1) (ih hfront.2)

namespace Tabs

open Escape.Token (TabsFilled)

variable {tabs : Tabs}

/-- Tabs are expanded to spaces. -/
structure Blank (tabs : Tabs) : Prop where
  /-- Tab stops lie at least one column apart. -/
  stop_pos : 0 < tabs.stop
  /-- The first column of a tab shows a space. -/
  head : tabs.head = " "
  /-- So does each other column. -/
  space : tabs.space = " "

theorem Blank.plain (htabs : tabs.Blank) : tabs.Plain :=
  ⟨htabs.stop_pos, ⟨' ', by decide, htabs.head⟩, ⟨' ', by decide, htabs.space⟩⟩

theorem Blank.fill_eq (htabs : tabs.Blank) (n : Int) :
    tabs.fill n = List.replicate ((n - 1).toNat + 1) .space := by
  rw [fill, htabs.head, htabs.space, Repetition.times_eq, List.replicate_succ]
  simp [Text.ofString, Text.ofChars]

/-- The text of cells with its tabs expanded spells their tokens with spaces for the tabs. -/
theorem Blank.exists_tabsFilled (htabs : tabs.Blank) {cells : List Cell}
    (hcells : ∀ c ∈ cells, c.TabAlone) (col : Int) :
    ∃ us, TabsFilled (cells.flatMap Cell.tokens) us ∧
      tabs.expandFrom col cells = us.flatMap Escape.Token.text := by
  induction cells generalizing col with
  | nil => exact ⟨[], .nil, rfl⟩
  | cons c cells ih =>
    rw [List.forall_mem_cons] at hcells
    rw [expandFrom, List.flatMap_cons]
    split
    · rename_i hc
      obtain ⟨us, hus, htext⟩ := ih hcells.2 (col + tabs.reach col)
      rw [Cell.tokens_of_isTab hc, htabs.fill_eq, htext, ← Escape.Token.flatMap_text_spaces]
      exact ⟨_, .tab _ hus, rfl⟩
    · rename_i hc
      obtain ⟨us, hus, htext⟩ := ih hcells.2 (col + c.width)
      refine ⟨c.tokens ++ us, hus.append (hcells.1.resolve_left hc), ?_⟩
      rw [List.flatMap_append, c.flatMap_text_tokens, htext]

end Tabs

/-! ## Lines -/

namespace FoldOptions

open Escape.Token (Resumed TabsFilled)

/-- **When the sequences of a line stay as they are.**  Expanding the tabs of a text to spaces
breaks off at the first tab that cannot be filled, and not at all unless the tab stops lie too far
apart.  The expanded text has the sequences of the text, in order, exactly if none of those goes on
in the place of tabs.  Then the symbols outside of them are the same as well, with spaces for the
tabs. -/
theorem sequences_expand_iff (o : FoldOptions) (htabs : o.tabs.Blank) (text : Text) :
    let expanded := o.tabs.expand o.ambiguity text
    let fault? := o.choices.tabFault? text
    let sequences (t : Text) := (o.cells t).filter Cell.isEscape
    let tokens := Escape.Token.ofText
    fault? = ((o.tabFills text).findSome? Fill.error?).map .repetition ∧
      (o.tabs.stop ≤ Repetition.memoryLimit → fault? = none) ∧
      (sequences expanded = sequences text ↔ ¬ Resumed (tokens text)) ∧
      (¬ Resumed (tokens text) → TabsFilled (tokens text) (tokens expanded)) := by
  intro expanded fault? sequences tokens
  refine ⟨o.tabFault?_eq htabs.stop_pos text, fun hstop => ?_, ?_⟩
  · exact (o.tabFault?_eq_none_iff htabs.stop_pos text).2 fun f hf =>
      o.error?_of_mem_tabFills htabs.plain hstop hf
  have halone := Cell.tabAlone_of_mem_ofText o.ambiguity text
  obtain ⟨us, hus, hexpanded⟩ := htabs.exists_tabsFilled halone 0
  rw [Cell.flatMap_tokens_ofText] at hus
  obtain ⟨hsequences, hrest⟩ := hus.sequences_iff
    (congrArg Escape.Token.ofText (Escape.Token.flatten_ofText text))
  have hcells : ∀ t, sequences t = (Escape.Token.sequences (tokens t)).map .escape :=
    Cell.filter_isEscape_ofText o.ambiguity
  have hexpanded : tokens expanded = tokens (us.flatMap Escape.Token.text) :=
    congrArg tokens hexpanded
  have hinjective : Function.Injective (List.map Cell.escape) :=
    List.map_injective_iff.2 fun _ _ => Cell.escape.inj
  rw [hcells, hcells, hinjective.eq_iff, hexpanded]
  refine ⟨hsequences, fun hnot => ?_⟩
  rw [show tokens (us.flatMap Escape.Token.text) = us from hrest hnot]
  exact hus

/-- Sequences that are complete, one of them with a tab inside. -/
theorem sequences_expand_iff_complete :
    let o : FoldOptions := { FoldOptions.default with tabs := ⟨4, " ", " "⟩ }
    let text := Text.ofString "a\x1b[3m\tb\x1b]0;a\tb\x07\x1b(\t\tm"
    let sequences (t : Text) := (o.cells t).filter Cell.isEscape
    o.tabs.Blank ∧ o.choices.tabFault? text = none ∧
      o.tabs.expand o.ambiguity text =
        Text.ofString "a\x1b[3m   b\x1b]0;a\tb\x07\x1b(\t   m" ∧
      sequences (o.tabs.expand o.ambiguity text) = sequences text ∧
      ¬ Resumed (Escape.Token.ofText text) := by
  intro o text sequences
  have htabs : o.tabs.Blank := ⟨by decide, rfl, rfl⟩
  obtain ⟨-, hfault, hsequences, -⟩ := o.sequences_expand_iff htabs text
  have hsame : sequences (o.tabs.expand o.ambiguity text) = sequences text := by decide +kernel
  exact ⟨htabs, hfault (by decide), by decide +kernel, hsame, hsequences.1 hsame⟩

/-- **A sequence that goes on**: an escape character and a bracket before a tab, and a letter behind
it.  They are a short sequence, which becomes a control sequence with the spaces and the letter. -/
theorem sequences_expand_ne :
    let o := FoldOptions.default
    let text := Text.ofString "\x1b[\tm"
    let sequences (t : Text) := (o.cells t).filter Cell.isEscape
    o.tabs.Blank ∧ o.choices.tabFault? text = none ∧
      o.cells text = [.escape [.char '['], .glyph .tab [] 0, .glyph (.char 'm') [] 1] ∧
      o.cells (o.tabs.expand o.ambiguity text) = [.escape (Text.ofString "[        m")] ∧
      sequences (o.tabs.expand o.ambiguity text) ≠ sequences text ∧
      Resumed (Escape.Token.ofText text) := by
  intro o text sequences
  have hresumes : Escape.Resumes [.char '['] (Text.ofString "\tm") :=
    @Escape.Resumes.control [] [.tab] [] (.char 'm') (by decide) (by decide) (by decide)
  refine ⟨⟨by decide, rfl, rfl⟩, by decide +kernel, by decide +kernel, by decide +kernel,
    by decide +kernel, [], [.char '['], [.plain .tab, .plain (.char 'm')], by decide +kernel, ?_⟩
  exact hresumes

end FoldOptions
end ColumnFold
