import ColumnFold.Command.Stream
import ColumnFold.Proofs.Plans
import ColumnFold.Proofs.Reading

/-!
# Lines stay lines

What is written for a line has a line feed only where the terminator of the line is written.  All
that goes into a fragment comes from the body of the line, from the sequences of the line that are
set again, from the reset, or from what fills columns; and a body has no line feed, because a text
is cut after each of them.  So if nothing that is written between or into fragments has one either,
the lines of the output can be counted from the text alone, whatever the widths are.

Facts about the lines of a text go by the line feeds of the text (`Line.cutInduction`): it is empty,
or a last line without an end, or a line, its end, and then a text.

* `Line.mem_cut` — the lines of a text.
* `Config.Inline` — nothing that is written between or into fragments has a line feed.
* `Config.notMem_foldLine` — then the joined fragments have none.
* `Config.count_process` — how many line feeds are written for a text.
* `Config.written_keeps_lines` — what is written for a text, line by line.
-/

set_option autoImplicit false

namespace ColumnFold

/-! ## The lines of a text -/

namespace Line

variable {t line front : Text}

theorem cut_of_notMem (hne : t ≠ []) (h : .lf ∉ t) : cut t = [t] := by
  induction t with
  | nil => exact absurd rfl hne
  | cons s t ih =>
    rw [List.mem_cons, not_or] at h
    rw [cut, if_neg (Ne.symm h.1)]
    by_cases ht : t = []
    · subst ht
      rfl
    · rw [ih ht h.2]

theorem cut_append_lf (h : .lf ∉ front) (rest : Text) :
    cut (front ++ .lf :: rest) = (front ++ [.lf]) :: cut rest := by
  induction front with
  | nil => exact if_pos rfl
  | cons s front ih =>
    rw [List.mem_cons, not_or] at h
    rw [List.cons_append, cut, if_neg (Ne.symm h.1), ih h.2]
    rfl

/-- A text is empty, or a last line without an end, or a line, its end, and then a text. -/
theorem cutInduction {P : Text → Prop} (nil : P []) (last : ∀ t, t ≠ [] → .lf ∉ t → P t)
    (line : ∀ front rest, .lf ∉ front → P rest → P (front ++ .lf :: rest)) (t : Text) : P t := by
  by_cases hlf : .lf ∈ t
  · obtain ⟨front, rest, ht, hfront⟩ := List.eq_append_cons_of_mem hlf
    have hlt : rest.length < t.length := by
      rw [ht, List.length_append, List.length_cons]
      omega
    exact ht ▸ line front rest hfront (cutInduction nil last line rest)
  · by_cases hne : t = []
    · exact hne ▸ nil
    · exact last t hne hlf
  termination_by t.length

/-- Whether the last line of a text has no end. -/
def endsOpen (t : Text) : Bool := t.getLast?.any (· ≠ .lf)

theorem endsOpen_of_notMem (hne : t ≠ []) (h : .lf ∉ t) : endsOpen t = true := by
  rw [endsOpen, List.getLast?_eq_some_getLast hne, Option.any_some, decide_eq_true_eq]
  exact fun heq => h (heq ▸ List.getLast_mem hne)

theorem endsOpen_append_lf (front rest : Text) :
    endsOpen (front ++ .lf :: rest) = endsOpen rest := by
  rw [endsOpen, endsOpen, List.getLast?_append, List.getLast?_cons]
  cases rest.getLast? with
  | none => rfl
  | some s => rfl

/-- **The lines of a text**: each has its line feed at the end and nowhere else, except that the
last one may have none. -/
theorem mem_cut (h : line ∈ cut t) :
    (∃ front, .lf ∉ front ∧ line = front ++ [.lf]) ∨
      .lf ∉ line ∧ endsOpen t = true ∧ (cut t).getLast? = some line := by
  induction t using cutInduction with
  | nil => cases h
  | last t hne hlf =>
    rw [cut_of_notMem hne hlf] at h ⊢
    obtain rfl := List.mem_singleton.1 h
    exact .inr ⟨hlf, endsOpen_of_notMem hne hlf, rfl⟩
  | line front rest hfront ih =>
    rw [cut_append_lf hfront] at h ⊢
    rcases List.mem_cons.1 h with rfl | h
    · exact .inl ⟨front, hfront, rfl⟩
    · rcases ih h with hline | ⟨hlf, hopen, hlast⟩
      · exact .inl hline
      · refine .inr ⟨hlf, (endsOpen_append_lf front rest).trans hopen, ?_⟩
        rw [List.getLast?_cons, hlast, Option.getD_some]

theorem terminator_of_notMem (h : .lf ∉ line) : terminator line = [] := by
  have hmem : ∀ {r}, line.reverse = .lf :: r → .lf ∈ line := fun hr =>
    List.mem_reverse.1 (hr ▸ List.mem_cons_self)
  rw [terminator.eq_def]
  split
  · rename_i hr
    exact absurd (hmem hr) h
  · rename_i hr
    exact absurd (hmem hr) h
  · rfl

/-- The terminator of a line with an end takes in one carriage return. -/
theorem terminator_append_lf (front : Text) :
    terminator (front ++ [.lf]) = if front.getLast? = some .cr then [.cr, .lf] else [.lf] := by
  rw [terminator, List.reverse_concat, ← List.head?_reverse]
  split
  · rename_i r heq
    rw [(List.cons.inj heq).2, List.head?_cons, if_pos rfl]
  · rename_i r hne heq
    refine (if_neg fun hcr => ?_).symm
    obtain ⟨rest, hrest⟩ := List.head?_eq_some_iff.1 hcr
    exact hne rest ((List.cons.inj heq).2.symm.trans hrest)
  · rename_i hne
    exact absurd rfl (hne _)

theorem terminator_cases (line : Text) :
    terminator line = [.cr, .lf] ∨ terminator line = [.lf] ∨ terminator line = [] := by
  rw [terminator.eq_def]
  split
  · exact .inl rfl
  · exact .inr (.inl rfl)
  · exact .inr (.inr rfl)

theorem parts_append_lf (front : Text) :
    (∃ rest, front = rest ++ [.cr] ∧ body (front ++ [.lf]) = rest ∧
        terminator (front ++ [.lf]) = [.cr, .lf]) ∨
      front.getLast? ≠ some .cr ∧ body (front ++ [.lf]) = front ∧
        terminator (front ++ [.lf]) = [.lf] := by
  have hline := body_append_terminator (front ++ [.lf])
  have hterm := terminator_append_lf front
  by_cases hcr : front.getLast? = some .cr
  · obtain ⟨rest, rfl⟩ := List.getLast?_eq_some_iff.1 hcr
    rw [if_pos hcr] at hterm
    refine .inl ⟨rest, rfl, ?_, hterm⟩
    rw [hterm] at hline
    exact List.append_cancel_right (hline.trans (List.append_assoc rest [.cr] [.lf]))
  · rw [if_neg hcr] at hterm
    refine .inr ⟨hcr, ?_, hterm⟩
    rw [hterm] at hline
    exact List.append_cancel_right hline

/-- **The two parts of a line of a text.**  The body has no line feed.  The terminator is a line
feed, with a carriage return if there is one before it, or nothing after the last line. -/
theorem parts_of_mem_cut (h : line ∈ cut t) :
    .lf ∉ body line ∧
      (terminator line = [.cr, .lf] ∨
        terminator line = [.lf] ∧ (body line).getLast? ≠ some .cr ∨
        terminator line = [] ∧ endsOpen t = true ∧ (cut t).getLast? = some line) := by
  rcases mem_cut h with ⟨front, hfront, rfl⟩ | ⟨hlf, hopen, hlast⟩
  · rcases parts_append_lf front with ⟨rest, rfl, hbody, hterm⟩ | ⟨hcr, hbody, hterm⟩
    · rw [hbody]
      exact ⟨fun hmem => hfront (List.mem_append_left _ hmem), .inl hterm⟩
    · rw [hbody]
      exact ⟨hfront, .inr (.inl ⟨hterm, hcr⟩)⟩
  · have hterm := terminator_of_notMem hlf
    have hbody := body_append_terminator line
    rw [hterm, List.append_nil] at hbody
    rw [hbody]
    exact ⟨hlf, .inr (.inr ⟨hterm, hopen, hlast⟩)⟩

end Line

/-! ## What goes into a line of the output -/

/-- A fragment has the symbols of the line as it is cut, of the reset, and of the filler. -/
theorem Span.mem_of_mem_text {o : FoldOptions} {line : Text} {sp : Span} {s : Symbol}
    (h : s ∈ sp.text o (o.row line)) :
    s ∈ o.prepare line ∨ s ∈ Rendition.reset ∨ s ∈ Text.ofString o.filler := by
  have hcell : ∀ c ∈ o.row line, s ∈ c.text → s ∈ o.prepare line := fun c hc hs => by
    have hspell : Cell.spell (o.row line) = o.prepare line := Cell.spell_ofText _ _
    exact hspell ▸ List.mem_flatMap.2 ⟨c, hc, hs⟩
  simp only [text, List.mem_append] at h
  rcases h with ((h | h) | h) | h
  · obtain ⟨seq, hseq, hs⟩ := List.mem_flatten.1 h
    obtain ⟨body, hmem, rfl, -⟩ := Rendition.exists_of_mem_attributesAt hseq
    exact .inl (hcell _ hmem hs)
  · obtain ⟨c, hc, hs⟩ := List.mem_flatMap.1 h
    exact .inl (hcell c (mem_drop_of_mem_cells hc (Nat.zero_le _)) hs)
  · obtain ⟨seq, hseq, hs⟩ := List.mem_flatten.1 h
    rw [closing] at hseq
    split at hseq
    · exact .inr (.inl (List.mem_singleton.1 hseq ▸ hs))
    · cases hseq
  · obtain ⟨text, htext, hs⟩ := List.mem_flatten.1 h
    exact .inr (.inr (List.eq_of_mem_replicate htext ▸ hs))

theorem Plan.mem_of_mem_select {α : Type} {plan : Plan} {fragments : List α} {a : α}
    (h : a ∈ plan.select fragments) : a ∈ fragments := by
  rw [select.eq_def] at h
  split at h
  · exact h
  · obtain ⟨⟨b, keep⟩, hmem, rfl⟩ := List.mem_map.1 h
    exact (List.of_mem_zip (List.mem_filter.1 hmem).1).1

theorem Text.mem_of_mem_intercalate {separator : Text} {texts : List Text} {s : Symbol}
    (h : s ∈ List.intercalate separator texts) : s ∈ separator ∨ ∃ t ∈ texts, s ∈ t := by
  induction texts with
  | nil => cases h
  | cons t texts ih =>
    rcases texts with _ | ⟨u, texts⟩
    · rw [List.intercalate_singleton] at h
      exact .inr ⟨t, List.mem_cons_self, h⟩
    · rw [List.intercalate_cons_cons, List.mem_append, List.mem_append] at h
      rcases h with (h | h) | h
      · exact .inr ⟨t, List.mem_cons_self, h⟩
      · exact .inl h
      · rcases ih h with h | ⟨v, hv, hs⟩
        · exact .inl h
        · exact .inr ⟨v, List.mem_cons_of_mem t hv, hs⟩

namespace Config

/-- Nothing that is written between or into fragments has a line feed. -/
structure Inline (c : Config) : Prop where
  /-- What stands between fragments has none. -/
  separator : .lf ∉ Text.ofString c.separator
  /-- What fragments are padded with has none. -/
  filler : .lf ∉ Text.ofString c.options.filler
  /-- What the first column of a tab shows has none. -/
  tabHead : .lf ∉ Text.ofString c.options.tabs.head
  /-- What each other column of a tab shows has none. -/
  tabSpace : .lf ∉ Text.ofString c.options.tabs.space

variable {c : Config} (h : c.Inline)
include h

/-- **The joined fragments of a body without line feeds have none.** -/
theorem notMem_foldLine {body : Text} (hbody : .lf ∉ body) : .lf ∉ c.foldLine body := by
  intro hmem
  rcases Text.mem_of_mem_intercalate hmem with hsep | ⟨fragment, hfragment, hlf⟩
  · exact h.separator hsep
  · have hfold := Plan.mem_of_mem_select hfragment
    rw [c.options.fold_eq_map_text_spans] at hfold
    obtain ⟨sp, -, rfl⟩ := List.mem_map.1 hfold
    rcases Span.mem_of_mem_text hlf with hline | hreset | hfiller
    · have htabs := fun _ : c.options.expandTabs = true => And.intro h.tabHead h.tabSpace
      exact hbody ((FoldOptions.mem_prepare (by decide) htabs body).1 hline)
    · exact absurd hreset (by decide)
    · exact h.filler hfiller

/-- How many line feeds are written for a line: that of its terminator, if it has one, and those of
the empty lines. -/
theorem count_processLine {line : Text} (hbody : .lf ∉ Line.body line) :
    (c.processLine line).count .lf = (Line.terminator line).count .lf + c.paragraph := by
  have hfold := List.count_eq_zero.2 (notMem_foldLine h hbody)
  have hone : (if (Line.terminator line).isEmpty then [Symbol.lf]
      else Line.terminator line).count .lf = 1 := by
    rcases Line.terminator_cases line with hterm | hterm | hterm <;> rw [hterm] <;> rfl
  rw [processLine, emptyLines, List.count_append, List.count_append, hfold, List.count_flatten,
    List.map_replicate, hone, List.sum_replicate_nat, Nat.zero_add, Nat.mul_one]

/-- **How many line feeds are written for a text**: one and those of the empty lines for each line
feed that it has, and those of the empty lines for a last line without an end. -/
theorem count_process (t : Text) :
    (c.process t).count .lf =
      (1 + c.paragraph) * t.count .lf + if Line.endsOpen t then c.paragraph else 0 := by
  -- stated before the induction: a body has no line feed because its line was cut from a text
  have hline : ∀ line ∈ Line.cut t,
      (c.processLine line).count .lf = (Line.terminator line).count .lf + c.paragraph :=
    fun line hmem => count_processLine h (Line.parts_of_mem_cut hmem).1
  rw [process]
  induction t using Line.cutInduction with
  | nil => rfl
  | last t hne hlf =>
    rw [Line.cut_of_notMem hne hlf] at hline ⊢
    rw [List.flatMap_singleton, hline t List.mem_cons_self, Line.terminator_of_notMem hlf,
      List.count_nil, List.count_eq_zero.2 hlf, Line.endsOpen_of_notMem hne hlf, if_pos rfl,
      Nat.mul_zero]
  | line front rest hfront ih =>
    rw [Line.cut_append_lf hfront] at hline ⊢
    have hterm : (Line.terminator (front ++ [.lf])).count .lf = 1 := by
      rw [Line.terminator_append_lf]
      split <;> rfl
    rw [List.flatMap_cons, List.count_append, hline _ List.mem_cons_self, hterm,
      ih fun line hmem => hline line (List.mem_cons_of_mem _ hmem), Line.endsOpen_append_lf,
      List.count_append, List.count_cons_self, List.count_eq_zero.2 hfront, Nat.zero_add,
      Nat.mul_add, Nat.mul_one]
    omega

/-- **Lines stay lines.**  If no line has a fault, a text is written line by line: the joined
fragments of the body, which have no line feed, the terminator of the line, and the terminator again
for every empty line, or a line feed if there is none.  So the output has one line feed and those of
the empty lines for each line of the text that has an end, and those of the empty lines for a last
line that has none.  Otherwise the first fault is all that comes of the text.  Where no choice is
left blank and the tab stops lie apart, a fault is a fill that cannot be written. -/
theorem written_keeps_lines (t : Text) :
    (∀ fault, (Line.cut t).findSome? c.fault? = some fault → c.written t = .error fault) ∧
    ((∀ line ∈ Line.cut t, c.fault? line = none) →
      ∃ out, c.written t = .ok out ∧
        out = (Line.cut t).flatMap (fun line =>
          c.foldLine (Line.body line) ++ Line.terminator line ++
            (List.replicate c.paragraph
              (if Line.terminator line = [] then [.lf] else Line.terminator line)).flatten) ∧
        out.count .lf =
          (1 + c.paragraph) * t.count .lf + if Line.endsOpen t then c.paragraph else 0) ∧
    (∀ line ∈ Line.cut t,
      Line.body line ++ Line.terminator line = line ∧ .lf ∉ Line.body line ∧
        .lf ∉ c.foldLine (Line.body line) ∧
        (Line.terminator line = [.cr, .lf] ∨
          Line.terminator line = [.lf] ∧ (Line.body line).getLast? ≠ some .cr ∨
          Line.terminator line = [] ∧ Line.endsOpen t = true ∧
            (Line.cut t).getLast? = some line)) ∧
    ∀ o : FoldOptions, c.choices = o.choices → 0 < o.tabs.stop → ∀ line,
      c.fault? line =
        ((o.fills c.plan.layout (Line.body line)).findSome? Fill.error?).map .repetition := by
  refine ⟨fun fault hfault => ?_, fun hnone => ?_, fun line hmem => ?_, fun o ho hstop line => ?_⟩
  · rw [written, writtenLines, hfault]
    rfl
  · refine ⟨c.process t, written_eq_ok_process hnone, ?_, count_process h t⟩
    show (Line.cut t).flatMap (fun line => c.processLine line) = _
    simp only [processLine, emptyLines, List.isEmpty_iff]
  · obtain ⟨hbody, hterm⟩ := Line.parts_of_mem_cut hmem
    exact ⟨Line.body_append_terminator line, hbody, notMem_foldLine h hbody, hterm⟩
  · rw [fault?, ho, o.choices_fault?_eq hstop]

omit h in
/-- Tabs, a colour that is set again, words that move cuts, and padding; lines that end with several
carriage returns, with a line feed alone, and with nothing. -/
theorem written_keeps_lines_mixed_ends :
    let o : FoldOptions :=
      { FoldOptions.default with
        breaking := ⟨.word, .free, 2, 2⟩
        padding := true
        filler := "_"
        expandTabs := true
        tabs := ⟨4, ">", "."⟩ }
    let c : Config := ⟨Plan.ofWidths 72 [3], "|", 2, o.choices, []⟩
    let t := Text.ofString "\x1b[31ma\tb\r\r\n\nc"
    let out := Text.ofString
      "\x1b[31ma>.\x1b[m|\x1b[31m.b\r_\r\n\r\n\r\n\n\n\nc__\n\n"
    c.Inline ∧ (∀ line ∈ Line.cut t, c.fault? line = none) ∧ c.choices = o.choices ∧
      0 < o.tabs.stop ∧ c.written t = .ok out ∧ out.count .lf = (1 + 2) * 2 + 2 := by
  intro o c t out
  have h : c.Inline := ⟨by decide, by decide, by decide, by decide⟩
  have hstop : 0 < o.tabs.stop := by decide
  obtain ⟨-, hwritten, -, hfault⟩ := written_keeps_lines h t
  have hnone : ∀ line ∈ Line.cut t, c.fault? line = none := fun line hmem => by
    have hfills : ∀ line ∈ Line.cut t,
        (o.fills c.plan.layout (Line.body line)).findSome? Fill.error? = none := by decide +kernel
    rw [hfault o rfl hstop, hfills line hmem]
    rfl
  obtain ⟨written, hok, hlines, hcount⟩ := hwritten hnone
  have hout : written = out := hlines.trans (by decide +kernel)
  have ht : t.count .lf = 2 := by decide
  have hopen : Line.endsOpen t = true := by decide
  rw [hout, ht, hopen] at hcount
  exact ⟨h, hnone, rfl, hstop, hout ▸ hok, hcount⟩

omit h in
/-- **A text for which nothing is written**: nobody can count the columns to which a field is to be
padded, though it is not kept. -/
theorem written_keeps_lines_not_ok :
    let c : Config :=
      { plan := Plan.ofWidths 72 [-99999999999999999999, 1]
        separator := ""
        paragraph := 0
        choices := { FoldOptions.default with padding := true }.choices
        files := [] }
    c.Inline ∧ ¬ ∃ out, c.written (.ofString "abc\n") = .ok out := by
  intro c
  refine ⟨⟨by decide, by decide, by decide, by decide⟩, ?_⟩
  rintro ⟨out, hok⟩
  have hfault : (Line.cut (.ofString "abc\n")).findSome? c.fault? =
      some (.repetition .uncountable) := by decide +kernel
  rw [written, writtenLines, hfault] at hok
  cases hok

end Config
end ColumnFold
