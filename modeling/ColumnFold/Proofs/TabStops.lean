import ColumnFold.Proofs.ClusterEnds
import ColumnFold.Proofs.NamedFiles
import Mathlib.Data.List.Chain

/-!
# Expanded tabs end at tab stops

The column of a tab is counted in the text as it was, while the width of the expanded text is
measured again, glyph by glyph.  Both agree where no cluster reaches over the ends of what a tab is
expanded to.  A tab itself belongs to no cluster, but the characters that take its place may be
taken in by a sign before them, and may take in a mark after them.  `Text.TabsApart` excludes both.

Then the glyphs of the expanded text are those of its pieces, each tab is as many columns wide as it
reaches over, and so the columns before and after a tab are those at which it begins and ends.
Facts about the tabs of a text go by the pieces between them (`Separated.induction`).

* `Tabs.columnAfter` — the column at which cells end.
* `Tabs.Plain.columns_expandFrom` — the columns of an expanded text.
* `FoldOptions.expand_aligned` — expanding the tabs of a line.
-/

set_option autoImplicit false

namespace ColumnFold

/-! ## Tabs -/

/-- A list has no separator, or there is a list without separators before the first one. -/
theorem Separated.induction {α : Type} [DecidableEq α] (sep : α) {P : List α → Prop}
    (last : ∀ xs, sep ∉ xs → P xs)
    (field : ∀ front rest, sep ∉ front → P rest → P (front ++ sep :: rest)) (xs : List α) :
    P xs := by
  by_cases hsep : sep ∈ xs
  · obtain ⟨front, rest, hxs, hfront⟩ := List.eq_append_cons_of_mem hsep
    have hlt : rest.length < xs.length := by
      rw [hxs, List.length_append, List.length_cons]
      omega
    exact hxs ▸ field front rest hfront (Separated.induction sep last field rest)
  · exact last xs hsep
  termination_by xs.length

/-- No tab follows a sign that stays with what follows, and no mark follows a tab. -/
def Text.TabsApart (t : Text) : Prop :=
  t.IsChain fun s s' => (s' = .tab → s.breakClass ≠ .prepend) ∧
    (s = .tab → s'.breakClass ≠ .extend ∧ s'.breakClass ≠ .joiner ∧ s'.breakClass ≠ .spacing)

instance (t : Text) : Decidable t.TabsApart := inferInstanceAs (Decidable (List.IsChain _ t))

namespace Tabs

/-- Tab stops lie apart, and tabs are expanded to printable ASCII characters. -/
structure Plain (tabs : Tabs) : Prop where
  /-- Tab stops lie at least one column apart. -/
  stop_pos : 0 < tabs.stop
  /-- The first column of a tab shows one character. -/
  head : ∃ c : Char, (Symbol.char c).Printable ∧ tabs.head = String.singleton c
  /-- Each other column of a tab shows one character. -/
  space : ∃ c : Char, (Symbol.char c).Printable ∧ tabs.space = String.singleton c

variable (tabs : Tabs) {a : Ambiguity} {t u : Text}

/-- The column at which cells end that begin at the column `col`, where tabs reach to the next tab
stop. -/
def columnAfter (col : Int) (cells : List Cell) : Int :=
  cells.foldl (fun col c => col + if c.isTab then tabs.reach col else c.width) col

theorem columnAfter_append (col : Int) (xs ys : List Cell) :
    tabs.columnAfter col (xs ++ ys) = tabs.columnAfter (tabs.columnAfter col xs) ys :=
  List.foldl_append

theorem columnAfter_of_noTabs (col : Int) {cells : List Cell} (h : ∀ c ∈ cells, c.isTab = false) :
    tabs.columnAfter col cells = col + Cell.columns cells := by
  induction cells generalizing col with
  | nil => exact (Int.add_zero col).symm
  | cons c cells ih =>
    have hrest := ih (col + c.width) fun d hd => h d (List.mem_cons_of_mem c hd)
    rw [columnAfter, List.foldl_cons, h c List.mem_cons_self, if_neg Bool.false_ne_true,
      Cell.columns_cons, Int.natCast_add, ← Int.add_assoc, ← hrest]
    rfl

theorem expandFrom_append (col : Int) (xs ys : List Cell) :
    tabs.expandFrom col (xs ++ ys) =
      tabs.expandFrom col xs ++ tabs.expandFrom (tabs.columnAfter col xs) ys := by
  induction xs generalizing col with
  | nil => rfl
  | cons c xs ih =>
    rw [List.cons_append, expandFrom, expandFrom, columnAfter, List.foldl_cons]
    split <;> rw [ih, List.append_assoc] <;> rfl

theorem reaches_append (col : Int) (xs ys : List Cell) :
    tabs.reaches col (xs ++ ys) =
      tabs.reaches col xs ++ tabs.reaches (tabs.columnAfter col xs) ys := by
  induction xs generalizing col with
  | nil => rfl
  | cons c xs ih =>
    rw [List.cons_append, reaches, reaches, columnAfter, List.foldl_cons]
    split <;> rw [ih] <;> rfl

theorem reaches_of_noTabs (col : Int) {cells : List Cell} (h : ∀ c ∈ cells, c.isTab = false) :
    tabs.reaches col cells = [] := by
  induction cells generalizing col with
  | nil => rfl
  | cons c cells ih =>
    rw [reaches, h c List.mem_cons_self, if_neg Bool.false_ne_true]
    exact ih _ fun d hd => h d (List.mem_cons_of_mem c hd)

theorem dvd_add_reach (h : 0 < tabs.stop) (col : Int) : tabs.stop ∣ col + tabs.reach col := by
  rw [reach, Int.fmod_eq_emod_of_nonneg _ (Int.le_of_lt h)]
  refine ⟨col / tabs.stop + 1, ?_⟩
  have hcol := Int.mul_ediv_add_emod col tabs.stop
  rw [Int.mul_add, Int.mul_one]
  omega

theorem expandFrom_tab (ht : .tab ∉ t) (hesc : .esc ∉ t) (hu : .esc ∉ u) (col : Int) :
    tabs.expandFrom col (Cell.ofText a (t ++ .tab :: u)) =
      let start := col + Cell.columns (Cell.ofText a t)
      t ++ (tabs.fill (tabs.reach start) ++
        tabs.expandFrom (start + tabs.reach start) (Cell.ofText a u)) := by
  have hnone := Cell.isTab_of_notMem (a := a) ht
  rw [Cell.ofText_append_tab hesc hu, expandFrom_append, tabs.expandFrom_of_noTabs col hnone,
    Cell.spell_ofText, tabs.columnAfter_of_noTabs col hnone, expandFrom]
  rfl

theorem columnAfter_tab (ht : .tab ∉ t) (hesc : .esc ∉ t) (hu : .esc ∉ u) (col : Int) :
    tabs.columnAfter col (Cell.ofText a (t ++ .tab :: u)) =
      let start := col + Cell.columns (Cell.ofText a t)
      tabs.columnAfter (start + tabs.reach start) (Cell.ofText a u) := by
  have hnone := Cell.isTab_of_notMem (a := a) ht
  rw [Cell.ofText_append_tab hesc hu, columnAfter_append, tabs.columnAfter_of_noTabs col hnone]
  rfl

theorem columnAfter_concat_tab (hesc : .esc ∉ t) (col : Int) :
    tabs.columnAfter col (Cell.ofText a (t ++ [.tab])) =
      tabs.columnAfter col (Cell.ofText a t) +
        tabs.reach (tabs.columnAfter col (Cell.ofText a t)) := by
  rw [Cell.ofText_append_tab hesc (List.not_mem_nil), columnAfter_append]
  rfl

/-! ## The columns of an expanded text -/

section
variable {tabs} (htabs : tabs.Plain)
include htabs

theorem Plain.exists_symbols : ∃ s s' : Symbol, s.Printable ∧ s'.Printable ∧
    Text.ofString tabs.head = [s] ∧ Text.ofString tabs.space = [s'] := by
  obtain ⟨c, hc, hhead⟩ := htabs.head
  obtain ⟨c', hc', hspace⟩ := htabs.space
  rw [hhead, hspace]
  exact ⟨_, _, hc, hc', Text.ofString_singleton c, Text.ofString_singleton c'⟩

theorem Plain.fill_eq (n : Int) : ∃ s s' : Symbol, s.Printable ∧ s'.Printable ∧
    tabs.fill n = s :: List.replicate (n - 1).toNat s' := by
  obtain ⟨s, s', hs, hs', hhead, hspace⟩ := htabs.exists_symbols
  refine ⟨s, s', hs, hs', ?_⟩
  rw [fill, hhead, hspace, Repetition.times_eq]
  simp

/-- What a tab is expanded to has printable characters only. -/
theorem Plain.printable_of_mem_fill {n : Int} {s : Symbol} (h : s ∈ tabs.fill n) : s.Printable := by
  obtain ⟨s₁, s₂, hs₁, hs₂, hfill⟩ := htabs.fill_eq n
  rw [hfill] at h
  obtain rfl | h := List.mem_cons.1 h
  · exact hs₁
  · exact List.eq_of_mem_replicate h ▸ hs₂

/-- What a tab is expanded to takes the columns that the tab reaches over. -/
theorem Plain.columns_fill {n : Int} (hn : 1 ≤ n) :
    (Cell.columns (Cell.ofText a (tabs.fill n)) : Int) = n := by
  obtain ⟨s, s', hs, hs', hfill⟩ := htabs.fill_eq n
  have hesc : Symbol.esc ∉ [s] := fun h =>
    hs.ne_control (by decide) (List.mem_singleton.1 h).symm
  have hone : Cell.columns (Cell.ofText a [s]) = 1 :=
    Cell.columns_ofText_replicate hs.separate (hs.symbolColumns? a) Nat.one_pos (t := []) nofun 1
  have hall := Cell.columns_ofText_replicate hs'.separate (hs'.symbolColumns? a) Nat.one_pos hesc
    (n - 1).toNat
  rw [hfill, ← List.singleton_append, hall, hone]
  omega

theorem Plain.head?_expandFrom (hesc : .esc ∉ t) (col : Int) {s : Symbol}
    (h : s ∈ (tabs.expandFrom col (Cell.ofText a t)).head?) : s.Printable ∨ s ∈ t.head? := by
  induction t using Separated.induction Symbol.tab with
  | last t ht =>
    rw [tabs.expandFrom_of_noTabs col (Cell.isTab_of_notMem ht), Cell.spell_ofText] at h
    exact .inr h
  | field front rest hfront ih =>
    have hesc' := Text.esc_notMem_append_tab.1 hesc
    rw [expandFrom_tab tabs hfront hesc'.1 hesc'.2] at h
    dsimp only at h
    rcases front with _ | ⟨s', front⟩
    · obtain ⟨s₁, s₂, hs₁, -, hfill⟩ := htabs.fill_eq
        (tabs.reach (col + Cell.columns (Cell.ofText a [])))
      rw [hfill] at h
      obtain rfl := Option.some.inj h
      exact .inl hs₁
    · exact .inr h

/-- What a tab is expanded to is taken in by nothing before it. -/
theorem Plain.splits_fill_left (hapart : Text.TabsApart (t ++ .tab :: u)) (n : Int) (v : Text) :
    Text.Splits t (tabs.fill n ++ v) := by
  intro s hs s' hs'
  obtain ⟨s₁, s₂, hs₁, -, hfill⟩ := htabs.fill_eq n
  rw [hfill] at hs'
  obtain rfl := Option.some.inj hs'
  obtain ⟨-, -, hends⟩ := List.isChain_append.1 hapart
  exact hs₁.splits_right ((hends s hs .tab rfl).1 rfl)

/-- What a tab is expanded to takes in nothing after it. -/
theorem Plain.splits_fill_right (hapart : Text.TabsApart (.tab :: u)) (hesc : .esc ∉ u) (n : Int)
    (col : Int) : Text.Splits (tabs.fill n) (tabs.expandFrom col (Cell.ofText a u)) := by
  intro s hs s' hs'
  have hprintable := htabs.printable_of_mem_fill (List.mem_of_getLast? hs)
  obtain hs' | hs' := htabs.head?_expandFrom hesc col hs'
  · exact hs'.splits_right (by rw [hprintable.breakClass]; decide)
  · obtain ⟨u, rfl⟩ := List.head?_eq_some_iff.1 hs'
    obtain ⟨hextend, hjoiner, hspacing⟩ := (List.isChain_cons_cons.1 hapart).1.2 rfl
    exact hprintable.splits_left hextend hjoiner hspacing

theorem Plain.esc_notMem_expandFrom (hesc : .esc ∉ t) (col : Int) :
    .esc ∉ tabs.expandFrom col (Cell.ofText a t) := by
  obtain ⟨s, s', hs, hs', hhead, hspace⟩ := htabs.exists_symbols
  rw [mem_expandFrom (by decide), Cell.spell_ofText]
  · exact hesc
  · rw [hhead, List.mem_singleton]
    exact (hs.ne_control (by decide)).symm
  · rw [hspace, List.mem_singleton]
    exact (hs'.ne_control (by decide)).symm

/-- **An expanded text takes the columns from where it begins to where it ends.** -/
theorem Plain.columns_expandFrom (hesc : .esc ∉ t) (hapart : t.TabsApart) (col : Int) :
    (Cell.columns (Cell.ofText a (tabs.expandFrom col (Cell.ofText a t))) : Int) =
      tabs.columnAfter col (Cell.ofText a t) - col := by
  induction t using Separated.induction Symbol.tab generalizing col with
  | last t ht =>
    have hnone := Cell.isTab_of_notMem (a := a) ht
    rw [tabs.expandFrom_of_noTabs col hnone, Cell.spell_ofText,
      tabs.columnAfter_of_noTabs col hnone]
    omega
  | field front rest hfront ih =>
    have hesc' := Text.esc_notMem_append_tab.1 hesc
    obtain ⟨-, hrest, -⟩ := List.isChain_append.1 hapart
    rw [expandFrom_tab tabs hfront hesc'.1 hesc'.2, columnAfter_tab tabs hfront hesc'.1 hesc'.2]
    dsimp only
    generalize hstart : col + (Cell.columns (Cell.ofText a front) : Int) = start
    have hfill : .esc ∉ tabs.fill (tabs.reach start) := fun h =>
      (htabs.printable_of_mem_fill h).ne_control (by decide) rfl
    have hexpanded := htabs.esc_notMem_expandFrom (a := a) hesc'.2 (start + tabs.reach start)
    have hall : .esc ∉ tabs.fill (tabs.reach start) ++
        tabs.expandFrom (start + tabs.reach start) (Cell.ofText a rest) := by
      rw [List.mem_append, not_or]
      exact ⟨hfill, hexpanded⟩
    rw [Cell.ofText_append hesc'.1 hall (htabs.splits_fill_left hapart _ _),
      Cell.ofText_append hfill hexpanded (htabs.splits_fill_right hrest hesc'.2 _ _),
      Cell.columns_append, Cell.columns_append]
    have hcolumns := htabs.columns_fill (a := a) (reach_bounds htabs.stop_pos start).1
    have hrest := ih hesc'.2 hrest.tail (start + tabs.reach start)
    omega

theorem Plain.tab_notMem_expandFrom (hesc : .esc ∉ t) (col : Int) :
    .tab ∉ tabs.expandFrom col (Cell.ofText a t) := by
  induction t using Separated.induction Symbol.tab generalizing col with
  | last t ht =>
    rwa [tabs.expandFrom_of_noTabs col (Cell.isTab_of_notMem ht), Cell.spell_ofText]
  | field front rest hfront ih =>
    have hesc' := Text.esc_notMem_append_tab.1 hesc
    rw [expandFrom_tab tabs hfront hesc'.1 hesc'.2]
    simp only [List.mem_append, not_or]
    exact ⟨hfront, fun h => (htabs.printable_of_mem_fill h).ne_control (by decide) rfl,
      ih hesc'.2 _⟩

end

end Tabs

/-! ## Lines -/

namespace FoldOptions

variable (o : FoldOptions) {t u : Text}

/-- Tabs of a text that no cluster joins to what follows are the first tabs of both. -/
theorem isPrefix_of_splits (ht : .esc ∉ t) (hu : .esc ∉ u) (h : Text.Splits t u) :
    o.tabFills t <+: o.tabFills (t ++ u) ∧
      o.tabs.expand o.ambiguity t <+: o.tabs.expand o.ambiguity (t ++ u) := by
  have hcells : o.cells (t ++ u) = o.cells t ++ o.cells u := Cell.ofText_append ht hu h
  rw [tabFills, tabFills, hcells, Tabs.reaches_append, List.map_append, Tabs.expand, Tabs.expand,
    ← cells, ← cells, hcells, Tabs.expandFrom_append]
  exact ⟨List.prefix_append _ _, List.prefix_append _ _⟩

theorem tabFault?_eq_none_iff (hstop : 0 < o.tabs.stop) (text : Text) :
    o.choices.tabFault? text = none ↔ ∀ f ∈ o.tabFills text, f.error? = none := by
  rw [o.tabFault?_eq hstop, Option.map_eq_none_iff, List.findSome?_eq_none_iff]

theorem tabFills_of_notMem (h : .tab ∉ t) : o.tabFills t = [] := by
  rw [tabFills, cells, o.tabs.reaches_of_noTabs 0 (Cell.isTab_of_notMem h), List.map_nil]

/-- Tabs are filled unless the tab stops lie too far apart. -/
theorem error?_of_mem_tabFills (htabs : o.tabs.Plain) (hstop : o.tabs.stop ≤ Repetition.memoryLimit)
    {f : Fill} (h : f ∈ o.tabFills t) : f.error? = none := by
  obtain ⟨n, hn, rfl⟩ := List.mem_map.1 h
  obtain ⟨hle, hge⟩ := Tabs.mem_reaches htabs.stop_pos hn
  have hlength : o.tabs.space.length = 1 := by
    obtain ⟨c, -, hc⟩ := htabs.space
    rw [hc, String.length_singleton]
  have hfill : Repetition.textError? 1 (n - 1) = none :=
    Repetition.textError?_eq_none (by omega) (by omega) (by omega)
  rw [Fill.error?, hlength]
  exact hfill

section
variable {o}

/-- An expanded text takes as many columns as its tabs reach over, with the other glyphs. -/
theorem columns_expand (htabs : o.tabs.Plain) (hesc : .esc ∉ t) (hapart : t.TabsApart) :
    (o.columns (o.tabs.expand o.ambiguity t) : Int) = o.tabs.columnAfter 0 (o.cells t) :=
  (htabs.columns_expandFrom hesc hapart 0).trans (Int.sub_zero _)

/-- A tab at the end of a text adds the columns up to the next tab stop. -/
theorem columns_expand_concat_tab (htabs : o.tabs.Plain) (hesc : .esc ∉ t)
    (hapart : Text.TabsApart (t ++ [.tab])) :
    (o.columns (o.tabs.expand o.ambiguity (t ++ [.tab])) : Int) =
      o.columns (o.tabs.expand o.ambiguity t) +
        o.tabs.reach (o.columns (o.tabs.expand o.ambiguity t)) := by
  have hescTab := Text.esc_notMem_append_tab.2 ⟨hesc, List.not_mem_nil⟩
  rw [columns_expand htabs hescTab hapart, cells, o.tabs.columnAfter_concat_tab hesc,
    columns_expand htabs hesc (List.isChain_append.1 hapart).1, cells]

end

/-- **Tabs end at tab stops.**  Expanding the tabs of a text without escape sequences breaks off at
the first tab that cannot be filled, and not at all unless the tab stops lie too far apart.  If it
does not, no tab is left and expanding again changes nothing.  The text up to and including a tab is
expanded to what the whole text begins with; this takes as many columns as lie before some tab stop,
at least one more than the text up to the tab, and no more than lie between tab stops. -/
theorem expand_aligned (htabs : o.tabs.Plain) {text : Text} (hesc : .esc ∉ text)
    (hapart : text.TabsApart) :
    let expand := o.tabs.expand o.ambiguity
    let fault? := o.choices.tabFault?
    fault? text = ((o.tabFills text).findSome? Fill.error?).map .repetition ∧
      (o.tabs.stop ≤ Repetition.memoryLimit → fault? text = none) ∧
      (fault? text = none →
        .tab ∉ expand text ∧ fault? (expand text) = none ∧ expand (expand text) = expand text ∧
        ∀ front back, text = front ++ .tab :: back →
          fault? front = none ∧ fault? (front ++ [.tab]) = none ∧
          expand (front ++ [.tab]) <+: expand text ∧
          o.tabs.stop ∣ o.columns (expand (front ++ [.tab])) ∧
          (o.columns (expand front) : Int) + 1 ≤ o.columns (expand (front ++ [.tab])) ∧
          (o.columns (expand (front ++ [.tab])) : Int) ≤
            o.columns (expand front) + o.tabs.stop) := by
  intro expand fault?
  have hstop := htabs.stop_pos
  have hnone := o.tabFault?_eq_none_iff hstop
  refine ⟨o.tabFault?_eq hstop text, fun hle => ?_, fun hok => ?_⟩
  · exact (hnone text).2 fun f hf => o.error?_of_mem_tabFills htabs hle hf
  have htab : .tab ∉ expand text := htabs.tab_notMem_expandFrom hesc 0
  refine ⟨htab, ?_, ?_, ?_⟩
  · exact (hnone _).2 (by rw [o.tabFills_of_notMem htab]; nofun)
  · show o.tabs.expandFrom 0 (Cell.ofText o.ambiguity (expand text)) = expand text
    rw [o.tabs.expandFrom_of_noTabs 0 (Cell.isTab_of_notMem htab), Cell.spell_ofText]
  · rintro front back rfl
    have hesc' := Text.esc_notMem_append_tab.1 hesc
    have hescTab := Text.esc_notMem_append_tab.2 ⟨hesc'.1, List.not_mem_nil⟩
    have hcons : front ++ .tab :: back = front ++ [.tab] ++ back := List.append_cons front _ back
    have hapartTab : Text.TabsApart (front ++ [.tab]) :=
      (List.isChain_append.1 (hcons ▸ hapart : Text.TabsApart (front ++ [.tab] ++ back))).1
    -- the tabs up to this one are filled as they are in the whole text
    obtain ⟨hfills, hexpand⟩ := o.isPrefix_of_splits hescTab hesc'.2 (Text.tab_splits front back)
    obtain ⟨hfills', -⟩ := o.isPrefix_of_splits hesc'.1 (by decide) (Text.splits_tab front [])
    rw [← hcons] at hfills hexpand
    have hokTab : ∀ f ∈ o.tabFills (front ++ [.tab]), f.error? = none := fun f hf =>
      (hnone _).1 hok f (hfills.subset hf)
    have hend : (o.columns (expand (front ++ [.tab])) : Int) =
        o.columns (expand front) + o.tabs.reach (o.columns (expand front)) :=
      columns_expand_concat_tab htabs hesc'.1 hapartTab
    have hreach := Tabs.reach_bounds hstop (o.columns (expand front))
    refine ⟨(hnone _).2 fun f hf => hokTab f (hfills'.subset hf), (hnone _).2 hokTab, hexpand,
      hend ▸ o.tabs.dvd_add_reach hstop _, ?_, ?_⟩ <;> omega

/-- A wide character and a letter before tabs, with tab stops four columns apart. -/
theorem expand_aligned_after_wide :
    let o : FoldOptions := { FoldOptions.default with tabs := ⟨4, ">", "."⟩ }
    let expand := o.tabs.expand o.ambiguity
    let text := Text.ofString "中\tb\tc"
    let front := Text.ofString "中\tb"
    o.tabs.Plain ∧ .esc ∉ text ∧ text.TabsApart ∧ o.choices.tabFault? text = none ∧
      expand text = Text.ofString "中>.b>..c" ∧ expand (expand text) = expand text ∧
      expand (front ++ [.tab]) <+: expand text ∧ 4 ∣ o.columns (expand (front ++ [.tab])) ∧
      o.columns (expand front) = 5 := by
  intro o expand text front
  have htabs : o.tabs.Plain :=
    ⟨by decide, ⟨'>', by decide, rfl⟩, ⟨'.', by decide, rfl⟩⟩
  have hesc : .esc ∉ text := by decide
  have hapart : text.TabsApart := by decide +kernel
  obtain ⟨-, hfault, hok⟩ := o.expand_aligned htabs hesc hapart
  have hfault := hfault (by decide)
  obtain ⟨-, -, hagain, hsplit⟩ := hok hfault
  obtain ⟨-, -, hexpand, hdvd, -⟩ := hsplit front (Text.ofString "c") rfl
  exact ⟨htabs, hesc, hapart, hfault, by decide +kernel, hagain, hexpand,
    Int.natCast_dvd_natCast.1 hdvd, by decide +kernel⟩

/-- **A tab that is not expanded**: nobody can count the columns up to the next tab stop. -/
theorem expand_aligned_uncountable :
    let o : FoldOptions := { FoldOptions.default with tabs := ⟨99999999999999999999, " ", " "⟩ }
    let text := Text.ofString "\t"
    o.tabs.Plain ∧ .esc ∉ text ∧ text.TabsApart ∧
      o.choices.tabFault? text = some (.repetition .uncountable) := by
  intro o text
  exact ⟨⟨by decide, ⟨' ', by decide, rfl⟩, ⟨' ', by decide, rfl⟩⟩, by decide, by decide +kernel,
    by decide +kernel⟩

end FoldOptions

end ColumnFold
