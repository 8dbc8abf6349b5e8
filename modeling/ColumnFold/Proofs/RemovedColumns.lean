import ColumnFold.ColumnPairs
import ColumnFold.Proofs.Cutting
import ColumnFold.Proofs.Fields

/-!
# Removing columns removes just these columns

Pairs of columns become signed widths, the widths become a plan, and the plan cuts and selects
fields.  What comes out at the end is what a reader expects from the pairs: the line without the
columns that they name.  The proof goes along the pairs.  Every width moves the column at which the
next field begins (`Plan.flatten_kept_gap` for the columns before a pair and
`Plan.flatten_kept_removed` for those of a pair), and at each such column what is still to be cut
depends on the pairs that are left and on nothing before.

A cell without columns belongs to the column of the cell before it, and at the beginning of a line
to the first column.

* `Cell.keepFrom` — the cells in some columns.
* `ColumnPairs.removes` — the columns that pairs name.
* `ColumnPairs.Accepted` — the pairs for which there are widths.
* `ColumnPairs.Accepted.flatten_kept` — the fields that the widths of pairs keep.
* `Config.writtenLines_removedColumns` — what is written for a line.
-/

set_option autoImplicit false

namespace ColumnFold

/-! ## Columns by number -/

namespace Cell

/-- The cells that end in a column which satisfies `p`, where `n` columns stand before the first
cell. -/
def inColumns (p : Nat → Bool) (n : Nat) : List Cell → List Cell
  | [] => []
  | c :: cells =>
    if p (n + c.width) then c :: inColumns p (n + c.width) cells
    else inColumns p (n + c.width) cells

variable {p q : Nat → Bool} {n : Nat}

theorem inColumns_append (p : Nat → Bool) (n : Nat) (xs ys : List Cell) :
    inColumns p n (xs ++ ys) = inColumns p n xs ++ inColumns p (n + columns xs) ys := by
  induction xs generalizing n with
  | nil => rfl
  | cons c xs ih =>
    rw [List.cons_append, inColumns, inColumns, ih, columns_cons, Nat.add_assoc]
    split <;> rfl

theorem inColumns_congr {cells : List Cell} (h : ∀ k, n ≤ k → k ≤ n + columns cells → p k = q k) :
    inColumns p n cells = inColumns q n cells := by
  induction cells generalizing n with
  | nil => rfl
  | cons c cells ih =>
    rw [columns_cons] at h
    rw [inColumns, inColumns, h (n + c.width) (by omega) (by omega),
      ih fun k hk hle => h k (by omega) (by omega)]

theorem inColumns_true (n : Nat) (cells : List Cell) :
    inColumns (fun _ => true) n cells = cells := by
  induction cells generalizing n with
  | nil => rfl
  | cons c cells ih => rw [inColumns, if_pos rfl, ih]

theorem inColumns_false (n : Nat) (cells : List Cell) :
    inColumns (fun _ => false) n cells = [] := by
  induction cells generalizing n with
  | nil => rfl
  | cons c cells ih => exact ih _

/-- Beyond a cell with columns, only the columns after it matter. -/
theorem inColumns_cons_congr {c : Cell} (hc : 0 < c.width) {cells : List Cell}
    (h : ∀ k, n < k → p k = q k) : inColumns p n (c :: cells) = inColumns q n (c :: cells) := by
  rw [inColumns, inColumns, h _ (by omega), inColumns_congr fun k hk _ => h k (by omega)]

/-- The cells in columns that satisfy `p`, where `n` columns stand before the first cell.  Cells
without columns at the beginning belong to the column after these. -/
def keepFrom (p : Nat → Bool) (n : Nat) (cells : List Cell) : List Cell :=
  inColumns (fun k => p (max (n + 1) k)) n cells

theorem keepFrom_congr (h : ∀ k, n < k → p k = q k) (cells : List Cell) :
    keepFrom p n cells = keepFrom q n cells :=
  inColumns_congr fun k _ _ => h _ (by omega)

theorem keepFrom_true (n : Nat) (cells : List Cell) : keepFrom (fun _ => true) n cells = cells :=
  inColumns_true n cells

theorem keepFrom_false (n : Nat) (cells : List Cell) : keepFrom (fun _ => false) n cells = [] :=
  inColumns_false n cells

end Cell

namespace ColumnPairs

/-- Whether pairs of columns name the column `k` for removal. -/
def removes : List Int → Int → Bool
  | [], _ => false
  | [first], k => decide (first ≤ k)
  | first :: last :: rest, k => decide (first ≤ k ∧ k ≤ last) || removes rest k

theorem removes_of_le_of_le {first last k : Int} {rest : List Int} (hfirst : first ≤ k)
    (hlast : k ≤ last) : removes (first :: last :: rest) k = true := by
  rw [removes, decide_eq_true ⟨hfirst, hlast⟩, Bool.true_or]

theorem removes_of_lt {first last k : Int} {rest : List Int} (h : last < k) :
    removes (first :: last :: rest) k = removes rest k := by
  rw [removes, decide_eq_false fun hle => Int.not_le.2 h hle.2, Bool.false_or]

/-- Pairs that name columns from `next` on, one after the other, with the widths for them. -/
inductive Accepted : Int → List Int → List Int → Prop
  /-- Nothing more is removed. -/
  | nil {next : Int} : Accepted next [] [-1]
  /-- Everything from `first` on is removed. -/
  | single {next first : Int} (hfirst : next ≤ first) :
    Accepted next [first] (gap next first ++ [0])
  /-- The columns from `first` to `last` are removed. -/
  | pair {next first last : Int} {rest tail : List Int} (hfirst : next ≤ first)
    (hlast : first ≤ last) (hrest : Accepted (last + 1) rest tail) :
    Accepted next (first :: last :: rest) (gap next first ++ -(last - first + 1) :: tail)

variable {next : Int} {columns ws : List Int}

/-- Widths are given for accepted pairs only. -/
theorem accepted_of_widthsFrom (h : widthsFrom next columns = .ok ws) :
    Accepted next columns ws := by
  fun_induction widthsFrom next columns generalizing ws with
  | case1 next =>
    cases h
    exact .nil
  | case2 => cases h
  | case3 next first hfirst =>
    cases h
    exact .single (by omega)
  | case4 => cases h
  | case5 => cases h
  | case6 next first last rest hfirst hlast ih =>
    cases htail : widthsFrom (last + 1) rest with
    | error e =>
      rw [htail] at h
      cases h
    | ok tail =>
      rw [htail] at h
      cases h
      exact .pair (by omega) (by omega) (ih htail)

theorem accepted_of_widths (h : widths columns = .ok ws) : Accepted 1 columns ws := by
  rw [widths] at h
  split at h
  · cases h
  · exact accepted_of_widthsFrom h

theorem Accepted.removes_eq_false (h : Accepted next columns ws) {k : Int} (hk : k < next) :
    removes columns k = false := by
  induction h with
  | nil => rfl
  | single hfirst =>
    rw [removes, decide_eq_false_iff_not]
    omega
  | pair hfirst hlast _ ih =>
    rw [removes, ih (by omega), Bool.or_false, decide_eq_false_iff_not]
    omega

theorem Accepted.widths_ne_nil (h : Accepted next columns ws) : ws ≠ [] := by
  cases h <;> simp

/-- A single width is one that keeps the whole line, or nothing of it. -/
theorem Accepted.eq_of_singleton {width : Int} (h : Accepted next columns [width]) :
    width = -1 ∨ width = 0 := by
  generalize hws : [width] = ws at h
  cases h with
  | nil =>
    cases hws
    exact .inl rfl
  | single =>
    exact .inr (by simpa using congrArg List.getLast? hws)
  | pair _ _ hrest =>
    have hlen := congrArg List.length hws
    have hpos := List.length_pos_iff.2 hrest.widths_ne_nil
    simp only [List.length_append, List.length_cons, List.length_nil] at hlen
    omega

end ColumnPairs

/-! ## The fields that are kept -/

theorem Split.columns_fit_eq {w : Nat} {cells : List Cell} (h : ∀ c ∈ cells, c.width ≤ 1)
    {c : Cell} {rest : List Cell} (hrest : (fit w cells).rest = c :: rest) :
    Cell.columns (fit w cells).taken = w := by
  have hmem : c ∈ cells := by
    rw [← all_fit w cells, all, hrest]
    simp
  have hle := columns_fit_le (Int.natCast_nonneg w) cells
  have hlt := lt_of_fit_rest hrest
  have hc := h c hmem
  omega

section
variable {b : Breaking} {p : Nat → Bool} {n w : Nat} {cells : List Cell}

/-- Where a line is cut for a width, its columns are counted on after the cut. -/
theorem Cell.keepFrom_fit (hpos : 0 < w) {keep : Bool}
    (hp : ∀ k, n < k → k ≤ n + w → p k = keep) (h : ∀ c ∈ cells, c.width ≤ 1) :
    keepFrom p n cells =
      (if keep then (Split.fit w cells).taken else []) ++
        keepFrom p (n + w) (Split.fit w cells).rest := by
  have htaken : inColumns (fun k => p (max (n + 1) k)) n (Split.fit w cells).taken =
      if keep then (Split.fit w cells).taken else [] := by
    have hle := Split.columns_fit_le (Int.natCast_nonneg w) cells
    rw [inColumns_congr (q := fun _ => keep) fun k hk hkle => hp _ (by omega) (by omega)]
    cases keep with
    | false => exact inColumns_false n _
    | true => exact inColumns_true n _
  rw [keepFrom, keepFrom]
  conv => lhs; rw [← Split.all_fit w cells, Split.all, inColumns_append, htaken]
  cases hrest : (Split.fit w cells).rest with
  | nil => rfl
  | cons c rest =>
    -- the rest begins with a glyph, so no cell of it belongs to a column before the cut
    have hc := Split.width_pos_of_fit_rest (Int.natCast_nonneg w) hrest
    rw [Split.columns_fit_eq h hrest,
      inColumns_cons_congr (q := fun k => p (max (n + w + 1) k)) hc fun k hk =>
        congrArg p (by omega)]

/-- One field is kept or dropped, and after it the columns are counted on. -/
theorem Plan.flatten_kept_cons (hb : b.boundary = .anywhere) (hk : b.kinsoku = .free)
    {width : Int} (hpos : 0 < w) (hw : width.natAbs = w)
    (hp : ∀ k, n < k → k ≤ n + w → p k = decide (0 ≤ width)) {tail : List Int} (ht : tail ≠ [])
    (h : ∀ c ∈ cells, c.width ≤ 1)
    (ih : ∀ rest : List Cell, (∀ c ∈ rest, c.width ≤ 1) →
      (kept b tail rest).flatten = Cell.keepFrom p (n + w) rest) :
    (kept b (width :: tail) cells).flatten = Cell.keepFrom p n cells := by
  by_cases hc : cells = []
  · rw [hc, kept_nil]
    rfl
  · have hcut := b.cut_eq_fit hb hk (Int.natCast_pos.2 hpos) h
    have hrest : ∀ c ∈ (Split.fit w cells).rest, c.width ≤ 1 := fun c hmem =>
      h c (by rw [← Split.all_fit w cells]; exact List.mem_append_right _ hmem)
    rw [kept_cons b width ht hc, hw, hcut, List.flatten_append, ih _ hrest,
      Cell.keepFrom_fit hpos hp h]
    by_cases hkeep : 0 ≤ width <;> simp [hkeep]

theorem Plan.flatten_kept_gap (hb : b.boundary = .anywhere) (hk : b.kinsoku = .free) {m : Nat}
    (hle : n ≤ m) (hp : ∀ k, n < k → k ≤ m → p k = true) {tail : List Int} (ht : tail ≠ [])
    (h : ∀ c ∈ cells, c.width ≤ 1)
    (ih : ∀ rest : List Cell, (∀ c ∈ rest, c.width ≤ 1) →
      (kept b tail rest).flatten = Cell.keepFrom p m rest) :
    (kept b (ColumnPairs.gap (n + 1) (m + 1) ++ tail) cells).flatten =
      Cell.keepFrom p n cells := by
  obtain ⟨w, rfl⟩ := Nat.exists_eq_add_of_le hle
  rcases Nat.eq_zero_or_pos w with rfl | hpos
  · rw [ColumnPairs.gap, if_neg (by omega), List.nil_append]
    exact ih cells h
  · rw [ColumnPairs.gap, if_pos (by omega), List.singleton_append]
    refine flatten_kept_cons hb hk hpos (by omega) (fun k hk hkle => ?_) ht h ih
    rw [hp k hk hkle, decide_eq_true (by omega)]

theorem Plan.flatten_kept_removed (hb : b.boundary = .anywhere) (hk : b.kinsoku = .free) {m : Nat}
    (hlt : n < m) (hp : ∀ k, n < k → k ≤ m → p k = false) {tail : List Int} (ht : tail ≠ [])
    (h : ∀ c ∈ cells, c.width ≤ 1)
    (ih : ∀ rest : List Cell, (∀ c ∈ rest, c.width ≤ 1) →
      (kept b tail rest).flatten = Cell.keepFrom p m rest) :
    (kept b (-((m : Int) - (n + 1) + 1) :: tail) cells).flatten = Cell.keepFrom p n cells := by
  obtain ⟨w, rfl⟩ := Nat.exists_eq_add_of_le (Nat.le_of_lt hlt)
  refine flatten_kept_cons hb hk (by omega) (by omega) (fun k hk hkle => ?_) ht h ih
  rw [hp k hk hkle, decide_eq_false (by omega)]

/-- **The fields that the widths of pairs keep** hold all cells but those in removed columns, where
no glyph is wide. -/
theorem ColumnPairs.Accepted.flatten_kept (hb : b.boundary = .anywhere) (hk : b.kinsoku = .free)
    {next : Int} {columns ws : List Int} (haccepted : Accepted next columns ws)
    (hn : next = n + 1) (h : ∀ c ∈ cells, c.width ≤ 1) :
    (Plan.kept b ws cells).flatten =
      Cell.keepFrom (fun k => !removes columns k) n cells := by
  induction haccepted generalizing n cells with
  | nil =>
    rw [Plan.flatten_kept_of_neg b (by decide)]
    exact (Cell.keepFrom_true n cells).symm
  | @single next first hfirst =>
    obtain ⟨m, rfl⟩ : ∃ m : Nat, first = m + 1 := ⟨(first - 1).toNat, by omega⟩
    subst hn
    refine Plan.flatten_kept_gap hb hk (by omega) (fun k _ hle => ?_) (List.cons_ne_nil 0 []) h
      fun rest _ => ?_
    · exact congrArg Bool.not (decide_eq_false (by omega))
    · have hall : ∀ k : Nat, m < k → (!removes [(m : Int) + 1] k) = false := fun k hk =>
        congrArg Bool.not (decide_eq_true (by omega))
      rw [Cell.keepFrom_congr hall, Cell.keepFrom_false]
      cases rest <;> rfl
  | @pair next first last rest tail hfirst hlast hrest ih =>
    obtain ⟨m, rfl⟩ : ∃ m : Nat, first = m + 1 := ⟨(first - 1).toNat, by omega⟩
    obtain ⟨l, rfl⟩ : ∃ l : Nat, last = l := ⟨last.toNat, by omega⟩
    subst hn
    refine Plan.flatten_kept_gap hb hk (by omega) (fun k _ hle => ?_) (List.cons_ne_nil _ _) h
      fun cells hc => ?_
    · have hpair := Accepted.pair (Int.le_refl _) hlast hrest
      exact congrArg Bool.not (hpair.removes_eq_false (by omega))
    · refine Plan.flatten_kept_removed hb hk (by omega) (fun k hk hle => ?_) hrest.widths_ne_nil hc
        fun cells hc => ?_
      · exact congrArg Bool.not (removes_of_le_of_le (by omega) (by omega))
      · rw [ih rfl hc]
        exact Cell.keepFrom_congr (fun k hk => by rw [removes_of_lt (by omega)]) cells

end

/-! ## What is written -/

/-- The fields that the widths of accepted pairs keep are written one after the other, also where
there is only one width. -/
theorem Config.foldLine_of_accepted {next : Int} {columns ws : List Int}
    (h : ColumnPairs.Accepted next columns ws) (default : Int) (files : List String) {body : Text}
    (hattr : Cell.NoAttributes (FoldOptions.default.cells body)) :
    (ofPlan (.ofWidths default ws) "" files).foldLine body =
      Cell.spell (Plan.kept FoldOptions.default.breaking ws
        (FoldOptions.default.cells body)).flatten := by
  rcases List.eq_nil_or_concat ws with rfl | ⟨init, last, rfl⟩
  · exact absurd rfl h.widths_ne_nil
  · rw [List.concat_eq_append] at h ⊢
    by_cases hinit : init = []
    · subst hinit
      rcases h.eq_of_singleton with rfl | rfl
      · have hneg : (-1 : Int) < 0 := by decide
        refine (foldLine_of_neg (c := ofPlan (.single (-1)) "" files) rfl hneg rfl body).trans ?_
        rw [List.nil_append, Plan.flatten_kept_of_neg _ hneg]
        exact (Cell.spell_ofText _ body).symm
      · refine (foldLine_of_zero (c := ofPlan (.single 0) "" files) rfl body).trans ?_
        cases FoldOptions.default.cells body <;> rfl
    · rw [Plan.ofWidths_concat default hinit, foldLine_several init last "" files hattr,
        Cell.spell_flatten]
      exact Text.intercalate_nil _

/-- **Removing columns removes just these columns.**  For accepted pairs and a line where no glyph
is wide and no attributes are set, all cells are written but those in columns that the pairs name,
in order, and then the terminator of the line.  A cell without columns goes with the cell before
it, and at the beginning of the line with the first column. -/
theorem Config.writtenLines_removedColumns {columns ws : List Int}
    (hws : ColumnPairs.widths columns = .ok ws) (default : Int) (files : List String) (line : Text)
    (hwidth : ∀ c ∈ FoldOptions.default.cells (Line.body line), c.width ≤ 1)
    (hattr : Cell.NoAttributes (FoldOptions.default.cells (Line.body line))) :
    (ofPlan (.ofWidths default ws) "" files).writtenLines [line] =
      .ok [Cell.spell (Cell.keepFrom (fun k => !ColumnPairs.removes columns k) 0
          (FoldOptions.default.cells (Line.body line))) ++ Line.terminator line] := by
  have haccepted := ColumnPairs.accepted_of_widths hws
  rw [writtenLines_ofPlan, foldLine_of_accepted haccepted default files hattr,
    haccepted.flatten_kept rfl rfl rfl hwidth]

theorem Config.writtenLines_removedColumns_cells_without_columns :
    let columns : List Int := [1, 2, 3, 3, 6]
    let line := Text.ofString "ab\x1b[Kcd\x1b[Ke\u200bfg\n"
    let u := FoldOptions.default.cells (Line.body line)
    ColumnPairs.widths columns = .ok [-2, -1, 2, 0] ∧
      (∀ c ∈ u, c.width ≤ 1) ∧ Cell.NoAttributes u ∧
      (ofPlan (.ofWidths 72 [-2, -1, 2, 0]) "" []).writtenLines [line] =
        .ok [Cell.spell (Cell.keepFrom (fun k => !ColumnPairs.removes columns k) 0 u) ++
          Line.terminator line] ∧
      Cell.spell (Cell.keepFrom (fun k => !ColumnPairs.removes columns k) 0 u) =
        Text.ofString "d\x1b[Ke\u200b" := by
  intro columns line u
  have hws : ColumnPairs.widths columns = .ok [-2, -1, 2, 0] := by decide
  have hwidth : ∀ c ∈ u, c.width ≤ 1 := by decide +kernel
  have hattr : Cell.NoAttributes u := by decide +kernel
  exact ⟨hws, hwidth, hattr,
    Config.writtenLines_removedColumns hws 72 [] line hwidth hattr, by decide +kernel⟩

end ColumnFold
