import ColumnFold.Proofs.Refusals
import ColumnFold.Proofs.RemovedColumns
import Mathlib.Algebra.GroupWithZero.Nat
import Mathlib.Data.List.Chain

/-!
# Columns in ascending order

Pairs of columns have widths exactly if they ascend: columns are counted from 1, no pair ends before
it begins, and no pair begins before the one before it has ended.  Otherwise the complaint is about
the first column that is not positive, wherever it stands, and if there is none, about the first
pair at fault; of two faults of one pair, that it begins too early is found first.

The widths are read pair by pair, and what is left to read knows of the pairs before it only where
the next pair may begin.  So the faults are described from such a column on
(`ColumnPairs.OffendsFrom`), and a fault of the pairs that are left is a fault one place later
(`ColumnPairs.offendsFrom_succ_iff`).

* `ColumnPairs.Ascending` — what is asked of columns.
* `ColumnPairs.Complaint` — what is wrong with columns.
* `ColumnPairs.Accepted.isChain`, `ColumnPairs.Accepted.sum_dropLast` — the shape of widths.
* `ColumnPairs.widths_iff_ascending` — for which columns there are widths, and which.
-/

set_option autoImplicit false

namespace ColumnFold
namespace ColumnPairs

/-! ## Order -/

/-- Columns that name pairs in order: the columns with even places are first columns, those with odd
places are last ones. -/
structure Ascending (columns : List Int) : Prop where
  /-- Columns are counted from 1. -/
  positive : ∀ c ∈ columns, 1 ≤ c
  /-- No pair ends before it begins. -/
  ordered : ∀ i first last, columns[2 * i]? = some first → columns[2 * i + 1]? = some last →
    first ≤ last
  /-- Every pair, also one without a last column, begins after the end of the pair before it. -/
  apart : ∀ i last first, columns[2 * i + 1]? = some last → columns[2 * (i + 1)]? = some first →
    last < first

/-- The column from which on the pair with the number `i` may begin, where the first pair may begin
at `next`. -/
def freeFrom (next : Int) (columns : List Int) : Nat → Option Int
  | 0 => some next
  | i + 1 => columns[2 * i + 1]?.map (· + 1)

/-- What is wrong with the pair with the number `i`, where the first pair may begin at `next`. -/
inductive OffendsFrom (next : Int) (columns : List Int) (i : Nat) : Error → Prop
  /-- The pair begins too early. -/
  | overlap {free first : Int} (hfree : freeFrom next columns i = some free)
      (hfirst : columns[2 * i]? = some first) (h : first < free) :
      OffendsFrom next columns i (.overlap first)
  /-- The pair ends before it begins. -/
  | reversed {free first last : Int} (hfree : freeFrom next columns i = some free)
      (hfirst : columns[2 * i]? = some first) (hlast : columns[2 * i + 1]? = some last)
      (hle : free ≤ first) (h : last < first) :
      OffendsFrom next columns i (.reversed first last)

/-- What is wrong with columns: the first that is not positive, or else the first pair at fault. -/
inductive Complaint (columns : List Int) : Error → Prop
  /-- Columns are counted from 1. -/
  | invalidColumn {front back : List Int} {c : Int} (hcolumns : columns = front ++ c :: back)
      (hfront : ∀ d ∈ front, 1 ≤ d) (h : c < 1) : Complaint columns (.invalidColumn c)
  /-- All columns are positive, and all pairs before the one at fault are in order. -/
  | pair {i : Nat} {e : Error} (hpos : ∀ c ∈ columns, 1 ≤ c) (h : OffendsFrom 1 columns i e)
      (hbefore : ∀ j < i, ∀ e', ¬OffendsFrom 1 columns j e') : Complaint columns e

variable {next first last : Int} {columns rest ws : List Int} {e : Error}

/-- After a pair, the others are at fault if they are at fault from the end of it on. -/
theorem offendsFrom_succ_iff {i : Nat} :
    OffendsFrom next (first :: last :: rest) (i + 1) e ↔ OffendsFrom (last + 1) rest i e := by
  have hfree : freeFrom next (first :: last :: rest) (i + 1) = freeFrom (last + 1) rest i := by
    cases i <;> rfl
  have hfirst : (first :: last :: rest)[2 * (i + 1)]? = rest[2 * i]? := rfl
  have hlast : (first :: last :: rest)[2 * (i + 1) + 1]? = rest[2 * i + 1]? := rfl
  constructor
  · rintro (⟨h1, h2, h⟩ | ⟨h1, h2, h3, hle, h⟩)
    · exact .overlap (hfree ▸ h1) (hfirst ▸ h2) h
    · exact .reversed (hfree ▸ h1) (hfirst ▸ h2) (hlast ▸ h3) hle h
  · rintro (⟨h1, h2, h⟩ | ⟨h1, h2, h3, hle, h⟩)
    · exact .overlap (hfree ▸ h1) (hfirst ▸ h2) h
    · exact .reversed (hfree ▸ h1) (hfirst ▸ h2) (hlast ▸ h3) hle h

theorem not_offendsFrom_zero_iff :
    (∀ e, ¬OffendsFrom next (first :: last :: rest) 0 e) ↔ next ≤ first ∧ first ≤ last := by
  constructor
  · intro h
    have hnext : next ≤ first := Int.not_lt.1 fun hlt => h _ (.overlap rfl rfl hlt)
    exact ⟨hnext, Int.not_lt.1 fun hlt => h _ (.reversed rfl rfl rfl hnext hlt)⟩
  · rintro ⟨hnext, hle⟩ e (⟨⟨⟩, ⟨⟩, h⟩ | ⟨⟨⟩, ⟨⟩, ⟨⟩, -, h⟩) <;> omega

/-- **Pairs are refused for the first pair at fault.** -/
theorem refused_iff_offendsFrom :
    Refused next columns e ↔
      ∃ i, OffendsFrom next columns i e ∧ ∀ j < i, ∀ e', ¬OffendsFrom next columns j e' := by
  constructor
  · intro h
    induction h with
    | overlap h => exact ⟨0, .overlap rfl rfl h, nofun⟩
    | reversed hfirst h => exact ⟨0, .reversed rfl rfl rfl hfirst h, nofun⟩
    | later hfirst hlast _ ih =>
      obtain ⟨i, hi, hbefore⟩ := ih
      refine ⟨i + 1, offendsFrom_succ_iff.2 hi, fun j hj e' => ?_⟩
      cases j with
      | zero => exact not_offendsFrom_zero_iff.2 ⟨hfirst, hlast⟩ e'
      | succ j => exact mt offendsFrom_succ_iff.1 (hbefore j (Nat.lt_of_succ_lt_succ hj) e')
  · rintro ⟨i, hi, hbefore⟩
    induction i generalizing next columns with
    | zero =>
      rcases columns with _ | ⟨first, _ | ⟨last, rest⟩⟩
      · rcases hi with ⟨-, ⟨⟩, -⟩ | ⟨-, ⟨⟩, -, -, -⟩
      · rcases hi with ⟨⟨⟩, ⟨⟩, h⟩ | ⟨-, -, ⟨⟩, -, -⟩
        exact .overlap h
      · rcases hi with ⟨⟨⟩, ⟨⟩, h⟩ | ⟨⟨⟩, ⟨⟩, ⟨⟩, hle, h⟩
        · exact .overlap h
        · exact .reversed hle h
    | succ i ih =>
      rcases columns with _ | ⟨first, _ | ⟨last, rest⟩⟩
      · rcases hi with ⟨-, ⟨⟩, -⟩ | ⟨-, ⟨⟩, -, -, -⟩
      · rcases hi with ⟨-, ⟨⟩, -⟩ | ⟨-, ⟨⟩, -, -, -⟩
      · obtain ⟨hfirst, hlast⟩ := not_offendsFrom_zero_iff.1 (hbefore 0 (Nat.succ_pos i))
        refine .later hfirst hlast (ih (offendsFrom_succ_iff.1 hi) fun j hj e' => ?_)
        exact mt offendsFrom_succ_iff.2 (hbefore (j + 1) (Nat.succ_lt_succ hj) e')

theorem ascending_iff :
    Ascending columns ↔
      (∀ c ∈ columns, 1 ≤ c) ∧ ∀ i e, ¬OffendsFrom 1 columns i e := by
  constructor
  · refine fun h => ⟨h.positive, fun i e he => ?_⟩
    have hfree : ∀ {free first}, freeFrom 1 columns i = some free →
        columns[2 * i]? = some first → free ≤ first := by
      intro free first hfree hfirst
      cases i with
      | zero =>
        obtain rfl := Option.some.inj hfree
        exact h.positive first (List.mem_of_getElem? hfirst)
      | succ i =>
        obtain ⟨last, hlast, rfl⟩ := Option.map_eq_some_iff.1 hfree
        exact h.apart i last first hlast hfirst
    rcases he with ⟨h1, hfirst, hlt⟩ | ⟨-, hfirst, hlast, -, hlt⟩
    · exact absurd (hfree h1 hfirst) (Int.not_le.2 hlt)
    · exact absurd (h.ordered i _ _ hfirst hlast) (Int.not_le.2 hlt)
  · rintro ⟨hpos, hno⟩
    have hapart : ∀ i last first, columns[2 * i + 1]? = some last →
        columns[2 * (i + 1)]? = some first → last < first := by
      intro i last first hlast hfirst
      have hfree : freeFrom 1 columns (i + 1) = some (last + 1) := by rw [freeFrom, hlast]; rfl
      exact Int.not_lt.1 fun hlt => hno (i + 1) _ (.overlap hfree hfirst hlt)
    refine ⟨hpos, fun i first last hfirst hlast => Int.not_lt.1 fun hlt => ?_, hapart⟩
    cases i with
    | zero =>
      exact hno 0 _ (.reversed rfl hfirst hlast (hpos first (List.mem_of_getElem? hfirst)) hlt)
    | succ i =>
      have hmem : ∃ before, columns[2 * i + 1]? = some before := by
        have hlen := (List.getElem?_eq_some_iff.1 hfirst).1
        exact ⟨_, List.getElem?_eq_getElem (by omega)⟩
      obtain ⟨before, hbefore⟩ := hmem
      have hfree : freeFrom 1 columns (i + 1) = some (before + 1) := by rw [freeFrom, hbefore]; rfl
      exact hno (i + 1) _
        (.reversed hfree hfirst hlast (hapart i before first hbefore hfirst) hlt)

/-! ## Complaints -/

theorem find?_nonpos_eq_none_iff : columns.find? (· ≤ 0) = none ↔ ∀ c ∈ columns, 1 ≤ c := by
  simp only [List.find?_eq_none, decide_eq_true_eq, Int.not_le]
  exact Iff.rfl

theorem find?_nonpos_eq_some_iff {c : Int} :
    columns.find? (· ≤ 0) = some c ↔
      ∃ front back, columns = front ++ c :: back ∧ (∀ d ∈ front, 1 ≤ d) ∧ c < 1 := by
  simp only [List.find?_eq_some_iff_append, decide_eq_true_eq, Bool.not_eq_true',
    decide_eq_false_iff_not, Int.not_le]
  constructor
  · rintro ⟨hc, front, back, hcolumns, hfront⟩
    exact ⟨front, back, hcolumns, hfront, by omega⟩
  · rintro ⟨front, back, hcolumns, hfront, hc⟩
    exact ⟨by omega, front, back, hcolumns, hfront⟩

/-- **Columns are refused with the first complaint there is.** -/
theorem widths_eq_error_iff : widths columns = .error e ↔ Complaint columns e := by
  rw [widths]
  cases hfind : columns.find? (· ≤ 0) with
  | some c =>
    obtain ⟨front, back, hcolumns, hfront, hc⟩ := find?_nonpos_eq_some_iff.1 hfind
    constructor
    · rintro ⟨rfl⟩
      exact .invalidColumn hcolumns hfront hc
    · rintro (⟨hcolumns', hfront', hc'⟩ | ⟨hpos, -, -⟩)
      · have hfind' := find?_nonpos_eq_some_iff.2 ⟨_, _, hcolumns', hfront', hc'⟩
        rw [Option.some.inj (hfind.symm.trans hfind')]
      · rw [find?_nonpos_eq_none_iff.2 hpos] at hfind
        cases hfind
  | none =>
    have hpos := find?_nonpos_eq_none_iff.1 hfind
    show widthsFrom 1 columns = .error e ↔ _
    rw [widthsFrom_eq_error_iff, refused_iff_offendsFrom]
    constructor
    · rintro ⟨i, hi, hbefore⟩
      exact .pair hpos hi hbefore
    · rintro (⟨hcolumns, hfront, hc⟩ | ⟨-, hi, hbefore⟩)
      · rw [find?_nonpos_eq_some_iff.2 ⟨_, _, hcolumns, hfront, hc⟩] at hfind
        cases hfind
      · exact ⟨_, hi, hbefore⟩

/-- No pair among accepted ones is at fault. -/
theorem Accepted.not_offendsFrom (h : Accepted next columns ws) (i : Nat) (e : Error) :
    ¬OffendsFrom next columns i e := by
  induction h generalizing i with
  | nil => rintro (⟨-, ⟨⟩, -⟩ | ⟨-, ⟨⟩, -, -, -⟩)
  | single hfirst =>
    rintro (⟨hfree, hget, hlt⟩ | ⟨-, -, hget, -, -⟩)
    · cases i with
      | zero =>
        cases hfree
        cases hget
        omega
      | succ i => cases hget
    · cases i <;> cases hget
  | pair hfirst hlast _ ih =>
    cases i with
    | zero => exact not_offendsFrom_zero_iff.2 ⟨hfirst, hlast⟩ e
    | succ i => exact mt offendsFrom_succ_iff.1 (ih i)

/-- **There are widths for ascending columns, and for no others.** -/
theorem exists_widths_iff : (∃ ws, widths columns = .ok ws) ↔ Ascending columns := by
  constructor
  · rintro ⟨ws, hws⟩
    have haccepted := accepted_of_widths hws
    refine ascending_iff.2 ⟨?_, haccepted.not_offendsFrom⟩
    rw [widths] at hws
    split at hws
    · cases hws
    · exact find?_nonpos_eq_none_iff.1 (by assumption)
  · intro h
    obtain ⟨hpos, hno⟩ := ascending_iff.1 h
    rcases hws : widths columns with e | ws
    · rcases widths_eq_error_iff.1 hws with ⟨rfl, -, hlt⟩ | ⟨-, hi, -⟩
      · exact absurd (hpos _ (List.mem_append_right _ List.mem_cons_self)) (by omega)
      · exact absurd hi (hno _ _)
    · exact ⟨ws, rfl⟩

/-! ## The shape of widths -/

theorem ne_zero_of_mem_gap {w : Int} (h : w ∈ gap next first) : w ≠ 0 := by
  rw [gap] at h
  split at h
  · rw [List.mem_singleton.1 h]
    omega
  · cases h

theorem sum_gap (h : next ≤ first) :
    (((gap next first).map Int.natAbs).sum : Int) = first - next := by
  rw [gap]
  split
  · simp only [List.map_singleton, List.sum_singleton]
    omega
  · simp only [List.map_nil, List.sum_nil]
    omega

/-- At most one width stands before a pair, so that a discarded field is never far. -/
theorem isChain_gap_append {R : Int → Int → Prop} {w : Int} {tail : List Int}
    (h : (w :: tail).IsChain R) (hw : ∀ v, R v w) :
    (gap next first ++ w :: tail).IsChain R := by
  rw [gap]
  split
  · exact List.IsChain.cons_cons (hw _) h
  · exact h

/-- All but the last one of the widths for a pair and what follows it. -/
theorem dropLast_pair {tail : List Int} (h : tail ≠ []) (w : Int) :
    (gap next first ++ w :: tail).dropLast = gap next first ++ w :: tail.dropLast := by
  rw [List.dropLast_append_of_ne_nil (List.cons_ne_nil w tail), List.dropLast_cons_of_ne_nil h]

theorem length_pair_mod_two (first last : Int) (rest : List Int) :
    (first :: last :: rest).length % 2 = rest.length % 2 := by
  rw [List.length_cons, List.length_cons]
  omega

namespace Accepted

/-- The last width says whether every first column has a last one. -/
theorem getLast?_eq (h : Accepted next columns ws) :
    ws.getLast? = some (if columns.length % 2 = 1 then 0 else -1) := by
  induction h with
  | nil => rfl
  | single => simp
  | pair _ _ hrest ih =>
    rw [length_pair_mod_two, ← ih, List.getLast?_append_cons,
      List.getLast?_cons_of_ne_nil hrest.widths_ne_nil]

theorem ne_zero (h : Accepted next columns ws) : ∀ w ∈ ws.dropLast, w ≠ 0 := by
  induction h with
  | nil => nofun
  | single =>
    intro w hw
    rw [List.dropLast_concat] at hw
    exact ne_zero_of_mem_gap hw
  | pair _ _ hrest ih =>
    intro w hw
    rw [dropLast_pair hrest.widths_ne_nil, List.mem_append, List.mem_cons] at hw
    obtain hw | rfl | hw := hw
    · exact ne_zero_of_mem_gap hw
    · omega
    · exact ih w hw

theorem isChain (h : Accepted next columns ws) :
    ws.IsChain fun v w => ¬(0 < v ∧ 0 < w) := by
  induction h with
  | nil => exact List.IsChain.singleton _
  | single => exact isChain_gap_append (List.IsChain.singleton _) fun v h => by omega
  | pair _ _ hrest ih =>
    refine isChain_gap_append ?_ fun v h => by omega
    exact List.isChain_cons.2 ⟨fun w _ h => by omega, ih⟩

/-- **The widths reach up to the last column that is named**, or to before it if everything from
there on is removed.  Whichever it is, it stands at the end of the list. -/
theorem sum_dropLast (h : Accepted next columns ws) {last : Int}
    (hlast : columns.getLast? = some last) :
    ((ws.dropLast.map Int.natAbs).sum : Int) =
      (if columns.length % 2 = 1 then last - 1 else last) - (next - 1) := by
  induction h generalizing last with
  | nil => cases hlast
  | @single next first hfirst =>
    obtain rfl := Option.some.inj hlast
    rw [List.dropLast_concat, sum_gap hfirst]
    show first - next = first - 1 - (next - 1)
    omega
  | @pair next first stop rest tail hfirst hstop hrest ih =>
    have hgap := sum_gap hfirst
    rw [dropLast_pair hrest.widths_ne_nil, List.map_append, List.map_cons, List.sum_append,
      List.sum_cons, length_pair_mod_two, Int.natCast_add, Int.natCast_add, hgap]
    cases rest with
    | nil =>
      cases hrest
      obtain rfl : stop = last := Option.some.inj hlast
      rw [List.dropLast_singleton, List.map_nil, List.sum_nil, List.length_nil, if_neg (by decide)]
      omega
    | cons c rest =>
      have htail := @ih last hlast
      omega

end Accepted

/-! ## Columns and their widths -/

/-- **There are widths for ascending columns, and for no others**, which are refused with the first
complaint there is.  No width but the last one is zero, and that one is zero or minus one as there
is a first column without a last one or not.  Two fields in a row are not both kept, and all fields
but the last one together reach up to the last column that is named, or to before it if everything
from there on is removed. -/
theorem widths_iff_ascending (columns : List Int) :
    ((∃ ws, widths columns = .ok ws) ↔ Ascending columns) ∧
    (∀ e, widths columns = .error e ↔ Complaint columns e) ∧
    ∀ ws, widths columns = .ok ws →
      (∀ w ∈ ws.dropLast, w ≠ 0) ∧
      ws.getLast? = some (if columns.length % 2 = 1 then 0 else -1) ∧
      ws.IsChain (fun v w => ¬(0 < v ∧ 0 < w)) ∧
      ∀ last, columns.getLast? = some last →
        ((ws.dropLast.map Int.natAbs).sum : Int) =
          if columns.length % 2 = 1 then last - 1 else last := by
  refine ⟨exists_widths_iff, fun e => widths_eq_error_iff, fun ws hws => ?_⟩
  have haccepted := accepted_of_widths hws
  refine ⟨haccepted.ne_zero, haccepted.getLast?_eq, haccepted.isChain, fun last hlast => ?_⟩
  rw [haccepted.sum_dropLast hlast, Int.sub_self, Int.sub_zero]

/-- Touching pairs, a single column, and everything from the column after the last pair on. -/
theorem widths_iff_ascending_touching :
    let columns : List Int := [1, 3, 4, 4, 9, 12, 13]
    let ws : List Int := [-3, -1, 4, -4, 0]
    Ascending columns ∧ widths columns = .ok ws ∧ (∀ w ∈ ws.dropLast, w ≠ 0) ∧
      ((ws.dropLast.map Int.natAbs).sum : Int) = 12 ∧
      widths [1, 3, 3, 2, 0] = .error (.invalidColumn 0) ∧
      Complaint [1, 3, 3, 2] (.overlap 3) := by
  intro columns ws
  have hws : widths columns = .ok ws := by decide
  obtain ⟨hiff, -, hshape⟩ := widths_iff_ascending columns
  obtain ⟨hne, -, -, hsum⟩ := hshape ws hws
  have herror : widths [1, 3, 3, 2] = .error (.overlap 3) := by decide
  exact ⟨hiff.1 ⟨ws, hws⟩, hws, hne, (hsum 13 rfl).trans (by decide), by decide,
    ((widths_iff_ascending [1, 3, 3, 2]).2.1 _).1 herror⟩

end ColumnPairs
end ColumnFold
