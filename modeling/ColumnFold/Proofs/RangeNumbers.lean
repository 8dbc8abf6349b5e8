import ColumnFold.Proofs.RangeElements
import Mathlib.Tactic.Ring

/-!
# The numbers of a range

The numbers of a range are defined by what is left up to the last number, in either direction.  Here
they are what a range is meant to be: one group of consecutive numbers after another, the group `k`
beginning `k` steps after the first number, as long as the last number has not been passed
(`Range.numbers_eq`).  Measured from the first number in the direction of the step, the numbers are
the distances `k * stride + i` up to that of the last number (`Range.mem_numbers_iff`), and all
other facts about them are facts about these distances.

* `Range.group` — the consecutive numbers that are taken at a step.
* `Range.numbers_eq` — the numbers are those of the groups.
* `Range.numbers_of_read` — the numbers of a range that is read.
-/

set_option autoImplicit false

namespace ColumnFold
namespace WidthList
namespace Range

/-! ## Groups -/

theorem consecutive_eq (d start : Int) (n : Nat) :
    consecutive d start n = (List.range n).map fun i : Nat => start + d * i := by
  induction n generalizing start with
  | zero => rfl
  | succ n ih =>
    rw [consecutive, ih, List.range_succ_eq_map, List.map_cons, List.map_map]
    refine congrArg₂ List.cons (by simp) (List.map_congr_left fun i _ => ?_)
    simp only [Function.comp_apply, Nat.succ_eq_add_one]
    push_cast
    ring

/-- Groups are taken as often as the stride fits into what is left. -/
theorem groups_eq (d : Int) {stride : Nat} (hstride : 0 < stride) (length : Nat) (start : Int)
    (left : Nat) :
    groups d stride length start left = (List.range (left / stride + 1)).flatMap fun k =>
      consecutive d (start + d * (k * stride : Nat)) (min length (left - k * stride + 1)) := by
  induction left using Nat.strong_induction_on generalizing start with
  | _ left ih =>
    rw [groups, List.range_succ_eq_map, List.flatMap_cons, List.flatMap_map]
    refine congrArg₂ (· ++ ·) (by simp) ?_
    -- what comes after the first group begins one stride later, with one stride less left
    by_cases hle : stride ≤ left
    · rw [if_pos ⟨hstride, hle⟩, ih _ (by omega), Nat.div_eq_sub_div hstride hle]
      refine List.flatMap_congr fun k _ => ?_
      rw [Nat.succ_mul, Nat.add_comm (k * stride), ← Nat.sub_sub]
      push_cast
      ring_nf
    · rw [if_neg fun h => hle h.2, Nat.div_eq_of_lt (Nat.lt_of_not_le hle)]
      rfl

variable (r : Range)

/-- Where the numbers that are taken at a step begin. -/
def base (k : Nat) : Int := r.first + k * r.step

/-- The numbers that are taken at a step: as many as the length says, but none past the last
number. -/
def group (k : Nat) : List Int :=
  (List.range (min r.length ((r.last - r.base k).natAbs + 1))).map fun i : Nat =>
    r.base k + r.step.sign * i

/-! ## Distances from the first number -/

/-- How far the last number is from the first. -/
def span : Nat := (r.last - r.first).natAbs

/-- The integer at a distance from the first number, in the direction of the step. -/
def reached (j : Nat) : Int := r.first + r.step.sign * j

theorem sign_step : r.step.sign = 1 ∨ r.step.sign = -1 := by
  rcases Int.lt_or_gt_of_ne r.step_ne with h | h
  · exact .inr (Int.sign_eq_neg_one_of_neg h)
  · exact .inl (Int.sign_eq_one_of_pos h)

theorem natAbs_step_pos : 0 < r.step.natAbs := Int.natAbs_pos.2 r.step_ne

/-- The last number is reached in the direction of the step. -/
theorem reached_span : r.reached r.span = r.last := by
  rw [reached, span]
  by_cases hne : r.last = r.first
  · rw [hne, Int.sub_self, Int.natAbs_zero, Nat.cast_zero, Int.mul_zero, Int.add_zero]
  · have htowards := r.towards hne
    rcases Int.lt_or_gt_of_ne r.step_ne with h | h
    · rw [Int.sign_eq_neg_one_of_neg h]
      omega
    · rw [Int.sign_eq_one_of_pos h]
      omega

theorem base_eq (k : Nat) : r.base k = r.reached (k * r.step.natAbs) := by
  have hstep := Int.sign_mul_natAbs r.step
  rw [base, reached, Nat.cast_mul, Int.mul_left_comm, hstep]

theorem reached_add (j i : Nat) : r.reached (j + i) = r.reached j + r.step.sign * i := by
  rw [reached, reached, Nat.cast_add, Int.mul_add, Int.add_assoc]

/-- In the direction of the step, integers are in the order of their distances. -/
theorem reached_lt_iff {i j : Nat} :
    r.step.sign * r.reached i < r.step.sign * r.reached j ↔ i < j := by
  rw [reached, reached]
  rcases r.sign_step with h | h <;> rw [h] <;> omega

theorem reached_le_iff {i j : Nat} :
    r.step.sign * r.reached i ≤ r.step.sign * r.reached j ↔ i ≤ j := by
  rw [← Int.not_lt, reached_lt_iff, Nat.not_lt]

theorem natAbs_last_sub {j : Nat} (h : j ≤ r.span) :
    (r.last - r.reached j).natAbs = r.span - j := by
  rw [← reached_span, reached, reached]
  rcases r.sign_step with h | h <;> rw [h] <;> omega

theorem base_le_iff {k : Nat} :
    r.step.sign * r.base k ≤ r.step.sign * r.last ↔ k * r.step.natAbs ≤ r.span := by
  rw [base_eq, ← reached_span, reached_le_iff]

/-- **The numbers of a range are its groups**, up to the last one that does not begin past the last
number. -/
theorem numbers_eq :
    ∃ count, (∀ k : Nat, k < count ↔ r.step.sign * r.base k ≤ r.step.sign * r.last) ∧
      r.numbers = (List.range count).flatMap r.group := by
  have hcount : ∀ k, k < r.span / r.step.natAbs + 1 ↔ k * r.step.natAbs ≤ r.span := fun k => by
    rw [Nat.lt_succ_iff, Nat.le_div_iff_mul_le r.natAbs_step_pos]
  refine ⟨r.span / r.step.natAbs + 1, fun k => by rw [hcount, base_le_iff], ?_⟩
  rw [numbers, groups_eq _ r.natAbs_step_pos]
  refine List.flatMap_congr fun k hk => ?_
  have hle := (hcount k).1 (List.mem_range.1 hk)
  rw [consecutive_eq, group, base_eq, natAbs_last_sub r hle]
  rfl

/-- The numbers of a range by their distances from the first one. -/
theorem mem_numbers_iff {n : Int} :
    n ∈ r.numbers ↔ ∃ k i : Nat, i < r.length ∧ k * r.step.natAbs + i ≤ r.span ∧
      n = r.reached (k * r.step.natAbs + i) := by
  obtain ⟨count, hcount, hnumbers⟩ := r.numbers_eq
  simp only [hnumbers, List.mem_flatMap, List.mem_range, hcount, base_le_iff]
  refine exists_congr fun k => ?_
  by_cases hk : k * r.step.natAbs ≤ r.span
  · rw [and_iff_right hk, group, List.mem_map, base_eq, natAbs_last_sub r hk]
    refine exists_congr fun i => ?_
    rw [List.mem_range, reached_add, eq_comm]
    omega
  · refine ⟨fun h => absurd h.1 hk, ?_⟩
    rintro ⟨i, -, hle, -⟩
    exact absurd (Nat.le_trans (Nat.le_add_right _ i) hle) hk

theorem head?_numbers : r.numbers.head? = some r.first := by
  have hmin : min r.length ((r.last - r.first).natAbs + 1) ≠ 0 := by
    have := r.length_pos
    omega
  obtain ⟨n, hn⟩ := Nat.exists_eq_succ_of_ne_zero hmin
  rw [numbers, groups, hn]
  rfl

theorem numbers_of_last_eq_first (h : r.last = r.first) : r.numbers = [r.first] := by
  have hmin : min r.length (0 + 1) = 1 := Nat.min_eq_right r.length_pos
  have hstride : ¬ (0 < r.step.natAbs ∧ r.step.natAbs ≤ 0) := by omega
  rw [numbers, h, Int.sub_self, groups, Int.natAbs_zero, hmin, if_neg hstride]
  rfl

theorem between_of_mem_numbers {n : Int} (h : n ∈ r.numbers) :
    min r.first r.last ≤ n ∧ n ≤ max r.first r.last := by
  obtain ⟨k, i, -, hle, rfl⟩ := r.mem_numbers_iff.1 h
  rw [← reached_span, reached, reached]
  rcases r.sign_step with h | h <;> rw [h] <;> omega

/-- A step that divides the distance of the last number leads to it. -/
theorem last_mem_numbers (h : r.step ∣ r.last - r.first) : r.last ∈ r.numbers := by
  obtain ⟨k, hk⟩ := Int.natAbs_dvd_natAbs.2 h
  have hspan : k * r.step.natAbs + 0 = r.span := by rw [Nat.add_zero, Nat.mul_comm, span, hk]
  exact r.mem_numbers_iff.2 ⟨k, 0, r.length_pos, Nat.le_of_eq hspan, by rw [hspan, reached_span]⟩

/-- **Groups that do not reach beyond a step** follow each other in order. -/
theorem pairwise_numbers (h : r.length ≤ r.step.natAbs) :
    r.numbers.Pairwise fun m n => r.step.sign * m < r.step.sign * n := by
  obtain ⟨count, hcount, hnumbers⟩ := r.numbers_eq
  have hgroup : ∀ {k n}, n ∈ r.group k → ∃ i < r.length, n = r.reached (k * r.step.natAbs + i) := by
    intro k n hn
    obtain ⟨i, hi, rfl⟩ := List.mem_map.1 hn
    exact ⟨i, by have := List.mem_range.1 hi; omega, by rw [reached_add, base_eq]⟩
  rw [hnumbers, List.pairwise_flatMap]
  constructor
  · intro k hk
    rw [group, List.pairwise_map]
    refine List.pairwise_lt_range.imp fun {i j} hij => ?_
    rw [base_eq, ← reached_add, ← reached_add, reached_lt_iff]
    omega
  · refine List.pairwise_lt_range.imp fun {k l} hkl m hm n hn => ?_
    obtain ⟨i, hi, rfl⟩ := hgroup hm
    obtain ⟨j, hj, rfl⟩ := hgroup hn
    rw [reached_lt_iff]
    calc k * r.step.natAbs + i < (k + 1) * r.step.natAbs := by rw [Nat.succ_mul]; omega
      _ ≤ l * r.step.natAbs := Nat.mul_le_mul_right _ hkl
      _ ≤ l * r.step.natAbs + j := Nat.le_add_right _ j

/-! ## Negation -/

theorem consecutive_neg (d start : Int) (n : Nat) :
    consecutive (-d) (-start) n = (consecutive d start n).map (- ·) := by
  rw [consecutive_eq, consecutive_eq, List.map_map]
  refine List.map_congr_left fun i _ => ?_
  rw [Function.comp_apply, Int.neg_add, Int.neg_mul]

theorem groups_neg (d : Int) (stride length : Nat) (start : Int) (left : Nat) :
    groups (-d) stride length (-start) left = (groups d stride length start left).map (- ·) := by
  induction left using Nat.strong_induction_on generalizing start with
  | _ left ih =>
    rw [groups, groups.eq_def d, List.map_append, consecutive_neg]
    split
    · rename_i h
      rw [← ih _ (by omega), Int.neg_mul, Int.neg_add]
    · rfl

theorem numbers_neg {s : Range} (hfirst : s.first = -r.first) (hlast : s.last = -r.last)
    (hstep : s.step = -r.step) (hlength : s.length = r.length) :
    s.numbers = r.numbers.map (- ·) := by
  have hspan : (s.last - s.first).natAbs = (r.last - r.first).natAbs := by
    rw [hfirst, hlast]
    omega
  rw [numbers, hspan, hfirst, hstep, hlength, Int.sign_neg, Int.natAbs_neg, groups_neg]
  rfl

variable {r}

theorem Legal.neg {first last step : Int} {rest : List (Option Int)}
    (h : Legal (some first :: some last :: some step :: rest)) :
    Legal (some (-first) :: some (-last) :: some (-step) :: rest) where
  length_le := h.length_le
  step s hs := by
    obtain ⟨hne, hsign⟩ := h.step step rfl
    obtain rfl : -step = s := Option.some.inj hs
    change last ≠ first → step.sign = (last - first).sign at hsign
    change -step ≠ 0 ∧ (-last ≠ -first → (-step).sign = (-last - -first).sign)
    refine ⟨by omega, fun hlast => ?_⟩
    rw [Int.sign_neg, hsign (by omega), ← Int.sign_neg]
    congr 1
    omega
  length := h.length

/-! ## Ranges that are read -/

/-- **The numbers of a range that is read.**  The elements have values, which decide the first
number, the last number, the step and the length, with defaults for those left out.  The numbers are
groups of consecutive integers in the direction of the step, one at each step that has not passed
the last number, and none of them passes it.  So there are numbers, beginning with the first number;
they lie between it and the last number, which is among them if the step divides their difference;
and they are in strict order if the length is no larger than the step.  If the first number, the
last number and the step are given, then an equal range with these three negated is accepted, as far
as its digits are read, and has the negated numbers. -/
theorem numbers_of_read {body : List Char} {r : Range} (h : read body = .ok r) :
    ∃ values, HasValues body values ∧
      r.first = firstOf values ∧ r.last = lastOf values ∧ r.step = stepOf values ∧
      (r.length : Int) = lengthOf values ∧
      (∃ count, (∀ k : Nat, k < count ↔ r.step.sign * r.base k ≤ r.step.sign * r.last) ∧
        r.numbers = (List.range count).flatMap r.group) ∧
      r.numbers.head? = some r.first ∧
      (∀ n ∈ r.numbers, min r.first r.last ≤ n ∧ n ≤ max r.first r.last) ∧
      (r.step ∣ r.last - r.first → r.last ∈ r.numbers) ∧
      (r.length ≤ r.step.natAbs →
        r.numbers.Pairwise fun m n => r.step.sign * m < r.step.sign * n) ∧
      ∀ first last step rest body', values = some first :: some last :: some step :: rest →
        HasValues body' (some (-first) :: some (-last) :: some (-step) :: rest) →
        (Numeral.Readable body' → '\n' ∉ body' → ∃ s, read body' = .ok s) ∧
          ∀ s, read body' = .ok s → s.numbers = r.numbers.map (- ·) := by
  obtain ⟨values, hvalues, hlegal, rfl⟩ := of_read h
  refine ⟨values, hvalues, rfl, rfl, rfl, Int.toNat_of_nonneg ?_, numbers_eq _, head?_numbers _,
    fun n => between_of_mem_numbers _, last_mem_numbers _, pairwise_numbers _, ?_⟩
  · have := hlegal.lengthOf_pos
    omega
  rintro first last step rest body' rfl hvalues'
  refine ⟨fun hbody hlf => ?_, fun s hs => ?_⟩
  · exact ⟨_, read_of_legal hbody hlf hlegal.neg ((hasValues_iff hlf).1 hvalues')⟩
  · obtain ⟨values', hvalues'', hlegal', rfl⟩ := of_read hs
    obtain rfl := hvalues''.unique hvalues'
    exact numbers_neg _ rfl rfl rfl rfl

/-- Two numbers at every third step, up and down. -/
theorem numbers_of_read_twos :
    ∃ r s, read "1:10:3:2".toList = .ok r ∧ read "-1:-10:-3:2".toList = .ok s ∧
      r.numbers = [1, 2, 4, 5, 7, 8, 10] ∧ s.numbers = r.numbers.map (- ·) ∧
      r.numbers.Pairwise fun m n => r.step.sign * m < r.step.sign * n := by
  have hr : read "1:10:3:2".toList =
      .ok ⟨1, 10, 3, 2, by decide, by decide, by decide⟩ := by rfl
  have hs : read "-1:-10:-3:2".toList =
      .ok ⟨-1, -10, -3, 2, by decide, by decide, by decide⟩ := by rfl
  have hgiven : HasValues "1:10:3:2".toList [some 1, some 10, some 3, some 2] :=
    .cons (.integer (.digits rfl)) <| .cons (.integer (.digits rfl)) <|
      .cons (.integer (.digits rfl)) <| .cons (.integer (.digits rfl)) .nil
  have hnegated : HasValues "-1:-10:-3:2".toList [some (-1), some (-10), some (-3), some 2] :=
    .cons (.integer (.minus rfl)) <| .cons (.integer (.minus rfl)) <|
      .cons (.integer (.minus rfl)) <| .cons (.integer (.digits rfl)) .nil
  obtain ⟨values, hvalues, -, -, -, -, -, -, -, -, hpairwise, hneg⟩ := numbers_of_read hr
  refine ⟨_, _, hr, hs, ?_, ?_, hpairwise (by decide)⟩
  · have hsign : Int.sign 3 = 1 := rfl
    simp [numbers, groups, consecutive, hsign]
  · exact (hneg 1 10 3 [some 2] _ (hvalues.unique hgiven) hnegated).2 _ hs

end Range
end WidthList
end ColumnFold
