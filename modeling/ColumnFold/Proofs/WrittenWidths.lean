import ColumnFold.Proofs.RangeElements

/-!
# Width lists in decimal

A list of integers is written as a width list in decimal, with commas between the integers, and may
be spread over several arguments.  It is read back as the same list, as long as no integer has more
digits than are read; otherwise the first such integer is what is wrong with it.

Where an argument ends and the next one begins is of no account: a comma says the same
(`WidthList.tokens_intercalate`).  This holds of all arguments, also of those that are refused and
of those with nothing before or after a comma.  So lists need only be looked at with one integer in
each argument, where writing and reading are those of single integers.

* `WidthList.write` — the decimal form of a list of integers.
* `WidthList.tokens_intercalate` — commas instead of several arguments.
* `WidthList.read_map_write` — width lists in decimal, read back.
-/

set_option autoImplicit false

namespace ColumnFold

theorem Separated.fields_intercalate {α : Type} [DecidableEq α] (sep : α) {xss : List (List α)}
    (hne : xss ≠ []) : fields sep (List.intercalate [sep] xss) = xss.flatMap (fields sep) := by
  induction xss with
  | nil => exact absurd rfl hne
  | cons xs xss ih =>
    rcases xss with _ | ⟨ys, xss⟩
    · rw [List.intercalate_singleton, List.flatMap_singleton]
    · rw [List.intercalate_cons_cons, List.append_assoc, List.singleton_append, fields_append_sep,
        ih (List.cons_ne_nil ys xss)]
      exact List.flatMap_cons.symm

namespace WidthList

/-! ## Arguments -/

/-- **Commas instead of several arguments** leave the tokens as they are. -/
theorem tokens_intercalate {args : List String} (hne : args ≠ []) :
    tokens [",".intercalate args] = tokens args := by
  have hlist : (",".intercalate args).toList = List.intercalate [','] (args.map String.toList) :=
    String.toList_intercalate
  have hmap : args.map String.toList ≠ [] := mt List.map_eq_nil_iff.1 hne
  rw [tokens, List.flatMap_singleton, hlist, Separated.fields_intercalate ',' hmap, tokens,
    List.flatMap_map]

/-- The decimal form of a list of integers. -/
def write (widths : List Int) : String := ",".intercalate (widths.map toString)

/-- Lists in several arguments have the tokens of their integers, one by one. -/
theorem tokens_write {groups : List (List Int)} (hne : ∀ g ∈ groups, g ≠ []) :
    tokens (groups.map write) = tokens (groups.flatten.map toString) := by
  induction groups with
  | nil => rfl
  | cons g groups ih =>
    have hg : g.map toString ≠ [] := mt List.map_eq_nil_iff.1 (hne g List.mem_cons_self)
    have hrest := ih fun g' hg' => hne g' (List.mem_cons_of_mem g hg')
    have hfirst : tokens [write g] = tokens (g.map toString) := tokens_intercalate hg
    rw [tokens, List.flatMap_singleton] at hfirst
    rw [List.map_cons, tokens, List.flatMap_cons, hfirst, ← tokens, hrest, List.flatten_cons,
      List.map_append]
    exact List.flatMap_append.symm

/-! ## Reading back -/

theorem read_map_toString {xs : List Int} (h : ∀ x ∈ xs, x.natAbs < 10 ^ Numeral.digitLimit) :
    read (xs.map toString) = .ok xs := by
  have hlists : (xs.map fun x => (toString x).toList).mapM Token.read = .ok (xs.map ([·])) := by
    rw [mapM_eq_ok_iff, List.forall₂_map_left_iff, List.forall₂_map_right_iff, List.forall₂_same]
    intro x hx
    rw [Token.read_toString, if_pos (h x hx)]
  rw [read, tokens_toString, hlists]
  exact congrArg Except.ok (List.flatMap_singleton' xs)

/-- The first integer that is not read as a token is what is wrong with the list. -/
theorem read_map_toString_of_lt {front back : List Int} {x : Int}
    (h : ∀ y ∈ front, y.natAbs < 10 ^ Numeral.digitLimit)
    (hx : 10 ^ Numeral.digitLimit ≤ x.natAbs) :
    read ((front ++ x :: back).map toString) =
      .error (.number (toString x) (.tooManyDigits (Nat.toDigits 10 x.natAbs).length)) := by
  rw [read, tokens_toString, bind_pure_eq_error, mapM_eq_error_iff]
  refine ⟨_, _, _, List.map_append, fun t ht => ?_, ?_⟩
  · obtain ⟨y, hy, rfl⟩ := List.mem_map.1 ht
    exact ⟨[y], by rw [Token.read_toString, if_pos (h y hy)]⟩
  · rw [Token.read_toString, if_neg (Nat.not_lt.2 hx)]

/-- **Width lists in decimal are read back.**  However a list of integers is spread over arguments,
with at least one integer in each, it is read as the same list if no integer has more digits than
are read; otherwise it is refused for the first such integer.  Any arguments at all are read like
the single argument that they make with commas between them. -/
theorem read_map_write :
    (∀ groups : List (List Int), (∀ g ∈ groups, g ≠ []) →
      ((∀ x ∈ groups.flatten, x.natAbs < 10 ^ Numeral.digitLimit) →
        read (groups.map write) = .ok groups.flatten) ∧
      ∀ front x back, groups.flatten = front ++ x :: back →
        (∀ y ∈ front, y.natAbs < 10 ^ Numeral.digitLimit) → 10 ^ Numeral.digitLimit ≤ x.natAbs →
        read (groups.map write) =
          .error (.number (toString x) (.tooManyDigits (Nat.toDigits 10 x.natAbs).length))) ∧
    ∀ args, args ≠ [] → read [",".intercalate args] = read args := by
  refine ⟨fun groups hne => ?_, fun args hne => ?_⟩
  · have hread : read (groups.map write) = read (groups.flatten.map toString) := by
      rw [read, tokens_write hne, ← read]
    rw [hread]
    refine ⟨read_map_toString, fun front x back hxs hfront hx => ?_⟩
    rw [hxs, read_map_toString_of_lt hfront hx]
  · rw [read, tokens_intercalate hne, ← read]

/-- Four integers in three arguments, and a token that is refused in the second of two. -/
theorem read_map_write_three_arguments :
    let groups : List (List Int) := [[80, -3], [0], [-12]]
    (∀ g ∈ groups, g ≠ []) ∧ groups.map write = ["80,-3", "0", "-12"] ∧
      read ["80,-3", "0", "-12"] = .ok [80, -3, 0, -12] ∧
      read ["80,-3,0,-12"] = .ok [80, -3, 0, -12] ∧
      read ["4,", "1:0:2,x"] = .error (.needsDecrement "1:0:2") ∧
      read ["4,,1:0:2,x"] = .error (.needsDecrement "1:0:2") := by
  intro groups
  have hne : ∀ g ∈ groups, g ≠ [] := by decide
  have hwrite : groups.map write = ["80,-3", "0", "-12"] := by decide +kernel
  have hsmall : ∀ x ∈ groups.flatten, x.natAbs < 10 ^ 2 := by decide
  have hlimit : 10 ^ 2 ≤ 10 ^ Numeral.digitLimit :=
    Nat.pow_le_pow_right (by decide : 0 < 10) (by decide)
  have hread := (read_map_write.1 groups hne).1 fun x hx => Nat.lt_of_lt_of_le (hsmall x hx) hlimit
  rw [hwrite] at hread
  have hjoined := read_map_write.2 ["80,-3", "0", "-12"] (List.cons_ne_nil _ _)
  have hrefused : read ["4,", "1:0:2,x"] = .error (.needsDecrement "1:0:2") := by rfl
  have hjoined' := read_map_write.2 ["4,", "1:0:2,x"] (List.cons_ne_nil _ _)
  exact ⟨hne, hwrite, hread, hjoined.trans hread, hrefused, hjoined'.trans hrefused⟩

/-- **A width list in decimal that is refused**: its only integer has one digit too many. -/
theorem read_map_write_ten_pow :
    let x : Int := (10 ^ Numeral.digitLimit : Nat)
    read [write [x]] =
        .error (.number (toString x) (.tooManyDigits (Nat.toDigits 10 x.natAbs).length)) ∧
      read [write [x]] ≠ .ok [x] := by
  intro x
  have hwrite : write [x] = toString x := String.intercalate_singleton
  have hlong : ¬ x.natAbs < 10 ^ Numeral.digitLimit := by
    rw [Int.natAbs_natCast]
    exact Nat.lt_irrefl _
  rw [hwrite, read_toString, if_neg hlong]
  exact ⟨rfl, nofun⟩

end WidthList
end ColumnFold
