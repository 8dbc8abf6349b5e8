import ColumnFold.Command.Value
import ColumnFold.WidthList.Token
import Mathlib.Algebra.Ring.Nat
import Mathlib.Data.List.TakeWhile

/-!
# Decimal forms

An integer that is written in decimal is read as itself, wherever the command reads integers: as an
element of a width list, and as the value of an option.  This is so as long as it has no more digits
than are read; a longer one is refused for its digits, and never read as another number.

All depends on one thing, that the digits with which the core library writes numbers have here the
values that they have there (`digit?_of_isDigit`).

* `Numeral.natural_toDigits` — digits of a natural number, read back.
* `WidthList.Token.read_toString` — an integer as a token of a width list.
* `Value.nonNegative_toString` — a natural number as the value of an option.
-/

set_option autoImplicit false

namespace ColumnFold

/-! ## Digits -/

namespace Numeral

theorem digit?_of_isDigit {c : Char} (h : c.isDigit = true) :
    Unicode.digit? c = some (c.toNat - '0'.toNat) := by
  rw [Char.isDigit_iff_toNat] at h
  have hzero : Unicode.digitZeros.find? (fun z => z ≤ c.toNat && c.toNat < z + 10) =
      some '0'.toNat :=
    List.find?_cons_of_pos (by simpa using ⟨h.1, Nat.lt_succ_of_le h.2⟩)
  rw [Unicode.digit?, hzero]
  rfl

theorem isDigit_of_mem_toDigits {n : Nat} {c : Char} (h : c ∈ Nat.toDigits 10 n) :
    c.isDigit = true :=
  Nat.isDigit_of_mem_toDigits (by decide) (by decide) h

theorem notMem_toDigits {n : Nat} {c : Char} (h : c.isDigit = false) : c ∉ Nat.toDigits 10 n :=
  fun hc => by simp [isDigit_of_mem_toDigits hc] at h

/-- The value of digits is what the core library takes them for. -/
theorem foldl_digit?_eq {cs : List Char} (h : ∀ c ∈ cs, c.isDigit = true) (n : Nat) :
    cs.foldl (fun n c => 10 * n + (Unicode.digit? c).getD 0) n = Nat.ofDigitChars 10 cs n := by
  induction cs generalizing n with
  | nil => rfl
  | cons c cs ih =>
    rw [List.foldl_cons, Nat.ofDigitChars_cons, ih fun d hd => h d (List.mem_cons_of_mem c hd),
      digit?_of_isDigit (h c List.mem_cons_self)]
    rfl

theorem value_toDigits (n : Nat) : value (Nat.toDigits 10 n) = n := by
  rw [value, foldl_digit?_eq fun c hc => isDigit_of_mem_toDigits hc, Nat.ofDigitChars_ten_toDigits]

theorem isDigits_toDigits (n : Nat) : isDigits (Nat.toDigits 10 n) = true := by
  rw [isDigits, Bool.and_eq_true]
  refine ⟨by simp, List.all_eq_true.2 fun c hc => ?_⟩
  rw [Unicode.isDigit, digit?_of_isDigit (isDigit_of_mem_toDigits hc)]
  rfl

/-- How many digits a number has that is read. -/
theorem length_toDigits_le_iff (n : Nat) :
    (Nat.toDigits 10 n).length ≤ digitLimit ↔ n < 10 ^ digitLimit :=
  Nat.length_toDigits_le_iff (by decide) (by decide)

/-- **The digits of a natural number are read as that number**, if they are not too many. -/
theorem natural_toDigits (n : Nat) :
    natural (Nat.toDigits 10 n) =
      if n < 10 ^ digitLimit then .ok n
      else .error (.tooManyDigits (Nat.toDigits 10 n).length) := by
  have hlength := length_toDigits_le_iff n
  rw [natural, isDigits_toDigits, value_toDigits]
  by_cases hn : n < 10 ^ digitLimit
  · rw [if_pos hn, if_neg (Nat.not_lt.2 (hlength.2 hn))]
    rfl
  · rw [if_neg hn, if_pos (Nat.lt_of_not_le (mt hlength.1 hn))]
    rfl

/-! ## Integers -/

theorem toList_toString (x : Int) :
    (toString x).toList =
      if 0 ≤ x then Nat.toDigits 10 x.natAbs else '-' :: Nat.toDigits 10 x.natAbs := by
  rw [Int.toString_eq_repr, Int.repr_eq_if]
  split
  · rw [Nat.toList_repr, show x.toNat = x.natAbs by omega]
  · rw [String.toList_append, Nat.toList_repr, show (-x).toNat = x.natAbs by omega]
    rfl

theorem notMem_toString {c : Char} (hdigit : c.isDigit = false) (hminus : c ≠ '-') (x : Int) :
    c ∉ (toString x).toList := by
  rw [toList_toString]
  split
  · exact notMem_toDigits hdigit
  · rw [List.mem_cons, not_or]
    exact ⟨hminus, notMem_toDigits hdigit⟩

/-- In decimal there is no more than one minus sign. -/
theorem toString_ne_dashes (x : Int) : toString x ≠ "--" := fun h => by
  have hminus : '-' ∉ Nat.toDigits 10 x.natAbs := notMem_toDigits (by decide)
  have hlist : (toString x).toList = ['-', '-'] := congrArg String.toList h
  rw [toList_toString] at hlist
  split at hlist
  · exact hminus (by rw [hlist]; exact List.mem_cons_self)
  · exact hminus (by rw [(List.cons.inj hlist).2]; exact List.mem_cons_self)

theorem signed_of_notMem {cs : List Char} (h : '-' ∉ cs) :
    signed cs = (natural cs).map Int.ofNat := by
  rw [signed]
  rintro ds rfl
  exact h List.mem_cons_self

/-- **The decimal form of an integer is read as that integer**, if its digits are not too many. -/
theorem signed_toString (x : Int) :
    signed (toString x).toList =
      if x.natAbs < 10 ^ digitLimit then .ok x
      else .error (.tooManyDigits (Nat.toDigits 10 x.natAbs).length) := by
  rw [toList_toString]
  by_cases hx : 0 ≤ x
  · have habs : Int.ofNat x.natAbs = x := Int.natAbs_of_nonneg hx
    rw [if_pos hx, signed_of_notMem (notMem_toDigits (by decide)), natural_toDigits]
    split
    · exact congrArg Except.ok habs
    · rfl
  · have habs : -(x.natAbs : Int) = x := by omega
    rw [if_neg hx, signed, natural_toDigits]
    split
    · exact congrArg Except.ok habs
    · rfl

theorem chomp_of_notMem {cs : List Char} (h : '\n' ∉ cs) : chomp cs = cs :=
  if_neg fun hlast => h (List.mem_of_getLast? hlast)

/-! ## Natural numbers in the free form -/

theorem isBlank_eq_false_of_isDigit {c : Char} (h : c.isDigit = true) :
    Unicode.isBlank c = false := by
  have hnone : ∀ d < 10, Unicode.blankRanges.contains (48 + d) = false := by decide
  obtain ⟨hlo, hhi⟩ := Char.isDigit_iff_toNat.1 h
  have hd := hnone (c.toNat - '0'.toNat) (Nat.sub_lt_left_of_lt_add hlo (Nat.lt_succ_of_le hhi))
  rwa [show 48 + (c.toNat - '0'.toNat) = c.toNat from Nat.add_sub_cancel' hlo] at hd

/-- What begins and ends with other characters has no blanks around it. -/
theorem trim_toDigits (n : Nat) : trim (Nat.toDigits 10 n) = Nat.toDigits 10 n := by
  have hdrop : ∀ cs : List Char, (∀ c ∈ cs, c.isDigit = true) →
      cs.dropWhile Unicode.isBlank = cs := fun cs h => by
    cases cs with
    | nil => rfl
    | cons c cs =>
      rw [List.dropWhile_cons_of_neg]
      simp [isBlank_eq_false_of_isDigit (h c List.mem_cons_self)]
  rw [trim, hdrop _ fun c hc => isDigit_of_mem_toDigits hc,
    hdrop _ fun c hc => isDigit_of_mem_toDigits (List.mem_reverse.1 hc), List.reverse_reverse]

theorem all_isGroupChar_toDigits (n : Nat) : (Nat.toDigits 10 n).all isGroupChar = true :=
  List.all_eq_true.2 fun c hc => by
    rw [isGroupChar, Unicode.isDigit, digit?_of_isDigit (isDigit_of_mem_toDigits hc)]
    rfl

theorem leadingDigits_toDigits (n : Nat) :
    leadingDigits (Nat.toDigits 10 n) = Nat.toDigits 10 n := by
  have htake : (Nat.toDigits 10 n).takeWhile isGroupChar = Nat.toDigits 10 n :=
    List.takeWhile_eq_self_iff.2 (List.all_eq_true.1 (all_isGroupChar_toDigits n))
  rw [leadingDigits, htake, Separated.fields_of_notMem Nat.underscore_not_in_toDigits]
  simp

/-- **The digits of a natural number are read as that number in the free form**, if they are not too
many. -/
theorem integer_toDigits {n : Nat} (h : n < 10 ^ digitLimit) :
    integer (Nat.toDigits 10 n) = .ok (n : Int) := by
  have hgrouped : grouped (Nat.toDigits 10 n) = .ok n := by
    rw [grouped, leadingDigits_toDigits, all_isGroupChar_toDigits, value_toDigits]
    simp [Nat.not_lt.2 ((length_toDigits_le_iff n).2 h)]
  rw [integer, trim_toDigits]
  split
  · rename_i ds hds
    exact absurd (hds ▸ List.mem_cons_self) (notMem_toDigits (n := n) (c := '-') (by decide))
  · rename_i ds hds
    exact absurd (hds ▸ List.mem_cons_self) (notMem_toDigits (n := n) (c := '+') (by decide))
  · rw [hgrouped]
    rfl

end Numeral

/-! ## Where integers are read -/

namespace WidthList

theorem Token.isInteger_toString (x : Int) : Token.isInteger (toString x).toList = true := by
  rw [Numeral.toList_toString]
  split
  · have hminus := Numeral.notMem_toDigits (n := x.natAbs) (c := '-') (by decide)
    rw [isInteger]
    · exact Numeral.isDigits_toDigits _
    · intro ds hds
      exact hminus (hds ▸ List.mem_cons_self)
  · exact Numeral.isDigits_toDigits _

/-- **An integer in decimal is a token** that stands for it, if its digits are not too many. -/
theorem Token.read_toString (x : Int) :
    Token.read (toString x).toList =
      if x.natAbs < 10 ^ Numeral.digitLimit then .ok [x]
      else .error (.number (toString x) (.tooManyDigits (Nat.toDigits 10 x.natAbs).length)) := by
  have hchomp : Numeral.chomp (toString x).toList = (toString x).toList :=
    Numeral.chomp_of_notMem (Numeral.notMem_toString (by decide) (by decide) x)
  have hne : (toString x).toList.isEmpty = false := by
    rw [Numeral.toList_toString]
    split <;> simp
  rw [Token.read, Token.classify, hchomp, hne, Token.isInteger_toString, Numeral.signed_toString,
    if_neg Bool.false_ne_true, if_pos rfl, String.ofList_toList]
  by_cases hx : x.natAbs < 10 ^ Numeral.digitLimit
  · rw [if_pos hx, if_pos hx]
    rfl
  · rw [if_neg hx, if_neg hx]
    rfl

theorem tokens_toString (xs : List Int) :
    tokens (xs.map toString) = xs.map fun x => (toString x).toList := by
  have hfields : ∀ x : Int, Separated.fields ',' (toString x).toList = [(toString x).toList] :=
    fun x => Separated.fields_of_notMem (Numeral.notMem_toString (by decide) (by decide) x)
  simp only [tokens, List.flatMap_map, hfields, ← List.map_eq_flatMap]

/-- **An integer in decimal is a width list** of that integer alone, if its digits are not too
many. -/
theorem read_toString (x : Int) :
    read [toString x] =
      if x.natAbs < 10 ^ Numeral.digitLimit then .ok [x]
      else .error (.number (toString x) (.tooManyDigits (Nat.toDigits 10 x.natAbs).length)) := by
  have htokens : tokens [toString x] = [(toString x).toList] := tokens_toString [x]
  rw [read, htokens, List.mapM_cons, Token.read_toString]
  split <;> rfl

end WidthList

theorem Value.nonNegative_toString {n : Nat} (h : n < 10 ^ Numeral.digitLimit) :
    nonNegative (toString n) = .ok (n : Int) := by
  have hinteger : integer (toString n) = .ok (n : Int) := by
    rw [integer, Nat.toString_eq_repr, Nat.toList_repr, Numeral.integer_toDigits h]
  rw [nonNegative, hinteger]
  show (if (n : Int) < 0 then .error (.negative (toString n)) else .ok (n : Int)) =
    Except.ok (n : Int)
  exact if_neg (Int.not_lt.2 (Int.natCast_nonneg n))

end ColumnFold
