import ColumnFold.Proofs.Decimal
import ColumnFold.Proofs.Refusals
import Mathlib.Data.List.Forall2

/-!
# The elements of a range

A range is written as elements between colons, each of which is an integer or left out.  This file
says what elements are without reading them: `Numeral.Spells` relates a text to the integer that it
spells, `Range.Element` a text to the value of an element, and `Range.Legal` says of the values of
elements that there is a range with them.  Reading a range is then described twice.  If there is a
range, its elements have values from which it is made (`Range.of_read`), also where a line feed is
passed over at the end of an element.  And if a text without line feeds has elements with values, it
is read as the range with these values, or refused with a complaint that names it
(`Range.read_of_legal`, `Range.exists_read_error`).

Numbers are only read up to a limited number of digits.  Texts that keep to the limit are
`Numeral.Readable`.
-/

set_option autoImplicit false

namespace ColumnFold

theorem map_eq_ok_iff {ε α β : Type} {x : Except ε α} {f : α → β} {b : β} :
    x.map f = .ok b ↔ ∃ a, x = .ok a ∧ f a = b := by
  rcases x with _ | _ <;> simp [Except.map]

theorem mapM_eq_ok_iff {ε α β : Type} {f : α → Except ε β} {as : List α} {bs : List β} :
    as.mapM f = .ok bs ↔ List.Forall₂ (fun a b => f a = .ok b) as bs := by
  induction as generalizing bs with
  | nil =>
    constructor
    · rintro ⟨rfl⟩
      exact .nil
    · rintro ⟨⟩
      rfl
  | cons a as ih =>
    rw [List.mapM_cons, bind_eq_ok]
    constructor
    · rintro ⟨b, hb, h⟩
      obtain ⟨bs', hbs, ⟨rfl⟩⟩ := bind_eq_ok.1 h
      exact .cons hb (ih.1 hbs)
    · rintro (_ | ⟨hb, hbs⟩)
      exact ⟨_, hb, bind_eq_ok.2 ⟨_, ih.2 hbs, rfl⟩⟩

theorem exists_forall₂_iff {α β : Type} {R : α → β → Prop} {as : List α} :
    (∃ bs, List.Forall₂ R as bs) ↔ ∀ a ∈ as, ∃ b, R a b := by
  induction as with
  | nil => exact ⟨fun _ => nofun, fun _ => ⟨[], .nil⟩⟩
  | cons a as ih =>
    rw [List.forall_mem_cons, ← ih]
    constructor
    · rintro ⟨_, _ | ⟨hb, hbs⟩⟩
      exact ⟨⟨_, hb⟩, _, hbs⟩
    · rintro ⟨⟨b, hb⟩, bs, hbs⟩
      exact ⟨b :: bs, .cons hb hbs⟩

/-! ## Integers -/

namespace Numeral

/-- A text spells an integer: it is digits, perhaps after a minus sign. -/
inductive Spells : List Char → Int → Prop
  /-- Digits alone. -/
  | digits {ds : List Char} (h : isDigits ds = true) : Spells ds (value ds)
  /-- Digits after a minus sign. -/
  | minus {ds : List Char} (h : isDigits ds = true) : Spells ('-' :: ds) (-(value ds : Int))

/-- Nowhere in a text there are more digits in a row than are read. -/
def Readable (cs : List Char) : Prop :=
  ∀ ds, ds <:+: cs → isDigits ds = true → ds.length ≤ digitLimit

variable {cs ds : List Char} {n : Int}

theorem Readable.of_isInfix (h : Readable cs) (hds : ds <:+: cs) : Readable ds :=
  fun es hes => h es (hes.trans hds)

theorem readable_of_length_le (h : cs.length ≤ digitLimit) : Readable cs :=
  fun _ hds _ => hds.length_le.trans h

theorem isDigits_iff : isDigits cs = true ↔ cs ≠ [] ∧ ∀ c ∈ cs, Unicode.isDigit c = true := by
  simp [isDigits]

theorem isDigits_cons_of_not {c : Char} (hc : Unicode.isDigit c = false) (cs : List Char) :
    isDigits (c :: cs) = false := by
  rw [isDigits, List.all_cons, hc]
  rfl

theorem natural_of_isDigits (h : isDigits ds = true) (hds : Readable ds) :
    natural ds = .ok (value ds) :=
  natural_eq_ok_iff.2 ⟨h, hds ds (List.infix_refl ds) h, rfl⟩

theorem spells_of_signed (h : signed cs = .ok n) : Spells cs n := by
  rw [signed.eq_def] at h
  split at h
  · obtain ⟨m, hm, rfl⟩ := map_eq_ok_iff.1 h
    obtain ⟨k, hk, ⟨rfl⟩⟩ := bind_eq_ok.1 hm
    obtain ⟨hdigits, -, rfl⟩ := natural_eq_ok_iff.1 hk
    exact .minus hdigits
  · obtain ⟨m, hm, rfl⟩ := map_eq_ok_iff.1 h
    obtain ⟨hdigits, -, rfl⟩ := natural_eq_ok_iff.1 hm
    exact .digits hdigits

/-- What spells an integer is read as it, as long as it is readable. -/
theorem signed_of_spells (h : Spells cs n) (hcs : Readable cs) : signed cs = .ok n := by
  cases h with
  | digits h =>
    have hminus : '-' ∉ cs := fun hmem =>
      absurd ((isDigits_iff.1 h).2 '-' hmem) (by decide)
    rw [signed_of_notMem hminus, natural_of_isDigits h hcs]
    rfl
  | minus h =>
    rw [signed, natural_of_isDigits h (hcs.of_isInfix (List.suffix_cons _ _).isInfix)]
    rfl

theorem Spells.unique {m : Int} (h : Spells cs n) (h' : Spells cs m) : n = m := by
  have hnot : ∀ ds, isDigits ('-' :: ds) = false := isDigits_cons_of_not (by decide)
  cases h with
  | digits h =>
    cases h' with
    | digits => rfl
    | minus => exact absurd h (by rw [hnot]; exact Bool.false_ne_true)
  | minus h =>
    cases h' with
    | digits h' => exact absurd h' (by rw [hnot]; exact Bool.false_ne_true)
    | minus => rfl

theorem Spells.isDigit_or (h : Spells cs n) {c : Char} (hc : c ∈ cs) :
    Unicode.isDigit c = true ∨ c = '-' := by
  cases h with
  | digits h => exact .inl ((isDigits_iff.1 h).2 c hc)
  | minus h =>
    obtain rfl | hc := List.mem_cons.1 hc
    · exact .inr rfl
    · exact .inl ((isDigits_iff.1 h).2 c hc)

theorem Spells.ne_nil (h : Spells cs n) : cs ≠ [] := by
  cases h with
  | digits h => exact (isDigits_iff.1 h).1
  | minus h => exact List.cons_ne_nil _ _

end Numeral

/-! ## Fields -/

namespace Separated

variable {α : Type} [DecidableEq α] {sep : α} {xs f : List α}

/-- A field is a piece of the list, and the first one is a piece at its beginning. -/
theorem isPrefix_and_isInfix_of_fields {fs : List (List α)} (h : fields sep xs = f :: fs) :
    f <+: xs ∧ ∀ g ∈ f :: fs, g <:+: xs := by
  induction xs generalizing f fs with
  | nil =>
    obtain ⟨rfl, rfl⟩ := List.cons.inj h
    exact ⟨List.prefix_refl [], fun g hg => List.mem_singleton.1 hg ▸ List.infix_refl []⟩
  | cons x xs ih =>
    have hlater : ∀ {g : List α}, g <:+: xs → g <:+: x :: xs := fun hg =>
      hg.trans (List.suffix_cons x xs).isInfix
    rw [fields] at h
    obtain ⟨g, gs, hrest⟩ := List.exists_cons_of_ne_nil (fields_ne_nil sep xs)
    obtain ⟨hfirst, hall⟩ := ih hrest
    split at h
    · obtain ⟨rfl, rfl⟩ := List.cons.inj h
      refine ⟨List.nil_prefix, fun e he => ?_⟩
      obtain rfl | he := List.mem_cons.1 he
      · exact List.nil_prefix.isInfix
      · exact hlater (hall e (hrest ▸ he))
    · rw [hrest] at h
      obtain ⟨rfl, rfl⟩ := List.cons.inj h
      have hcons : x :: g <+: x :: xs := (List.prefix_cons_inj x).2 hfirst
      refine ⟨hcons, fun e he => ?_⟩
      obtain rfl | he := List.mem_cons.1 he
      · exact hcons.isInfix
      · exact hlater (hall e (List.mem_cons_of_mem g he))

theorem isInfix_of_mem_fields (h : f ∈ fields sep xs) : f <:+: xs := by
  obtain ⟨g, gs, hfields⟩ := List.exists_cons_of_ne_nil (fields_ne_nil sep xs)
  exact (isPrefix_and_isInfix_of_fields hfields).2 f (hfields ▸ h)

theorem eq_or_mem_fields (sep : α) {x : α} (h : x ∈ xs) : x = sep ∨ ∃ f ∈ fields sep xs, x ∈ f := by
  induction xs with
  | nil => cases h
  | cons y xs ih =>
    obtain ⟨g, gs, hrest⟩ := List.exists_cons_of_ne_nil (fields_ne_nil sep xs)
    rw [hrest] at ih
    obtain rfl | hx := List.mem_cons.1 h
    · by_cases hsep : x = sep
      · exact .inl hsep
      · rw [fields, if_neg hsep, hrest]
        exact .inr ⟨x :: g, List.mem_cons_self, List.mem_cons_self⟩
    · obtain hsep | ⟨f, hf, hxf⟩ := ih hx
      · exact .inl hsep
      · rw [fields, hrest]
        split
        · exact .inr ⟨f, List.mem_cons_of_mem [] hf, hxf⟩
        · obtain rfl | hf := List.mem_cons.1 hf
          · exact .inr ⟨y :: f, List.mem_cons_self, List.mem_cons_of_mem y hxf⟩
          · exact .inr ⟨f, List.mem_cons_of_mem _ hf, hxf⟩

end Separated

namespace WidthList
namespace Range

/-! ## Elements -/

/-- A text is an element of a range: it is left out, or it spells an integer. -/
inductive Element : List Char → Option Int → Prop
  /-- Nothing. -/
  | omitted : Element [] none
  /-- An integer. -/
  | integer {cs : List Char} {n : Int} (h : Numeral.Spells cs n) : Element cs (some n)

variable {cs body : List Char} {v : Option Int}

/-- What is read as an element is one, perhaps before a line feed. -/
theorem element_of_read (h : element cs = .ok v) : Element (Numeral.chomp cs) v := by
  rw [element] at h
  split at h
  · rename_i hempty
    obtain rfl := List.isEmpty_iff.1 hempty
    obtain rfl := Except.ok.inj h
    exact .omitted
  · split at h
    · rename_i n hn
      obtain rfl := Except.ok.inj h
      exact .integer (Numeral.spells_of_signed hn)
    · cases h

/-- An element is read as its value. -/
theorem read_of_element (h : Element cs v) (hcs : Numeral.Readable cs) (hlf : '\n' ∉ cs) :
    element cs = .ok v := by
  rw [element, Numeral.chomp_of_notMem hlf]
  cases h with
  | omitted => rfl
  | integer h =>
    rw [if_neg (by simpa using h.ne_nil), Numeral.signed_of_spells h hcs]

/-- Without line feeds, the check of a text says whether it is an element. -/
theorem isElement_iff (hlf : '\n' ∉ cs) : isElement cs = true ↔ ∃ v, Element cs v := by
  rw [isElement, Numeral.chomp_of_notMem hlf, Bool.and_eq_true, bne_iff_ne]
  have hdigits : ∀ ds : List Char, ds.all Unicode.isDigit = true → ds ≠ [] →
      Numeral.isDigits ds = true := fun ds hall hne =>
    Numeral.isDigits_iff.2 ⟨hne, List.all_eq_true.1 hall⟩
  constructor
  · rintro ⟨hne, h⟩
    split at h
    · rename_i ds
      exact ⟨_, .integer (.minus (hdigits ds h fun hds => hne (by rw [hds])))⟩
    · by_cases hcs : cs = []
      · exact ⟨none, hcs ▸ .omitted⟩
      · exact ⟨_, .integer (.digits (hdigits cs h hcs))⟩
  · rintro ⟨v, _ | ⟨⟨h⟩ | ⟨h⟩⟩⟩
    · exact ⟨by decide, rfl⟩
    · obtain ⟨hne, hall⟩ := Numeral.isDigits_iff.1 h
      have hminus : '-' ∉ cs := fun hmem => absurd (hall '-' hmem) (by decide)
      refine ⟨fun hcs => hminus (hcs ▸ List.mem_cons_self), ?_⟩
      split
      · exact absurd List.mem_cons_self hminus
      · exact List.all_eq_true.2 hall
    · obtain ⟨hne, hall⟩ := Numeral.isDigits_iff.1 h
      exact ⟨fun hcs => hne (List.cons.inj hcs).2, List.all_eq_true.2 hall⟩

theorem Element.unique {w : Option Int} (h : Element cs v) (h' : Element cs w) : v = w := by
  cases h with
  | omitted =>
    cases h' with
    | omitted => rfl
    | integer h' => exact absurd rfl h'.ne_nil
  | integer h =>
    cases h' with
    | omitted => exact absurd rfl h.ne_nil
    | integer h' => rw [h.unique h']

/-- The elements of a text have values.  A line feed at the end of an element is passed over. -/
def HasValues (body : List Char) (values : List (Option Int)) : Prop :=
  List.Forall₂ (fun cs v => Element (Numeral.chomp cs) v) (Separated.fields ':' body) values

theorem HasValues.unique {values values' : List (Option Int)} (h : HasValues body values)
    (h' : HasValues body values') : values = values' := by
  have hunique : Relator.RightUnique fun cs v => Element (Numeral.chomp cs) v :=
    fun _ _ _ => Element.unique
  exact List.right_unique_forall₂' hunique h h'

theorem hasValues_iff {values : List (Option Int)} (hlf : '\n' ∉ body) :
    HasValues body values ↔ List.Forall₂ Element (Separated.fields ':' body) values := by
  have hfield : ∀ cs ∈ Separated.fields ':' body, Numeral.chomp cs = cs := fun cs hcs =>
    Numeral.chomp_of_notMem fun hmem => hlf ((Separated.isInfix_of_mem_fields hcs).subset hmem)
  constructor
  · intro h
    exact ((List.forall₂_and_left _ _).2 ⟨hfield, h⟩).imp fun cs v hcs => hcs.1 ▸ hcs.2
  · intro h
    exact ((List.forall₂_and_left _ _).2 ⟨hfield, h⟩).imp fun cs v hcs => hcs.1.symm ▸ hcs.2

/-! ## Values -/

section
variable (values : List (Option Int))

/-- The first number of a range, 1 if it is left out. -/
def firstOf : Int := (values.getD 0 none).getD 1

/-- The last number of a range, the first one if it is left out. -/
def lastOf : Int := (values.getD 1 none).getD (firstOf values)

/-- The step of a range, one towards the last number if it is left out. -/
def stepOf : Int := (values.getD 2 none).getD (if lastOf values < firstOf values then -1 else 1)

/-- How many numbers a range takes at every step, one if it is left out. -/
def lengthOf : Int := (values.getD 3 none).getD 1

/-- There is a range with these values of its elements. -/
structure Legal : Prop where
  /-- There are no more than four elements. -/
  length_le : values.length ≤ 4
  /-- A step that is given leads from the first number towards the last one. -/
  step : ∀ s, values.getD 2 none = some s →
    s ≠ 0 ∧ (lastOf values ≠ firstOf values → s.sign = (lastOf values - firstOf values).sign)
  /-- A length that is given is positive. -/
  length : ∀ n, values.getD 3 none = some n → 1 ≤ n

end

variable {values : List (Option Int)}

theorem sign_eq_sign_iff {s d : Int} (hs : s ≠ 0) (hd : d ≠ 0) :
    s.sign = d.sign ↔ (0 < s ↔ 0 < d) := by
  rcases Int.lt_or_gt_of_ne hs with hs | hs <;> rcases Int.lt_or_gt_of_ne hd with hd | hd <;>
    simp [Int.sign_eq_neg_one_of_neg, Int.sign_eq_one_of_pos, hs, hd, Int.not_lt.2, Int.le_of_lt]

/-- What is asked of a step that is given is what a range promises of it. -/
theorem step_iff {first last s : Int} :
    (s ≠ 0 ∧ (last ≠ first → s.sign = (last - first).sign)) ↔
      s ≠ 0 ∧ (last ≠ first → (0 < s ↔ first < last)) := by
  refine and_congr_right fun hs => forall_congr' fun hne => ?_
  rw [sign_eq_sign_iff hs (by omega), Int.sub_pos]

theorem Legal.stepOf_spec (h : Legal values) :
    stepOf values ≠ 0 ∧
      (lastOf values ≠ firstOf values → (0 < stepOf values ↔ firstOf values < lastOf values)) := by
  rw [stepOf]
  rcases hstep : values.getD 2 none with _ | s
  · rw [Option.getD_none]
    split <;> omega
  · exact step_iff.1 (h.step s hstep)

theorem Legal.lengthOf_pos (h : Legal values) : 1 ≤ lengthOf values := by
  rw [lengthOf]
  rcases hlength : values.getD 3 none with _ | n
  · exact Int.le_refl 1
  · exact h.length n hlength

/-- The range with legal values of its elements. -/
def Legal.range (h : Legal values) : Range where
  first := firstOf values
  last := lastOf values
  step := stepOf values
  length := (lengthOf values).toNat
  step_ne := h.stepOf_spec.1
  length_pos := Int.pos_iff_toNat_pos.1 h.lengthOf_pos
  towards := h.stepOf_spec.2

/-! ## Ranges -/

theorem stepFor_eq_ok_iff {text : String} {first last : Int} {step : Option Int}
    {s : { s : Int // s ≠ 0 ∧ (last ≠ first → (0 < s ↔ first < last)) }} :
    stepFor text first last step = .ok s ↔
      (∀ s', step = some s' → s' ≠ 0 ∧ (last ≠ first → (0 < s' ↔ first < last))) ∧
        s.1 = step.getD (if last < first then -1 else 1) := by
  rcases step with _ | s'
  · rw [stepFor, Option.getD_none]
    split <;> simp [Subtype.ext_iff, eq_comm]
  · rw [stepFor, Option.getD_some]
    split
    · rename_i hzero
      exact ⟨nofun, fun h => absurd hzero (h.1 s' rfl).1⟩
    · split
      · rename_i hzero htowards
        rw [Except.ok.injEq, Subtype.ext_iff, eq_comm]
        exact (and_iff_right fun s'' hs => Option.some.inj hs ▸ ⟨hzero, htowards⟩).symm
      · rename_i htowards
        split <;> exact ⟨nofun, fun h => absurd (h.1 s' rfl).2 htowards⟩

theorem lengthFor_eq_ok_iff {text : String} {length : Option Int} {n : { n : Nat // 0 < n }} :
    lengthFor text length = .ok n ↔
      (∀ m, length = some m → 1 ≤ m) ∧ n.1 = (length.getD 1).toNat := by
  rcases length with _ | m
  · rw [lengthFor, Except.ok.injEq, Subtype.ext_iff, eq_comm]
    exact (and_iff_right nofun).symm
  · rw [lengthFor]
    split
    · rename_i hlt
      exact ⟨nofun, fun h => absurd hlt (Int.not_lt.2 (h.1 m rfl))⟩
    · rename_i hlt
      rw [Except.ok.injEq, Subtype.ext_iff, eq_comm]
      exact (and_iff_right fun m' hm => Option.some.inj hm ▸ Int.not_lt.1 hlt).symm

theorem ofElements_eq_ok_iff (text : String) (hlen : values.length ≤ 4) {r : Range} :
    ofElements text (values.getD 0 none) (values.getD 1 none) (values.getD 2 none)
      (values.getD 3 none) = .ok r ↔ ∃ h : Legal values, r = h.range := by
  constructor
  · intro h
    obtain ⟨s, hs, h⟩ := bind_eq_ok.1 h
    obtain ⟨n, hn, h⟩ := bind_eq_ok.1 h
    obtain rfl := Except.ok.inj h
    obtain ⟨hstep, hs⟩ := stepFor_eq_ok_iff.1 hs
    obtain ⟨hlength, hn⟩ := lengthFor_eq_ok_iff.1 hn
    refine ⟨⟨hlen, fun s' hs' => step_iff.2 (hstep s' hs'), hlength⟩, ?_⟩
    rw [Legal.range, Range.mk.injEq]
    exact ⟨rfl, rfl, hs, hn⟩
  · rintro ⟨h, rfl⟩
    have hstep : stepFor text (firstOf values) (lastOf values) (values.getD 2 none) =
        .ok ⟨stepOf values, h.stepOf_spec⟩ :=
      stepFor_eq_ok_iff.2 ⟨fun s' hs' => step_iff.1 (h.step s' hs'), rfl⟩
    have hlength : lengthFor text (values.getD 3 none) =
        .ok ⟨(lengthOf values).toNat, Int.pos_iff_toNat_pos.1 h.lengthOf_pos⟩ :=
      lengthFor_eq_ok_iff.2 ⟨h.length, rfl⟩
    exact bind_eq_ok.2 ⟨_, hstep, bind_eq_ok.2 ⟨_, hlength, rfl⟩⟩

/-- **A range that is read has elements with values**, and is made from them. -/
theorem of_read {r : Range} (h : read body = .ok r) :
    ∃ values, HasValues body values ∧ ∃ hlegal : Legal values, r = hlegal.range := by
  rw [read] at h
  split at h
  · cases h
  · rename_i hlen
    split at h
    · cases h
    · obtain ⟨values, hvalues, h⟩ := bind_eq_ok.1 h
      have hvalues := mapM_eq_ok_iff.1 hvalues
      have hlen : values.length ≤ 4 := hvalues.length_eq ▸ Nat.not_lt.1 hlen
      exact ⟨values, hvalues.imp fun cs v => element_of_read, (ofElements_eq_ok_iff _ hlen).1 h⟩

end Range

/-! ## Complaints -/

/-- The range that a complaint is about. -/
def Error.range? : Error → Option String
  | .tooManyElements range => some range
  | .invalidElement range _ => some range
  | .zeroStep range => some range
  | .needsDecrement range => some range
  | .needsIncrement range => some range
  | .illegalLength range _ => some range
  | _ => none

namespace Range

variable {body : List Char} {values : List (Option Int)}

theorem range?_of_stepFor {text : String} {first last : Int} {step : Option Int} {e : Error}
    (h : stepFor text first last step = .error e) : e.range? = some text := by
  rcases step with _ | s
  · rw [stepFor] at h
    split at h <;> cases h
  · rw [stepFor] at h
    split at h
    · cases h
      rfl
    · split at h
      · cases h
      · split at h <;> cases h <;> rfl

theorem range?_of_lengthFor {text : String} {length : Option Int} {e : Error}
    (h : lengthFor text length = .error e) : e.range? = some text := by
  rcases length with _ | n
  · cases h
  · rw [lengthFor] at h
    split at h <;> cases h
    rfl

theorem range?_of_ofElements {text : String} {first last step length : Option Int} {e : Error}
    (h : ofElements text first last step length = .error e) : e.range? = some text := by
  rw [ofElements] at h
  rcases hstep : stepFor text (first.getD 1) (last.getD (first.getD 1)) step with e' | s
  · rw [hstep] at h
    obtain rfl := Except.error.inj h
    exact range?_of_stepFor hstep
  · rcases hlength : lengthFor text length with e' | n
    · rw [hstep, hlength] at h
      obtain rfl := Except.error.inj h
      exact range?_of_lengthFor hlength
    · rw [hstep, hlength] at h
      cases h

section
variable (hbody : Numeral.Readable body) (hlf : '\n' ∉ body)
include hlf

/-- Without line feeds, the check of the elements of a text says whether all of them have values. -/
theorem find?_isElement_eq_none_iff :
    (Separated.fields ':' body).find? (!isElement ·) = none ↔
      ∃ values, List.Forall₂ Element (Separated.fields ':' body) values := by
  rw [exists_forall₂_iff, List.find?_eq_none]
  refine forall₂_congr fun cs hcs => ?_
  rw [← isElement_iff fun hmem => hlf ((Separated.isInfix_of_mem_fields hcs).subset hmem)]
  simp

include hbody

/-- If the elements of a text have values, there is a range with these values, or else a complaint
that names the text. -/
theorem read_eq_ofElements (h : List.Forall₂ Element (Separated.fields ':' body) values)
    (hlen : values.length ≤ 4) :
    read body = ofElements (String.ofList body) (values.getD 0 none) (values.getD 1 none)
      (values.getD 2 none) (values.getD 3 none) := by
  have hfield : ∀ cs ∈ Separated.fields ':' body, Numeral.Readable cs ∧ '\n' ∉ cs := fun cs hcs =>
    have hpiece := Separated.isInfix_of_mem_fields hcs
    ⟨hbody.of_isInfix hpiece, fun hmem => hlf (hpiece.subset hmem)⟩
  have hall := (List.forall₂_and_left _ _).2 ⟨hfield, h⟩
  have hvalues : (Separated.fields ':' body).mapM element = .ok values :=
    mapM_eq_ok_iff.2 (hall.imp fun cs v hcs => read_of_element hcs.2 hcs.1.1 hcs.1.2)
  rw [read, if_neg (Nat.not_lt.2 (h.length_eq ▸ hlen)), (find?_isElement_eq_none_iff hlf).2 ⟨_, h⟩]
  dsimp only
  rw [hvalues]
  rfl

/-- **A text whose elements have legal values is read as the range with these values.** -/
theorem read_of_legal (hlegal : Legal values)
    (h : List.Forall₂ Element (Separated.fields ':' body) values) :
    read body = .ok hlegal.range := by
  rw [read_eq_ofElements hbody hlf h hlegal.length_le]
  exact (ofElements_eq_ok_iff _ hlegal.length_le).2 ⟨hlegal, rfl⟩

/-- **A text that spells no range is refused**, with a complaint that names it. -/
theorem exists_read_error
    (h : ∀ values, List.Forall₂ Element (Separated.fields ':' body) values → ¬ Legal values) :
    ∃ e, read body = .error e ∧ e.range? = some (String.ofList body) := by
  by_cases hlen : 4 < (Separated.fields ':' body).length
  · exact ⟨_, by rw [read, if_pos hlen], rfl⟩
  · rcases hfind : (Separated.fields ':' body).find? (!isElement ·) with _ | cs
    · obtain ⟨values, hvalues⟩ := (find?_isElement_eq_none_iff hlf).1 hfind
      have hlen : values.length ≤ 4 := hvalues.length_eq ▸ Nat.not_lt.1 hlen
      rcases hr : read body with e | r
      · rw [read_eq_ofElements hbody hlf hvalues hlen] at hr
        exact ⟨e, rfl, range?_of_ofElements hr⟩
      · rw [read_eq_ofElements hbody hlf hvalues hlen, ofElements_eq_ok_iff _ hlen] at hr
        exact absurd hr.1 (h values hvalues)
    · exact ⟨_, by rw [read, if_neg hlen, hfind], rfl⟩

end

end Range
end WidthList
end ColumnFold
