import ColumnFold.Cell

/-!
# Symbols that add their own columns

The columns of a text are not the sum of those of its symbols, but for most symbols they are: a
letter that is written after a text adds the columns that it has alone.  That holds of symbols that
belong to no cluster before them.  The one exception are the signs that stay with what follows,
whatever it is; but after such a sign no mark is pending, so the columns add up within the cluster.

* `Symbol.Separate` — a symbol joins no cluster that does not wait for it.
* `Measure.addVisible_eq_addSymbol` — such a symbol changes nothing about the symbols before it.
* `Cell.columns_ofTokens_concat` — it adds its own columns.
-/

set_option autoImplicit false

namespace ColumnFold

open Unicode

/-- Whether a symbol belongs to no cluster before it but one that ends in a sign that stays with
what follows. -/
def Symbol.Separate (s : Symbol) : Prop :=
  (s.breakClass = .other ∨ s.breakClass = .prepend) ∧ s.isChar isPictograph = false ∧
    s.isChar isConjunctConsonant = false

instance (s : Symbol) : Decidable s.Separate := inferInstanceAs (Decidable (_ ∧ _ ∧ _))

/-! ## Clusters -/

namespace Cluster.State

variable {st : State} {s : Symbol}

theorem last_of_joins (hs : s.Separate) (h : st.joins s = true) : st.last = .prepend := by
  obtain ⟨hclass, hpicture, hconsonant⟩ := hs
  rw [joins.eq_def] at h
  obtain hclass | hclass := hclass <;> rw [hclass] at h <;>
    cases hlast : st.last <;> simp [hlast, hpicture, hconsonant] at h ⊢

end Cluster.State

/-! ## Classes of characters -/

namespace Unicode

theorem Ranges.exists_of_contains {r : Ranges} {n : Nat} (h : r.contains n = true) :
    ∃ p ∈ r, p.1 ≤ n ∧ n ≤ p.2 := by
  induction r with
  | nil => cases h
  | cons p r ih =>
    rw [contains] at h
    split at h
    · cases h
    · split at h
      · exact ⟨p, List.mem_cons_self, by omega, by assumption⟩
      · obtain ⟨q, hq, hn⟩ := ih h
        exact ⟨q, List.mem_cons_of_mem p hq, hn⟩

/-- No code point lies in two tables whose ranges lie apart. -/
theorem Ranges.not_contains {r r' : Ranges} (h : ∀ p ∈ r, ∀ q ∈ r', p.2 < q.1 ∨ q.2 < p.1)
    {n : Nat} (hn : r.contains n = true) : r'.contains n = false := by
  rw [← Bool.not_eq_true]
  intro hn'
  obtain ⟨p, hp, hpn⟩ := exists_of_contains hn
  obtain ⟨q, hq, hqn⟩ := exists_of_contains hn'
  have hapart := h p hp q hq
  omega

theorem hangulClass?_ne_prepend (n : Nat) : hangulClass? n ≠ some .prepend := by
  rw [hangulClass?]
  repeat' split
  all_goals
    intro h
    cases h

/-- Where the signs that stay with what follows are found. -/
theorem of_ofChar_prepend {c : Char} (h : BreakClass.ofChar c = .prepend) :
    prependRanges.contains c.toNat = true ∧ 0xA0 ≤ c.toNat := by
  simp only [BreakClass.ofChar] at h
  repeat' split at h
  all_goals first | contradiction | skip
  · rename_i k hk
    exact absurd (h ▸ hk) (hangulClass?_ne_prepend _)
  · exact ⟨by assumption, by omega⟩

/-- Such a sign is no virama, no pictograph and no consonant of a conjunct. -/
theorem of_prepend {c : Char} (h : BreakClass.ofChar c = .prepend) :
    isVirama c = false ∧ isPictograph c = false ∧ isConjunctConsonant c = false := by
  have hc := (of_ofChar_prepend h).1
  refine ⟨?_, ?_, ?_⟩
  · rw [isVirama, Ranges.not_contains (by decide +kernel) hc, ite_self]
  · rw [isPictograph, Ranges.not_contains (by decide +kernel) hc, ite_self]
  · rw [isConjunctConsonant, Ranges.not_contains (by decide +kernel) hc, ite_self]

theorem exists_charColumns?_of_prepend (a : Ambiguity) {c : Char}
    (h : BreakClass.ofChar c = .prepend) : ∃ w, charColumns? a c = some w := by
  have hc := (of_ofChar_prepend h).2
  have hcontrol : isControl c = false := decide_eq_false (by omega)
  simp only [charColumns?, hcontrol, Bool.false_eq_true, if_false]
  repeat' split
  all_goals exact ⟨_, rfl⟩

theorem ofChar_regional {c : Char} (h : isRegionalIndicator c = true) :
    BreakClass.ofChar c = .regional := by
  have h := of_decide_eq_true h
  have h1 : c.toNat ≠ 0x0D := by omega
  have h2 : c.toNat ≠ 0x0A := by omega
  have h3 : ¬(c.toNat < 0x20 ∨ 0x7F ≤ c.toNat ∧ c.toNat < 0xA0) := by omega
  have h4 : ¬c.toNat < 0x80 := by omega
  have h5 : c.toNat ≠ 0x200D := by omega
  simp only [BreakClass.ofChar, if_neg h1, if_neg h2, if_neg h3, if_neg h4, if_neg h5, if_pos h]

theorem ofChar_skinTone {c : Char} (h : isSkinTone c = true) : BreakClass.ofChar c = .extend := by
  have hall : ∀ k < 5, BreakClass.ofChar (Char.ofNat (0x1F3FB + k)) = .extend := by
    decide +kernel
  have h := of_decide_eq_true h
  have hc := hall (c.toNat - 0x1F3FB) (by omega)
  rwa [Nat.add_sub_cancel' h.1, Char.ofNat_toNat] at hc

end Unicode

/-! ## Measuring -/

namespace Measure

variable {a : Ambiguity} {st : State} {s : Symbol} {w : Nat}

/-- Nothing stands before the first symbol that it could change. -/
theorem addVisible_start (a : Ambiguity) {s : Symbol} (hs : s ≠ .char '\u200d') :
    addVisible a .start s = addSymbol a .start s := by
  have hregional : ¬(s.isChar isRegionalIndicator = true ∧ State.start.oddRegional = true) := by
    simp [State.start]
  have hskin : ¬(s.isChar isSkinTone = true ∧ State.start.last.any takesSkinTone = true) := by
    simp [State.start]
  rw [addVisible.eq_def, if_neg hs, if_neg hregional, if_neg hskin]
  split
  · contradiction
  · contradiction
  · rfl

theorem columns?_singleton (a : Ambiguity) (s : Symbol) :
    columns? a [s] = (symbolColumns? a s).map Int.ofNat := by
  by_cases hs : s = .char '\u200d'
  · subst hs
    cases a <;> decide +kernel
  · have hstep : columns? a [s] =
        (addVisible a .start s).map fun st => st.total + (st.cluster : Int) := by
      show Option.map _ (step a .start s >>= pure) = _
      rw [bind_pure, step, if_neg (by decide), Option.map_map]
      rfl
    rw [hstep, addVisible_start a hs, addSymbol, Option.map_map]
    refine congrArg (Option.map · _) (funext fun w => ?_)
    by_cases hw : w = 0
    · subst hw
      have hmark : ¬(s.isChar isSpacingMark = true ∧ State.start.base.isSome = true) := by
        simp [State.start]
      simp only [Function.comp_apply, if_true, addZero, if_neg hmark]
      split <;> rfl
    · simp [hw, addWide, State.start]

theorem columns_singleton (hw : symbolColumns? a s = some w) : columns a [s] = w := by
  rw [columns, columns?_singleton, hw]
  rfl

/-- Whether the columns so far are final, and the next symbol counts by its own columns. -/
structure State.Settled (st : State) : Prop where
  /-- The last symbol was no virama. -/
  virama : st.virama = false
  /-- The last symbol was no joiner. -/
  hidden : st.hidden = false
  /-- No columns were taken back. -/
  total_nonneg : 0 ≤ st.total

theorem settled_start : State.start.Settled := ⟨rfl, rfl, Int.le_refl 0⟩

/-- A symbol that is not hidden counts by its own columns if its class is none of those that change
how symbols are counted. -/
theorem addVisible_eq_addSymbol (hs : s.breakClass = .other ∨ s.breakClass = .prepend)
    (a : Ambiguity) (st : State) : addVisible a st s = addSymbol a st s := by
  have hne : ∀ c : Char, BreakClass.ofChar c ≠ .other → BreakClass.ofChar c ≠ .prepend →
      s ≠ .char c := by
    rintro c hother hprepend rfl
    exact hs.elim hother hprepend
  have hclass : ∀ test : Char → Bool, (∀ c, test c = true →
      BreakClass.ofChar c ≠ .other ∧ BreakClass.ofChar c ≠ .prepend) → s.isChar test = false := by
    intro test htest
    cases s with
    | char c =>
      rw [Symbol.isChar_char, ← Bool.not_eq_true]
      exact fun h => hne c (htest c h).1 (htest c h).2 rfl
    | raw b => rfl
  have hregional := hclass isRegionalIndicator fun c h => by simp [ofChar_regional h]
  have hskin := hclass isSkinTone fun c h => by simp [ofChar_skinTone h]
  rw [addVisible.eq_def, if_neg (hne '\u200d' (by decide) (by decide)),
    if_neg (by simp [hregional]), if_neg (by simp [hskin])]
  split
  · exact absurd rfl (hne '\ufe0f' (by decide +kernel) (by decide +kernel))
  · exact absurd rfl (hne '\ufe0e' (by decide +kernel) (by decide +kernel))
  · rfl

theorem step_eq (hst : st.Settled) (hs : s.breakClass = .other ∨ s.breakClass = .prepend)
    (hw : symbolColumns? a s = some w) :
    step a st s = some { (if w = 0 then addZero st s else addWide st s w) with
      oddRegional := s.isChar isRegionalIndicator && !st.oddRegional } := by
  rw [step, hst.hidden, if_neg Bool.false_ne_true, addVisible_eq_addSymbol hs, addSymbol, hw]
  rfl

/-- After a sign that stays with what follows the columns are final. -/
theorem settled_step (hst : st.Settled) (hs : s.breakClass = .prepend) (a : Ambiguity) :
    ∃ st', step a st s = some st' ∧ st'.Settled := by
  cases s with
  | raw b => cases hs
  | char c =>
    obtain ⟨w, hw⟩ := exists_charColumns?_of_prepend a hs
    have hvirama : (Symbol.char c).isChar isVirama = false := (of_prepend hs).1
    refine ⟨_, step_eq hst (.inr hs) hw, ?_⟩
    have hnonneg := hst.total_nonneg
    split
    · rw [addZero, hvirama, if_neg Bool.false_ne_true]
      split <;> exact ⟨rfl, hst.hidden, hnonneg⟩
    · simp only [addWide, hst.virama, Bool.false_eq_true, if_false]
      exact ⟨rfl, hst.hidden, by dsimp only; omega⟩

/-- **A symbol adds its own columns** to a text whose columns are final. -/
theorem columns_concat {t : Text} (ht : t.foldlM (step a) .start = some st) (hst : st.Settled)
    (hs : s.breakClass = .other ∨ s.breakClass = .prepend) (hw : symbolColumns? a s = some w)
    (hpos : 0 < w) : columns a (t ++ [s]) = columns a t + w := by
  have hstep := step_eq hst hs hw
  rw [if_neg (Nat.ne_of_gt hpos)] at hstep
  have hnonneg := hst.total_nonneg
  have hfold : (t ++ [s]).foldlM (step a) .start = step a st s := by
    rw [List.foldlM_append, ht]
    show (step a st s >>= pure) = _
    exact bind_pure (step a st s)
  rw [columns, columns, columns?, columns?, hfold, hstep, ht]
  simp only [Option.map_some, Option.getD_some, addWide, hst.virama, Bool.false_eq_true, if_false]
  omega

end Measure

/-! ## Cells -/

namespace Cell

variable (a : Ambiguity)

/-- Whether the columns of a glyph that has begun are final if it ends in a sign that stays with
what follows. -/
def Pending.Regular (p : Pending) : Prop :=
  p.state.last = .prepend →
    ∃ st, (p.head :: p.rest.reverse).foldlM (Measure.step a) .start = some st ∧ st.Settled

theorem regular_start (s : Symbol) : (Pending.start s).Regular a := by
  intro hs
  obtain ⟨st, hst, hsettled⟩ := Measure.settled_step Measure.settled_start hs a
  exact ⟨st, (bind_pure _).trans hst, hsettled⟩

theorem regular_push {p : Pending} (hp : p.Regular a) {s : Symbol}
    (hj : p.state.joins s = true) : (p.push s).Regular a := by
  intro hs
  have hs : s.breakClass = .prepend := hs
  have hseparate : s.Separate := by
    cases s with
    | raw b => cases hs
    | char c => exact ⟨.inr hs, (Unicode.of_prepend hs).2⟩
  obtain ⟨st, hst, hsettled⟩ := hp (Cluster.State.last_of_joins hseparate hj)
  obtain ⟨st', hst', hsettled'⟩ := Measure.settled_step hsettled hs a
  refine ⟨st', ?_, hsettled'⟩
  show (p.head :: (s :: p.rest).reverse).foldlM _ _ = _
  rw [List.reverse_cons, ← List.cons_append, List.foldlM_append, hst]
  exact (bind_pure _).trans hst'

variable {a}

/-- **A symbol that belongs to no cluster adds its own columns** to those of the cells before it. -/
theorem columns_ofTokens_concat {s : Symbol} (hs : s.Separate) {w : Nat}
    (hw : Measure.symbolColumns? a s = some w) (hpos : 0 < w) {p : Option Pending}
    (hp : ∀ q ∈ p, q.Regular a) (ts : List Escape.Token) :
    columns (ofTokens a p (ts ++ [.plain s])) = columns (ofTokens a p ts) + w := by
  have hstart : columns [(Pending.start s).cell a] = w :=
    (Nat.add_zero _).trans (Measure.columns_singleton hw)
  fun_induction ofTokens a p ts with
  | case1 => exact hstart.trans (Nat.zero_add w).symm
  | case2 p =>
    rw [List.nil_append, ofTokens]
    split
    · rename_i hj
      obtain ⟨st, hst, hsettled⟩ := hp p rfl (Cluster.State.last_of_joins hs hj)
      have hcolumns := Measure.columns_concat hst hsettled hs.1 hw hpos
      simpa [ofTokens, Pending.cell, Pending.push, width] using hcolumns
    · rw [ofTokens, columns_cons, hstart]
      simp
  | case3 body ts ih =>
    rw [List.cons_append, ofTokens, columns_cons, columns_cons, ih (by simp), Nat.add_assoc]
  | case4 p body ts ih =>
    have hnone : ∀ q ∈ (none : Option Pending), q.Regular a := by simp
    simp only [List.cons_append, ofTokens, columns_cons, ih hnone, Nat.add_assoc]
  | case5 t ts ih =>
    refine ih fun q hq => ?_
    obtain rfl := Option.some.inj hq
    exact regular_start a t
  | case6 p t ts hj ih =>
    rw [List.cons_append, ofTokens, if_pos hj]
    refine ih fun q hq => ?_
    obtain rfl := Option.some.inj hq
    exact regular_push a (hp p rfl) hj
  | case7 p t ts hj ih =>
    rw [List.cons_append, ofTokens, if_neg hj, columns_cons, columns_cons, ih fun q hq => ?_,
      Nat.add_assoc]
    obtain rfl := Option.some.inj hq
    exact regular_start a t

end Cell
end ColumnFold
