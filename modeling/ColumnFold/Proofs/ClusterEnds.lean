import ColumnFold.Proofs.OneColumn

/-!
# Where clusters end

Where no cluster reaches from one text into the next, the glyphs of both together are those of one
after those of the other.  Whether a cluster takes in a symbol depends on all that it holds so far,
but there are symbols at which every cluster ends, whatever it is: a control character belongs to no
cluster with others, and a printable ASCII character takes in nothing but marks, and is taken in by
nothing but signs that stay with what follows.

* `Symbol.Splits`, `Text.Splits` — no cluster reaches from one symbol, or text, into the next.
* `Cell.ofText_append` — then the glyphs of the second text follow those of the first.
-/

set_option autoImplicit false

namespace ColumnFold

open Unicode

/-! ## Symbols -/

namespace Symbol

/-- No cluster that ends in one symbol takes in the other. -/
def Splits (s t : Symbol) : Prop := ∀ st : Cluster.State, (st.next s).joins t = false

/-- A symbol is a printable ASCII character. -/
def Printable (s : Symbol) : Prop := s.within 0x20 0x7E = true

instance (s : Symbol) : Decidable s.Printable := inferInstanceAs (Decidable (_ = true))

variable {s t : Symbol}

theorem splits_of_control (h : s.breakClass = .control) (t : Symbol) : s.Splits t := by
  intro st
  have hlast : (st.next s).last = .control := h
  rw [Cluster.State.joins.eq_def, hlast]

theorem joins_control (h : t.breakClass = .control) (st : Cluster.State) : st.joins t = false := by
  rw [Cluster.State.joins.eq_def, h]
  cases st.last <;> rfl

theorem splits_control (h : t.breakClass = .control) (s : Symbol) : s.Splits t :=
  fun st => joins_control h (st.next s)

theorem tab_splits (t : Symbol) : tab.Splits t := splits_of_control (by decide) t

theorem splits_tab (s : Symbol) : s.Splits tab := splits_control (by decide) s

theorem Printable.exists_char (h : s.Printable) :
    ∃ c : Char, s = .char c ∧ 0x20 ≤ c.toNat ∧ c.toNat < 0x7F := by
  cases s with
  | char c =>
    obtain ⟨hlo, hhi⟩ := of_decide_eq_true h
    exact ⟨c, rfl, hlo, Nat.lt_succ_of_le hhi⟩
  | raw b => cases h

theorem Printable.breakClass (h : s.Printable) : s.breakClass = .other := by
  obtain ⟨c, rfl, hlo, hhi⟩ := h.exists_char
  exact BreakClass.ofChar_ascii hlo hhi

theorem Printable.isChar_eq_false (h : s.Printable) :
    s.isChar isPictograph = false ∧ s.isChar isConjunctConsonant = false ∧
      s.isChar isConjunctLinker = false := by
  obtain ⟨c, rfl, hlo, hhi⟩ := h.exists_char
  have hascii : c.toNat < 0x80 := by omega
  have hlinker : ∀ n ∈ conjunctLinkers, 0x80 ≤ n := by decide
  refine ⟨if_pos hascii, if_pos hascii, Bool.eq_false_iff.2 fun hmem => ?_⟩
  have hle := hlinker _ (List.contains_iff_mem.1 hmem)
  omega

theorem Printable.separate (h : s.Printable) : s.Separate :=
  ⟨.inl h.breakClass, h.isChar_eq_false.1, h.isChar_eq_false.2.1⟩

theorem Printable.symbolColumns? (h : s.Printable) (a : Ambiguity) :
    Measure.symbolColumns? a s = some 1 := by
  obtain ⟨c, rfl, hlo, hhi⟩ := h.exists_char
  exact charColumns?_ascii a hlo hhi

theorem Printable.ne_control (h : s.Printable) (ht : t.breakClass = .control) : s ≠ t := by
  rintro rfl
  cases h.breakClass.symm.trans ht

/-- A printable character is taken in by no symbol but a sign that stays with what follows. -/
theorem Printable.splits_right (h : t.Printable) (hs : s.breakClass ≠ .prepend) : s.Splits t :=
  fun _ => Bool.eq_false_iff.2 fun hjoins =>
    hs (Cluster.State.last_of_joins h.separate hjoins)

/-- A printable character takes in nothing but marks. -/
theorem Printable.splits_left (h : s.Printable) (hextend : t.breakClass ≠ .extend)
    (hjoiner : t.breakClass ≠ .joiner) (hspacing : t.breakClass ≠ .spacing) : s.Splits t := by
  intro st
  obtain ⟨hpicture, hconsonant, hlinker⟩ := h.isChar_eq_false
  have hclass := h.breakClass
  have hlast : (st.next s).last = .other := hclass
  have hregional : (st.next s).oddRegional = false := by
    simp [Cluster.State.next, hclass]
  have hpicture : (st.next s).picture = .idle := by
    simp [Cluster.State.next, Cluster.State.nextPicture, hclass, hpicture]
  have hconjunct : (st.next s).conjunct = .idle := by
    simp [Cluster.State.next, Cluster.State.nextConjunct, hclass, hconsonant, hlinker]
  rw [Cluster.State.joins.eq_def, hlast, hregional, hpicture, hconjunct]
  cases hk : t.breakClass <;> first | rfl | contradiction

end Symbol

/-! ## Texts -/

/-- No cluster that ends in one text reaches into the other. -/
def Text.Splits (t u : Text) : Prop := ∀ s ∈ t.getLast?, ∀ s' ∈ u.head?, s.Splits s'

theorem Text.splits_tab (t u : Text) : Splits t (.tab :: u) := fun s _ s' hs' => by
  obtain rfl := Option.some.inj hs'
  exact s.splits_tab

theorem Text.tab_splits (t u : Text) : Splits (t ++ [.tab]) u := fun s hs s' _ => by
  rw [List.getLast?_concat] at hs
  obtain rfl := Option.some.inj hs
  exact s'.tab_splits

theorem Text.esc_notMem_append_tab {t u : Text} :
    .esc ∉ t ++ .tab :: u ↔ .esc ∉ t ∧ .esc ∉ u := by
  simp

namespace Cell

variable {a : Ambiguity} {t u : Text}

/-- A symbol that a cluster does not take in begins a glyph of its own. -/
theorem ofTokens_of_joins_eq_false {q : Pending} {s : Symbol} (h : q.state.joins s = false)
    (us : List Escape.Token) :
    ofTokens a (some q) (.plain s :: us) = q.cell a :: ofTokens a none (.plain s :: us) := by
  simp only [ofTokens, h, Bool.false_eq_true, if_false]

theorem ofTokens_append_of_splits {s s' : Symbol} (h : s.Splits s') (p : Option Pending)
    (ts us : List Escape.Token) :
    ofTokens a p (ts ++ .plain s :: .plain s' :: us) =
      ofTokens a p (ts ++ [.plain s]) ++ ofTokens a none (.plain s' :: us) := by
  -- `s` begins a glyph, or joins one: `s'` is taken in by neither
  have hstart := ofTokens_of_joins_eq_false (a := a) (q := .start s) (h .blank) us
  fun_induction ofTokens a p ts with
  | case1 => exact hstart
  | case2 p =>
    have hpush := ofTokens_of_joins_eq_false (a := a) (q := p.push s) (h p.state) us
    by_cases hj : p.state.joins s = true
    · simpa only [List.nil_append, ofTokens, if_pos hj, List.singleton_append] using hpush
    · simpa only [List.nil_append, ofTokens, if_neg hj, List.cons_append, List.cons.injEq,
        true_and] using hstart
  | case3 body ts ih => simpa only [List.cons_append, ofTokens, List.cons.injEq, true_and] using ih
  | case4 p body ts ih =>
    simpa only [List.cons_append, ofTokens, List.cons.injEq, true_and] using ih
  | case5 t ts ih => exact ih
  | case6 p t ts hj ih => simpa only [List.cons_append, ofTokens, if_pos hj] using ih
  | case7 p t ts hj ih =>
    simpa only [List.cons_append, ofTokens, if_neg hj, List.cons.injEq, true_and] using ih

/-- **The glyphs of two texts that no cluster joins** are those of one after those of the other. -/
theorem ofText_append (ht : .esc ∉ t) (hu : .esc ∉ u) (h : Text.Splits t u) :
    ofText a (t ++ u) = ofText a t ++ ofText a u := by
  have htu : .esc ∉ t ++ u := fun hmem => (List.mem_append.1 hmem).elim ht hu
  rw [ofText, ofText, ofText, Escape.Token.ofText_of_notMem ht, Escape.Token.ofText_of_notMem hu,
    Escape.Token.ofText_of_notMem htu, List.map_append]
  rcases List.eq_nil_or_concat t with rfl | ⟨t, s, rfl⟩
  · rfl
  · rcases u with _ | ⟨s', u⟩
    · exact (congrArg _ (List.append_nil _)).trans (List.append_nil _).symm
    · have hsplits := h s (by simp) s' rfl
      simpa using ofTokens_append_of_splits hsplits none (t.map .plain) (u.map .plain)

theorem ofText_tab (a : Ambiguity) : ofText a [.tab] = [.glyph .tab [] 0] := by
  cases a <;> rfl

/-- A tab belongs to no cluster. -/
theorem ofText_append_tab (ht : .esc ∉ t) (hu : .esc ∉ u) :
    ofText a (t ++ .tab :: u) = ofText a t ++ .glyph .tab [] 0 :: ofText a u := by
  have htab := Text.esc_notMem_append_tab.2 ⟨ht, List.not_mem_nil⟩
  have hglyph : ofText a (t ++ [.tab]) = ofText a t ++ [.glyph .tab [] 0] := by
    rw [ofText_append ht (by decide) (Text.splits_tab t []), ofText_tab]
  rw [List.append_cons, ofText_append htab hu (Text.tab_splits t u), hglyph, List.append_assoc]
  rfl

theorem isTab_of_notMem (h : .tab ∉ t) : ∀ c ∈ ofText a t, c.isTab = false := by
  intro c hc
  refine Bool.eq_false_iff.2 fun htab => h ?_
  rw [isTab.eq_def] at htab
  split at htab
  · rw [← spell_ofText a t]
    exact List.mem_flatMap.2 ⟨_, hc, List.mem_cons_self⟩
  · cases htab

end Cell

end ColumnFold
