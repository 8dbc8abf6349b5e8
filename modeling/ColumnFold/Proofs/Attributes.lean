import ColumnFold.Proofs.Span

/-!
# Attributes survive cuts

A terminal shows each glyph with the attributes that are in force where it stands.  What the
sequences that set attributes mean is left to the terminal, but for three laws: sequences of any
other form change nothing, a sequence that begins with a reset has the same effect after whatever
came before it, and a sequence that is only a reset brings the default attributes back.

The laws are just what makes a rendition a faithful summary of a line: it drops what a reset has
made irrelevant, and playing it on a fresh terminal still gives the attributes that the whole
beginning of the line gives (`Terminal.enter_attributesAt`).  So a fragment, which plays the
rendition at its beginning before its own cells, shows its glyphs as the line does.

* `Terminal` — what escape sequences mean to a terminal.
* `Terminal.ofParameters` — a terminal that obeys the parameters of a sequence one by one.
* `Terminal.shown` — the glyphs that a terminal shows, each with its attributes.
* `Terminal.shown_eq_append_shownBy` — a line is shown alike in one piece and in fragments.
-/

set_option autoImplicit false

universe u

namespace ColumnFold

/-! ## Sequences that set attributes -/

namespace Rendition

/-- The sequence that sets attributes by the parameters written in `body`. -/
def sequence (body : Text) : Text := .esc :: .char '[' :: (body ++ [.char 'm'])

theorem parameters?_sequence {body : Text} (h : body.all isParameterSymbol = true) :
    parameters? (sequence body) = some (Separated.fields (.char ';') body) := by
  rw [sequence, parameters?, List.dropLast_concat, if_pos]
  exact ⟨List.getLast?_concat, h⟩

theorem exists_of_parameters?_eq_some {seq : Text} {parameters : List Text}
    (h : parameters? seq = some parameters) :
    ∃ body, body.all isParameterSymbol = true ∧ seq = sequence body ∧
      parameters = Separated.fields (.char ';') body := by
  rw [parameters?.eq_def] at h
  split at h
  · rename_i t
    split at h
    · rename_i ht
      obtain ⟨body, rfl⟩ := List.getLast?_eq_some_iff.1 ht.1
      rw [List.dropLast_concat] at ht h
      exact ⟨body, ht.2, rfl, (Option.some.inj h).symm⟩
    · cases h
  · cases h

theorem isReset_iff {parameters : List Text} :
    isReset parameters = true ↔
      ∃ first rest, parameters = first :: rest ∧ (first = [] ∨ first = [.char '0']) := by
  rw [isReset.eq_def]
  cases parameters with
  | nil => simp
  | cons first rest =>
    simp only [List.head?_cons]
    split
    · simp_all
    · simp_all
    · rename_i h1 h2
      simp only [Bool.false_eq_true, List.cons.injEq, false_iff, not_exists]
      rintro _ _ ⟨⟨rfl, rfl⟩, h | h⟩
      · exact h1 (congrArg some h)
      · exact h2 (congrArg some h)

end Rendition

/-! ## Terminals -/

/-- What escape sequences mean to a terminal with the attribute states `σ`. -/
structure Terminal (σ : Type u) where
  /-- The attributes before anything is read. -/
  default : σ
  /-- The attributes after an escape sequence. -/
  act : Text → σ → σ
  /-- Sequences of another form change nothing. -/
  act_other : ∀ seq : Text,
    (∀ body, body.all Rendition.isParameterSymbol = true → seq ≠ Rendition.sequence body) →
    ∀ a, act seq a = a
  /-- A sequence whose first parameter is empty or zero forgets what came before it. -/
  act_reset : ∀ (body first : Text) (rest : List Text),
    body.all Rendition.isParameterSymbol = true →
    Separated.fields (.char ';') body = first :: rest → first = [] ∨ first = [.char '0'] →
    ∀ a a', act (Rendition.sequence body) a = act (Rendition.sequence body) a'
  /-- A sequence whose only parameter is empty or zero brings the default attributes back. -/
  act_clear : ∀ body : Text, body = [] ∨ body = [.char '0'] →
    ∀ a, act (Rendition.sequence body) a = default

namespace Terminal

/-- A terminal that obeys parameters from left to right: an empty or zero one brings the attributes
`default` back, and `set` says what any other one does. -/
def ofParameters {σ : Type u} (default : σ) (set : Text → σ → σ) : Terminal σ where
  default := default
  act seq a :=
    ((Rendition.parameters? seq).getD []).foldl
      (fun a p => if p = [] ∨ p = [.char '0'] then default else set p a) a
  act_other seq h a := by
    cases hp : Rendition.parameters? seq with
    | none => rfl
    | some parameters =>
      obtain ⟨body, hb, hseq, -⟩ := Rendition.exists_of_parameters?_eq_some hp
      exact absurd hseq (h body hb)
  act_reset body first rest hb hf h0 a a' := by
    rw [Rendition.parameters?_sequence hb, Option.getD_some, hf, List.foldl_cons, List.foldl_cons,
      if_pos h0, if_pos h0]
  act_clear body h0 a := by
    rcases h0 with rfl | rfl <;> rfl

variable {σ : Type u} (T : Terminal σ)

/-- The attributes after a list of sequences. -/
def enter (seqs : List Text) (a : σ) : σ := seqs.foldl (fun a seq => T.act seq a) a

/-- The attributes after a cell. -/
def step (a : σ) : Cell → σ
  | .glyph .. => a
  | .escape body => T.act (.esc :: body) a

/-- The attributes after some cells. -/
def after (a : σ) (cells : List Cell) : σ := cells.foldl T.step a

/-- The glyphs that cells show, each with the attributes in force where it stands. -/
def shown (a : σ) : List Cell → List (Cell × σ)
  | [] => []
  | .glyph head tail width :: cells => (.glyph head tail width, a) :: shown a cells
  | .escape body :: cells => shown (T.act (.esc :: body) a) cells

theorem after_append (a : σ) (xs ys : List Cell) :
    T.after a (xs ++ ys) = T.after (T.after a xs) ys :=
  List.foldl_append

theorem shown_append (a : σ) (xs ys : List Cell) :
    T.shown a (xs ++ ys) = T.shown a xs ++ T.shown (T.after a xs) ys := by
  induction xs generalizing a with
  | nil => rfl
  | cons c xs ih =>
    cases c with
    | glyph head tail width => exact congrArg (_ :: ·) (ih a)
    | escape body => exact ih _

/-! ## A rendition sums up a line -/

/-- A terminal that plays a rendition and then a sequence ends up as one that plays the rendition
after the sequence. -/
theorem enter_apply (active : Rendition) (seq : Text) :
    T.enter (active.apply seq) T.default = T.act seq (T.enter active T.default) := by
  rw [Rendition.apply.eq_def]
  split
  · rename_i hnone
    refine (T.act_other seq (fun body hb hseq => ?_) _).symm
    rw [hseq, Rendition.parameters?_sequence hb] at hnone
    cases hnone
  · rename_i parameters hsome
    obtain ⟨body, hb, rfl, hfields⟩ := Rendition.exists_of_parameters?_eq_some hsome
    by_cases hreset : Rendition.isReset parameters = true
    · rw [if_pos hreset]
      obtain ⟨first, rest, hparams, h0⟩ := Rendition.isReset_iff.1 hreset
      by_cases hlen : 1 < parameters.length
      · -- the sequence alone does what it does after anything else
        rw [if_pos hlen]
        exact T.act_reset body first rest hb (hfields ▸ hparams) h0 _ _
      · rw [if_neg hlen]
        have hrest : rest = [] := by
          rw [hparams, List.length_cons] at hlen
          exact List.length_eq_zero_iff.1 (by omega)
        have hbody : body = first := by
          have hjoin := Separated.intercalate_fields (Symbol.char ';') body
          rw [← hfields, hparams, hrest] at hjoin
          simpa [List.intercalate] using hjoin.symm
        exact (T.act_clear body (hbody ▸ h0) _).symm
    · rw [if_neg hreset, enter, List.foldl_append]
      rfl

/-- **A rendition sums up the beginning of a line**: played on a fresh terminal it gives the
attributes that all the cells before the position give. -/
theorem enter_attributesAt (line : List Cell) (position : Nat) :
    T.enter (attributesAt line position) T.default = T.after T.default (line.take position) := by
  rw [attributesAt_eq_after]
  generalize line.take position = cells
  suffices h : ∀ active : Rendition,
      T.enter (active.after cells) T.default = T.after (T.enter active T.default) cells from h []
  intro active
  induction cells generalizing active with
  | nil => rfl
  | cons c cells ih =>
    rw [Rendition.after_cons, ih]
    cases c with
    | glyph head tail width => rfl
    | escape body => exact congrArg (T.after · cells) (T.enter_apply active (.esc :: body))

/-! ## Fragments on a terminal -/

/-- The glyphs that the fragment of a span shows on a fresh terminal. -/
def shownBy (line : List Cell) (s : Span) : List (Cell × σ) :=
  T.shown (T.enter (s.opening line) T.default) (s.cells line)

/-- The attributes that the fragment of a span leaves behind on a fresh terminal. -/
def leftBy (line : List Cell) (s : Span) : σ :=
  T.enter (s.closing line) (T.after (T.enter (s.opening line) T.default) (s.cells line))

/-- A line shows what stands before a span, then what the fragment of the span shows, then the
rest. -/
theorem shown_eq_append_shownBy (line : List Cell) (s : Span) :
    T.shown T.default line =
      T.shown T.default (line.take s.start) ++ T.shownBy line s ++
        T.shown (T.after T.default (line.take s.stop)) (line.drop s.stop) := by
  conv => lhs; rw [← List.take_append_drop s.stop line]
  rw [shown_append, s.take_stop, shown_append, shownBy, Span.opening, enter_attributesAt]

/-- A fragment that ends before the line does leaves the default attributes behind. -/
theorem leftBy_eq_default {line : List Cell} {s : Span} (h : s.stop < line.length) :
    T.leftBy line s = T.default := by
  have hstop : T.after (T.enter (s.opening line) T.default) (s.cells line) =
      T.enter (attributesAt line s.stop) T.default := by
    rw [Span.opening, enter_attributesAt, enter_attributesAt, ← after_append, ← s.take_stop]
  rw [leftBy, hstop, Span.closing]
  by_cases hnil : attributesAt line s.stop = []
  · rw [if_neg fun hne => hne.2 hnil, hnil]
    rfl
  · rw [if_pos ⟨h, hnil⟩]
    exact T.act_clear [] (.inl rfl) _

end Terminal

/-- **Colours survive every cut.**  On every terminal, each fragment of a line shows its glyphs just
as the whole line shows them in its place, and a fragment that ends before the line does leaves the
terminal with the default attributes. -/
theorem FoldOptions.colours_survive {σ : Type u} (T : Terminal σ) (o : FoldOptions)
    {layout : Layout} (h : layout.Ends) (line : Text) :
    o.fold layout line = (o.spans layout line).map (Span.text o (o.row line)) ∧
      ∀ s ∈ o.spans layout line,
        T.shown T.default (o.row line) =
            T.shown T.default ((o.row line).take s.start) ++ T.shownBy (o.row line) s ++
              T.shown (T.after T.default ((o.row line).take s.stop)) ((o.row line).drop s.stop) ∧
          (s.stop < (o.row line).length → T.leftBy (o.row line) s = T.default) :=
  ⟨o.fold_eq_map_text h line, fun s _ =>
    ⟨T.shown_eq_append_shownBy (o.row line) s, T.leftBy_eq_default⟩⟩

theorem FoldOptions.colours_survive_zero_field :
    let T : Terminal (List Text) := .ofParameters [] fun p a => a ++ [p]
    let line := Text.ofString "\x1b[31mab\x1b[0;1mcd\x1b[mef"
    let layout := Layout.fields [1, 0, 2, 9] false
    let row := FoldOptions.default.row line
    layout.Ends ∧
      FoldOptions.default.fold layout line =
        (FoldOptions.default.spans layout line).map (Span.text FoldOptions.default row) ∧
      ∀ s ∈ FoldOptions.default.spans layout line,
        T.shown T.default row =
            T.shown T.default (row.take s.start) ++ T.shownBy row s ++
              T.shown (T.after T.default (row.take s.stop)) (row.drop s.stop) ∧
          (s.stop < row.length → T.leftBy row s = T.default) := by
  intro T line layout row
  have h : layout.Ends := Layout.ends_fields _ _
  exact ⟨h, colours_survive T FoldOptions.default h line⟩

end ColumnFold
