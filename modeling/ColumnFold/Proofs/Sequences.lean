import ColumnFold.Escape
import Mathlib.Data.List.TakeWhile

/-!
# Escape sequences in a piece of a text

Where an escape sequence ends depends on what follows the escape character, and a text that is cut
into pieces changes what follows.  Still the tokens of a piece are those that the whole text has in
its place, even if a sequence is written after the piece:

* a form that fits is complete, so that it fits whatever comes after it (`control_self` and its
  like);
* a form that does not fit is not completed by a new sequence, which begins with an escape character
  and a bracket: no form goes on with these two (`control_append_break` and its like).

The exception is the character set, which takes any symbol for its second one.  But it is open only
at the very end of a text, and after the end of a text nothing is written.

* `Escape.Break` — what may be written after a piece.
* `Escape.body_append_break` — a sequence in a piece is the one in the whole text.
* `Escape.Token.ofText_append_break` — so are all the tokens of a piece.
-/

set_option autoImplicit false

namespace ColumnFold
namespace Escape

/-! ## Runs that stop -/

section
variable {α : Type} {p : α → Bool}

theorem takeWhile_append_stop {e : List α} (h : ∀ x ∈ e.head?, p x = false) (u : List α) :
    (u ++ e).takeWhile p = u.takeWhile p := by
  induction u with
  | nil =>
    cases e with
    | nil => rfl
    | cons x e => exact List.takeWhile_cons_of_neg (by simp [h x rfl])
  | cons x u ih => rw [List.cons_append, List.takeWhile_cons, List.takeWhile_cons, ih]

theorem dropWhile_append_stop {e : List α} (h : ∀ x ∈ e.head?, p x = false) (u : List α) :
    (u ++ e).dropWhile p = u.dropWhile p ++ e := by
  induction u with
  | nil =>
    cases e with
    | nil => rfl
    | cons x e => exact List.dropWhile_cons_of_neg (by simp [h x rfl])
  | cons x u ih =>
    rw [List.cons_append, List.dropWhile_cons, List.dropWhile_cons, ih]
    split <;> rfl

theorem dropWhile_takeWhile (p : α → Bool) (u : List α) : (u.takeWhile p).dropWhile p = [] :=
  List.dropWhile_eq_nil_iff.2 fun x hx => List.all_eq_true.1 List.all_takeWhile x hx

theorem stop_of_dropWhile {u r : List α} {s : α} (h : u.dropWhile p = s :: r) (w : List α) :
    ∀ x ∈ (s :: w).head?, p x = false := by
  have hs := List.head?_dropWhile_not p u
  rw [h] at hs
  rintro x ⟨rfl⟩
  exact hs

end

/-! ## A form that fits is complete -/

theorem runThen_self {p q : Symbol → Bool} {t b : Text} (h : runThen p q t = some b) (w : Text) :
    runThen p q (b ++ w) = some b := by
  rw [runThen.eq_def] at h
  split at h
  · cases h
  · rename_i s r hr
    split at h
    · rename_i hq
      obtain rfl := Option.some.inj h
      have hstop := stop_of_dropWhile hr w
      rw [List.append_assoc, List.singleton_append, runThen, dropWhile_append_stop hstop,
        takeWhile_append_stop hstop, dropWhile_takeWhile, List.takeWhile_idem]
      exact if_pos hq
    · cases h

theorem characterSet_cons_cons (x y : Symbol) (t : Text) :
    characterSet (x :: y :: t) =
      if x = .char '(' ∨ x = .char ')' then some [x, y] else none := by
  cases x with
  | char c => simp [characterSet]
  | raw b => rfl

theorem characterSet_ne_nil {t b : Text} (h : characterSet t = some b) : b ≠ [] := by
  rw [characterSet.eq_def] at h
  split at h
  · split at h
    · obtain rfl := Option.some.inj h
      simp
    · cases h
  · cases h

theorem runThen_ne_nil {p q : Symbol → Bool} {t b : Text} (h : runThen p q t = some b) :
    b ≠ [] := by
  rw [runThen.eq_def] at h
  split at h
  · cases h
  · split at h
    · obtain rfl := Option.some.inj h
      simp
    · cases h

theorem controlRest_self {t b : Text} (h : controlRest t = some b) (w : Text) :
    controlRest (b ++ w) = some b := by
  obtain ⟨b', h', rfl⟩ := Option.map_eq_some_iff.1 h
  -- after the parameters the sequence goes on with what ends them
  have hstop : ∀ x ∈ (b' ++ w).head?, isParameter x = false := by
    obtain ⟨s, b'', rfl⟩ := List.exists_cons_of_ne_nil (runThen_ne_nil h')
    obtain ⟨r, hr⟩ := runThen_isPrefix h'
    exact stop_of_dropWhile hr.symm (b'' ++ w)
  rw [List.append_assoc, controlRest, dropWhile_append_stop hstop, takeWhile_append_stop hstop,
    dropWhile_takeWhile, List.takeWhile_idem, List.nil_append, runThen_self h']
  rfl

theorem stringRest_self {t b : Text} (h : stringRest t = some b) (w : Text) :
    stringRest (b ++ w) = some b := by
  rw [stringRest.eq_def] at h
  split at h
  · rename_i r hr
    obtain rfl := Option.some.inj h
    have hstop := stop_of_dropWhile hr w
    rw [List.append_assoc, List.singleton_append, stringRest, dropWhile_append_stop hstop,
      takeWhile_append_stop hstop, dropWhile_takeWhile, List.takeWhile_idem]
    rfl
  · rename_i r hr
    obtain rfl := Option.some.inj h
    have hstop := stop_of_dropWhile hr (.char '\\' :: w)
    rw [List.append_assoc, List.cons_append, List.singleton_append, stringRest,
      dropWhile_append_stop hstop, takeWhile_append_stop hstop, dropWhile_takeWhile,
      List.takeWhile_idem]
    rfl
  · cases h

theorem control_self {t b : Text} (h : control t = some b) (w : Text) :
    control (b ++ w) = some b := by
  rw [control.eq_def] at h
  split at h
  · obtain ⟨b', h', rfl⟩ := Option.map_eq_some_iff.1 h
    rw [List.cons_append, control, controlRest_self h']
    rfl
  · cases h

theorem controlString_self {t b : Text} (h : controlString t = some b) (w : Text) :
    controlString (b ++ w) = some b := by
  rw [controlString.eq_def] at h
  split at h
  · split at h
    · rename_i hc
      obtain ⟨b', h', rfl⟩ := Option.map_eq_some_iff.1 h
      rw [List.cons_append, controlString, if_pos hc, stringRest_self h']
      rfl
    · cases h
  · cases h

theorem short_self {t b : Text} (h : short t = some b) (w : Text) : short (b ++ w) = some b :=
  runThen_self h w

/-- After a bracket no form but the control sequence goes on. -/
theorem body_bracket (t : Text) : body (.char '[' :: t) = .char '[' :: (controlRest t).getD [] := by
  have hset : characterSet (.char '[' :: t) = none := by cases t <;> rfl
  rw [body, control, hset]
  cases controlRest t <;> rfl

/-! ## A form that does not fit is not completed by a new sequence -/

/-- What may be written after a piece of a text: nothing, or a control sequence. -/
inductive Break : Text → Prop where
  /-- Nothing is written. -/
  | none : Break []
  /-- An escape character and a bracket are written, and perhaps more. -/
  | sequence (r : Text) : Break (.esc :: .char '[' :: r)

namespace Break

variable {e : Text}

theorem stop {p : Symbol → Bool} (hp : p .esc = false) (he : Break e) :
    ∀ x ∈ e.head?, p x = false := by
  cases he with
  | none => simp
  | sequence r =>
    rintro x ⟨rfl⟩
    exact hp

end Break

section
variable {e : Text} (he : Break e) (u : Text)
include he

theorem runThen_append_break {p q : Symbol → Bool} (hp : p .esc = false) (hq : q .esc = false) :
    runThen p q (u ++ e) = runThen p q u := by
  rw [runThen, runThen, dropWhile_append_stop (he.stop hp), takeWhile_append_stop (he.stop hp)]
  cases u.dropWhile p with
  | nil =>
    cases he with
    | none => rfl
    | sequence r => exact if_neg (by simp [hq])
  | cons s r => rfl

theorem controlRest_append_break : controlRest (u ++ e) = controlRest u := by
  have hstop : ∀ x ∈ e.head?, isParameter x = false := he.stop (by decide)
  rw [controlRest, controlRest, dropWhile_append_stop hstop, takeWhile_append_stop hstop,
    runThen_append_break he _ (by decide) (by decide)]

theorem stringRest_append_break : stringRest (u ++ e) = stringRest u := by
  have hstop : ∀ x ∈ e.head?, isStringBody x = false := he.stop (by decide)
  rw [stringRest, stringRest, dropWhile_append_stop hstop, takeWhile_append_stop hstop]
  cases hd : u.dropWhile isStringBody with
  | nil =>
    cases he with
    | none => rfl
    | sequence r => rfl
  | cons s r =>
    cases he with
    | none => rw [List.append_nil]
    | sequence w =>
      rw [List.cons_append]
      cases r with
      | nil => split <;> split <;> simp_all
      | cons x r => split <;> split <;> simp_all

theorem control_append_break : control (u ++ e) = control u := by
  cases u with
  | nil =>
    cases he with
    | none => rfl
    | sequence r => rfl
  | cons s u =>
    by_cases hs : s = .char '['
    · subst hs
      rw [List.cons_append, control, control, controlRest_append_break he]
    · rw [List.cons_append, control.eq_def, control.eq_def]
      split <;> split <;> simp_all

theorem controlString_append_break : controlString (u ++ e) = controlString u := by
  cases u with
  | nil =>
    cases he with
    | none => rfl
    | sequence r => rfl
  | cons s u =>
    cases s with
    | char c => rw [List.cons_append, controlString, controlString, stringRest_append_break he]
    | raw b => rfl

theorem short_append_break : short (u ++ e) = short u :=
  runThen_append_break he u (by decide) (by decide)

end

/-! ## What an escape character begins in a piece -/

/-- A form that is complete where it fits, and open to no new sequence where it does not. -/
structure Closed (f : Text → Option Text) : Prop where
  /-- What fits is what the text goes on with. -/
  isPrefix : ∀ {t b : Text}, f t = some b → b <+: t
  /-- What fits does so whatever comes after it. -/
  self : ∀ {t b : Text}, f t = some b → ∀ w, f (b ++ w) = some b
  /-- A new sequence does not matter. -/
  append_break : ∀ {e : Text}, Break e → ∀ u, f (u ++ e) = f u

theorem closed_control : Closed control where
  isPrefix := control_isPrefix
  self := control_self
  append_break := control_append_break

theorem closed_controlString : Closed controlString where
  isPrefix := controlString_isPrefix
  self := controlString_self
  append_break := controlString_append_break

theorem closed_short : Closed short where
  isPrefix := runThen_isPrefix
  self := short_self
  append_break := short_append_break

/-- Whether a form does the same in the piece `u` before `e` as before `v`, provided that what fits
before `v` lies in the piece. -/
def Stable (u v e : Text) (f : Text → Option Text) : Prop :=
  (∀ b, f (u ++ v) = some b → b <+: u) → f (u ++ e) = f (u ++ v)

section
variable {u v e : Text}

theorem Stable.or {f g : Text → Option Text} (hf : Stable u v e f) (hg : Stable u v e g) :
    Stable u v e fun t => (f t).or (g t) := by
  intro h
  have hfe : f (u ++ e) = f (u ++ v) := hf fun b hb => h b (by simp [hb])
  cases hfit : f (u ++ v) with
  | some b => simp [hfe, hfit]
  | none =>
    have hge : g (u ++ e) = g (u ++ v) := hg fun b hb => h b (by simp [hfit, hb])
    simp [hfe, hfit, hge]

/-- A closed form does the same before a new sequence. -/
theorem Closed.stable {f : Text → Option Text} (hf : Closed f) (he : Break e) :
    Stable u v e f := by
  intro h
  cases hfit : f (u ++ v) with
  | some b =>
    obtain ⟨w, rfl⟩ := h b hfit
    rw [List.append_assoc]
    exact hf.self hfit (w ++ e)
  | none =>
    rw [hf.append_break he]
    cases hu : f u with
    | none => rfl
    | some b =>
      obtain ⟨w, rfl⟩ := hf.isPrefix hu
      rw [List.append_assoc, hf.self hu] at hfit
      cases hfit

/-- A character set lacks its second symbol only at the end of the text. -/
theorem stable_characterSet (he : Break e) (hv : e ≠ [] → v ≠ []) :
    Stable u v e characterSet := by
  intro h
  rcases u with _ | ⟨x, _ | ⟨y, u⟩⟩
  · have hnone : characterSet v = none :=
      Option.eq_none_iff_forall_ne_some.2 fun b hb =>
        characterSet_ne_nil hb (List.prefix_nil.1 (h b hb))
    rw [List.nil_append, List.nil_append, hnone]
    cases he <;> rfl
  · cases v with
    | nil => rw [not_not.1 fun hne => hv hne rfl]
    | cons y v =>
      rw [List.singleton_append] at h
      have hx : ¬(x = .char '(' ∨ x = .char ')') := fun hx => by
        obtain ⟨r, hr⟩ := h [x, y] ((characterSet_cons_cons x y v).trans (if_pos hx))
        cases hr
      rw [List.singleton_append, List.singleton_append, characterSet_cons_cons, if_neg hx]
      cases he with
      | none => cases x <;> rfl
      | sequence r => exact (characterSet_cons_cons _ _ _).trans (if_neg hx)
  · exact (characterSet_cons_cons _ _ _).trans (characterSet_cons_cons _ _ _).symm

/-- **A sequence in a piece of a text is the one in the whole text**, also if a new sequence is
written after a piece that does not reach the end. -/
theorem body_append_break (he : Break e) (hv : e ≠ [] → v ≠ []) (h : body (u ++ v) <+: u) :
    body (u ++ e) = body (u ++ v) := by
  have hstable := ((closed_control.stable (u := u) (v := v) he).or
    (closed_controlString.stable he)).or (stable_characterSet he hv) |>.or (closed_short.stable he)
  refine congrArg (·.getD []) (hstable fun b hb => ?_)
  dsimp only at hb
  rwa [body, hb] at h

end

namespace Token

theorem exists_body_of_mem {k : Nat} {t b : Text} (h : .escape b ∈ ofTextFrom k t) :
    ∃ u, body u = b := by
  fun_induction ofTextFrom k t with
  | case1 => cases h
  | case2 k s t ih => exact ih h
  | case3 t ih =>
    rcases List.mem_cons.1 h with hb | hb
    · exact ⟨t, (Token.escape.inj hb).symm⟩
    · exact ih hb
  | case4 s t hs ih => exact ih (by simpa using h)

theorem text_ne_nil (tok : Token) : tok.text ≠ [] := by
  cases tok <;> simp [text]

/-- The tokens after some of the tokens of a text are those of what they spell. -/
theorem ofText_of_append {t : Text} {ts₁ ts₂ : List Token} (h : ofText t = ts₁ ++ ts₂) :
    ofText (ts₂.flatMap text) = ts₂ := by
  induction ts₁ generalizing t with
  | nil =>
    obtain rfl : ofText t = ts₂ := h
    rw [flatten_ofText]
  | cons tok ts₁ ih =>
    cases t with
    | nil => cases h
    | cons s t =>
      by_cases hs : s = .esc
      · subst hs
        rw [ofText_esc] at h
        exact ih (List.cons.inj h).2
      · rw [ofText_cons_of_ne hs] at h
        exact ih (List.cons.inj h).2

/-- **The tokens of a piece of a text** are those that the text has in its place, also if a new
sequence is written after a piece that does not reach the end. -/
theorem ofText_append_break {t e : Text} {ts₁ ts₂ : List Token} (h : ofText t = ts₁ ++ ts₂)
    (he : Break e) (hv : e ≠ [] → ts₂ ≠ []) :
    ofText (ts₁.flatMap text ++ e) = ts₁ ++ ofText e := by
  induction ts₁ generalizing t with
  | nil => rfl
  | cons tok ts₁ ih =>
    cases t with
    | nil => cases h
    | cons s t =>
      by_cases hs : s = .esc
      · subst hs
        rw [ofText_esc] at h
        obtain ⟨rfl, hrest⟩ := List.cons.inj h
        have hdrop : t.drop (body t).length = ts₁.flatMap text ++ ts₂.flatMap text := by
          rw [← List.flatMap_append, ← flatten_ofText (t.drop _), hrest]
          rfl
        have ht : body t ++ ts₁.flatMap text ++ ts₂.flatMap text = t := by
          rw [List.append_assoc, ← hdrop]
          exact (List.prefix_iff_eq_append.1 (body_isPrefix t))
        have hbody : body (body t ++ ts₁.flatMap text ++ e) = body t := by
          have hne : e ≠ [] → ts₂.flatMap text ≠ [] := fun hne => by
            obtain ⟨tok, ts₂, rfl⟩ := List.exists_cons_of_ne_nil (hv hne)
            simp [tok.text_ne_nil]
          have heq := body_append_break (u := body t ++ ts₁.flatMap text) he hne
          rw [ht] at heq
          exact heq (List.prefix_append _ _)
        rw [List.flatMap_cons, text, List.cons_append, List.cons_append, ofText_esc, hbody,
          List.append_assoc, List.drop_left, ih hrest]
        rfl
      · rw [ofText_cons_of_ne hs] at h
        obtain ⟨rfl, hrest⟩ := List.cons.inj h
        rw [List.flatMap_cons, text, List.append_assoc, List.singleton_append,
          ofText_cons_of_ne hs, ih hrest]
        rfl

end Token
end Escape
end ColumnFold
