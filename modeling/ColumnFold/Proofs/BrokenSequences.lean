import ColumnFold.Proofs.Sequences

/-!
# Escape sequences that break off

A lone escape character, and one before a bracket only, begin a form of a sequence that the text
does not go on with.  A tab stops both forms, but a space is an intermediate of both: if the tabs
after such a sequence become spaces, it may go on and take in the characters behind them.

Everything else about sequences is indifferent to this.  A form that fits is complete, whatever
comes after it (`controlRest_self` and its like); a control string takes in tabs and spaces alike,
so it finds its end behind both or behind none; and a character set has its second symbol in either
case.  Which form a sequence may have depends on the symbol after the escape character alone.

* `Escape.Resumes` — a sequence that breaks off goes on once tabs are spaces.
* `Escape.start` — the form of a sequence, by the symbol after the escape character.
* `Escape.body_eq_nil_iff` — when an escape character stands alone.
-/

set_option autoImplicit false

namespace ColumnFold

/-- The space, to which tabs are expanded. -/
abbrev Symbol.space : Symbol := .char ' '

namespace Escape

/-! ## Sequences that go on -/

/-- Whether a symbol is an intermediate of a sequence once tabs are spaces. -/
def isGap (s : Symbol) : Bool := isIntermediate s || s == .tab

/-- A sequence that breaks off after `body`, before the given text, goes on once the tabs of the
text are spaces. -/
inductive Resumes : Text → Text → Prop
  /-- A lone escape character begins a short sequence. -/
  | short {gap after : Text} {final : Symbol} (hgap : ∀ s ∈ gap, isGap s = true)
      (hfinal : isShortFinal final = true) : Resumes [] (gap ++ final :: after)
  /-- A control sequence that lacks its end finds one. -/
  | control {parameters gap after : Text} {final : Symbol}
      (hparameters : ∀ s ∈ parameters, isParameter s = true) (hgap : ∀ s ∈ gap, isGap s = true)
      (hfinal : isControlFinal final = true) :
      Resumes [.char '['] (parameters ++ (gap ++ final :: after))

theorem within_eq_false {lo hi lo' hi' : Nat} (h : hi < lo') {s : Symbol}
    (hs : s.within lo' hi' = true) : s.within lo hi = false := by
  rcases s with c | b
  · simp only [Symbol.within, Symbol.isChar_char, decide_eq_true_eq,
      decide_eq_false_iff_not] at hs ⊢
    omega
  · rfl

theorem isGap_eq_false {lo hi : Nat} (h : 0x2F < lo) {s : Symbol} (hs : s.within lo hi = true) :
    isGap s = false := by
  rw [isGap, Bool.or_eq_false_iff, beq_eq_false_iff_ne]
  refine ⟨within_eq_false h hs, ?_⟩
  rintro rfl
  simp only [Symbol.within, Symbol.isChar_char, decide_eq_true_eq] at hs
  exact absurd (Nat.lt_of_lt_of_le h hs.1) (by decide)

/-- A run and a symbol after it that does not belong to the run. -/
theorem isSome_runThen_iff {p q : Symbol → Bool} (hpq : ∀ s, q s = true → p s = false) {t : Text} :
    (runThen p q t).isSome = true ↔ ∃ run final after, t = run ++ final :: after ∧
      (∀ s ∈ run, p s = true) ∧ q final = true := by
  constructor
  · intro h
    have ht := List.takeWhile_append_dropWhile (p := p) (l := t)
    rw [runThen.eq_def] at h
    split at h
    · cases h
    · rename_i final after hdrop
      split at h
      · rename_i hfinal
        rw [hdrop] at ht
        exact ⟨_, final, after, ht.symm, List.all_eq_true.1 List.all_takeWhile, hfinal⟩
      · cases h
  · rintro ⟨run, final, after, rfl, hrun, hfinal⟩
    have hstop : ¬ p final = true := Bool.eq_false_iff.1 (hpq final hfinal)
    rw [runThen, List.dropWhile_append_of_pos hrun, List.dropWhile_cons_of_neg hstop]
    dsimp only
    rw [if_pos hfinal]
    rfl

/-- What a run stops at decides whether it ends well. -/
theorem isSome_runThen (p q : Symbol → Bool) (t : Text) :
    (runThen p q t).isSome = (t.dropWhile p).head?.any q := by
  rw [runThen]
  rcases t.dropWhile p with _ | ⟨s, r⟩
  · rfl
  · cases hs : q s <;> simp [hs]

theorem resumes_nil_iff {t : Text} :
    Resumes [] t ↔ (runThen isGap isShortFinal t).isSome = true := by
  have hstop : ∀ s, isShortFinal s = true → isGap s = false := fun s => isGap_eq_false (by decide)
  rw [isSome_runThen_iff hstop]
  constructor
  · rintro ⟨hgap, hfinal⟩
    exact ⟨_, _, _, rfl, hgap, hfinal⟩
  · rintro ⟨gap, final, after, rfl, hgap, hfinal⟩
    exact .short hgap hfinal

theorem resumes_bracket_iff {t : Text} :
    Resumes [.char '['] t ↔
      (runThen isGap isControlFinal (t.dropWhile isParameter)).isSome = true := by
  have hstop : ∀ s, isControlFinal s = true → isGap s = false := fun s =>
    isGap_eq_false (by decide)
  have hgapStop : ∀ s, isGap s = true → ¬ isParameter s = true := fun s hs hparameter => by
    rw [isGap_eq_false (by decide) hparameter] at hs
    cases hs
  have hfinalStop : ∀ s, isControlFinal s = true → ¬ isParameter s = true := fun s hs =>
    Bool.eq_false_iff.1 (within_eq_false (by decide) hs)
  rw [isSome_runThen_iff hstop]
  constructor
  · generalize hbody : [Symbol.char '['] = body
    rintro (_ | @⟨parameters, gap, after, final, hparameters, hgap, hfinal⟩)
    · cases hbody
    · refine ⟨gap, final, after, ?_, hgap, hfinal⟩
      rw [List.dropWhile_append_of_pos hparameters]
      rcases gap with _ | ⟨s, gap⟩
      · exact List.dropWhile_cons_of_neg (hfinalStop final hfinal)
      · exact List.dropWhile_cons_of_neg (hgapStop s (hgap s List.mem_cons_self))
  · rintro ⟨gap, final, after, ht, hgap, hfinal⟩
    rw [← List.takeWhile_append_dropWhile (p := isParameter) (l := t), ht]
    exact .control (List.all_eq_true.1 List.all_takeWhile) hgap hfinal

/-- Only a lone escape character or a bracket leaves something to go on with. -/
theorem Resumes.eq_nil_or {body t : Text} (h : Resumes body t) :
    body = [] ∨ body = [.char '['] := by
  rcases h with _ | _
  · exact .inl rfl
  · exact .inr rfl

/-! ## What the first symbol of a sequence decides -/

/-- What the first symbol after an escape character says about its sequence. -/
inductive Start (s : Symbol) : Prop
  /-- A bracket begins a control sequence, or stands alone. -/
  | control (hs : s = .char '[')
      (h : ∀ t, body (s :: t) = s :: (controlRest t).getD [])
  /-- Another symbol begins a control string, or stands alone. -/
  | string (hs : s ≠ .char '[') (hfinal : isShortFinal s = true)
      (h : ∀ t, body (s :: t) = s :: (stringRest t).getD [])
  /-- Another one begins a character set. -/
  | set (hs : s = .char '(' ∨ s = .char ')') (h : ∀ s' t, body (s :: s' :: t) = [s, s'])
  /-- Any other symbol begins a short sequence, or none. -/
  | short (hs : s ≠ .char '[') (hset : ∀ t, characterSet (s :: t) = none)
      (h : ∀ t, body (s :: t) = (short (s :: t)).getD [])

/-- **The first symbol after an escape character decides** which form its sequence may have. -/
theorem start (s : Symbol) : Start s := by
  by_cases hbracket : s = .char '['
  · exact hbracket ▸ .control rfl body_bracket
  have hcontrol : ∀ t, control (s :: t) = none := fun t => by
    rw [control.eq_def]
    split
    · rename_i heq
      exact absurd (List.cons.inj heq).1 hbracket
    · rfl
  rcases s with c | b
  · by_cases hstring : c = ']' ∨ c = '_' ∨ c = 'P' ∨ c = '^'
    · have hfinal : isShortFinal (.char c) = true := by
        rcases hstring with rfl | rfl | rfl | rfl <;> rfl
      refine .string hbracket hfinal fun t => ?_
      have hset : characterSet (.char c :: t) = none := by
        rcases hstring with rfl | rfl | rfl | rfl <;> rcases t with _ | ⟨s', t⟩ <;> rfl
      have hshort : short (.char c :: t) = some [.char c] := by
        rcases hstring with rfl | rfl | rfl | rfl <;> rfl
      rw [body, hcontrol, controlString, if_pos hstring, hset, hshort]
      cases stringRest t <;> rfl
    · have hnoString : ∀ t, controlString (.char c :: t) = none := fun t => if_neg hstring
      by_cases hset : c = '(' ∨ c = ')'
      · refine .set (hset.imp (congrArg _) (congrArg _)) fun s' t => ?_
        rw [body, hcontrol, hnoString, characterSet, if_pos hset]
        rfl
      · have hnoSet : ∀ t, characterSet (.char c :: t) = none := fun t => by
          rcases t with _ | ⟨s', t⟩
          · rfl
          · exact if_neg hset
        refine .short hbracket hnoSet fun t => ?_
        rw [body, hcontrol, hnoString, hnoSet]
        rfl
  · refine .short hbracket (fun t => rfl) fun t => ?_
    rw [body, hcontrol]
    rfl

theorem getD_eq_nil_iff {fit : Option Text} (h : ∀ b, fit = some b → b ≠ []) :
    fit.getD [] = [] ↔ fit = none := by
  rcases fit with _ | b
  · exact iff_of_true rfl rfl
  · exact iff_of_false (h b rfl) (Option.some_ne_none b)

theorem eq_some_of_getD {fit : Option Text} {b : Text} (h : fit.getD [] = b) (hb : b ≠ []) :
    fit = some b := by
  rcases fit with _ | b'
  · exact absurd h.symm hb
  · exact congrArg some h

theorem short_eq_some_of_final {s : Symbol} (hs : isShortFinal s = true) (t : Text) :
    short (s :: t) = some [s] := by
  have hstop : ¬ isIntermediate s = true := Bool.eq_false_iff.1 (within_eq_false (by decide) hs)
  rw [short, runThen, List.dropWhile_cons_of_neg hstop, List.takeWhile_cons_of_neg hstop]
  exact if_pos hs

/-- An escape character stands alone if it begins neither a character set nor a short sequence: the
other forms begin with what could end a short sequence. -/
theorem body_eq_nil_iff {t : Text} : body t = [] ↔ characterSet t = none ∧ short t = none := by
  rcases t with _ | ⟨s, t⟩
  · exact iff_of_true rfl ⟨rfl, rfl⟩
  have hfinal : isShortFinal s = true → short (s :: t) ≠ none := fun hs => by
    rw [short_eq_some_of_final hs]
    exact Option.some_ne_none _
  cases start s with
  | control hs h =>
    rw [h]
    exact iff_of_false (List.cons_ne_nil _ _) fun hnone => hfinal (hs ▸ rfl) hnone.2
  | string _ hs h =>
    rw [h]
    exact iff_of_false (List.cons_ne_nil _ _) fun hnone => hfinal hs hnone.2
  | set hs h =>
    rcases t with _ | ⟨s', t⟩
    · rcases hs with rfl | rfl <;> exact iff_of_true rfl ⟨rfl, rfl⟩
    · rw [h, characterSet_cons_cons, if_pos hs]
      exact iff_of_false (List.cons_ne_nil _ _) fun hnone => Option.some_ne_none _ hnone.1
  | short _ hset h =>
    have hne : ∀ b, short (s :: t) = some b → b ≠ [] := fun b => runThen_ne_nil
    rw [h, getD_eq_nil_iff hne, and_iff_right (hset t)]

/-! ## What control strings and character sets take in -/

theorem stringRest_append {u : Text} (hu : ∀ s ∈ u, isStringBody s = true) (t : Text) :
    stringRest (u ++ t) = (stringRest t).map (u ++ ·) := by
  rw [stringRest, stringRest, List.dropWhile_append_of_pos hu, List.takeWhile_append_of_pos hu]
  split <;> simp

/-- An escape character ends a control string together with a backslash. -/
theorem stringRest_esc (t : Text) :
    stringRest (.esc :: t) = none ↔ t.head? ≠ some (.char '\\') := by
  rcases t with _ | ⟨s, t⟩
  · exact iff_of_true rfl nofun
  · by_cases hs : s = .char '\\'
    · subst hs
      exact iff_of_false (Option.some_ne_none _) (not_not_intro rfl)
    · refine iff_of_true ?_ fun h => hs (Option.some.inj h)
      rw [stringRest, List.dropWhile_cons_of_neg (by decide)]
      split
      · rename_i heq
        cases (List.cons.inj heq).1
      · rename_i heq
        exact absurd (List.cons.inj (List.cons.inj heq).2).1 hs
      · rfl

theorem stringRest_ne_nil {t b : Text} (h : stringRest t = some b) : b ≠ [] := by
  rw [stringRest.eq_def] at h
  split at h
  · exact Option.some.inj h ▸ List.append_ne_nil_of_right_ne_nil _ (List.cons_ne_nil _ _)
  · exact Option.some.inj h ▸ List.append_ne_nil_of_right_ne_nil _ (List.cons_ne_nil _ _)
  · cases h

theorem controlRest_eq_none_iff {t : Text} :
    controlRest t = none ↔
      (runThen isIntermediate isControlFinal (t.dropWhile isParameter)).isSome = false := by
  rw [controlRest, Option.map_eq_none_iff, Option.isSome_eq_false_iff, Option.isNone_iff_eq_none]

theorem controlRest_ne_nil {t b : Text} (h : controlRest t = some b) : b ≠ [] := by
  obtain ⟨b', h', rfl⟩ := Option.map_eq_some_iff.1 h
  exact List.append_ne_nil_of_right_ne_nil _ (runThen_ne_nil h')

theorem characterSet_cons_eq_none_iff {s : Symbol} {t : Text} :
    characterSet (s :: t) = none ↔ (s = .char '(' ∨ s = .char ')' → t = []) := by
  rcases t with _ | ⟨s', t⟩
  · refine iff_of_true ?_ fun _ => rfl
    cases s <;> rfl
  · rw [characterSet_cons_cons]
    simp

end Escape
end ColumnFold
