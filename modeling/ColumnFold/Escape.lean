import ColumnFold.Text.Symbol

/-!
# Escape sequences

An escape character begins an escape sequence, which goes on as far as the first of these forms
that fits:

1. a control sequence: `[`, parameters, intermediates and a final character;
2. a control string: one of `]`, `_`, `P` and `^`, then any symbols but bell and escape, then a bell
   or an escape and a backslash;
3. a character set: `(` or `)`, and any one symbol;
4. a short sequence: intermediates, perhaps none, and a final character.

If none fits, the escape character is a sequence of its own.  These are the forms on which the
releases 0.5.3 to 0.9.4 of the `wcwidth` library agree.

* `Escape.body` — what follows the escape character in its sequence.
* `Escape.Token` — an escape sequence, or one symbol outside of all sequences.
* `Escape.Token.ofText` — the tokens of a text, which give it back (`Escape.Token.flatten_ofText`).
-/

set_option autoImplicit false

namespace ColumnFold
namespace Escape

/-! ## The forms -/

/-- Whether a symbol is a parameter of a control sequence. -/
def isParameter : Symbol → Bool := Symbol.within 0x30 0x3F

/-- Whether a symbol is an intermediate of a sequence. -/
def isIntermediate : Symbol → Bool := Symbol.within 0x20 0x2F

/-- Whether a symbol ends a control sequence. -/
def isControlFinal : Symbol → Bool := Symbol.within 0x40 0x7E

/-- Whether a symbol ends a short sequence. -/
def isShortFinal : Symbol → Bool := Symbol.within 0x30 0x7E

/-- Whether a symbol may stand inside a control string. -/
def isStringBody (s : Symbol) : Bool := s != .bel && s != .esc

/-- The longest run of `p` and the symbol after it, if that symbol satisfies `q`. -/
def runThen (p q : Symbol → Bool) (t : Text) : Option Text :=
  match t.dropWhile p with
  | [] => none
  | s :: _ => if q s then some (t.takeWhile p ++ [s]) else none

/-- The rest of a control sequence, after its bracket. -/
def controlRest (t : Text) : Option Text :=
  (runThen isIntermediate isControlFinal (t.dropWhile isParameter)).map
    (t.takeWhile isParameter ++ ·)

/-- The rest of a control string, after its first character. -/
def stringRest (t : Text) : Option Text :=
  match t.dropWhile isStringBody with
  | .char '\x07' :: _ => some (t.takeWhile isStringBody ++ [.bel])
  | .char '\x1b' :: .char '\\' :: _ => some (t.takeWhile isStringBody ++ [.esc, .char '\\'])
  | _ => none

/-- Form 1, a control sequence. -/
def control : Text → Option Text
  | .char '[' :: t => (controlRest t).map (.char '[' :: ·)
  | _ => none

/-- Form 2, a control string. -/
def controlString : Text → Option Text
  | .char c :: t =>
    if c = ']' ∨ c = '_' ∨ c = 'P' ∨ c = '^' then (stringRest t).map (.char c :: ·) else none
  | _ => none

/-- Form 3, a character set.  Any symbol may be the second one, even a line feed; on that releases
of the library need not agree, but the body of a line has no line feed. -/
def characterSet : Text → Option Text
  | .char c :: s :: _ => if c = '(' ∨ c = ')' then some [.char c, s] else none
  | _ => none

/-- Form 4, a short sequence. -/
def short (t : Text) : Option Text := runThen isIntermediate isShortFinal t

/-- The symbols that follow the escape character in its sequence. -/
def body (t : Text) : Text :=
  (((control t).or (controlString t)).or (characterSet t)).or (short t) |>.getD []

/-! ## What follows the escape character is what the text goes on with -/

theorem runThen_isPrefix {p q : Symbol → Bool} {t b : Text} (h : runThen p q t = some b) :
    b <+: t := by
  rw [runThen.eq_def] at h
  split at h
  · simp at h
  · rename_i s r hr
    split at h
    · obtain rfl := Option.some.inj h
      exact ⟨r, by
        rw [List.append_assoc, List.singleton_append, ← hr, List.takeWhile_append_dropWhile]⟩
    · simp at h

theorem controlRest_isPrefix {t b : Text} (h : controlRest t = some b) : b <+: t := by
  obtain ⟨b', h', rfl⟩ := Option.map_eq_some_iff.1 h
  obtain ⟨r, hr⟩ := runThen_isPrefix h'
  exact ⟨r, by rw [List.append_assoc, hr, List.takeWhile_append_dropWhile]⟩

theorem stringRest_isPrefix {t b : Text} (h : stringRest t = some b) : b <+: t := by
  have ht := List.takeWhile_append_dropWhile (p := isStringBody) (l := t)
  rw [stringRest.eq_def] at h
  split at h
  · rename_i r hr
    obtain rfl := Option.some.inj h
    exact ⟨r, by rw [hr] at ht; simpa using ht⟩
  · rename_i r hr
    obtain rfl := Option.some.inj h
    exact ⟨r, by rw [hr] at ht; simpa using ht⟩
  · simp at h

theorem control_isPrefix {t b : Text} (h : control t = some b) : b <+: t := by
  rw [control.eq_def] at h
  split at h
  · obtain ⟨b', h', rfl⟩ := Option.map_eq_some_iff.1 h
    exact List.prefix_cons_inj _ |>.2 (controlRest_isPrefix h')
  · simp at h

theorem controlString_isPrefix {t b : Text} (h : controlString t = some b) : b <+: t := by
  rw [controlString.eq_def] at h
  split at h
  · split at h
    · obtain ⟨b', h', rfl⟩ := Option.map_eq_some_iff.1 h
      exact List.prefix_cons_inj _ |>.2 (stringRest_isPrefix h')
    · simp at h
  · simp at h

theorem characterSet_isPrefix {t b : Text} (h : characterSet t = some b) : b <+: t := by
  rw [characterSet.eq_def] at h
  split at h
  · rename_i c s r
    split at h
    · obtain rfl := Option.some.inj h
      exact ⟨r, rfl⟩
    · simp at h
  · simp at h

theorem body_isPrefix (t : Text) : body t <+: t := by
  rw [body.eq_def]
  cases h1 : control t with
  | some b => exact control_isPrefix h1
  | none =>
    cases h2 : controlString t with
    | some b => exact controlString_isPrefix h2
    | none =>
      cases h3 : characterSet t with
      | some b => exact characterSet_isPrefix h3
      | none =>
        cases h4 : short t with
        | some b => exact runThen_isPrefix h4
        | none => exact List.nil_prefix

/-! ## Tokens -/

/-- What a text is made of: escape sequences and other symbols. -/
inductive Token where
  /-- An escape sequence: the escape character followed by `body`. -/
  | escape (body : Text)
  /-- A symbol outside of all escape sequences. -/
  | plain (s : Symbol)
deriving DecidableEq

namespace Token

/-- The symbols of a token. -/
def text : Token → Text
  | .escape body => .esc :: body
  | .plain s => [s]

/-- The tokens after the next `k` symbols, which belong to a sequence already read. -/
def ofTextFrom : Nat → Text → List Token
  | _, [] => []
  | k + 1, _ :: t => ofTextFrom k t
  | 0, s :: t =>
    if s = .esc then .escape (body t) :: ofTextFrom (body t).length t
    else .plain s :: ofTextFrom 0 t

/-- The tokens of a text. -/
def ofText (t : Text) : List Token := ofTextFrom 0 t

theorem ofTextFrom_eq_drop (k : Nat) (t : Text) : ofTextFrom k t = ofText (t.drop k) := by
  induction t generalizing k with
  | nil => cases k <;> rfl
  | cons s t ih =>
    cases k with
    | zero => rfl
    | succ k => exact ih k

@[simp] theorem ofText_nil : ofText [] = [] := rfl

theorem ofText_esc (t : Text) :
    ofText (.esc :: t) = .escape (body t) :: ofText (t.drop (body t).length) := by
  rw [← ofTextFrom_eq_drop]
  rfl

theorem ofText_cons_of_ne {s : Symbol} (h : s ≠ .esc) (t : Text) :
    ofText (s :: t) = .plain s :: ofText t := by
  rw [ofText, ofTextFrom, if_neg h]
  rfl

theorem flatMap_text_ofTextFrom (k : Nat) (t : Text) :
    (ofTextFrom k t).flatMap text = t.drop k := by
  fun_induction ofTextFrom k t with
  | case1 => simp
  | case2 k s t ih => simpa using ih
  | case3 t ih =>
    rw [List.flatMap_cons, ih, text, List.drop_zero, List.cons_append,
      List.prefix_iff_eq_append.1 (body_isPrefix t)]
  | case4 s t h ih => simpa [text] using ih

/-- The tokens of a text spell the text. -/
theorem flatten_ofText (t : Text) : (ofText t).flatMap text = t :=
  flatMap_text_ofTextFrom 0 t

end Token
end Escape
end ColumnFold
