import ColumnFold.Command.Config

/-!
# Writing a command line

A use of an option can be written down: a name of the option, and then its values.  The words of
several uses in a row are read back as these uses, one after the other, and as nothing else.  So
what is proved of the settings after some uses holds for a command line.

Reading goes through four stages: the words after width options are attached, every word is read by
itself, options take the operands after them, and the uses take effect.  Each stage does with the
words of one use what it has to do, whatever follows; only an option of several values has to be
followed by another option, as it is where all words come from uses.

* `Use.Written` — the uses that can be written down.
* `Use.words` — the words for a use.
* `Settings.read_eq_ok` — what it takes for words to be accepted.
* `Settings.read_words` — the settings of a command line that is written for some uses.
-/

set_option autoImplicit false

namespace ColumnFold

theorem bind_eq_ok {ε α β : Type} {x : Except ε α} {f : α → Except ε β} {b : β} :
    (x >>= f) = .ok b ↔ ∃ a, x = .ok a ∧ f a = .ok b := by
  cases x with
  | error e => exact ⟨nofun, nofun⟩
  | ok a => exact ⟨fun h => ⟨a, rfl, h⟩, fun ⟨_, h, hf⟩ => Except.ok.inj h ▸ hf⟩

theorem eq_ok_of_toOption {ε α : Type} {x : Except ε α} {a : α} (h : x.toOption = some a) :
    x = .ok a := by
  cases x with
  | error e => cases h
  | ok b => exact congrArg Except.ok (Option.some.inj h)

/-! ## Words that are read as they are meant -/

namespace Flag

/-- The first name of an option. -/
def name (f : Flag) : String := f.names.headD ""

theorem ofName?_eq_none_of_mem {name : String} (h : '=' ∈ name.toList) : ofName? name = none := by
  have htable : ∀ p ∈ table, '=' ∉ p.1.toList := by decide
  rw [ofName?, List.find?_eq_none.2]
  · rfl
  · intro p hp heq
    rw [beq_iff_eq] at heq
    exact htable p hp (heq ▸ h)

theorem ne_width {f : Flag} (h : f.arity ≠ .one) : f ≠ .width := by
  rintro rfl
  exact h rfl

end Flag

namespace Word

/-- Whether a word begins with a dash. -/
def Dashed (word : String) : Prop := word.toList.head? = some '-'

instance (word : String) : Decidable (Dashed word) :=
  inferInstanceAs (Decidable (word.toList.head? = some '-'))

theorem read_name (f : Flag) : read f.name = .ok (.option f (Flag.isLong f.name) none) := by
  cases f <;> rfl

theorem read_operand {word : String} (h : ¬Dashed word) : read word = .ok (.operand word) := by
  rw [read]
  split
  · rename_i hword
    exact absurd (congrArg List.head? hword) h
  · rfl

/-- A word that names an option, alone or with a value after an equals sign, is that option. -/
theorem read_of_named? {word : String} (hdash : ∃ c cs, word.toList = '-' :: c :: cs) {w : Word}
    (h : named? word.toList = some w) : read word = .ok w := by
  obtain ⟨c, cs, hword⟩ := hdash
  rw [hword] at h
  simp only [read, hword, h]

/-- A width list that is attached to its option is read as its value, whatever it is. -/
theorem read_width (value : String) :
    read ("--width=" ++ value) = .ok (.option .width true (some value.toList)) := by
  have hlist : ("--width=" ++ value).toList = "--width".toList ++ '=' :: value.toList := by
    rw [String.toList_append]
    rfl
  have hsplit : splitValue ("--width".toList ++ '=' :: value.toList) =
      ("--width".toList, some value.toList) := rfl
  have hname : Flag.ofName? (String.ofList ("--width".toList ++ '=' :: value.toList)) = none :=
    Flag.ofName?_eq_none_of_mem (by simp)
  refine read_of_named? ⟨'-', "width".toList ++ '=' :: value.toList, hlist⟩ ?_
  rw [hlist, named?, hname, hsplit]
  rfl

end Word

/-! ## Writing uses -/

namespace Use

/-- The uses that can be written down: they have the values that their option takes, and no value
can be taken for an option.  A width list may begin with a dash, but must not be the word `--`. -/
inductive Written : Use → Prop
  /-- An option without values. -/
  | switch {flag : Flag} (h : flag.arity = .none) : Written ⟨flag, []⟩
  /-- An option with one value. -/
  | value {flag : Flag} {value : String} (h : flag.arity = .one) (hflag : flag ≠ .width)
    (hvalue : ¬Word.Dashed value) : Written ⟨flag, [value]⟩
  /-- A width list. -/
  | widths {value : String} (hvalue : value ≠ "--") : Written ⟨.width, [value]⟩
  /-- An option with several values. -/
  | values {flag : Flag} {value : String} {values : List String} (h : flag.arity = .some)
    (hvalues : ∀ v ∈ value :: values, ¬Word.Dashed v) : Written ⟨flag, value :: values⟩

/-- The words for a use. -/
def words (u : Use) : List String := u.flag.name :: u.values

/-- What the words for a use are read as, once width lists are attached. -/
def asWords (u : Use) : List Word :=
  if u.flag = .width then [.option .width true (some (u.values.headD "").toList)]
  else .option u.flag (Flag.isLong u.flag.name) none :: u.values.map .operand

end Use

/-! ## Reading the words of uses -/

theorem WidthWords.width_ne_separator (value : String) : "--" ≠ "--width=" ++ value := fun h => by
  have hlength := congrArg String.length h
  rw [String.length_append] at hlength
  exact absurd hlength (Nat.ne_of_lt (Nat.lt_of_lt_of_le (by decide) (Nat.le_add_right 8 _)))

theorem WidthWords.attach_cons {word : String} (hsep : word ≠ "--") (hbare : isBare word = false)
    (rest : List String) : attach (word :: rest) = word :: attach rest := by
  cases rest with
  | nil => rfl
  | cons value rest => rw [attach, if_neg hsep, if_neg (by simp [hbare])]

theorem WidthWords.attach_bare {word : String} (hbare : isBare word = true) (value : String)
    (rest : List String) :
    attach (word :: value :: rest) = ("--width=" ++ value) :: attach rest := by
  have hsep : word ≠ "--" := by
    rintro rfl
    cases hbare
  rw [attach, if_neg hsep, if_pos hbare]

namespace Word

variable {rest : List String} {ws : List Word}

theorem readAll_cons {word : String} {w : Word} (hsep : word ≠ "--") (hw : read word = .ok w)
    (h : readAll rest = .ok ws) : readAll (word :: rest) = .ok (w :: ws) := by
  rw [readAll, if_neg hsep, hw, h]
  rfl

theorem readAll_operands {values : List String} (hvalues : ∀ v ∈ values, ¬Dashed v)
    (h : readAll (WidthWords.attach rest) = .ok ws) :
    readAll (WidthWords.attach (values ++ rest)) = .ok (values.map .operand ++ ws) := by
  induction values with
  | nil => exact h
  | cons value values ih =>
    have hvalue := hvalues value List.mem_cons_self
    have hsep : value ≠ "--" := by
      rintro rfl
      exact hvalue rfl
    have hbare : WidthWords.isBare value = false := by
      rw [WidthWords.isBare, Bool.or_eq_false_iff, beq_eq_false_iff_ne, beq_eq_false_iff_ne]
      constructor <;> rintro rfl <;> exact hvalue rfl
    rw [List.cons_append, WidthWords.attach_cons hsep hbare]
    exact readAll_cons hsep (read_operand hvalue)
      (ih fun v hv => hvalues v (List.mem_cons_of_mem value hv))

theorem readAll_name {flag : Flag} (hflag : flag ≠ .width)
    (h : readAll (WidthWords.attach rest) = .ok ws) :
    readAll (WidthWords.attach (flag.name :: rest)) =
      .ok (.option flag (Flag.isLong flag.name) none :: ws) := by
  have hsep : flag.name ≠ "--" := by cases flag <;> decide
  have hbare : WidthWords.isBare flag.name = false := by
    cases flag <;> first | rfl | contradiction
  rw [WidthWords.attach_cons hsep hbare]
  exact readAll_cons hsep (read_name flag) h

/-- The words for a use are read as what they stand for, whatever comes after them. -/
theorem readAll_words {u : Use} (hu : u.Written) (h : readAll (WidthWords.attach rest) = .ok ws) :
    readAll (WidthWords.attach (u.words ++ rest)) = .ok (u.asWords ++ ws) := by
  cases hu with
  | @switch flag harity =>
    have hflag := Flag.ne_width (f := flag) (by simp [harity])
    rw [Use.asWords, if_neg hflag]
    exact readAll_name hflag h
  | @value flag value harity hflag hvalue =>
    rw [Use.asWords, if_neg hflag]
    exact readAll_name hflag (readAll_operands (by simpa using hvalue) h)
  | @widths value hvalue =>
    have hsep := Ne.symm (WidthWords.width_ne_separator value)
    have hbare : WidthWords.isBare (Flag.name .width) = true := by decide
    rw [Use.words, List.cons_append, List.singleton_append, WidthWords.attach_bare hbare]
    exact readAll_cons hsep (read_width value) h
  | @values flag value values harity hvalues =>
    have hflag := Flag.ne_width (f := flag) (by simp [harity])
    rw [Use.asWords, if_neg hflag]
    exact readAll_name hflag (readAll_operands hvalues h)

theorem readAll_flatMap_words {uses : List Use} (h : ∀ u ∈ uses, u.Written) :
    readAll (WidthWords.attach (uses.flatMap Use.words)) = .ok (uses.flatMap Use.asWords) := by
  induction uses with
  | nil => rfl
  | cons u uses ih =>
    exact readAll_words (h u List.mem_cons_self) (ih fun v hv => h v (List.mem_cons_of_mem u hv))

end Word

/-! ## Using what was read -/

namespace Item

/-- No operand stands before the first use. -/
theorem operandsAhead_asWords (uses : List Use) :
    Word.operandsAhead (uses.flatMap Use.asWords) = [] := by
  cases uses with
  | nil => rfl
  | cons u uses =>
    rw [List.flatMap_cons, Use.asWords]
    split <;> rfl

theorem operandsAhead_append (values : List String) (words : List Word) :
    Word.operandsAhead (values.map .operand ++ words) = values ++ Word.operandsAhead words := by
  induction values with
  | nil => rfl
  | cons value values ih => exact congrArg (value :: ·) ih

/-- The words that an option has taken are passed over. -/
theorem ofWordsFrom_append (values : List String) (words : List Word) :
    ofWordsFrom values.length (values.map .operand ++ words) = ofWordsFrom 0 words := by
  induction values with
  | nil => rfl
  | cons value values ih => exact ih

theorem ofWordsFrom_asWords {u : Use} (hu : u.Written) {words : List Word}
    (hwords : Word.operandsAhead words = []) :
    ofWordsFrom 0 (u.asWords ++ words) = .uses [u] :: ofWordsFrom 0 words := by
  -- an option without an attached value takes the operands after it, which are just its values
  have hdetached : ∀ (flag : Flag) (values : List String) (long : Bool),
      Use.detached flag values = .ok ([⟨flag, values⟩], values.length) →
      ofWordsFrom 0 (.option flag long none :: (values.map .operand ++ words)) =
        .uses [⟨flag, values⟩] :: ofWordsFrom 0 words := fun flag values long h => by
    rw [ofWordsFrom, operandsAhead_append, hwords, List.append_nil, Use.ofOption, h]
    exact congrArg _ (ofWordsFrom_append values words)
  cases hu with
  | @switch flag harity =>
    rw [Use.asWords, if_neg (Flag.ne_width (by simp [harity]))]
    exact hdetached flag [] _ (by rw [Use.detached.eq_def, harity]; rfl)
  | @value flag value harity hflag hvalue =>
    rw [Use.asWords, if_neg hflag]
    exact hdetached flag [value] _ (by rw [Use.detached.eq_def, harity]; rfl)
  | @widths value hvalue =>
    have hattached : Use.attached .width value.toList = .ok ([⟨.width, [value]⟩], 0) := by
      rw [Use.attached, if_neg (by decide), String.ofList_toList, if_neg hvalue]
    have hreading : Use.ofOption .width true (some value.toList) (Word.operandsAhead words) =
        .ok ([⟨.width, [value]⟩], 0) := by
      rw [← hattached]
      cases value.toList <;> rfl
    show ofWordsFrom 0 (.option .width true (some value.toList) :: words) = _
    rw [ofWordsFrom, hreading]
  | @values flag value values harity hvalues =>
    rw [Use.asWords, if_neg (Flag.ne_width (by simp [harity]))]
    exact hdetached flag (value :: values) _ (by rw [Use.detached.eq_def, harity])

theorem ofWords_asWords {uses : List Use} (h : ∀ u ∈ uses, u.Written) :
    ofWords (uses.flatMap Use.asWords) = uses.map fun u => .uses [u] := by
  induction uses with
  | nil => rfl
  | cons u uses ih =>
    rw [ofWords, List.flatMap_cons,
      ofWordsFrom_asWords (h u List.mem_cons_self) (operandsAhead_asWords uses)]
    exact congrArg _ (ih fun v hv => h v (List.mem_cons_of_mem u hv))

theorem operandsFrom_uses (place : Place) (uses : List Use) :
    operandsFrom place (uses.map fun u => .uses [u]) = ([], []) := by
  induction uses generalizing place with
  | nil => cases place <;> rfl
  | cons u uses ih => cases place <;> exact ih _

end Item

/-! ## Accepted words -/

namespace Settings

variable {expand : Bool} {s : Settings}

/-- Words are accepted if each of them is read, their options take effect one after the other, and
the operands that no option takes stand together. -/
theorem read_eq_ok {args : List String} :
    read expand args = .ok s ↔
      ∃ words before, Word.readAll args = .ok words ∧
        (Item.ofWords words).foldlM step (start expand) = .ok before ∧
        Item.operands (Item.ofWords words) = (s.files, []) ∧
        s = { before with files := s.files } := by
  rw [read]
  cases hread : Word.readAll args with
  | error e =>
    constructor
    · intro h
      cases h
    · rintro ⟨words, before, hwords, -⟩
      cases hwords
  | ok words =>
    constructor
    · intro h
      obtain ⟨before, hbefore, h⟩ := bind_eq_ok.1 h
      split at h
      rename_i files others hoperands
      split at h
      · rename_i hothers
        obtain rfl := Except.ok.inj h
        rw [List.isEmpty_iff.1 hothers] at hoperands
        exact ⟨words, before, rfl, hbefore, hoperands, rfl⟩
      · cases h
    · rintro ⟨words', before, hwords, hbefore, hoperands, hs⟩
      obtain rfl := Except.ok.inj hwords
      refine bind_eq_ok.2 ⟨before, hbefore, ?_⟩
      rw [hoperands]
      exact congrArg Except.ok hs.symm

end Settings

/-- **A command line that is written for some uses** has the settings after these uses, and names
no files. -/
theorem Settings.read_words (expand : Bool) {uses : List Use} (h : ∀ u ∈ uses, u.Written) :
    Settings.read expand (WidthWords.attach (uses.flatMap Use.words)) =
      (uses.foldlM Settings.use (start expand)).map ({ · with files := [] }) := by
  have hstep : ∀ (s : Settings) (u : Use), step s (.uses [u]) = s.use u := fun s u => by
    show (s.use u >>= fun s => pure s) = s.use u
    exact bind_pure _
  rw [read, Word.readAll_flatMap_words h]
  dsimp only
  rw [Item.ofWords_asWords h, List.foldlM_map]
  simp only [hstep]
  rw [Item.operands, Item.operandsFrom_uses]
  cases uses.foldlM use (start expand) <;> rfl

end ColumnFold
