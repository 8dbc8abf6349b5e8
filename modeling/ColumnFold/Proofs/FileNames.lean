import ColumnFold.Proofs.AttachedWidths

/-!
# Naming files

Where the options of a command line end, files can be named after the word `--`: whatever follows it
is an operand, and no option takes it.  So words that are accepted without a file are accepted with
any files, and ask for the same otherwise.  The word is not written a second time if it stands there
already.

The words before `--` go through the stages of reading as they do without it.  Only a width option
at the very end would take the word for its value; but such an option is misused if it stands alone,
and then the words are not accepted in the first place.

* `Config.naming` — words, and the names of files after them.
* `Settings.OnlyUses` — words that are accepted and name no file, up to `--`.
* `Config.settings_naming` — words that name files ask for the same as without them.
-/

set_option autoImplicit false

namespace ColumnFold

/-! ## Attaching widths -/

namespace WidthWords

variable {args : List String}

/-- Nothing is attached after `--`. -/
theorem attach_append_of_mem (h : "--" ∈ attach args) (tail : List String) :
    attach (args ++ tail) = attach args ++ tail := by
  obtain ⟨front, back, rfl, hfront⟩ := exists_of_separator_mem h
  rw [List.append_assoc, List.cons_append, hfront.attach_append, hfront.attach_append,
    attach_separator, attach_separator, List.append_assoc, List.cons_append]

/-- The word `--` is attached to nothing, unless a width option without a value stands before it. -/
theorem attach_append_separator (h : "--" ∉ attach args)
    (hlast : ∀ init word, attach args = init ++ [word] → isBare word = false)
    (tail : List String) : attach (args ++ "--" :: tail) = attach args ++ "--" :: tail := by
  obtain ⟨front, back, rfl, hfront, hback⟩ := exists_complete_append args
  rw [hfront.attach_append, hback.attach_eq] at h hlast
  cases hback with
  | none => rw [List.append_nil, hfront.attach_append, attach_separator]
  | bare hbare =>
    rw [hlast _ _ rfl] at hbare
    cases hbare
  | separator words => exact absurd (List.mem_append_right _ List.mem_cons_self) h

end WidthWords

/-! ## Reading words one by one -/

namespace Word

/-- No single word is read as `--`. -/
theorem ne_separator_of_read {word : String} {w : Word} (h : read word = .ok w) :
    w ≠ .separator := by
  rintro rfl
  rw [read] at h
  split at h
  · split at h
    · rename_i hnamed
      obtain rfl := Except.ok.inj h
      rw [named?] at hnamed
      split at hnamed
      · cases hnamed
      · split at hnamed
        · cases hnamed
        · obtain ⟨_, -, heq⟩ := Option.map_eq_some_iff.1 hnamed
          cases heq
    · rw [guess] at h
      split at h
      · split at h <;> cases h
      · cases h
      · cases h
  · cases h

theorem readAll_append {front : List String} (h : "--" ∉ front) (back : List String) :
    readAll (front ++ back) = (do return (← readAll front) ++ (← readAll back)) := by
  induction front with
  | nil => cases hback : readAll back <;> rw [List.nil_append, hback] <;> rfl
  | cons word front ih =>
    have hsep : word ≠ "--" := fun heq => h (heq ▸ List.mem_cons_self)
    rw [List.cons_append, readAll, readAll, if_neg hsep, if_neg hsep,
      ih fun hmem => h (List.mem_cons_of_mem _ hmem)]
    cases read word with
    | error e => rfl
    | ok w => cases readAll front <;> cases readAll back <;> rfl

theorem separator_notMem_readAll {front : List String} (h : "--" ∉ front) {words : List Word}
    (hread : readAll front = .ok words) : .separator ∉ words := by
  induction front generalizing words with
  | nil => cases hread; exact List.not_mem_nil
  | cons word front ih =>
    have hsep : word ≠ "--" := fun heq => h (heq ▸ List.mem_cons_self)
    rw [readAll, if_neg hsep] at hread
    obtain ⟨w, hword, hread⟩ := bind_eq_ok.1 hread
    obtain ⟨ws, hfront, hread⟩ := bind_eq_ok.1 hread
    obtain rfl := Except.ok.inj hread
    rw [List.mem_cons, not_or]
    exact ⟨Ne.symm (ne_separator_of_read hword),
      ih (fun hmem => h (List.mem_cons_of_mem _ hmem)) hfront⟩

/-- Operands ahead are not found beyond words of another kind. -/
theorem operandsAhead_append {words tail : List Word} (h : operandsAhead tail = []) :
    operandsAhead (words ++ tail) = operandsAhead words := by
  fun_induction operandsAhead words with
  | case1 text words ih => exact congrArg _ ih
  | case2 words hwords =>
    cases words with
    | nil => exact h
    | cons w words => cases w <;> first | rfl | exact absurd rfl (hwords _ _)

end Word

/-! ## Taking values -/

namespace Use

variable {flag : Flag} {following : List String} {uses : List Use} {count : Nat}

theorem count_attached {value : List Char} (h : attached flag value = .ok (uses, count)) :
    count = 0 := by
  rw [attached] at h
  split at h <;> cases h
  rfl

theorem count_detached_le (h : detached flag following = .ok (uses, count)) :
    count ≤ following.length := by
  rw [detached.eq_def] at h
  split at h <;> cases h
  · exact Nat.zero_le _
  · exact Nat.succ_le_succ (Nat.zero_le _)
  · exact Nat.le_refl _

theorem count_short_le {cs : List Char} (h : short flag following cs = .ok (uses, count)) :
    count ≤ following.length := by
  induction cs generalizing flag uses count with
  | nil => exact count_detached_le h
  | cons c cs ih =>
    rw [short] at h
    split at h
    · split at h
      · obtain ⟨⟨others, taken⟩, hothers, h⟩ := bind_eq_ok.1 h
        obtain ⟨-, rfl⟩ := Prod.mk.inj (Except.ok.inj h)
        exact ih hothers
      · cases h
    · exact count_attached h ▸ Nat.zero_le _

theorem count_le {long : Bool} {value : Option (List Char)}
    (h : ofOption flag long value following = .ok (uses, count)) : count ≤ following.length := by
  rw [ofOption.eq_def] at h
  split at h
  · exact count_detached_le h
  · exact count_attached h ▸ Nat.zero_le _
  · split at h
    · exact count_attached h ▸ Nat.zero_le _
    · exact count_short_le h

end Use

namespace Item

/-- Whether an item is an option that is misused. -/
def isMisuse : Item → Bool
  | .misuse _ => true
  | _ => false

/-- Words that begin with no operand do not change the items of the words before them; they add
their own, unless an option before them is misused. -/
theorem ofWordsFrom_append_tail {tail : List Word} (htail : Word.operandsAhead tail = [])
    {k : Nat} {words : List Word} (hk : k ≤ (Word.operandsAhead words).length) :
    ofWordsFrom k (words ++ tail) =
      ofWordsFrom k words ++
        if (ofWordsFrom k words).any isMisuse then [] else ofWordsFrom 0 tail := by
  fun_induction ofWordsFrom k words with
  | case1 k =>
    obtain rfl := Nat.le_zero.1 hk
    rfl
  | case2 k w words ih =>
    -- what an option has taken is an operand
    cases w with
    | operand text => exact ih (Nat.le_of_succ_le_succ hk)
    | option => exact absurd hk (Nat.not_succ_le_zero k)
    | unknown => exact absurd hk (Nat.not_succ_le_zero k)
    | separator => exact absurd hk (Nat.not_succ_le_zero k)
  | case3 text words ih => exact congrArg _ (ih (Nat.zero_le _))
  | case4 text words ih => exact congrArg _ (ih (Nat.zero_le _))
  | case5 words ih => exact congrArg _ (ih (Nat.zero_le _))
  | case6 flag long value words uses count hreading ih =>
    rw [List.cons_append, ofWordsFrom, Word.operandsAhead_append htail, hreading]
    exact congrArg _ (ih (Use.count_le hreading))
  | case7 flag long value words e hreading =>
    rw [List.cons_append, ofWordsFrom, Word.operandsAhead_append htail, hreading]
    rfl

theorem separator_notMem_ofWordsFrom {k : Nat} {words : List Word} (h : .separator ∉ words) :
    .separator ∉ ofWordsFrom k words := by
  fun_induction ofWordsFrom k words with
  | case1 => exact List.not_mem_nil
  | case2 k w words ih => exact ih fun hmem => h (List.mem_cons_of_mem _ hmem)
  | case3 text words ih => simpa using ih fun hmem => h (List.mem_cons_of_mem _ hmem)
  | case4 text words ih => simpa using ih fun hmem => h (List.mem_cons_of_mem _ hmem)
  | case5 words ih => exact absurd List.mem_cons_self h
  | case6 flag long value words uses count hreading ih =>
    simpa using ih fun hmem => h (List.mem_cons_of_mem _ hmem)
  | case7 => simp

theorem ofWordsFrom_operands (names : List String) :
    ofWordsFrom 0 (names.map .operand) = names.map .operand := by
  induction names with
  | nil => rfl
  | cons name names ih => exact congrArg _ ih

/-- Words without operands are uses, misuses and separators. -/
theorem of_operandsFrom_eq_nil {place : Place} {items : List Item}
    (h : operandsFrom place items = ([], [])) {i : Item} (hi : i ∈ items) :
    (∃ uses, i = .uses uses) ∨ i.isMisuse ∨ i = .separator := by
  induction items generalizing place with
  | nil => cases hi
  | cons j items ih =>
    have hrest : ∀ {place : Place}, operandsFrom place items = ([], []) → i ∈ items →
        (∃ uses, i = .uses uses) ∨ i.isMisuse ∨ i = .separator := fun h hi => ih h hi
    cases j with
    | uses uses =>
      obtain rfl | hi := List.mem_cons.1 hi
      · exact .inl ⟨uses, rfl⟩
      · cases place <;> exact hrest h hi
    | misuse e =>
      obtain rfl | hi := List.mem_cons.1 hi
      · exact .inr (.inl rfl)
      · cases place <;> exact hrest h hi
    | operand text =>
      cases place <;> simp [operandsFrom] at h
    | unknown text =>
      cases place <;> simp [operandsFrom] at h
    | separator =>
      obtain rfl | hi := List.mem_cons.1 hi
      · exact .inr (.inr rfl)
      · cases place with
        | before => exact hrest h hi
        | within => exact hrest h hi
        | after => simp [operandsFrom] at h

/-- Operands after the first separator are all names of files, if only uses stand before it. -/
theorem operands_uses_append {items : List Item} (h : ∀ i ∈ items, ∃ uses, i = .uses uses)
    (names : List String) :
    operands (items ++ .separator :: names.map .operand) = (names, []) := by
  induction items with
  | nil =>
    show operandsFrom .within (names.map .operand) = _
    induction names with
    | nil => rfl
    | cons name names ih => rw [List.map_cons, operandsFrom, ih]; simp
  | cons i items ih =>
    obtain ⟨uses, rfl⟩ := h i List.mem_cons_self
    exact ih fun j hj => h j (List.mem_cons_of_mem _ hj)

end Item

/-! ## Accepted words -/

namespace Settings

variable {expand : Bool} {s : Settings}

/-- Words without `--` that are accepted, name no file, and ask for the settings `s`. -/
structure OnlyUses (expand : Bool) (front : List String) (s : Settings) : Prop where
  notMem : "--" ∉ front
  run : ∃ words before, Word.readAll front = .ok words ∧
    (Item.ofWords words).foldlM step (start expand) = .ok before ∧
    (∀ i ∈ Item.ofWords words, ∃ uses, i = .uses uses) ∧ s = { before with files := [] }

/-- What options ask for does not include a misuse. -/
theorem not_isMisuse_of_foldlM {items : List Item} {before after : Settings}
    (h : items.foldlM step before = .ok after) : items.any Item.isMisuse = false := by
  induction items generalizing before with
  | nil => rfl
  | cons i items ih =>
    rw [List.foldlM_cons] at h
    obtain ⟨next, hi, hitems⟩ := bind_eq_ok.1 h
    rw [List.any_cons, ih hitems, Bool.or_false]
    cases i with
    | misuse e => cases hi
    | _ => rfl

theorem foldlM_operands (names : List String) (before : Settings) :
    (Item.separator :: names.map .operand).foldlM step before = .ok before := by
  induction names with
  | nil => rfl
  | cons name names ih => exact ih

namespace OnlyUses

variable {front : List String}

/-- Words that are accepted and name no file consist of uses only; `--` may follow them. -/
theorem of_read {back : List String} (hnotMem : "--" ∉ front)
    (hback : back = [] ∨ ∃ names, back = "--" :: names)
    (h : read expand (front ++ back) = .ok s) (hfiles : s.files = []) :
    OnlyUses expand front s ∧ (back = [] ∨ back = ["--"]) := by
  obtain ⟨all, before, hall, hbefore, hoperands, hs⟩ := read_eq_ok.1 h
  rw [hfiles] at hoperands hs
  rw [Word.readAll_append hnotMem] at hall
  obtain ⟨words, hwords, hall⟩ := bind_eq_ok.1 hall
  obtain ⟨tail, htail, hall⟩ := bind_eq_ok.1 hall
  obtain rfl := Except.ok.inj hall
  -- nothing in the rest is taken by an option before it
  have hahead : Word.operandsAhead tail = [] := by
    obtain rfl | ⟨names, rfl⟩ := hback <;> (cases htail; rfl)
  have hinert : ∀ b, (Item.ofWordsFrom 0 tail).foldlM step b = .ok b := by
    obtain rfl | ⟨names, rfl⟩ := hback <;> cases htail
    · exact fun b => rfl
    · intro b
      rw [Item.ofWordsFrom, Item.ofWordsFrom_operands]
      exact foldlM_operands names b
  have hitems := Item.ofWordsFrom_append_tail hahead
    (Nat.zero_le (Word.operandsAhead words).length)
  have hmisuse := not_isMisuse_of_foldlM hbefore
  rw [Item.ofWords, hitems, List.any_append, Bool.or_eq_false_iff] at hmisuse
  rw [hmisuse.1, if_neg Bool.false_ne_true] at hitems
  rw [Item.ofWords, hitems] at hbefore hoperands
  rw [List.foldlM_append] at hbefore
  obtain ⟨middle, hmiddle, hbefore⟩ := bind_eq_ok.1 hbefore
  obtain rfl := Except.ok.inj ((hinert middle).symm.trans hbefore)
  have hmem := fun i hi => Item.of_operandsFrom_eq_nil (i := i) hoperands hi
  refine ⟨⟨hnotMem, words, middle, hwords, hmiddle, fun i hi => ?_, hs⟩, ?_⟩
  · obtain huses | hbad | rfl := hmem i (List.mem_append_left _ hi)
    · exact huses
    · exact absurd hbad (List.any_eq_false.1 hmisuse.1 i hi)
    · exact absurd hi (Item.separator_notMem_ofWordsFrom
        (Word.separator_notMem_readAll hnotMem hwords))
  · obtain rfl | ⟨names, rfl⟩ := hback
    · exact .inl rfl
    · cases names with
      | nil => exact .inr rfl
      | cons name names =>
        cases htail
        have hname : .operand name ∈ Item.ofWordsFrom 0
            (.separator :: (name :: names).map .operand) := by simp [Item.ofWordsFrom]
        simpa [Item.isMisuse] using hmem _ (List.mem_append_right _ hname)

/-- The last word is no width option without a value. -/
theorem isBare_eq_false (h : OnlyUses expand front s) {init : List String} {word : String}
    (hfront : front = init ++ [word]) : WidthWords.isBare word = false := by
  obtain ⟨hnotMem, all, before, hall, hbefore, huses, -⟩ := h
  refine Bool.not_eq_true _ ▸ fun hbare => ?_
  have hinit : "--" ∉ init := fun hmem => hnotMem (hfront ▸ List.mem_append_left _ hmem)
  rw [hfront, Word.readAll_append hinit] at hall
  obtain ⟨words, hwords, hall⟩ := bind_eq_ok.1 hall
  obtain ⟨last, hlast, hall⟩ := bind_eq_ok.1 hall
  obtain rfl := Except.ok.inj hall
  have hword : ∃ long, last = [.option .width long none] := by
    rw [WidthWords.isBare, Bool.or_eq_true, beq_iff_eq, beq_iff_eq] at hbare
    obtain rfl | rfl := hbare
    · exact ⟨false, (Except.ok.inj hlast).symm⟩
    · exact ⟨true, (Except.ok.inj hlast).symm⟩
  obtain ⟨long, rfl⟩ := hword
  -- it would take the word after it, but there is none
  have hmisuse := not_isMisuse_of_foldlM hbefore
  rw [Item.ofWords, Item.ofWordsFrom_append_tail rfl (Nat.zero_le _)] at hmisuse
  rw [List.any_append, Bool.or_eq_false_iff] at hmisuse
  obtain ⟨hfirst, hlast⟩ := hmisuse
  rw [hfirst, if_neg Bool.false_ne_true] at hlast
  cases hlast

theorem read_separator (h : OnlyUses expand front s) (names : List String) :
    read expand (front ++ "--" :: names) = .ok { s with files := names } := by
  obtain ⟨hnotMem, words, before, hwords, hbefore, huses, rfl⟩ := h
  have hall : Word.readAll (front ++ "--" :: names) =
      .ok (words ++ .separator :: names.map .operand) := by
    rw [Word.readAll_append hnotMem, hwords]
    rfl
  have hmisuse := not_isMisuse_of_foldlM hbefore
  have hitems : Item.ofWords (words ++ .separator :: names.map .operand) =
      Item.ofWords words ++ .separator :: names.map .operand := by
    rw [Item.ofWords, Item.ofWordsFrom_append_tail rfl (Nat.zero_le _), ← Item.ofWords, hmisuse,
      if_neg Bool.false_ne_true, Item.ofWordsFrom, Item.ofWordsFrom_operands]
  refine read_eq_ok.2 ⟨_, before, hall, ?_, ?_, rfl⟩
  · rw [hitems, List.foldlM_append, hbefore]
    exact foldlM_operands names before
  · rw [hitems, Item.operands_uses_append huses]

end OnlyUses
end Settings

namespace Config

/-- Words and the names of files.  The word `--` stands before the names, so that none of them is
taken for an option or for a value of one. -/
def naming (args names : List String) : List String :=
  if "--" ∈ WidthWords.attach args then args ++ names else args ++ "--" :: names

/-- **Words that name files** ask for these files, and for nothing else than the words without
them. -/
theorem settings_naming {mode : Mode} {args : List String} {s : Settings}
    (h : settings mode args = .ok s) (hfiles : s.files = []) (names : List String) :
    settings mode (naming args names) = .ok { s with files := names } := by
  rw [settings] at h ⊢
  rw [naming]
  split
  · rename_i hmem
    obtain ⟨front, back, hargs, hfront⟩ := List.eq_append_cons_of_mem hmem
    rw [hargs] at h
    obtain ⟨huses, hback⟩ := Settings.OnlyUses.of_read hfront (.inr ⟨back, rfl⟩) h hfiles
    obtain rfl : back = [] := by simpa using hback
    rw [WidthWords.attach_append_of_mem hmem, hargs, List.append_assoc]
    exact huses.read_separator names
  · rename_i hmem
    rw [← List.append_nil (WidthWords.attach args)] at h
    have huses := (Settings.OnlyUses.of_read hmem (.inl rfl) h hfiles).1
    rw [WidthWords.attach_append_separator hmem fun init word => huses.isBare_eq_false]
    exact huses.read_separator names

end Config
end ColumnFold
