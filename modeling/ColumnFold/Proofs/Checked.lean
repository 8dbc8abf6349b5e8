import ColumnFold.Command.Config
import ColumnFold.Proofs.CommandLine

/-!
# Values that passed their checks

An option with a value checks it, and a refused value ends the reading of the command line.  So the
settings that a command line leads to hold only values that passed their checks, and blanks; the
defaults pass the checks as well.  The invariant is kept by every option, and so by every item and
by the whole command line.

* `FoldChoices.Checked` — choices that passed their checks.
* `Settings.checked_use` — every option keeps to it.
* `Config.checked_choices` — it holds of every configuration.
-/

set_option autoImplicit false

namespace ColumnFold

/-- Choices that passed their checks, as far as they are not blank. -/
structure FoldChoices.Checked (c : FoldChoices) : Prop where
  /-- The limit of closing punctuation is not negative. -/
  runIn : ∀ n, c.runIn = some n → 0 ≤ n
  /-- The limit of opening punctuation is not negative. -/
  runOut : ∀ n, c.runOut = some n → 0 ≤ n
  /-- The distance of tab stops is positive. -/
  tabStop : ∀ n, c.tabStop = some n → 0 < n
  /-- The filler takes one column where ambiguous characters are narrow. -/
  filler : ∀ t, c.filler = some t → Measure.columns? .narrow (Text.ofString t) = some 1
  /-- So does what the first column of a tab shows. -/
  tabHead : ∀ t, c.tabHead = some t → Measure.columns? .narrow (Text.ofString t) = some 1
  /-- So does what each other column of a tab shows. -/
  tabSpace : ∀ t, c.tabSpace = some t → Measure.columns? .narrow (Text.ofString t) = some 1

theorem of_foldlM {ε α β : Type} {f : β → α → Except ε β} {I : β → Prop}
    (hstep : ∀ b a b', I b → f b a = .ok b' → I b') {as : List α} {b b' : β} (hb : I b)
    (h : as.foldlM f b = .ok b') : I b' := by
  induction as generalizing b with
  | nil => cases h; exact hb
  | cons a as ih =>
    rw [List.foldlM_cons] at h
    obtain ⟨next, hnext, h⟩ := bind_eq_ok.1 h
    exact ih (hstep b a next hb hnext) h

theorem Value.nonneg_of_nonNegative {word : String} {n : Int} (h : nonNegative word = .ok n) :
    0 ≤ n := by
  obtain ⟨m, -, h⟩ := bind_eq_ok.1 h
  split at h
  · cases h
  · cases h
    omega

theorem Value.of_oneColumn {word t : String} (h : oneColumn word = .ok t) :
    Measure.columns? .narrow (Text.ofString t) = some 1 := by
  rw [oneColumn] at h
  split at h
  · cases h
    assumption
  · cases h

namespace Settings

variable {s s' : Settings}

theorem of_checked {α : Type} {flag : Flag} {kind : Usage.NumberKind}
    {value : Except Value.Error α} {a : α} (h : checked flag kind value = .ok a) {P : α → Prop}
    (hvalue : ∀ a, value = .ok a → P a) : ∀ b, some a = some b → P b := by
  rintro b ⟨⟩
  rw [checked.eq_def] at h
  split at h
  · cases h
    exact hvalue a rfl
  · cases h
  · cases h

theorem checked_start (expand : Bool) : (start expand).choices.Checked where
  runIn n h := by cases h; decide
  runOut n h := by cases h; decide
  tabStop n h := by cases h; decide
  filler t h := by cases h; decide
  tabHead t h := by cases h; decide
  tabSpace t h := by cases h; decide

theorem checked_useSwitch (hs : s.choices.Checked) {flag : Flag} (h : s.useSwitch flag = .ok s') :
    s'.choices.Checked := by
  cases flag <;> cases h <;> exact { hs with }

theorem checked_useWidths (hs : s.choices.Checked) {list : Option String}
    (h : s.useWidths list = .ok s') : s'.choices.Checked := by
  obtain ⟨-, -, h⟩ := bind_eq_ok.1 h
  cases h
  exact hs

theorem checked_useBlank (hs : s.choices.Checked) {flag : Flag} (h : s.useBlank flag = .ok s') :
    s'.choices.Checked := by
  cases flag with
  | width => exact checked_useWidths hs h
  | filler => cases h; exact { hs with filler := nofun }
  | runIn => cases h; exact { hs with runIn := nofun }
  | runOut => cases h; exact { hs with runOut := nofun }
  | tabStop => cases h; exact { hs with tabStop := nofun }
  | tabHead => cases h; exact { hs with tabHead := nofun }
  | tabSpace => cases h; exact { hs with tabSpace := nofun }
  | _ => cases h; exact { hs with }

theorem checked_useValue (hs : s.choices.Checked) {flag : Flag} {value : String}
    (h : s.useValue flag value = .ok s') : s'.choices.Checked := by
  cases flag with
  | width => exact checked_useWidths hs h
  | filler =>
    obtain ⟨t, ht, h⟩ := bind_eq_ok.1 h
    cases h
    exact { hs with filler := of_checked ht fun _ => Value.of_oneColumn }
  | tabHead =>
    obtain ⟨t, ht, h⟩ := bind_eq_ok.1 h
    cases h
    exact { hs with tabHead := of_checked ht fun _ => Value.of_oneColumn }
  | tabSpace =>
    obtain ⟨t, ht, h⟩ := bind_eq_ok.1 h
    cases h
    exact { hs with tabSpace := of_checked ht fun _ => Value.of_oneColumn }
  | runIn =>
    obtain ⟨n, hn, h⟩ := bind_eq_ok.1 h
    cases h
    exact { hs with runIn := of_checked hn fun _ => Value.nonneg_of_nonNegative }
  | runOut =>
    obtain ⟨n, hn, h⟩ := bind_eq_ok.1 h
    cases h
    exact { hs with runOut := of_checked hn fun _ => Value.nonneg_of_nonNegative }
  | tabStop =>
    obtain ⟨n, hn, h⟩ := bind_eq_ok.1 h
    cases h
    exact { hs with tabStop := of_checked hn fun _ => Value.pos_of_positive }
  | boundary | ambiguity | kinsoku =>
    obtain ⟨b, -, h⟩ := bind_eq_ok.1 h
    cases h
    exact { hs with }
  | _ => cases h; exact { hs with }

theorem checked_useColumns (hs : s.choices.Checked) {values : List String}
    (h : s.useColumns values = .ok s') : s'.choices.Checked := by
  obtain ⟨columns, -, h⟩ := bind_eq_ok.1 h
  obtain ⟨-, -, h⟩ := bind_eq_ok.1 h
  cases h
  exact hs

/-- **Every option keeps to values that passed their checks.** -/
theorem checked_use (hs : s.choices.Checked) {u : Use} (h : s.use u = .ok s') :
    s'.choices.Checked := by
  rw [use.eq_def] at h
  split at h
  · exact checked_useSwitch hs h
  · exact checked_useValue hs h
  · exact checked_useBlank hs h
  · exact checked_useColumns hs h

theorem checked_step (hs : s.choices.Checked) {i : Item} (h : s.step i = .ok s') :
    s'.choices.Checked := by
  cases i with
  | uses us => exact of_foldlM (I := (·.choices.Checked)) (fun _ _ _ hb => checked_use hb) hs h
  | misuse e => cases h
  | _ => cases h; exact hs

theorem checked_read {expand : Bool} {args : List String} (h : read expand args = .ok s) :
    s.choices.Checked := by
  obtain ⟨words, before, -, hbefore, -, hs⟩ := read_eq_ok.1 h
  rw [hs]
  exact of_foldlM (I := (·.choices.Checked)) (fun _ _ _ hb => checked_step hb)
    (checked_start expand) hbefore

end Settings

/-- **Every configuration holds only values that passed their checks**, and blanks. -/
theorem Config.checked_choices {mode : Mode} {args : List String} {s : Settings} {c : Config}
    (hs : settings mode args = .ok s) (hc : ofSettings mode s = .ok c) : c.choices.Checked := by
  have hchecked : s.choices.Checked := Settings.checked_read hs
  obtain ⟨widths, -, hc⟩ := bind_eq_ok.1 hc
  obtain ⟨separator, -, hc⟩ := bind_eq_ok.1 hc
  obtain rfl := Except.ok.inj hc
  show (foldChoices s).Checked
  rw [foldChoices]
  split
  · exact { hchecked with }
  · exact hchecked

end ColumnFold
