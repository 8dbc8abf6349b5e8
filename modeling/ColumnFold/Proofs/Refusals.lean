import ColumnFold.Command.Run
import ColumnFold.Proofs.Checked

/-!
# Widths and columns that are refused

What is wrong with width lists or columns is found before the first line is read.  Width lists are
read token by token, over all lists in the order of the command line, and the first token that
stands for no widths decides what the complaint is; columns are checked pair by pair.  A command
line has width lists or columns, but not both: each of the two options is refused after the other.

So whether a run is refused, and with which complaint, is a matter of its words alone.  Standard
input and files have no part in it.

* `mapM_eq_error_iff` — a traversal fails with the first element that fails.
* `Settings.use_cases` — how an option changes the width lists and the columns.
* `Settings.Rejected` — what is wrong with the width lists or the columns.
* `Config.signedWidths_eq_error_iff` — nothing else keeps them from having widths.
* `Program.run_of_rejected` — a run with refused widths or columns, for all inputs.
-/

set_option autoImplicit false

namespace ColumnFold

/-! ## The first that fails -/

theorem bind_pure_eq_error {ε α β : Type} {x : Except ε α} {g : α → β} {e : ε} :
    (x >>= fun a => pure (g a)) = .error e ↔ x = .error e := by
  rcases x with e' | a
  · exact ⟨fun h => congrArg Except.error (Except.error.inj h), fun h => h ▸ rfl⟩
  · exact ⟨nofun, nofun⟩

theorem mapM_eq_error_iff {ε α β : Type} {f : α → Except ε β} {as : List α} {e : ε} :
    as.mapM f = .error e ↔ ∃ front a back, as = front ++ a :: back ∧
      (∀ x ∈ front, ∃ b, f x = .ok b) ∧ f a = .error e := by
  induction as with
  | nil => simp [pure, Except.pure]
  | cons a as ih =>
    rw [List.mapM_cons]
    rcases ha : f a with e' | b
    · constructor
      · rintro ⟨rfl⟩
        exact ⟨[], a, as, rfl, nofun, ha⟩
      · rintro ⟨_ | ⟨x, front⟩, a', back, heq, hfront, he⟩ <;>
          obtain ⟨rfl, rfl⟩ := List.cons.inj heq
        · obtain rfl := Except.error.inj (ha.symm.trans he)
          rfl
        · obtain ⟨b, hb⟩ := hfront a List.mem_cons_self
          rw [ha] at hb
          cases hb
    · have hrest : (Except.ok b >>= fun b => as.mapM f >>= fun bs => pure (b :: bs)) = .error e ↔
          as.mapM f = .error e := bind_pure_eq_error
      rw [hrest, ih]
      constructor
      · rintro ⟨front, a', back, rfl, hfront, he⟩
        exact ⟨a :: front, a', back, rfl, List.forall_mem_cons.2 ⟨⟨b, ha⟩, hfront⟩, he⟩
      · rintro ⟨_ | ⟨x, front⟩, a', back, heq, hfront, he⟩ <;>
          obtain ⟨rfl, rfl⟩ := List.cons.inj heq
        · rw [ha] at he
          cases he
        · exact ⟨front, a', back, rfl, (List.forall_mem_cons.1 hfront).2, he⟩

theorem mapM_mapError {ε ε' α β : Type} (f : α → Except ε β) (g : ε → ε') (as : List α) :
    (as.mapM fun a => (f a).mapError g) = (as.mapM f).mapError g := by
  induction as with
  | nil => rfl
  | cons a as ih =>
    rw [List.mapM_cons, List.mapM_cons, ih]
    rcases f a with _ | _
    · rfl
    · rcases as.mapM f with _ | _ <;> rfl

theorem of_mapM {ε α β : Type} {f : α → Except ε β} {P : β → Prop}
    (hf : ∀ a b, f a = .ok b → P b) {as : List α} {bs : List β} (h : as.mapM f = .ok bs) :
    ∀ b ∈ bs, P b := by
  induction as generalizing bs with
  | nil =>
    obtain rfl := Except.ok.inj h
    exact nofun
  | cons a as ih =>
    rw [List.mapM_cons] at h
    obtain ⟨b, hb, h⟩ := bind_eq_ok.1 h
    obtain ⟨bs', hbs, h⟩ := bind_eq_ok.1 h
    obtain rfl := Except.ok.inj h
    exact List.forall_mem_cons.2 ⟨hf a b hb, ih hbs⟩

/-- A list to which every step adds what it has to add ends as the list of all that was added. -/
theorem eq_append_of_foldlM {ε α β γ : Type} {f : β → α → Except ε β} {g : β → List γ}
    {added : α → List γ} (hstep : ∀ b a b', f b a = .ok b' → g b' = g b ++ added a) {as : List α}
    {b b' : β} (h : as.foldlM f b = .ok b') : g b' = g b ++ as.flatMap added := by
  induction as generalizing b with
  | nil =>
    obtain rfl := Except.ok.inj h
    exact (List.append_nil _).symm
  | cons a as ih =>
    rw [List.foldlM_cons] at h
    obtain ⟨next, hnext, h⟩ := bind_eq_ok.1 h
    rw [ih h, hstep b a next hnext, List.flatMap_cons, List.append_assoc]

/-! ## Pairs of columns -/

namespace ColumnPairs

/-- Why columns from `next` on are refused: the first pair begins too early, or ends before it
begins, or the others are refused. -/
inductive Refused : Int → List Int → Error → Prop
  /-- A pair begins within or before the pair before it. -/
  | overlap {next first : Int} {rest : List Int} (h : first < next) :
      Refused next (first :: rest) (.overlap first)
  /-- A pair ends before it begins. -/
  | reversed {next first last : Int} {rest : List Int} (hfirst : next ≤ first) (h : last < first) :
      Refused next (first :: last :: rest) (.reversed first last)
  /-- A later pair is refused. -/
  | later {next first last : Int} {rest : List Int} {e : Error} (hfirst : next ≤ first)
      (hlast : first ≤ last) (h : Refused (last + 1) rest e) :
      Refused next (first :: last :: rest) e

theorem widthsFrom_eq_error_iff {next : Int} {columns : List Int} {e : Error} :
    widthsFrom next columns = .error e ↔ Refused next columns e := by
  fun_induction widthsFrom next columns with
  | case1 => exact ⟨nofun, nofun⟩
  | case2 next first h =>
    constructor
    · rintro ⟨rfl⟩
      exact .overlap h
    · rintro (_ | _ | _)
      rfl
  | case3 next first h =>
    refine ⟨nofun, ?_⟩
    rintro (hlt | _ | _)
    exact absurd hlt h
  | case4 next first last rest h =>
    constructor
    · rintro ⟨rfl⟩
      exact .overlap h
    · rintro (_ | ⟨hle, -⟩ | ⟨hle, -, -⟩)
      · rfl
      · omega
      · omega
  | case5 next first last rest h hlast =>
    constructor
    · rintro ⟨rfl⟩
      exact .reversed (Int.not_lt.1 h) hlast
    · rintro (hlt | _ | ⟨-, hle, -⟩)
      · exact absurd hlt h
      · rfl
      · omega
  | case6 next first last rest h hlast ih =>
    rw [bind_pure_eq_error, ih]
    constructor
    · exact .later (Int.not_lt.1 h) (Int.not_lt.1 hlast)
    · rintro (hlt | ⟨-, hlt⟩ | ⟨-, -, hrefused⟩)
      · exact absurd hlt h
      · exact absurd hlt hlast
      · exact hrefused

end ColumnPairs

/-! ## Width lists and columns of a command line -/

/-- The width lists that an option adds. -/
def Use.widthLists (u : Use) : List (Option String) :=
  if u.flag = .width then [u.values.head?] else []

/-- The width lists that an item adds. -/
def Item.widthLists : Item → List (Option String)
  | .uses us => us.flatMap Use.widthLists
  | _ => []

namespace Settings

variable {s s' : Settings}

theorem eq_false_of_excludes {flag other : Flag} {used : Bool} {u : Unit}
    (h : excludes flag other used = .ok u) : used = false := by
  rw [excludes] at h
  split at h
  · cases h
  · exact Bool.eq_false_iff.2 ‹_›

theorem of_useWidths {list : Option String} (h : s.useWidths list = .ok s') :
    s.columns = none ∧ s' = { s with widths := s.widths ++ [list] } := by
  obtain ⟨u, hu, h⟩ := bind_eq_ok.1 h
  exact ⟨Option.isNone_iff_eq_none.1 (by rw [← Option.not_isSome, eq_false_of_excludes hu]; rfl),
    (Except.ok.inj h).symm⟩

theorem of_useColumns {values : List String} (h : s.useColumns values = .ok s') :
    s.widths = [] ∧
      ∃ columns, (∀ c ∈ columns, 0 < c) ∧ s' = { s with columns := some columns } := by
  obtain ⟨columns, hcolumns, h⟩ := bind_eq_ok.1 h
  obtain ⟨u, hu, h⟩ := bind_eq_ok.1 h
  refine ⟨List.isEmpty_iff.1 ?_, columns, of_mapM (fun value c hc => ?_) hcolumns,
    (Except.ok.inj h).symm⟩
  · rw [← Bool.not_eq_false', eq_false_of_excludes hu]
  · exact of_checked hc (fun _ => Value.pos_of_positive) c rfl

theorem useSwitch_keeps {flag : Flag} (h : s.useSwitch flag = .ok s') :
    s'.widths = s.widths ∧ s'.columns = s.columns := by
  cases flag <;> cases h <;> exact ⟨rfl, rfl⟩

theorem useValue_keeps {flag : Flag} (hflag : flag ≠ .width) {value : String}
    (h : s.useValue flag value = .ok s') : s'.widths = s.widths ∧ s'.columns = s.columns := by
  cases flag with
  | width => exact absurd rfl hflag
  | boundary | filler | ambiguity | kinsoku | runIn | runOut | tabStop | tabHead | tabSpace =>
    obtain ⟨a, -, h⟩ := bind_eq_ok.1 h
    cases h
    exact ⟨rfl, rfl⟩
  | _ => cases h; exact ⟨rfl, rfl⟩

theorem useBlank_keeps {flag : Flag} (hflag : flag ≠ .width) (h : s.useBlank flag = .ok s') :
    s'.widths = s.widths ∧ s'.columns = s.columns := by
  cases flag with
  | width => exact absurd rfl hflag
  | _ => cases h; exact ⟨rfl, rfl⟩

/-- **How an option changes the width lists and the columns**: it adds a width list if there are no
columns, or names columns if there are no width lists, or does neither. -/
theorem use_cases {u : Use} (h : s.use u = .ok s') :
    (u.flag = .width ∧ s.columns = none ∧ s'.columns = none ∧
        s'.widths = s.widths ++ [u.values.head?]) ∨
      (u.flag ≠ .width ∧ s.widths = [] ∧ s'.widths = [] ∧
        ∃ columns, s'.columns = some columns ∧ ∀ c ∈ columns, 0 < c) ∨
      (u.flag ≠ .width ∧ s'.widths = s.widths ∧ s'.columns = s.columns) := by
  obtain ⟨flag, values⟩ := u
  by_cases hflag : flag = .width
  · subst hflag
    refine .inl ⟨rfl, ?_⟩
    rcases values with _ | ⟨value, values⟩ <;>
    · obtain ⟨hcolumns, rfl⟩ := of_useWidths h
      exact ⟨hcolumns, hcolumns, rfl⟩
  · refine .inr ?_
    rw [use.eq_def] at h
    split at h
    · exact .inr ⟨hflag, useSwitch_keeps h⟩
    · exact .inr ⟨hflag, useValue_keeps hflag h⟩
    · exact .inr ⟨hflag, useBlank_keeps hflag h⟩
    · obtain ⟨hwidths, columns, hpos, rfl⟩ := of_useColumns h
      exact .inl ⟨hflag, hwidths, hwidths, columns, rfl, hpos⟩

theorem widths_use {u : Use} (h : s.use u = .ok s') : s'.widths = s.widths ++ u.widthLists := by
  rcases use_cases h with ⟨hflag, -, -, hw⟩ | ⟨hflag, hw, hw', -⟩ | ⟨hflag, hw, -⟩
  · rw [hw, Use.widthLists, if_pos hflag]
  · rw [hw, hw', Use.widthLists, if_neg hflag, List.append_nil]
  · rw [hw, Use.widthLists, if_neg hflag, List.append_nil]

theorem widths_step {i : Item} (h : s.step i = .ok s') :
    s'.widths = s.widths ++ i.widthLists := by
  cases i with
  | uses us => exact eq_append_of_foldlM (f := use) (fun _ _ _ hb => widths_use hb) h
  | misuse e => cases h
  | _ => cases h; exact (List.append_nil _).symm

/-- The width lists of accepted words are those of their options, in order. -/
theorem widths_read {expand : Bool} {args : List String} (h : read expand args = .ok s) :
    ∃ words, Word.readAll args = .ok words ∧
      s.widths = (Item.ofWords words).flatMap Item.widthLists := by
  obtain ⟨words, before, hwords, hbefore, -, hs⟩ := read_eq_ok.1 h
  refine ⟨words, hwords, ?_⟩
  rw [hs]
  exact eq_append_of_foldlM (f := step) (fun _ _ _ hb => widths_step hb) hbefore

/-- What is known of the width lists and the columns of accepted words. -/
structure Legal (s : Settings) : Prop where
  /-- There are no width lists, or no columns. -/
  exclusive : s.widths = [] ∨ s.columns = none
  /-- Columns are positive. -/
  positive : ∀ columns, s.columns = some columns → ∀ c ∈ columns, 0 < c

theorem legal_use (hs : s.Legal) {u : Use} (h : s.use u = .ok s') : s'.Legal := by
  rcases use_cases h with ⟨-, -, hnone, -⟩ | ⟨-, -, hwidths, columns, hcolumns, hpos⟩ |
    ⟨-, hwidths, hcolumns⟩
  · refine ⟨.inr hnone, fun columns h => ?_⟩
    rw [hnone] at h
    cases h
  · refine ⟨.inl hwidths, fun columns' h => ?_⟩
    obtain rfl := Option.some.inj (hcolumns.symm.trans h)
    exact hpos
  · exact ⟨by rw [hwidths, hcolumns]; exact hs.exclusive, by rw [hcolumns]; exact hs.positive⟩

theorem legal_step (hs : s.Legal) {i : Item} (h : s.step i = .ok s') : s'.Legal := by
  cases i with
  | uses us => exact of_foldlM (f := use) (fun _ _ _ hb => legal_use hb) hs h
  | misuse e => cases h
  | _ => cases h; exact hs

/-- Accepted words have width lists or columns, but not both, and columns are positive. -/
theorem legal_read {expand : Bool} {args : List String} (h : read expand args = .ok s) :
    s.Legal := by
  obtain ⟨words, before, -, hbefore, -, hs⟩ := read_eq_ok.1 h
  have hlegal : before.Legal :=
    of_foldlM (f := step) (fun _ _ _ hb => legal_step hb) ⟨.inl rfl, fun _ h => by cases h⟩ hbefore
  rw [hs]
  exact ⟨hlegal.exclusive, hlegal.positive⟩

end Settings

/-! ## What is wrong with them -/

namespace WidthList

/-- The places of width lists where widths stand: the texts between commas, and `none` for a list
that was left blank. -/
def places (lists : List (Option String)) : List (Option (List Char)) :=
  lists.flatMap fun list => list.elim [none] fun text => (Separated.fields ',' text.toList).map some

/-- The widths that stand at a place. -/
def readPlace : Option (List Char) → Except Config.Error (List Int)
  | none => .error .blankWidths
  | some token => (Token.read token).mapError .widths

end WidthList

/-- What is wrong with the width lists or the columns: the first place of a width list that gives no
widths, or the first pair of columns that is out of order. -/
inductive Settings.Rejected (s : Settings) : Config.Error → Prop
  /-- There are no widths at a place of a width list, but at all places before it. -/
  | place {before after : List (Option (List Char))} {place : Option (List Char)}
      {e : Config.Error} (hplaces : WidthList.places s.widths = before ++ place :: after)
      (hbefore : ∀ p ∈ before, ∃ widths, WidthList.readPlace p = .ok widths)
      (he : WidthList.readPlace place = .error e) : Rejected s e
  /-- A pair of columns is refused. -/
  | pair {columns : List Int} {e : ColumnPairs.Error} (hcolumns : s.columns = some columns)
      (h : ColumnPairs.Refused 1 columns e) : Rejected s (.columns e)

namespace Config

theorem listedWidths_eq (lists : List (Option String)) :
    listedWidths lists = ((WidthList.places lists).mapM WidthList.readPlace).map List.flatten := by
  induction lists with
  | nil => rfl
  | cons list lists ih =>
    rcases list with _ | text
    · rfl
    · have hfields : ((Separated.fields ',' text.toList).map some).mapM WidthList.readPlace =
          ((Separated.fields ',' text.toList).mapM WidthList.Token.read).mapError .widths := by
        rw [List.mapM_map]
        exact mapM_mapError _ _ _
      rw [listedWidths, WidthList.read, WidthList.tokens, List.flatMap_singleton, WidthList.places,
        List.flatMap_cons, ← WidthList.places, Option.elim_some, List.mapM_append, hfields, ih]
      rcases (Separated.fields ',' text.toList).mapM WidthList.Token.read with e | widths
      · rfl
      · rcases (WidthList.places lists).mapM WidthList.readPlace with e | others
        · rfl
        · exact congrArg Except.ok (List.flatten_append ..).symm

theorem map_eq_error {ε α β : Type} {x : Except ε α} {f : α → β} {e : ε} :
    x.map f = .error e ↔ x = .error e := by
  rcases x with _ | _ <;> simp [Except.map]

/-- **What is wrong with width lists and columns** is all that keeps them from having widths. -/
theorem signedWidths_eq_error_iff {s : Settings} (hs : s.Legal) {e : Error} :
    signedWidths s = .error e ↔ s.Rejected e := by
  rcases hcolumns : s.columns with _ | columns
  · rw [signedWidths, hcolumns]
    dsimp only
    rw [bind_pure_eq_error, listedWidths_eq, map_eq_error, mapM_eq_error_iff]
    constructor
    · rintro ⟨before, place, after, hplaces, hbefore, he⟩
      exact .place hplaces hbefore he
    · rintro (⟨hplaces, hbefore, he⟩ | ⟨hsome, -⟩)
      · exact ⟨_, _, _, hplaces, hbefore, he⟩
      · rw [hcolumns] at hsome
        cases hsome
  · have hwidths : s.widths = [] := hs.exclusive.resolve_right (by rw [hcolumns]; nofun)
    -- there is no place where a width could be missing
    have hrejected : s.Rejected e ↔ ∃ e', ColumnPairs.Refused 1 columns e' ∧ e = .columns e' := by
      constructor
      · rintro (⟨hplaces, -, -⟩ | ⟨hsome, h⟩)
        · rw [hwidths] at hplaces
          simp [WidthList.places] at hplaces
        · obtain rfl := Option.some.inj (hcolumns.symm.trans hsome)
          exact ⟨_, h, rfl⟩
      · rintro ⟨e', h, rfl⟩
        exact .pair hcolumns h
    rw [hrejected]
    rcases columns with _ | ⟨c, cs⟩
    · rw [signedWidths, hcolumns, hwidths]
      refine ⟨nofun, ?_⟩
      rintro ⟨e', ⟨⟩, -⟩
    · have hnone : (c :: cs).find? (· ≤ 0) = none := by
        simpa using hs.positive _ hcolumns
      rw [signedWidths, hcolumns]
      dsimp only
      rw [ColumnPairs.widths, hnone]
      simp only [← ColumnPairs.widthsFrom_eq_error_iff]
      rcases ColumnPairs.widthsFrom 1 (c :: cs) with e' | widths
      · constructor
        · rintro ⟨rfl⟩
          exact ⟨e', rfl, rfl⟩
        · rintro ⟨_, ⟨rfl⟩, rfl⟩
          rfl
      · refine ⟨nofun, ?_⟩
        rintro ⟨_, ⟨⟩, -⟩

theorem ofSettings_of_rejected (mode : Mode) {s : Settings} (hs : s.Legal) {e : Error}
    (he : s.Rejected e) : ofSettings mode s = .error e := by
  rw [ofSettings, (signedWidths_eq_error_iff hs).2 he]
  rfl

end Config

/-! ## Runs -/

namespace Program

variable {p : Program} {args : List String} {s : Settings}

/-- **Refused widths or columns end a run before anything is read or written.**  The width lists of
accepted words are those of their options, in order; there are widths for them, or for the columns,
unless something is wrong with them.  If something is, the run reads no input, and ends the same way
whatever standard input and the files hold: with status 1, no output, and the complaint after the
name of the program; or, where it is no refusal but a blank or too large a repetition, by breaking
down. -/
theorem run_of_rejected (hs : Config.settings p.mode args = .ok s) :
    (∃ words, Word.readAll (WidthWords.attach args) = .ok words ∧
      s.widths = (Item.ofWords words).flatMap Item.widthLists) ∧
    (∀ e, Config.signedWidths s = .error e ↔ s.Rejected e) ∧
    ∀ e, s.Rejected e → p.inputs args = [] ∧
      ∀ (stdin : List UInt8) (lookup : String → Source), p.run args stdin lookup =
        if e.isRefusal then .ok ⟨1, [], p.name ++ ": " ++ e.message ++ "\n"⟩
        else .error (.config e) := by
  have hlegal : s.Legal := Settings.legal_read hs
  refine ⟨Settings.widths_read hs, fun e => Config.signedWidths_eq_error_iff hlegal,
    fun e he => ?_⟩
  have hconfig := Config.ofSettings_of_rejected p.mode hlegal he
  refine ⟨?_, fun stdin lookup => ?_⟩
  · rw [inputs, hs]
    dsimp only
    rw [hconfig]
  · rw [run, hs]
    dsimp only
    rw [hconfig]
    rfl

/-- A range in the second of three width lists, before a file that is missing, and a pair of columns
after a pair that is in order. -/
theorem run_of_rejected_second_list :
    let p := Program.expander
    let args := ["-n", "-w", "3,,-2", "missing", "--width", "5,1:0:2,z", "-w", "8"]
    let s : Settings := { Settings.start true with
      separator := some (some ""), files := ["missing"]
      widths := [some "3,,-2", some "5,1:0:2,z", some "8"] }
    let colrm := ["--colrm", "2", "4", "6", "5"]
    let s' : Settings := { Settings.start true with columns := some [2, 4, 6, 5] }
    Config.settings p.mode args = .ok s ∧ s.Rejected (.widths (.needsDecrement "1:0:2")) ∧
      p.inputs args = [] ∧
      (∀ stdin lookup, p.run args stdin lookup =
        .ok ⟨1, [], "ansiexpand: 1:0:2: needs negative decrement\n"⟩) ∧
      Config.settings p.mode colrm = .ok s' ∧ s'.Rejected (.columns (.reversed 6 5)) ∧
      ∀ stdin lookup, p.run colrm stdin lookup = .ok ⟨1, [], "ansiexpand: bad range: 6,5\n"⟩ := by
  intro p args s colrm s'
  have hs : Config.settings p.mode args = .ok s := rfl
  have hs' : Config.settings p.mode colrm = .ok s' := rfl
  have hplaces : WidthList.places s.widths =
      [some ['3'], some [], some ['-', '2'], some ['5']] ++
        some ['1', ':', '0', ':', '2'] :: [some ['z'], some ['8']] := by decide +kernel
  have hrejected : s.Rejected (.widths (.needsDecrement "1:0:2")) := by
    refine .place hplaces ?_ rfl
    simp only [List.forall_mem_cons]
    exact ⟨⟨_, rfl⟩, ⟨_, rfl⟩, ⟨_, rfl⟩, ⟨_, rfl⟩, nofun⟩
  have hrejected' : s'.Rejected (.columns (.reversed 6 5)) :=
    .pair rfl (.later (by decide) (by decide) (.reversed (by decide) (by decide)))
  obtain ⟨-, -, hrun⟩ := run_of_rejected hs
  obtain ⟨-, -, hrun'⟩ := run_of_rejected hs'
  obtain ⟨hinputs, hrun⟩ := hrun _ hrejected
  exact ⟨hs, hrejected, hinputs, hrun, hs', hrejected', (hrun' _ hrejected').2⟩

/-- **A run that does not exit with status 1**: nobody can count how often a width is to be
repeated. -/
theorem run_of_rejected_uncountable :
    let p : Program := ⟨"ansifold", .fold⟩
    let args := ["-w", "4\x7b99999999999999999999\x7d"]
    (∃ s, Config.settings p.mode args = .ok s ∧
      s.Rejected (.widths (.repetition .uncountable))) ∧
    ∀ stdin lookup, ¬ ∃ stderr, p.run args stdin lookup = .ok ⟨1, [], stderr⟩ := by
  intro p args
  obtain ⟨s, hs⟩ : ∃ s, Config.settings p.mode args = .ok s := ⟨_, rfl⟩
  have hrejected : s.Rejected (.widths (.repetition .uncountable)) := by
    obtain rfl := Except.ok.inj hs
    exact .place (List.nil_append _).symm nofun rfl
  refine ⟨⟨s, hs, hrejected⟩, fun stdin lookup => ?_⟩
  rintro ⟨stderr, hok⟩
  rw [run, hs] at hok
  dsimp only at hok
  rw [Config.ofSettings_of_rejected _ (Settings.legal_read hs) hrejected] at hok
  cases hok

end Program
end ColumnFold
