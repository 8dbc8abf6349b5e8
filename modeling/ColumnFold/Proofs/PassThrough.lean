import ColumnFold.Command.Run
import ColumnFold.Proofs.CommandLine
import ColumnFold.Proofs.Decimal
import ColumnFold.Proofs.Fields
import ColumnFold.Proofs.Reading

/-!
# Bytes that pass through unchanged

A cut loses nothing.  So a run that cuts lines and joins the pieces with nothing between them writes
just the bytes that it reads, and so does a run that leaves lines whole; valid text or not, and
whatever the line ends are.  Nothing in between may add anything: attributes that are in force at a
cut would be closed and set again, which is why a line that is cut must not set any.

The proof follows a run.  The options are read as they are written (`Settings.read_words`); one
option after the other keeps to what may be asked for (`CutOption.use_eq`), and so do all of them
(`CutOption.foldlM_use`); with such settings every line comes out as it went in
(`Config.process_eq_self`), and so do the bytes (`Utf8.encode_decode`).

* `CutOption` — the options that decide where lines are cut, and the one that joins the pieces.
* `Settings.KeepLines` — the settings that such options lead to.
* `Program.run_passes_through` — a run writes the bytes that it reads, or refuses its width.
-/

set_option autoImplicit false

namespace ColumnFold

/-! ## Lines that come out as they went in -/

/-- Whether no escape sequence in a text sets attributes. -/
def Text.SetsNoAttributes (t : Text) : Prop :=
  ∀ token ∈ Escape.Token.ofText t, Rendition.parameters? token.text = none

instance (t : Text) : Decidable (Text.SetsNoAttributes t) :=
  inferInstanceAs (Decidable (∀ token ∈ Escape.Token.ofText t, _))

theorem FoldOptions.noAttributes_cells (o : FoldOptions) {t : Text} (h : t.SetsNoAttributes) :
    Cell.NoAttributes (o.cells t) := by
  intro c hc he
  cases c with
  | glyph head tail width => cases he
  | escape body => exact h _ (Cell.mem_of_escape_mem_ofText _ hc)

namespace Config

variable {c : Config} {width : Int}

/-- A line that sets no attributes is the same after it is cut and joined again. -/
theorem foldLine_of_pos (hplan : c.plan = .single width) (hw : 0 < width)
    (hsep : c.separator = "") (he : c.options.expandTabs = false) (hp : c.options.padding = false)
    {body : Text} (hattr : Cell.NoAttributes (c.options.cells body)) : c.foldLine body = body := by
  have hplan : c.plan = ⟨.every width, none⟩ := by
    rw [hplan, Plan.single, if_neg (Int.not_lt.2 (Int.le_of_lt hw))]
  have hspell : Cell.spell (c.options.cells body) = body := Cell.spell_ofText _ body
  have hspells : ((Layout.every width).slices c.options.breaking (c.options.cells body)).map
      (fun s => Cell.spell s.cells) =
        (((Layout.every width).slices c.options.breaking (c.options.cells body)).map
          Slice.cells).map Cell.spell := by
    rw [List.map_map]
    rfl
  rw [foldLine, hplan, hsep, FoldOptions.fold_eq_map_spell he hp hattr, hspells]
  refine (Text.intercalate_nil _).trans ?_
  show (List.map Cell.spell _).flatten = body
  rw [← Cell.spell_flatten, ← List.flatMap_def, Layout.flatMap_slices_every _ hw, hspell]

theorem process_eq_self (hparagraph : c.paragraph = 0) {t : Text}
    (h : ∀ line ∈ Line.cut t, c.foldLine (Line.body line) = Line.body line) : c.process t = t := by
  have hline : ∀ line ∈ Line.cut t, c.processLine line = line := fun line hmem => by
    rw [processLine, h line hmem, emptyLines, hparagraph, Line.body_append_terminator]
    exact List.append_nil line
  rw [process, List.flatMap_def, List.map_congr_left hline, List.map_id', Line.flatten_cut]

end Config

theorem Program.runWith_eq_self {c : Config} (hparagraph : c.paragraph = 0) (hfiles : c.files = [])
    {bytes : List UInt8}
    (hfault : ∀ line ∈ Line.cut (Utf8.decode bytes), c.fault? line = none)
    (h : ∀ line ∈ Line.cut (Utf8.decode bytes), c.foldLine (Line.body line) = Line.body line)
    (p : Program) (lookup : String → Source) : p.runWith c bytes lookup = .ok ⟨0, bytes, ""⟩ := by
  have hpassed : c.passed (Utf8.decode bytes) = .ok (Utf8.decode bytes) := by
    rw [Config.passed, Config.written_eq_ok_process hfault, Config.process_eq_self hparagraph h]
  have hinputs : c.inputs = [stdinName] := by
    rw [Config.inputs, hfiles]
    rfl
  have hfiles : c.processFiles lookup (Utf8.decode bytes) [stdinName] =
      .ok (Utf8.decode bytes, none) := by
    rw [Config.processFiles, if_pos rfl, hpassed]
    show Except.ok (Utf8.decode bytes ++ [], none) = _
    rw [List.append_nil]
  rw [runWith, hinputs, hfiles]
  show Except.ok (Outcome.mk 0 (Utf8.encode (Utf8.decode bytes)) "") = _
  rw [Utf8.encode_decode]

/-! ## Options that decide where lines are cut -/

/-- An option that decides where lines are cut, or has the pieces joined with nothing. -/
inductive CutOption where
  /-- Cut lines at a width, or leave them whole if it is negative. -/
  | width (width : Int)
  /-- Join the pieces with nothing. -/
  | noSeparator
  /-- Choose whether words may be split. -/
  | boundary (boundary : Boundary)
  /-- Choose the width of ambiguous characters. -/
  | ambiguity (ambiguity : Ambiguity)
  /-- Choose whether punctuation matters. -/
  | kinsoku (kinsoku : Kinsoku)
  /-- Limit the closing punctuation taken in. -/
  | runIn (limit : Nat)
  /-- Limit the opening punctuation given up. -/
  | runOut (limit : Nat)
  /-- Let both words and punctuation matter. -/
  | smart
deriving DecidableEq

namespace CutOption

/-- The use that an option makes. -/
def use : CutOption → Use
  | .width w => ⟨.width, [toString w]⟩
  | .noSeparator => ⟨.noSeparator, []⟩
  | .boundary .anywhere => ⟨.boundary, ["none"]⟩
  | .boundary .word => ⟨.boundary, ["word"]⟩
  | .ambiguity .narrow => ⟨.ambiguity, ["narrow"]⟩
  | .ambiguity .wide => ⟨.ambiguity, ["wide"]⟩
  | .kinsoku .free => ⟨.kinsoku, ["none"]⟩
  | .kinsoku .strict => ⟨.kinsoku, ["all"]⟩
  | .runIn n => ⟨.runIn, [toString n]⟩
  | .runOut n => ⟨.runOut, [toString n]⟩
  | .smart => ⟨.smart, []⟩

/-- The words for an option. -/
def words (o : CutOption) : List String := o.use.words

/-- The width that an option names. -/
def width? : CutOption → Option Int
  | .width w => some w
  | _ => none

/-- Whether a limit has no more digits than are read. -/
def Legible : CutOption → Prop
  | .runIn n => n < 10 ^ Numeral.digitLimit
  | .runOut n => n < 10 ^ Numeral.digitLimit
  | _ => True

theorem written_use (o : CutOption) : o.use.Written := by
  have hlimit : ∀ n : Nat, ¬Word.Dashed (toString n) := fun n h => by
    rw [Word.Dashed, Nat.toString_eq_repr, Nat.toList_repr] at h
    exact Numeral.notMem_toDigits (by decide) (List.mem_of_head? h)
  cases o with
  | width w =>
    refine .widths fun h => Numeral.toString_ne_dashes w h
  | noSeparator => exact .switch rfl
  | boundary b => cases b <;> exact .value rfl nofun (by decide)
  | ambiguity a => cases a <;> exact .value rfl nofun (by decide)
  | kinsoku k => cases k <;> exact .value rfl nofun (by decide)
  | runIn n => exact .value rfl nofun (hlimit n)
  | runOut n => exact .value rfl nofun (hlimit n)
  | smart => exact .switch rfl

end CutOption

/-- The settings after options that name some widths: lines are not changed but for cuts, and the
pieces are joined with nothing if that is asked for. -/
structure Settings.KeepLines (s : Settings) (widths : List Int) (joined : Bool) : Prop where
  widths_eq : s.widths = widths.map fun width => some (toString width)
  columns : s.columns = none
  separator : s.separator = if joined then some (some "") else none
  paragraph : s.paragraph = 0
  padding : s.choices.padding = false
  expandTabs : s.choices.expandTabs = false
  limits : (s.choices.runIn.isSome && s.choices.runOut.isSome) = true

namespace CutOption

variable {s : Settings} {widths : List Int} {joined : Bool}

/-- The settings after an option. -/
def apply (s : Settings) : CutOption → Settings
  | .width w => { s with widths := s.widths ++ [some (toString w)] }
  | .noSeparator => { s with separator := some (some "") }
  | .boundary b => s.choose ({ · with boundary := some b })
  | .ambiguity a => s.choose ({ · with ambiguity := some a })
  | .kinsoku k => s.choose ({ · with kinsoku := some k })
  | .runIn n => s.choose ({ · with runIn := some (n : Int) })
  | .runOut n => s.choose ({ · with runOut := some (n : Int) })
  | .smart => { s with smart := true }

/-- An option is accepted where no columns are removed. -/
theorem use_eq (hs : s.columns = none) {o : CutOption} (ho : o.Legible) :
    s.use o.use = .ok (apply s o) := by
  have hlimit : ∀ (flag : Flag) {n : Nat}, n < 10 ^ Numeral.digitLimit →
      Settings.nonNegative flag (toString n) = .ok (n : Int) := fun flag n hn => by
    rw [Settings.nonNegative, Value.nonNegative_toString hn]
    rfl
  cases o with
  | width w =>
    have hexcludes : Settings.excludes .width .columns s.columns.isSome = .ok () := by
      rw [hs]
      rfl
    show s.useWidths (some (toString w)) = _
    rw [Settings.useWidths, hexcludes]
    rfl
  | noSeparator => rfl
  | boundary b => cases b <;> rfl
  | ambiguity a => cases a <;> rfl
  | kinsoku k => cases k <;> rfl
  | runIn n =>
    show (Settings.nonNegative .runIn (toString n) >>= _) = _
    rw [hlimit .runIn ho]
    rfl
  | runOut n =>
    show (Settings.nonNegative .runOut (toString n) >>= _) = _
    rw [hlimit .runOut ho]
    rfl
  | smart => rfl

/-- The settings after one more option are again such settings. -/
theorem keepLines_apply (hs : s.KeepLines widths joined) (o : CutOption) :
    (apply s o).KeepLines (widths ++ o.width?.toList) (joined || o == .noSeparator) := by
  obtain ⟨hwidths, hcolumns, hseparator, hparagraph, hpadding, hexpand, hlimits⟩ := hs
  have hwidths' : s.widths = (widths ++ []).map fun width => some (toString width) := by
    rwa [List.append_nil]
  have hseparator' : s.separator = if (joined || false) = true then some (some "") else none := by
    rwa [Bool.or_false]
  obtain ⟨hin, hout⟩ := Bool.and_eq_true_iff.1 hlimits
  cases o with
  | width w =>
    have hw : (apply s (.width w)).widths =
        (widths ++ [w]).map fun width => some (toString width) := by
      rw [List.map_append, ← hwidths]
      rfl
    exact ⟨hw, hcolumns, hseparator', hparagraph, hpadding, hexpand, hlimits⟩
  | noSeparator =>
    have hn : (apply s .noSeparator).separator =
        if (joined || true) = true then some (some "") else none := by
      rw [Bool.or_true]
      rfl
    exact ⟨hwidths', hcolumns, hn, hparagraph, hpadding, hexpand, hlimits⟩
  | boundary b => exact ⟨hwidths', hcolumns, hseparator', hparagraph, hpadding, hexpand, hlimits⟩
  | ambiguity a => exact ⟨hwidths', hcolumns, hseparator', hparagraph, hpadding, hexpand, hlimits⟩
  | kinsoku k => exact ⟨hwidths', hcolumns, hseparator', hparagraph, hpadding, hexpand, hlimits⟩
  | runIn n => exact ⟨hwidths', hcolumns, hseparator', hparagraph, hpadding, hexpand, hout⟩
  | runOut n =>
    exact ⟨hwidths', hcolumns, hseparator', hparagraph, hpadding, hexpand,
      Bool.and_eq_true_iff.2 ⟨hin, rfl⟩⟩
  | smart => exact ⟨hwidths', hcolumns, hseparator', hparagraph, hpadding, hexpand, hlimits⟩

theorem foldlM_use (hs : s.KeepLines widths joined) {os : List CutOption}
    (hos : ∀ o ∈ os, o.Legible) :
    ∃ s', (os.map use).foldlM Settings.use s = .ok s' ∧
      s'.KeepLines (widths ++ os.filterMap width?) (joined || os.contains .noSeparator) := by
  induction os generalizing s widths joined with
  | nil => exact ⟨s, rfl, by simpa using hs⟩
  | cons o os ih =>
    have hkeep := keepLines_apply hs o
    obtain ⟨s', hs', hkeep'⟩ := ih hkeep fun o ho => hos o (List.mem_cons_of_mem _ ho)
    refine ⟨s', ?_, ?_⟩
    · rw [List.map_cons, List.foldlM_cons, use_eq hs.columns (hos o List.mem_cons_self)]
      exact hs'
    · rw [List.append_assoc, Bool.or_assoc] at hkeep'
      have hcontains : (o :: os).contains .noSeparator =
          (o == .noSeparator || os.contains .noSeparator) := by
        rw [List.contains_cons, Bool.beq_comm]
      rw [hcontains, List.filterMap_cons]
      cases hw : o.width? with
      | none => rwa [hw] at hkeep'
      | some w => rwa [hw] at hkeep'

theorem settings_words {os : List CutOption} (hos : ∀ o ∈ os, o.Legible) :
    ∃ s, Config.settings .fold (os.flatMap words) = .ok s ∧
      s.KeepLines (os.filterMap width?) (os.contains .noSeparator) ∧ s.files = [] := by
  have hstart : (Settings.start false).KeepLines [] false := ⟨rfl, rfl, rfl, rfl, rfl, rfl, rfl⟩
  obtain ⟨s, hs, hkeep⟩ := foldlM_use hstart hos
  have hwords : os.flatMap words = (os.map use).flatMap Use.words := by
    rw [List.flatMap_map]
    rfl
  have hwritten : ∀ u ∈ os.map use, u.Written := fun u hu => by
    obtain ⟨o, -, rfl⟩ := List.mem_map.1 hu
    exact written_use o
  refine ⟨{ s with files := [] }, ?_, ?_, rfl⟩
  · rw [Config.settings, hwords, Settings.read_words _ hwritten]
    exact congrArg (Except.map _) hs
  · obtain ⟨hwidths, hcolumns, hseparator, hparagraph, hpadding, hexpand, hlimits⟩ := hkeep
    exact ⟨hwidths, hcolumns, hseparator, hparagraph, hpadding, hexpand, hlimits⟩

end CutOption

/-! ## Runs that write what they read -/

namespace Config

variable {s : Settings} {width : Int} {joined : Bool}

/-- A single width that is not blank is all that is listed. -/
theorem signedWidths_of_keepLines (hs : s.KeepLines [width] joined) :
    signedWidths s =
      if width.natAbs < 10 ^ Numeral.digitLimit then .ok ([width], "\n")
      else .error (.widths (.number (toString width)
        (.tooManyDigits (Nat.toDigits 10 width.natAbs).length))) := by
  have hlisted : signedWidths s = (listedWidths s.widths).map fun widths => (widths, "\n") := by
    rw [signedWidths, hs.columns]
    cases listedWidths s.widths <;> rfl
  rw [hlisted, hs.widths_eq, List.map_singleton, listedWidths, WidthList.read_toString]
  by_cases hdigits : width.natAbs < 10 ^ Numeral.digitLimit
  · rw [if_pos hdigits, if_pos hdigits]
    rfl
  · rw [if_neg hdigits, if_neg hdigits]
    rfl

/-- The configuration for such settings: lines are divided by the width, and nothing can go wrong
with a line. -/
theorem ofSettings_of_keepLines (hs : s.KeepLines [width] joined) (mode : Mode)
    (hdigits : width.natAbs < 10 ^ Numeral.digitLimit) :
    ∃ c : Config, ofSettings mode s = .ok c ∧ c.plan = .single width ∧
      c.separator = (if joined then "" else "\n") ∧ c.paragraph = 0 ∧ c.files = s.files ∧
      c.options.padding = false ∧ c.options.expandTabs = false ∧ ∀ line, c.fault? line = none := by
  have hchoices : (foldChoices s).padding = false ∧ (foldChoices s).expandTabs = false ∧
      ((foldChoices s).runIn.isSome && (foldChoices s).runOut.isSome) = true := by
    rw [foldChoices]
    split <;> exact ⟨hs.padding, hs.expandTabs, hs.limits⟩
  have hseparator : separatorOr "\n" s = .ok (if joined then "" else "\n") := by
    rw [separatorOr, hs.separator]
    cases joined <;> rfl
  obtain ⟨hp, he, hl⟩ := hchoices
  refine ⟨⟨.single width, _, s.paragraph, foldChoices s, s.files⟩, ?_, rfl, rfl, hs.paragraph, rfl,
    hp, he, fun line => FoldChoices.fault?_eq_none hp he hl _ _⟩
  rw [ofSettings, signedWidths_of_keepLines hs, if_pos hdigits]
  show (separatorOr "\n" s >>= _) = _
  rw [hseparator]
  rfl

end Config

/-- A width of too many digits is refused, and nothing is written. -/
theorem Program.run_refused {p : Program} (hp : p.mode = .fold) (os : List CutOption)
    (hos : ∀ o ∈ os, o.Legible) {width : Int} (hwidth : os.filterMap CutOption.width? = [width])
    (hdigits : 10 ^ Numeral.digitLimit ≤ width.natAbs) (bytes : List UInt8)
    (lookup : String → Source) :
    p.run (os.flatMap CutOption.words) bytes lookup =
      .ok ⟨1, [], p.complain ((Numeral.Error.tooManyDigits
        (Nat.toDigits 10 width.natAbs).length).message (toString width))⟩ := by
  obtain ⟨s, hsettings, hs, -⟩ := CutOption.settings_words hos
  rw [hwidth] at hs
  have hconfig : Config.ofSettings .fold s = .error (.widths (.number (toString width)
      (.tooManyDigits (Nat.toDigits 10 width.natAbs).length))) := by
    rw [Config.ofSettings, Config.signedWidths_of_keepLines hs, if_neg (Nat.not_lt.2 hdigits)]
    rfl
  rw [run, hp, hsettings]
  dsimp only
  rw [hconfig]
  rfl

/-- **Bytes pass through unchanged.**  A run writes the bytes that it reads and succeeds if it
leaves lines whole, or if it cuts them and joins the pieces with nothing, and no line sets
attributes; whatever else its options say about where lines are cut.  A width of more digits than
are read is refused, and nothing is written. -/
theorem Program.run_passes_through {p : Program} (hp : p.mode = .fold) (os : List CutOption)
    (hos : ∀ o ∈ os, o.Legible) {width : Int} (hwidth : os.filterMap CutOption.width? = [width])
    (bytes : List UInt8) (lookup : String → Source) :
    (width.natAbs < 10 ^ Numeral.digitLimit →
      (width < 0 ∨ 0 < width ∧ .noSeparator ∈ os ∧
        ∀ line ∈ Line.cut (Utf8.decode bytes), (Line.body line).SetsNoAttributes) →
      p.run (os.flatMap CutOption.words) bytes lookup = .ok ⟨0, bytes, ""⟩) ∧
    (10 ^ Numeral.digitLimit ≤ width.natAbs →
      p.run (os.flatMap CutOption.words) bytes lookup =
        .ok ⟨1, [], p.complain ((Numeral.Error.tooManyDigits
          (Nat.toDigits 10 width.natAbs).length).message (toString width))⟩) := by
  refine ⟨fun hdigits hkeep => ?_, fun hdigits => run_refused hp os hos hwidth hdigits bytes lookup⟩
  obtain ⟨s, hsettings, hs, hfiles⟩ := CutOption.settings_words hos
  rw [hwidth] at hs
  obtain ⟨c, hconfig, hplan, hseparator, hparagraph, hcfiles, hpadding, hexpand, hfault⟩ :=
    Config.ofSettings_of_keepLines hs p.mode hdigits
  have hline : ∀ line ∈ Line.cut (Utf8.decode bytes),
      c.foldLine (Line.body line) = Line.body line := fun line hmem => by
    obtain hneg | ⟨hpos, hjoined, hattr⟩ := hkeep
    · exact c.foldLine_of_neg hplan hneg hexpand _
    · have hempty : c.separator = "" := by
        rw [hseparator, List.contains_iff_mem.2 hjoined, if_pos rfl]
      exact c.foldLine_of_pos hplan hpos hempty hexpand hpadding
        (c.options.noAttributes_cells (hattr line hmem))
  rw [run, hp, hsettings]
  dsimp only
  rw [← hp, hconfig]
  exact runWith_eq_self hparagraph (hcfiles.trans hfiles) (fun line _ => hfault line) hline p lookup

/-- Stray bytes, line ends of every kind and a wide glyph that is cut off, written unchanged; and a
width of one digit too many. -/
theorem Program.run_passes_through_stray_bytes :
    let p : Program := ⟨"ansifold", .fold⟩
    let bytes : List UInt8 :=
      [0xff, 0x61, 0x62, 0x20, 0x63, 0x64, 0x0d, 0x0a, 0x28, 0xe4, 0xb8, 0xad, 0x0d, 0xc0, 0x0a,
        0x65]
    let os : List CutOption := [.boundary .word, .noSeparator, .width 3, .runIn 7, .smart]
    let K : Nat := 10 ^ Numeral.digitLimit
    os.flatMap CutOption.words = ["--boundary", "word", "-n", "-w", "3", "--runin", "7", "-s"] ∧
      (∀ o ∈ os, o.Legible) ∧ os.filterMap CutOption.width? = [3] ∧
      ((3 : Int) < 0 ∨ (0 : Int) < 3 ∧ .noSeparator ∈ os ∧
        ∀ line ∈ Line.cut (Utf8.decode bytes), (Line.body line).SetsNoAttributes) ∧
      p.run (os.flatMap CutOption.words) bytes (fun _ => .missing) = .ok ⟨0, bytes, ""⟩ ∧
      p.run ["-w", "-5"] bytes (fun _ => .missing) = .ok ⟨0, bytes, ""⟩ ∧
      p.run ["-w", toString (K : Int)] bytes (fun _ => .missing) =
        .ok ⟨1, [], p.complain ((Numeral.Error.tooManyDigits
          (Nat.toDigits 10 K).length).message (toString (K : Int)))⟩ := by
  intro p bytes os K
  have hdigits : ∀ n < 10, n < 10 ^ Numeral.digitLimit := fun n hn =>
    Nat.lt_of_lt_of_le hn (Nat.le_self_pow (by decide) 10)
  have hos : ∀ o ∈ os, o.Legible := by
    simpa [os, CutOption.Legible] using hdigits 7 (by decide)
  have hkeep : (3 : Int) < 0 ∨ (0 : Int) < 3 ∧ .noSeparator ∈ os ∧
      ∀ line ∈ Line.cut (Utf8.decode bytes), (Line.body line).SetsNoAttributes := by
    decide +kernel
  have hcut := (Program.run_passes_through (p := p) rfl os hos rfl bytes fun _ => .missing).1
    (hdigits 3 (by decide)) hkeep
  have hfive : [CutOption.width (-5)].filterMap CutOption.width? = [-5] := rfl
  have hwhole := (Program.run_passes_through (p := p) rfl [.width (-5)]
    (by simp [CutOption.Legible]) hfive bytes fun _ => .missing).1
    (hdigits (-5 : Int).natAbs (by decide)) (.inl (by decide))
  have hK : 10 ^ Numeral.digitLimit ≤ (K : Int).natAbs := Nat.le_of_eq (Int.natAbs_natCast K).symm
  clear_value K
  have hrefused := (Program.run_passes_through (p := p) rfl [.width K] (by simp [CutOption.Legible])
    rfl bytes fun _ => .missing).2 hK
  rw [Int.natAbs_natCast] at hrefused
  exact ⟨by decide +kernel, hos, rfl, hkeep, hcut, hwhole, hrefused⟩

/-- No line is left whole for a width of too many digits. -/
theorem Program.run_whole_ne {p : Program} (hp : p.mode = .fold) {K : Nat}
    (hK : 10 ^ Numeral.digitLimit ≤ K) (bytes : List UInt8) (lookup : String → Source) :
    p.run ["-w", toString (-(K : Int))] bytes lookup ≠ .ok ⟨0, bytes, ""⟩ := fun h => by
  have hdigits : 10 ^ Numeral.digitLimit ≤ (-(K : Int)).natAbs := by
    rwa [Int.natAbs_neg, Int.natAbs_natCast]
  have hrefused := p.run_refused hp [.width (-(K : Int))] (by simp [CutOption.Legible]) rfl hdigits
    bytes lookup
  have hstatus := (Outcome.mk.inj (Except.ok.inj (hrefused.symm.trans h))).1
  exact absurd hstatus (by decide)

/-- The smallest width of too many digits. -/
theorem Program.run_whole_ten_pow :
    1 ≤ 10 ^ Numeral.digitLimit ∧
      (⟨"ansifold", .fold⟩ : Program).run
          ["-w", toString (-((10 ^ Numeral.digitLimit : Nat) : Int))] [0x61, 0x62, 0x63]
          (fun _ => .missing) ≠
        .ok ⟨0, [0x61, 0x62, 0x63], ""⟩ :=
  ⟨Nat.one_le_pow _ _ (by decide), Program.run_whole_ne rfl (Nat.le_refl _) _ _⟩

end ColumnFold
