import ColumnFold.Command.Run
import ColumnFold.Proofs.Fields
import ColumnFold.Proofs.FileNames
import ColumnFold.Proofs.LineEnds
import ColumnFold.Proofs.Plans

/-!
# A file by name and on standard input

A run that names a single file writes what it would write for the file's bytes on standard input,
with every kind of line end unified (`Program.run_named`).  So the two ways of reading a file agree
on every file without carriage returns, whatever else is in it and whatever the options are.  They
do not agree on others: a run that leaves lines whole lets carriage returns through where it reads
standard input, and nowhere else.

* `Config.ofSettings_files` — the files that are named matter to nothing else.
* `FoldOptions.fault?_eq_none_of_tabs` — tabs that can be filled are no trouble.
* `Config.mem_process_whole` — a run that leaves lines whole keeps what is no tab and no space.
* `Program.run_named_iff` — a file gives the same by name exactly if it has no carriage return.
-/

set_option autoImplicit false

namespace ColumnFold

/-! ## Configurations for other files -/

namespace Config

/-- The files that are named change nothing else about a configuration. -/
theorem ofSettings_files (mode : Mode) (s : Settings) (names : List String) :
    ofSettings mode { s with files := names } =
      (ofSettings mode s).map ({ · with files := names }) := by
  show (signedWidths s >>= _) = Except.map _ (signedWidths s >>= _)
  cases signedWidths s with
  | error e => rfl
  | ok widths =>
    show (separatorOr widths.2 s >>= _) = Except.map _ (separatorOr widths.2 s >>= _)
    cases separatorOr widths.2 s <;> rfl

theorem files_of_ofSettings {mode : Mode} {s : Settings} {c : Config}
    (h : ofSettings mode s = .ok c) : c.files = s.files := by
  obtain ⟨widths, -, h⟩ := bind_eq_ok.1 h
  obtain ⟨separator, -, h⟩ := bind_eq_ok.1 h
  exact Except.ok.inj h ▸ rfl

variable (c : Config) (lookup : String → Source) (stdin : Text)

theorem processFiles_stdin :
    c.processFiles lookup stdin [stdinName] = (c.passed stdin).map (·, none) := by
  rw [processFiles, if_pos rfl]
  cases c.passed stdin with
  | error e => rfl
  | ok out =>
    show Except.ok (out ++ [], none) = _
    rw [List.append_nil]
    rfl

theorem processFiles_content {name : String} {bytes : List UInt8} (hname : name ≠ stdinName)
    (hlookup : lookup name = .content bytes) :
    c.processFiles lookup stdin [name] =
      (c.passed (Line.unify (Utf8.decode bytes))).map (·, none) := by
  rw [processFiles, if_neg hname, hlookup]
  dsimp only
  cases c.passed (Line.unify (Utf8.decode bytes)) with
  | error e => rfl
  | ok out =>
    show Except.ok (out ++ [], none) = _
    rw [List.append_nil]
    rfl

end Config

/-- **A file that is named** gives what its bytes, with their line ends unified, give on standard
input. -/
theorem Program.run_named {p : Program} {args named : List String} {s : Settings}
    (hs : Config.settings p.mode args = .ok s) (hfiles : s.files = []) {name : String}
    (hnamed : Config.settings p.mode named = .ok { s with files := [name] })
    (hname : name ≠ stdinName) {lookup : String → Source} {bytes : List UInt8}
    (hlookup : lookup name = .content bytes) (stdin : List UInt8) (other : String → Source) :
    p.run named stdin lookup = p.run args (Line.unifyBytes bytes) other := by
  rw [run, run, hs, hnamed]
  dsimp only
  rw [Config.ofSettings_files]
  cases hc : Config.ofSettings p.mode s with
  | error e => rfl
  | ok c =>
    have hcfiles : c.files = [] := (Config.files_of_ofSettings hc).trans hfiles
    have hinputs : c.inputs = [stdinName] := by
      rw [Config.inputs, hcfiles]
      rfl
    have hpassed : ({ c with files := [name] } : Config).processFiles lookup (Utf8.decode stdin)
        [name] = c.processFiles other (Utf8.decode (Line.unifyBytes bytes)) [stdinName] := by
      rw [Config.processFiles_content _ _ _ hname hlookup, Config.processFiles_stdin,
        Line.decode_unifyBytes]
      rfl
    show p.runWith { c with files := [name] } stdin lookup = p.runWith c _ other
    rw [runWith, runWith, hinputs, ← hpassed]
    rfl

/-! ## Tabs that can be filled -/

/-- Nothing is wrong with repeating a text if the result fits into memory. -/
theorem Repetition.textError?_eq_none {length : Nat} {n : Int} (h0 : 0 ≤ n) (hn : n < memoryLimit)
    (h : length * n < memoryLimit) : textError? length n = none := by
  have hle : (memoryLimit : Int) ≤ limit := by decide
  have hcount : isCountable n = true := decide_eq_true ⟨by omega, by omega⟩
  have hlong : decide ((limit : Int) ≤ length * n) = false := decide_eq_false (by omega)
  rw [textError?, error?, hcount, hlong, if_neg (Int.not_le.2 h)]
  rfl

theorem Tabs.mem_reaches {tabs : Tabs} (h : 0 < tabs.stop) {col : Int} {cells : List Cell} {n : Int}
    (hn : n ∈ tabs.reaches col cells) : 1 ≤ n ∧ n ≤ tabs.stop := by
  induction cells generalizing col with
  | nil => cases hn
  | cons c cells ih =>
    rw [reaches] at hn
    split at hn
    · obtain rfl | hn := List.mem_cons.1 hn
      · exact reach_bounds h col
      · exact ih hn
    · exact ih hn

namespace FoldOptions

variable {o : FoldOptions}

/-- Tabs that can be filled are no trouble where nothing is padded. -/
theorem fault?_eq_none_of_tabs (hp : o.padding = false) (hstop : 0 < o.tabs.stop)
    (hfill : ∀ n, 1 ≤ n → n ≤ o.tabs.stop → Fill.error? ⟨o.tabs.space, n - 1⟩ = none)
    (layout : Layout) (line : Text) : o.choices.fault? layout line = none := by
  have htabs : (o.tabFills line).findSome? Fill.error? = none := by
    rw [List.findSome?_eq_none_iff]
    intro fill hmem
    obtain ⟨n, hn, rfl⟩ := List.mem_map.1 hmem
    obtain ⟨hle, hge⟩ := Tabs.mem_reaches hstop hn
    exact hfill n hle hge
  have hslices := FoldChoices.sliceFault?_eq_none (c := o.choices) hp rfl
  rw [FoldChoices.fault?, hslices, o.tabFault?_eq hstop, htabs]
  split <;> rfl

end FoldOptions

/-! ## Lines that are left whole -/

namespace Config

/-- The fold options of a mode that change nothing but tabs. -/
def tabOptions (mode : Mode) : FoldOptions :=
  { FoldOptions.default with expandTabs := decide (mode = .expand) }

/-- The configuration that leaves lines whole, and expands tabs if that is what the mode does. -/
def whole (mode : Mode) : Config where
  plan := .single (-1)
  separator := "\n"
  paragraph := 0
  choices := (tabOptions mode).choices
  files := []

theorem written_whole (mode : Mode) (t : Text) :
    (whole mode).written t = .ok ((whole mode).process t) := by
  have hstop : (tabOptions mode).tabs.stop = 8 := rfl
  have hlimit : (8 : Int) < Repetition.memoryLimit := by decide
  refine written_eq_ok_process fun line _ => FoldOptions.fault?_eq_none_of_tabs rfl ?_ ?_ _ _
  · rw [hstop]
    decide
  · intro n hle hge
    have hspace : (tabOptions mode).tabs.space.length = 1 := by
      show " ".length = 1
      decide
    have hfill : Repetition.textError? 1 (n - 1) = none :=
      Repetition.textError?_eq_none (by omega) (by omega) (by omega)
    rw [Fill.error?, hspace]
    exact hfill

/-- Lines that are left whole keep every symbol that is no tab and no space. -/
theorem mem_process_whole (mode : Mode) {s : Symbol} (htab : s ≠ .tab) (hspace : s ≠ .char ' ')
    (t : Text) : s ∈ (whole mode).process t ↔ s ∈ t := by
  have hnotMem : s ∉ Text.ofString " " := fun h => hspace (List.mem_singleton.1 h)
  have hline : ∀ line, s ∈ (whole mode).processLine line ↔ s ∈ line := fun line => by
    conv => rhs; rw [← Line.body_append_terminator line]
    rw [processLine, foldLine_eq_prepare rfl (by decide : (-1 : Int) < 0), emptyLines]
    simp only [List.mem_append, whole, List.replicate_zero, List.flatten_nil, List.not_mem_nil,
      or_false]
    exact or_congr_left (FoldOptions.mem_prepare htab (fun _ => ⟨hnotMem, hnotMem⟩) _)
  simp only [process, List.mem_flatMap, hline]
  conv => rhs; rw [← Line.flatten_cut t]
  rw [List.mem_flatten]

end Config

namespace Program

/-- A run that leaves lines whole succeeds, and lets carriage returns through. -/
theorem run_whole (p : Program) (bytes : List UInt8) (lookup : String → Source) :
    ∃ out, p.run ["-w", "-1"] bytes lookup = .ok ⟨0, out, ""⟩ ∧ (0x0D ∈ out ↔ 0x0D ∈ bytes) := by
  have hsettings : Config.settings p.mode ["-w", "-1"] =
      .ok { Settings.start (decide (p.mode = .expand)) with widths := [some "-1"] } := by
    cases p.mode <;> rfl
  have hconfig : Config.ofSettings p.mode
      { Settings.start (decide (p.mode = .expand)) with widths := [some "-1"] } =
        .ok (.whole p.mode) := by
    cases p.mode <;> rfl
  refine ⟨Utf8.encode ((Config.whole p.mode).process (Utf8.decode bytes)), ?_, ?_⟩
  · rw [run, hsettings]
    dsimp only
    rw [hconfig]
    dsimp only
    rw [runWith, show (Config.whole p.mode).inputs = [stdinName] from rfl,
      Config.processFiles_stdin, Config.passed, Config.written_whole]
    rfl
  · have hmem : ∀ t : Text, 0x0D ∈ Utf8.encode t ↔ ∃ s ∈ t, 0x0D ∈ Utf8.encodeSymbol s :=
      fun t => List.mem_flatMap
    conv => rhs; rw [← Utf8.encode_decode bytes]
    rw [hmem, hmem]
    refine exists_congr fun s => and_congr_left fun hs => Config.mem_process_whole _ ?_ ?_ _
    · rintro rfl
      exact absurd hs (by decide)
    · rintro rfl
      exact absurd hs (by decide)

/-- **A file gives the same by name as on standard input, exactly if it has no carriage return.**
Words that are accepted without a file are accepted with one, after `--` if not elsewhere.  Wherever
the file is named, the run gives what standard input gives for its bytes with unified line ends; and
that is what standard input gives for the bytes themselves, for all words, exactly if none of them
is a carriage return. -/
theorem run_named_iff (p : Program) {name : String} (hname : name ≠ stdinName)
    (bytes : List UInt8) :
    (∀ args s, Config.settings p.mode args = .ok s → s.files = [] →
      Config.settings p.mode (Config.naming args [name]) = .ok { s with files := [name] }) ∧
    (∀ args named s, Config.settings p.mode args = .ok s → s.files = [] →
      Config.settings p.mode named = .ok { s with files := [name] } →
      ∀ lookup, lookup name = .content bytes → ∀ stdin other,
        p.run named stdin lookup = p.run args (Line.unifyBytes bytes) other) ∧
    ((∀ args named s, Config.settings p.mode args = .ok s → s.files = [] →
      Config.settings p.mode named = .ok { s with files := [name] } →
      ∀ lookup, lookup name = .content bytes → ∀ stdin other,
        p.run named stdin lookup = p.run args bytes other) ↔ 0x0D ∉ bytes) := by
  refine ⟨fun args s hs hfiles => Config.settings_naming hs hfiles [name],
    fun args named s hs hfiles hnamed lookup hlookup stdin other =>
      run_named hs hfiles hnamed hname hlookup stdin other, fun h hmem => ?_,
    fun hmem args named s hs hfiles hnamed lookup hlookup stdin other => ?_⟩
  · -- a run that leaves lines whole tells the carriage return from a line feed
    have hsettings : Config.settings p.mode ["-w", "-1"] =
        .ok { Settings.start (decide (p.mode = .expand)) with widths := [some "-1"] } := by
      cases p.mode <;> rfl
    have hnamed := Config.settings_naming hsettings rfl [name]
    let lookup : String → Source := fun _ => .content bytes
    have hlookup : lookup name = .content bytes := rfl
    obtain ⟨out, hout, hiff⟩ := p.run_whole bytes lookup
    obtain ⟨out', hout', hiff'⟩ := p.run_whole (Line.unifyBytes bytes) lookup
    have hsame := h _ _ _ hsettings rfl hnamed lookup hlookup [] lookup
    rw [run_named hsettings rfl hnamed hname hlookup [] lookup, hout, hout'] at hsame
    obtain rfl : out' = out := (Outcome.mk.inj (Except.ok.inj hsame)).2.1
    exact Line.notMem_unifyBytes bytes (hiff'.1 (hiff.2 hmem))
  · rw [run_named hs hfiles hnamed hname hlookup stdin other, Line.unifyBytes_of_notMem hmem]

/-- A file without carriage returns, of which a byte is stray and the last line has no end; and the
options that stand before and after its name. -/
theorem run_named_iff_stray_byte :
    let p : Program := ⟨"ansifold", .fold⟩
    let bytes : List UInt8 := [0x61, 0x62, 0xFF, 0x0A, 0x63, 0x64, 0x65]
    let lookup : String → Source := fun _ => .content bytes
    "words" ≠ stdinName ∧
      p.run ["-n", "words", "-w", "2"] [] lookup = p.run ["-n", "-w", "2"] bytes lookup ∧
      p.run ["-n", "-w", "2", "--", "words"] [] lookup = p.run ["-n", "-w", "2"] bytes lookup := by
  intro p bytes lookup
  have hname : "words" ≠ stdinName := by decide
  obtain ⟨hnaming, -, hiff⟩ := run_named_iff p hname bytes
  have hsame := hiff.2 (by decide)
  have hs : Config.settings p.mode ["-n", "-w", "2"] =
      .ok { Settings.start false with widths := [some "2"], separator := some (some "") } := rfl
  exact ⟨hname, hsame _ _ _ hs rfl rfl lookup rfl [] lookup,
    hsame _ _ _ hs rfl (hnaming _ _ hs rfl) lookup rfl [] lookup⟩

/-- **A file that gives something else by name**: its only line ends with a carriage return and a
line feed. -/
theorem run_named_ne :
    let p : Program := ⟨"ansifold", .fold⟩
    let s := Settings.start false
    let bytes : List UInt8 := [0x61, 0x0D, 0x0A]
    let lookup : String → Source := fun _ => .content bytes
    Config.settings p.mode [] = .ok s ∧ s.files = [] ∧
      Config.settings p.mode ["f"] = .ok { s with files := ["f"] } ∧
      p.run ["f"] [] lookup = .ok ⟨0, [0x61, 0x0A], ""⟩ ∧
      p.run [] bytes lookup = .ok ⟨0, [0x61, 0x0D, 0x0A], ""⟩ := by
  intro p s bytes lookup
  exact ⟨rfl, rfl, rfl, eq_ok_of_toOption (by decide +kernel),
    eq_ok_of_toOption (by decide +kernel)⟩

end Program
end ColumnFold
