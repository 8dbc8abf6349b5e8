import ColumnFold.Proofs.NamedFiles

/-!
# Several files

A run that names several files does what separate runs do that name one of them each: it writes what
they write, in order.  The first file that is missing or is a directory ends the run, and the files
after it are not even looked up.

The proof follows the files.  One file is processed as it is in a run of its own
(`Config.processFiles_cons`); so files before others are processed one by one, whatever becomes of
the others (`Config.processFiles_append`); and what is written for a file is the output of the run
that names it alone (`Program.run_alone`).  Breakdowns need no care: both sides end with the first
one.

* `FileError.of?` — why a file ends the run, if it does.
* `Config.readFile` — what is written for a file that does not end the run.
* `Program.run_files` — a run that names several files.
-/

set_option autoImplicit false

namespace ColumnFold

/-- Why a file ends the run: it is missing, or it is a directory. -/
def FileError.of? (lookup : String → Source) (name : String) : Option FileError :=
  match lookup name with
  | .missing => some (.missing name)
  | .directory => some (.directory name)
  | .unusable _ => none
  | .content _ => none

/-- Computations whose results are those of others, changed by a function, give together the list
of the others' results, changed by it. -/
theorem mapM_eq_map_mapM {ε α β γ : Type} {f : α → Except ε β} {g : α → Except ε γ} {h : β → γ}
    {as : List α} (hg : ∀ a ∈ as, g a = (f a).map h) :
    as.mapM g = (as.mapM f).map (List.map h) := by
  induction as with
  | nil => rfl
  | cons a as ih =>
    rw [List.mapM_cons, List.mapM_cons, hg a List.mem_cons_self,
      ih fun b hb => hg b (List.mem_cons_of_mem a hb)]
    cases f a with
    | error e => rfl
    | ok b => cases as.mapM f <;> rfl

namespace Config

variable (c : Config) (lookup : String → Source) (stdin : Text)

/-- Which files a configuration names does not matter to what becomes of others. -/
theorem processFiles_with_files (files names : List String) :
    ({ c with files := files } : Config).processFiles lookup stdin names =
      c.processFiles lookup stdin names := by
  induction names generalizing stdin with
  | nil => rfl
  | cons name names ih =>
    rw [processFiles, processFiles]
    simp only [ih]
    rfl

theorem passed_eq (t : Text) :
    c.passed t =
      match (Line.cut t).findSome? c.fault? with
      | some fault => .error (.line fault)
      | none => .ok (c.process t) := by
  rw [passed, written, writtenLines]
  cases (Line.cut t).findSome? c.fault? <;> rfl

/-- What is written for a file that is neither missing nor a directory, unless the run breaks
down. -/
def readFile (name : String) : Except Breakdown Text :=
  match lookup name with
  | .unusable e => .error (.path name e)
  | .content bytes => c.passed (Line.unify (Utf8.decode bytes))
  | _ => .ok []

theorem processFiles_cons {name : String} (hname : name ≠ stdinName)
    (hok : FileError.of? lookup name = none) (names : List String) :
    c.processFiles lookup stdin (name :: names) = (do
      let first ← c.readFile lookup name
      let (out, e) ← c.processFiles lookup stdin names
      return (first ++ out, e)) := by
  rw [processFiles, if_neg hname, readFile]
  rw [FileError.of?.eq_def] at hok
  cases hlookup : lookup name with
  | missing => simp [hlookup] at hok
  | directory => simp [hlookup] at hok
  | unusable e => rfl
  | content bytes => rfl

/-- Files that do not end the run are processed one by one, and then the others. -/
theorem processFiles_append {front : List String} (hstdin : stdinName ∉ front)
    (hok : ∀ name ∈ front, FileError.of? lookup name = none) (back : List String) :
    c.processFiles lookup stdin (front ++ back) = (do
      let outs ← front.mapM (c.readFile lookup)
      let (out, e) ← c.processFiles lookup stdin back
      return (outs.flatten ++ out, e)) := by
  induction front with
  | nil =>
    rw [List.nil_append, List.mapM_nil]
    cases c.processFiles lookup stdin back <;> rfl
  | cons name front ih =>
    rw [List.mem_cons, not_or] at hstdin
    rw [List.cons_append, c.processFiles_cons lookup stdin (Ne.symm hstdin.1)
      (hok name List.mem_cons_self), ih hstdin.2 fun f hf => hok f (List.mem_cons_of_mem name hf),
      List.mapM_cons]
    cases c.readFile lookup name with
    | error e => rfl
    | ok first =>
      cases front.mapM (c.readFile lookup) with
      | error e => rfl
      | ok outs =>
        cases c.processFiles lookup stdin back with
        | error e => rfl
        | ok rest =>
          show Except.ok (first ++ (outs.flatten ++ rest.1), rest.2) =
            .ok ((first :: outs).flatten ++ rest.1, rest.2)
          rw [List.flatten_cons, List.append_assoc]

/-- What is written for files depends on these files only. -/
theorem mapM_readFile_congr {lookup' : String → Source} {names : List String}
    (h : ∀ name ∈ names, lookup' name = lookup name) :
    names.mapM (c.readFile lookup') = names.mapM (c.readFile lookup) := by
  have hmap : names.map (c.readFile lookup') = names.map (c.readFile lookup) :=
    List.map_congr_left fun name hmem => by rw [readFile, readFile, h name hmem]
  have hread := congrArg (List.mapM id) hmap
  rwa [List.mapM_map, List.mapM_map] at hread

theorem processFiles_of_fileError {name : String} (hname : name ≠ stdinName) {e : FileError}
    (he : FileError.of? lookup name = some e) (names : List String) :
    c.processFiles lookup stdin (name :: names) = .ok ([], some e) := by
  rw [processFiles, if_neg hname]
  rw [FileError.of?.eq_def] at he
  cases hlookup : lookup name with
  | missing => simpa [hlookup] using he
  | directory => simpa [hlookup] using he
  | unusable e => simp [hlookup] at he
  | content bytes => simp [hlookup] at he

end Config

namespace Program

/-- How a run ends that has written some bytes. -/
def ended (p : Program) (out : List UInt8) : Option FileError → Outcome
  | none => ⟨0, out, ""⟩
  | some e => ⟨1, out, p.complain e.message⟩

theorem flatMap_stdout (outs : List Text) :
    (outs.map fun out => Outcome.mk 0 (Utf8.encode out) "").flatMap Outcome.stdout =
      Utf8.encode outs.flatten := by
  rw [List.flatMap_map, Utf8.encode, List.flatten_eq_flatMap, List.flatMap_assoc]
  rfl

variable {p : Program} {s : Settings} {c : Config} (hc : Config.ofSettings p.mode s = .ok c)
  {stdin : List UInt8} {lookup : String → Source}
include hc

theorem run_naming {args names : List String} (hne : names ≠ [])
    (hargs : Config.settings p.mode args = .ok { s with files := names }) :
    p.run args stdin lookup = (c.processFiles lookup (Utf8.decode stdin) names).map fun result =>
      p.ended (Utf8.encode result.1) result.2 := by
  have hinputs : Config.inputs { c with files := names } = names :=
    if_neg fun h => hne (List.isEmpty_iff.1 h)
  rw [run, hargs]
  dsimp only
  rw [Config.ofSettings_files, hc]
  show p.runWith { c with files := names } stdin lookup = _
  rw [runWith, hinputs, c.processFiles_with_files]
  rcases c.processFiles lookup (Utf8.decode stdin) names with _ | ⟨out, _ | e⟩ <;> rfl

theorem run_alone {args : List String} {name : String} (hname : name ≠ stdinName)
    (hok : FileError.of? lookup name = none)
    (hargs : Config.settings p.mode args = .ok { s with files := [name] }) :
    p.run args stdin lookup =
      (c.readFile lookup name).map fun out => ⟨0, Utf8.encode out, ""⟩ := by
  rw [run_naming hc (List.cons_ne_nil _ _) hargs, c.processFiles_cons lookup _ hname hok]
  cases c.readFile lookup name with
  | error e => rfl
  | ok out =>
    show Except.ok (Outcome.mk 0 (Utf8.encode (out ++ [])) "") = _
    rw [List.append_nil]
    rfl

variable {front back : List String} (hstdin : stdinName ∉ front)
  (hok : ∀ name ∈ front, FileError.of? lookup name = none)
include hstdin hok

/-- A run that names files which do not end it, and others for which nothing is written. -/
theorem run_front {args : List String} (hne : front ++ back ≠ [])
    (hargs : Config.settings p.mode args = .ok { s with files := front ++ back })
    {e : Option FileError}
    (hback : c.processFiles lookup (Utf8.decode stdin) back = .ok ([], e)) :
    p.run args stdin lookup = (front.mapM (c.readFile lookup)).map fun outs =>
      p.ended (Utf8.encode outs.flatten) e := by
  rw [run_naming hc hne hargs, c.processFiles_append lookup _ hstdin hok, hback]
  cases front.mapM (c.readFile lookup) with
  | error e => rfl
  | ok outs =>
    show Except.ok (p.ended (Utf8.encode (outs.flatten ++ [])) e) = _
    rw [List.append_nil]
    rfl

/-- A run that names files which do not end it, and then one that does. -/
theorem run_up_to_bad {args : List String} {bad : String} (hbad : bad ≠ stdinName) {e : FileError}
    (he : FileError.of? lookup bad = some e)
    (hargs : Config.settings p.mode args = .ok { s with files := front ++ bad :: back }) :
    p.run args stdin lookup = (front.mapM (c.readFile lookup)).map fun outs =>
      p.ended (Utf8.encode outs.flatten) (some e) :=
  run_front hc hstdin hok (by simp) hargs
    (c.processFiles_of_fileError lookup (Utf8.decode stdin) hbad he back)

theorem map_mapM_run_alone {alone : String → List String}
    (halone : ∀ name ∈ front,
      Config.settings p.mode (alone name) = .ok { s with files := [name] })
    (e : Option FileError) :
    (front.mapM fun name => p.run (alone name) stdin lookup).map
        (fun outcomes => p.ended (outcomes.flatMap Outcome.stdout) e) =
      (front.mapM (c.readFile lookup)).map fun outs => p.ended (Utf8.encode outs.flatten) e := by
  rw [mapM_eq_map_mapM (f := c.readFile lookup) fun name hmem =>
    run_alone hc (fun h => hstdin (h ▸ hmem)) (hok name hmem) (halone name hmem)]
  cases front.mapM (c.readFile lookup) with
  | error e => rfl
  | ok outs => exact congrArg (fun out => Except.ok (p.ended out e)) (flatMap_stdout outs)

omit hc hstdin hok

/-- **Files are processed in order and independently**, up to the first bad one.  Words that are
accepted without files are accepted with any.  A run that names one file writes what is written for
its lines, or breaks down at the first of them that has a fault.  A run that names several files,
wherever the words name them, joins the outputs of the runs that name one of them each.  If none of
the files is missing or a directory, it succeeds as these runs do.  Otherwise it joins the outputs
for the files before the first such one and fails with the complaint about that one, whatever the
files after it are.  If one of the joined runs breaks down, so does the run. -/
theorem run_files {args : List String} (hs : Config.settings p.mode args = .ok s)
    (hfiles : s.files = []) (hc : Config.ofSettings p.mode s = .ok c) {names : List String}
    (hne : names ≠ []) (hstdin : stdinName ∉ names) (lookup : String → Source)
    (stdin : List UInt8) :
    (∀ files, Config.settings p.mode (Config.naming args files) =
      .ok { s with files := files }) ∧
    ∀ (named : List String) (alone : String → List String),
      Config.settings p.mode named = .ok { s with files := names } →
      (∀ name ∈ names, Config.settings p.mode (alone name) = .ok { s with files := [name] }) →
      (∀ name ∈ names, ∀ bytes, lookup name = .content bytes →
        p.run (alone name) stdin lookup =
          match (Line.cut (Line.unify (Utf8.decode bytes))).findSome? c.fault? with
          | some fault => .error (.line fault)
          | none => .ok ⟨0, Utf8.encode (c.process (Line.unify (Utf8.decode bytes))), ""⟩) ∧
      ((∀ name ∈ names, FileError.of? lookup name = none) →
        p.run named stdin lookup =
          (names.mapM fun name => p.run (alone name) stdin lookup).map fun outcomes =>
            ⟨0, outcomes.flatMap Outcome.stdout, ""⟩) ∧
      ∀ front bad back e, names = front ++ bad :: back →
        (∀ name ∈ front, FileError.of? lookup name = none) →
        FileError.of? lookup bad = some e →
        p.run named stdin lookup =
            (front.mapM fun name => p.run (alone name) stdin lookup).map (fun outcomes =>
              ⟨1, outcomes.flatMap Outcome.stdout, p.complain e.message⟩) ∧
          ∀ named' back' stdin' lookup',
            Config.settings p.mode named' = .ok { s with files := front ++ bad :: back' } →
            (∀ name ∈ front ++ [bad], lookup' name = lookup name) →
            p.run named' stdin' lookup' = p.run named stdin lookup := by
  refine ⟨Config.settings_naming hs hfiles, ?_⟩
  intro named alone hnamed halone
  refine ⟨?_, ?_, ?_⟩
  · intro name hmem bytes hbytes
    have hok : FileError.of? lookup name = none := by simp [FileError.of?, hbytes]
    have hread : c.readFile lookup name = c.passed (Line.unify (Utf8.decode bytes)) := by
      simp [Config.readFile, hbytes]
    rw [run_alone hc (fun h => hstdin (h ▸ hmem)) hok (halone name hmem), hread, c.passed_eq]
    cases (Line.cut (Line.unify (Utf8.decode bytes))).findSome? c.fault? <;> rfl
  · intro hok
    rw [← List.append_nil names] at hne hnamed
    rw [run_front hc hstdin hok hne hnamed (e := none) rfl]
    exact (map_mapM_run_alone hc hstdin hok halone none).symm
  · rintro front bad back e rfl hok he
    have hfront : stdinName ∉ front := fun h => hstdin (List.mem_append_left _ h)
    have hbad : bad ≠ stdinName := fun h => hstdin (h ▸ by simp)
    have hrun : p.run named stdin lookup = _ := run_up_to_bad hc hfront hok hbad he hnamed
    refine ⟨?_, ?_⟩
    · rw [hrun]
      exact (map_mapM_run_alone hc hfront hok (fun name hmem =>
        halone name (List.mem_append_left _ hmem)) (some e)).symm
    · -- both runs are told by the files before the bad one, and by why it is bad
      intro named' back' stdin' lookup' hnamed' hsame
      have herror : ∀ name ∈ front ++ [bad],
          FileError.of? lookup' name = FileError.of? lookup name :=
        fun name hmem => by rw [FileError.of?, FileError.of?, hsame name hmem]
      have hmem : ∀ name ∈ front, name ∈ front ++ [bad] := fun _ => List.mem_append_left _
      have hok' : ∀ name ∈ front, FileError.of? lookup' name = none := fun name h =>
        (herror name (hmem name h)).trans (hok name h)
      have he' : FileError.of? lookup' bad = some e := (herror bad (by simp)).trans he
      rw [hrun, run_up_to_bad hc hfront hok' hbad he' hnamed',
        c.mapM_readFile_congr lookup fun name h => hsame name (hmem name h)]

/-- Two files without an end of the last line, one of which begins with an empty line and has a
stray byte, before a directory and a file that is missing. -/
theorem run_files_directory_third :
    let p : Program := ⟨"ansifold", .fold⟩
    let s : Settings := { Settings.start false with widths := [some "2"], paragraph := 1 }
    let c : Config := ⟨Plan.ofWidths 72 [2], "\n", 1, s.choices, []⟩
    let lookup : String → Source := fun
      | "a" => .content [0x78, 0x79, 0x7A]
      | "b" => .content [0x0D, 0x0A, 0xFF]
      | "c" => .directory
      | _ => .missing
    let args := ["-p", "-w", "2"]
    let alone := fun name => ["-p", name, "-w", "2"]
    Config.settings p.mode args = .ok s ∧ s.files = [] ∧ Config.ofSettings p.mode s = .ok c ∧
      ["a", "b"] ≠ [] ∧ stdinName ∉ ["a", "b", "c", "d"] ∧
      p.run (alone "a") [] lookup = .ok ⟨0, [0x78, 0x79, 0x0A, 0x7A, 0x0A], ""⟩ ∧
      p.run (alone "b") [] lookup = .ok ⟨0, [0x0A, 0x0A, 0xFF, 0x0A], ""⟩ ∧
      p.run ["-p", "a", "b", "-w", "2"] [] lookup =
        .ok ⟨0, [0x78, 0x79, 0x0A, 0x7A, 0x0A, 0x0A, 0x0A, 0xFF, 0x0A], ""⟩ ∧
      p.run (Config.naming args ["a", "b", "c", "d"]) [] lookup =
        .ok ⟨1, [0x78, 0x79, 0x0A, 0x7A, 0x0A, 0x0A, 0x0A, 0xFF, 0x0A],
          "ansifold: 'c': is a directory\n"⟩ := by
  intro p s c lookup args alone
  have hs : Config.settings p.mode args = .ok s := rfl
  have hc : Config.ofSettings p.mode s = .ok c := eq_ok_of_toOption (by decide +kernel)
  have ha : p.run (alone "a") [] lookup = .ok ⟨0, [0x78, 0x79, 0x0A, 0x7A, 0x0A], ""⟩ :=
    eq_ok_of_toOption (by decide +kernel)
  have hb : p.run (alone "b") [] lookup = .ok ⟨0, [0x0A, 0x0A, 0xFF, 0x0A], ""⟩ :=
    eq_ok_of_toOption (by decide +kernel)
  have hstdin : stdinName ∉ ["a", "b", "c", "d"] := by decide
  have hstdin' : stdinName ∉ ["a", "b"] := by decide
  have hruns : (["a", "b"].mapM fun name => p.run (alone name) [] lookup) =
      .ok [⟨0, [0x78, 0x79, 0x0A, 0x7A, 0x0A], ""⟩, ⟨0, [0x0A, 0x0A, 0xFF, 0x0A], ""⟩] := by
    rw [List.mapM_cons, List.mapM_cons, List.mapM_nil, ha, hb]
    rfl
  have hok : ∀ name ∈ ["a", "b"], FileError.of? lookup name = none := by decide
  have halone : ∀ name ∈ ["a", "b", "c", "d"],
      Config.settings p.mode (alone name) = .ok { s with files := [name] } := by
    simp only [List.forall_mem_cons]
    exact ⟨rfl, rfl, rfl, rfl, nofun⟩
  obtain ⟨-, hgood⟩ := run_files hs rfl hc (List.cons_ne_nil "a" ["b"]) hstdin' lookup []
  obtain ⟨hnaming, hbad⟩ :=
    run_files hs rfl hc (List.cons_ne_nil "a" ["b", "c", "d"]) hstdin lookup []
  have hall := (hgood ["-p", "a", "b", "-w", "2"] alone rfl fun name hmem =>
    halone name (List.mem_append_left ["c", "d"] hmem)).2.1 hok
  have hfirst := ((hbad _ alone (hnaming ["a", "b", "c", "d"]) halone).2.2 ["a", "b"] "c" ["d"] _
    rfl hok rfl).1
  rw [hruns] at hall hfirst
  exact ⟨hs, rfl, hc, by decide, hstdin, ha, hb, hall, hfirst⟩

/-- **A file that is not processed to its end**: nobody can count the columns to which a field is to
be padded, though it is not kept. -/
theorem run_files_not_ok :
    let p : Program := ⟨"ansifold", .fold⟩
    let args := ["--padding", "-w", "-99999999999999999999,1"]
    let lookup : String → Source := fun _ => .content [0x61, 0x62, 0x63, 0x0A]
    (∃ s c, Config.settings p.mode args = .ok s ∧ s.files = [] ∧
      Config.ofSettings p.mode s = .ok c ∧
      Config.settings p.mode (args ++ ["f"]) = .ok { s with files := ["f"] }) ∧
      FileError.of? lookup "f" = none ∧
      ¬ ∃ out, p.run (args ++ ["f"]) [] lookup = .ok ⟨0, out, ""⟩ := by
  intro p args lookup
  refine ⟨⟨_, _, rfl, rfl, rfl, rfl⟩, rfl, ?_⟩
  rintro ⟨out, hok⟩
  have hnone : (p.run (args ++ ["f"]) [] lookup).toOption = none := by decide +kernel
  rw [hok] at hnone
  cases hnone

end Program
end ColumnFold
