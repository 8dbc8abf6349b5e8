import ColumnFold.Command.Run
import ColumnFold.Proofs.CommandLine

/-!
# Width lists apart from their option

A width list may be the word after its option, whatever that word is: a list that begins with a
minus sign, the name of another option, or even `--`.  So it depends on all the words before it
whether a word is an option or the value of one.  Words that leave nothing open are
`WidthWords.Complete`: what comes after them is read as if they were not there
(`WidthWords.Complete.attach_append`).  Every command line is such words followed by an end that is
left alone: nothing at all, a width option that lacks its value, or the word `--` and whatever comes
after it.

Once attached, a width list is complete by itself.  So attaching the lists of a command line a
second time changes nothing, and a list can be attached beforehand.

* `WidthWords.Complete` — words that leave nothing open.
* `WidthWords.exists_complete_append` — how every command line is made up.
* `WidthWords.attach_joined` — what attaching does to a command line.
-/

set_option autoImplicit false

namespace ColumnFold
namespace WidthWords

variable {args front back : List String}

/-! ## Words that leave nothing open -/

/-- Every width option without a value is followed by its value, and no other word is `--`. -/
inductive Complete : List String → Prop
  /-- No words. -/
  | nil : Complete []
  /-- A width option and the value after it, which may be any word. -/
  | option {word value : String} {words : List String} (hbare : isBare word = true)
      (h : Complete words) : Complete (word :: value :: words)
  /-- Another word. -/
  | other {word : String} {words : List String} (hsep : word ≠ "--")
      (hbare : isBare word = false) (h : Complete words) : Complete (word :: words)

theorem isBare_joined (value : String) : isBare ("--width=" ++ value) = false := by
  have hmem : '=' ∈ ("--width=" ++ value).toList := by simp
  have hne : ∀ word : String, '=' ∉ word.toList → "--width=" ++ value ≠ word := by
    rintro word hword rfl
    exact hword hmem
  rw [isBare, Bool.or_eq_false_iff, beq_eq_false_iff_ne, beq_eq_false_iff_ne]
  exact ⟨hne _ (by decide), hne _ (by decide)⟩

theorem Complete.joined (value : String) (h : Complete args) :
    Complete (("--width=" ++ value) :: args) :=
  .other (Ne.symm (width_ne_separator value)) (isBare_joined value) h

/-- What comes after complete words is read as if they were not there. -/
theorem Complete.attach_append (h : Complete front) (back : List String) :
    attach (front ++ back) = attach front ++ attach back := by
  induction h with
  | nil => rfl
  | option hbare _ ih =>
    rw [List.cons_append, List.cons_append, attach_bare hbare, attach_bare hbare, ih,
      List.cons_append]
  | other hsep hbare _ ih =>
    rw [List.cons_append, attach_cons hsep hbare, attach_cons hsep hbare, ih, List.cons_append]

/-- Complete words stay complete, are attached for good, and have no `--` left. -/
theorem Complete.of_attach (h : Complete args) :
    Complete (attach args) ∧ attach (attach args) = attach args ∧ "--" ∉ attach args := by
  induction h with
  | nil => exact ⟨.nil, rfl, List.not_mem_nil⟩
  | @option word value words hbare _ ih =>
    obtain ⟨hcomplete, hagain, hmem⟩ := ih
    have hsep := width_ne_separator value
    rw [attach_bare hbare, attach_cons hsep.symm (isBare_joined value), hagain]
    exact ⟨hcomplete.joined value, rfl, List.not_mem_cons_of_ne_of_not_mem hsep hmem⟩
  | other hsep hbare _ ih =>
    obtain ⟨hcomplete, hagain, hmem⟩ := ih
    rw [attach_cons hsep hbare, attach_cons hsep hbare, hagain]
    exact ⟨.other hsep hbare hcomplete, rfl, List.not_mem_cons_of_ne_of_not_mem hsep.symm hmem⟩

/-! ## Ends -/

/-- Words that end a command line and are left alone. -/
inductive Ending : List String → Prop
  /-- No words. -/
  | none : Ending []
  /-- A width option that lacks its value. -/
  | bare {word : String} (h : isBare word = true) : Ending [word]
  /-- The word `--` and all words after it. -/
  | separator (words : List String) : Ending ("--" :: words)

theorem attach_separator (words : List String) : attach ("--" :: words) = "--" :: words := by
  cases words <;> rfl

theorem Ending.attach_eq (h : Ending back) : attach back = back := by
  cases h with
  | none => rfl
  | bare => rfl
  | separator words => exact attach_separator words

/-- **Every command line is made up** of words that leave nothing open, and an end. -/
theorem exists_complete_append (args : List String) :
    ∃ front back, args = front ++ back ∧ Complete front ∧ Ending back := by
  fun_induction attach args with
  | case1 => exact ⟨[], [], rfl, .nil, .none⟩
  | case2 word =>
    by_cases hsep : word = "--"
    · exact ⟨[], _, rfl, .nil, hsep ▸ .separator []⟩
    · cases hbare : isBare word with
      | true => exact ⟨[], _, rfl, .nil, .bare hbare⟩
      | false => exact ⟨[word], [], rfl, .other hsep hbare .nil, .none⟩
  | case3 value rest => exact ⟨[], _, rfl, .nil, .separator _⟩
  | case4 word value rest hsep hbare ih =>
    obtain ⟨front, back, rfl, hfront, hback⟩ := ih
    exact ⟨word :: value :: front, back, rfl, .option hbare hfront, hback⟩
  | case5 word value rest hsep hbare ih =>
    obtain ⟨front, back, hargs, hfront, hback⟩ := ih
    exact ⟨word :: front, back, congrArg _ hargs, .other hsep (Bool.eq_false_iff.2 hbare) hfront,
      hback⟩

/-- The word `--` is left only where it ends complete words. -/
theorem exists_of_separator_mem (h : "--" ∈ attach args) :
    ∃ front back, args = front ++ "--" :: back ∧ Complete front := by
  obtain ⟨front, back, rfl, hfront, hback⟩ := exists_complete_append args
  rw [hfront.attach_append, hback.attach_eq] at h
  obtain hmem := (List.mem_append.1 h).resolve_left hfront.of_attach.2.2
  cases hback with
  | none => cases hmem
  | bare hbare =>
    rw [← List.mem_singleton.1 hmem] at hbare
    cases hbare
  | separator words => exact ⟨front, words, rfl, hfront⟩

/-! ## Attaching -/

/-- **A width list apart from its option is like one that is attached**, whatever the list is, and
whatever comes after it, as long as the words before it leave nothing open: the command line is
read in the same way, and the run is the same.  Attaching a second time changes nothing.  From the
first `--` on that is not the value of a width option, all words are left as they are. -/
theorem attach_joined :
    (∀ front word value back, Complete front → word = "-w" ∨ word = "--width" →
      let apart := front ++ word :: value :: back
      let joined := front ++ ("--width=" ++ value) :: back
      attach apart = attach joined ∧
        (∀ mode, (Config.settings mode apart).map (Config.ofSettings mode) =
          (Config.settings mode joined).map (Config.ofSettings mode)) ∧
        ∀ (p : Program) stdin lookup, p.run apart stdin lookup = p.run joined stdin lookup) ∧
    (∀ args, attach (attach args) = attach args) ∧
    (∀ front back, Complete front →
      attach (front ++ "--" :: back) = attach front ++ "--" :: back ∧ "--" ∉ attach front) ∧
    ∀ args, "--" ∈ attach args → ∃ front back, args = front ++ "--" :: back ∧ Complete front := by
  refine ⟨fun front word value back hfront hword => ?_, fun args => ?_, fun front back hfront => ?_,
    fun args => exists_of_separator_mem⟩
  · have hbare : isBare word = true := by
      rw [isBare, Bool.or_eq_true, beq_iff_eq, beq_iff_eq]
      exact hword
    have hjoined := width_ne_separator value
    have hattach : attach (front ++ word :: value :: back) =
        attach (front ++ ("--width=" ++ value) :: back) := by
      rw [hfront.attach_append, hfront.attach_append, attach_bare hbare,
        attach_cons hjoined.symm (isBare_joined value)]
    have hsettings : ∀ mode, Config.settings mode (front ++ word :: value :: back) =
        Config.settings mode (front ++ ("--width=" ++ value) :: back) := fun mode =>
      congrArg (Settings.read _) hattach
    refine ⟨hattach, fun mode => by rw [hsettings], fun p stdin lookup => ?_⟩
    rw [Program.run, Program.run, hsettings]
  · obtain ⟨front, back, rfl, hfront, hback⟩ := exists_complete_append args
    obtain ⟨hcomplete, hagain, -⟩ := hfront.of_attach
    rw [hfront.attach_append, hback.attach_eq, hcomplete.attach_append, hagain, hback.attach_eq]
  · rw [hfront.attach_append, attach_separator]
    exact ⟨rfl, hfront.of_attach.2.2⟩

/-- A width list that is `--`, after one that is the name of its option, and before words that are
left alone. -/
theorem attach_joined_dashes :
    let front := ["-p", "--width", "-w"]
    let back := ["-w", "-1,3", "--", "-w", "2"]
    let apart := front ++ "-w" :: "--" :: back
    let joined := front ++ "--width=--" :: back
    Complete front ∧ attach apart = attach joined ∧
      (⟨"ansifold", .fold⟩ : Program).run apart [] (fun _ => .missing) =
        (⟨"ansifold", .fold⟩ : Program).run joined [] (fun _ => .missing) ∧
      Complete (front ++ "-w" :: "--" :: ["-w", "-1,3"]) ∧
      attach apart = ["-p", "--width=-w", "--width=--", "--width=-1,3", "--", "-w", "2"] := by
  intro front back apart joined
  have hfront : Complete front := .other (by decide) rfl (.option rfl .nil)
  have hall : Complete (front ++ "-w" :: "--" :: ["-w", "-1,3"]) :=
    .other (by decide) rfl (.option rfl (.option rfl (.option rfl .nil)))
  obtain ⟨hattach, -, hrun⟩ := attach_joined.1 front "-w" "--" back hfront (.inl rfl)
  obtain ⟨htail, -⟩ := attach_joined.2.2.1 _ ["-w", "2"] hall
  exact ⟨hfront, hattach, hrun _ _ _, hall, htail⟩

end WidthWords
end ColumnFold
