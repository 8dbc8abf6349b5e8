import ColumnFold.Proofs.RangeNumbers

/-!
# The grammar of width lists

A token of a width list is empty, an integer, or a range that may be repeated; `Token.Denotes` is
this grammar, with the numbers that are denoted and how often they are repeated, and says nothing
about how a token is read.  A token that denotes numbers stands for them, unless they cannot be
repeated so often.  Of the others, those that are made of the characters of a range are refused with
a complaint that names the range, and all the rest with a complaint that names the token.

A token may be both an integer and a range, of that integer alone (`Token.Denotes.eq_of_spells`).
Apart from this the three forms exclude each other, and the character at which a range ends is the
brace before its repetition (`Token.Repeats.takeWhile_eq`).

* `Token.Denotes` — the grammar of tokens.
* `Token.read_of_denotes` — tokens that are read.
* `Token.exists_read_error_of_hasShape`, `Token.read_of_not_hasShape` — tokens that are refused.
* `WidthList.read_iff_denotes` — width lists are read token by token.
-/

set_option autoImplicit false

namespace ColumnFold
namespace WidthList
namespace Token

/-! ## Bodies and repetitions -/

/-- A text is a body that is repeated: once if nothing follows it, or as often as digits between
braces say. -/
inductive Repeats : List Char → List Char → Nat → Prop
  /-- The body alone. -/
  | once {body : List Char} : Repeats body body 1
  /-- The body and digits between braces. -/
  | braced {body ds : List Char} (h : Numeral.isDigits ds = true) :
      Repeats (body ++ '\x7b' :: (ds ++ ['\x7d'])) body (Numeral.value ds)

variable {cs body : List Char} {n : Nat} {m : Int}

theorem Repeats.isPrefix (h : Repeats cs body n) : body <+: cs := by
  cases h with
  | once => exact List.prefix_refl cs
  | braced => exact List.prefix_append body _

/-- A body of characters of a range ends where these characters end. -/
theorem Repeats.takeWhile_eq (h : Repeats cs body n) (hall : ∀ c ∈ body, isRangeChar c = true) :
    cs.takeWhile isRangeChar = body := by
  cases h with
  | once => exact List.takeWhile_eq_self_iff.2 hall
  | braced =>
    rw [List.takeWhile_append_of_pos hall, List.takeWhile_cons_of_neg (by decide), List.append_nil]

theorem Repeats.dropWhile_eq (h : Repeats cs body n) (hall : ∀ c ∈ body, isRangeChar c = true) :
    isSuffix (cs.dropWhile isRangeChar) = true ∧
      (Numeral.Readable cs → times (cs.dropWhile isRangeChar) = .ok n) := by
  cases h with
  | once =>
    rw [List.dropWhile_eq_nil_iff.2 hall]
    exact ⟨rfl, fun _ => rfl⟩
  | @braced _ ds hds =>
    have hpiece : ds <:+: body ++ '\x7b' :: (ds ++ ['\x7d']) :=
      ⟨body ++ ['\x7b'], ['\x7d'], by simp⟩
    rw [List.dropWhile_append_of_pos hall, List.dropWhile_cons_of_neg (by decide)]
    constructor
    · rw [isSuffix, List.getLast?_concat, List.dropLast_concat, hds]
      rfl
    · intro hcs
      rw [times, List.dropLast_concat]
      exact Numeral.natural_of_isDigits hds (hcs.of_isInfix hpiece)

/-- What follows the characters of a range says how often they are repeated. -/
theorem exists_repeats (h : isSuffix (cs.dropWhile isRangeChar) = true) :
    ∃ n, Repeats cs (cs.takeWhile isRangeChar) n := by
  have hcs : cs.takeWhile isRangeChar ++ cs.dropWhile isRangeChar = cs :=
    List.takeWhile_append_dropWhile
  generalize cs.takeWhile isRangeChar = body at hcs ⊢
  generalize cs.dropWhile isRangeChar = suffix at h hcs
  rw [isSuffix.eq_def] at h
  split at h
  · rw [List.append_nil] at hcs
    exact ⟨1, hcs ▸ .once⟩
  · obtain ⟨hlast, hdigits⟩ := Bool.and_eq_true_iff.1 h
    obtain ⟨ds, rfl⟩ := List.getLast?_eq_some_iff.1 (beq_iff_eq.1 hlast)
    rw [List.dropLast_concat] at hdigits
    exact ⟨Numeral.value ds, hcs ▸ .braced hdigits⟩
  · cases h

theorem isInteger_iff : isInteger cs = true ↔ ∃ m, Numeral.Spells cs m := by
  rw [isInteger.eq_def]
  constructor
  · intro h
    split at h
    · exact ⟨_, .minus h⟩
    · exact ⟨_, .digits h⟩
  · rintro ⟨m, ⟨h⟩ | ⟨h⟩⟩
    · split
      · rw [Numeral.isDigits_cons_of_not (by decide)] at h
        cases h
      · exact h
    · exact h

/-! ## The grammar -/

/-- A token denotes numbers that are repeated so often.  A line feed at the end of an integer or a
range is passed over. -/
inductive Denotes (cs : List Char) : List Int → Nat → Prop
  /-- Nothing at all denotes zero. -/
  | empty (h : cs = []) : Denotes cs [0] 1
  /-- An integer denotes itself. -/
  | integer {m : Int} (h : Numeral.Spells (Numeral.chomp cs) m) : Denotes cs [m] 1
  /-- A range denotes its numbers. -/
  | range {body : List Char} {n : Nat} {values : List (Option Int)}
      (hcs : Repeats (Numeral.chomp cs) body n) (hbody : body ≠ [])
      (hvalues : List.Forall₂ Range.Element (Separated.fields ':' body) values)
      (h : Range.Legal values) : Denotes cs h.range.numbers n

/-- A token has the shape of a range: it is a body of characters of a range, which may be
repeated. -/
def HasShape (cs body : List Char) : Prop :=
  ∃ n, Repeats (Numeral.chomp cs) body n ∧ body ≠ [] ∧ ∀ c ∈ body, isRangeChar c = true

theorem isRangeChar_of_elements {values : List (Option Int)}
    (h : List.Forall₂ Range.Element (Separated.fields ':' body) values) :
    ∀ c ∈ body, isRangeChar c = true := by
  intro c hc
  obtain rfl | ⟨f, hf, hcf⟩ := Separated.eq_or_mem_fields ':' hc
  · decide
  · obtain ⟨v, hv⟩ := exists_forall₂_iff.1 ⟨values, h⟩ f hf
    cases hv with
    | omitted => cases hcf
    | integer hspells =>
      rw [isRangeChar]
      obtain hdigit | rfl := hspells.isDigit_or hcf
      · rw [hdigit]
        rfl
      · decide

theorem chomp_isPrefix (cs : List Char) : Numeral.chomp cs <+: cs := by
  rw [Numeral.chomp]
  split
  · exact List.dropLast_prefix cs
  · exact List.prefix_refl cs

theorem chomp_of_nil (h : cs = []) : Numeral.chomp cs = [] :=
  List.prefix_nil.1 (h ▸ chomp_isPrefix cs)

theorem Repeats.ne_nil (h : Repeats cs body n) (hbody : body ≠ []) : cs ≠ [] := fun hcs =>
  hbody (List.prefix_nil.1 (hcs ▸ h.isPrefix))

/-- A repeated body that spells an integer is that integer, once. -/
theorem Repeats.eq_of_spells (h : Repeats cs body n) (hm : Numeral.Spells cs m) :
    body = cs ∧ n = 1 := by
  cases h with
  | once => exact ⟨rfl, rfl⟩
  | braced =>
    have hbrace := hm.isDigit_or (List.mem_append_right body List.mem_cons_self)
    exact absurd hbrace (by decide)

theorem Denotes.eq_of_spells {numbers : List Int} (h : Denotes cs numbers n)
    (hm : Numeral.Spells (Numeral.chomp cs) m) : numbers = [m] ∧ n = 1 := by
  cases h with
  | empty h => exact absurd (chomp_of_nil h) hm.ne_nil
  | integer h => exact ⟨by rw [h.unique hm], rfl⟩
  | range hcs hbody hvalues hlegal =>
    obtain ⟨rfl, rfl⟩ := hcs.eq_of_spells hm
    have hcolon : ':' ∉ Numeral.chomp cs := fun hmem =>
      absurd (hm.isDigit_or hmem) (by decide)
    rw [Separated.fields_of_notMem hcolon] at hvalues
    obtain _ | ⟨hv, ⟨⟩⟩ := hvalues
    obtain rfl := hv.unique (.integer hm)
    exact ⟨Range.numbers_of_last_eq_first _ rfl, rfl⟩

/-! ## Reading -/

theorem read_of_spells (hcs : Numeral.Readable cs) (h : Numeral.Spells (Numeral.chomp cs) m) :
    read cs = .ok [m] := by
  have hne : cs.isEmpty = false := List.isEmpty_eq_false_iff.2 fun hnil =>
    h.ne_nil (chomp_of_nil hnil)
  have hsigned := Numeral.signed_of_spells h (hcs.of_isInfix (chomp_isPrefix cs).isInfix)
  rw [read, classify, hne, if_neg Bool.false_ne_true, if_pos (isInteger_iff.2 ⟨m, h⟩), hsigned]
  rfl

theorem read_of_repeats (hcs : Numeral.Readable cs) (h : Repeats (Numeral.chomp cs) body n)
    (hbody : body ≠ []) (hall : ∀ c ∈ body, isRangeChar c = true)
    (hinteger : ∀ m, ¬ Numeral.Spells (Numeral.chomp cs) m) :
    read cs = (Token.range body n).expand := by
  have hne : cs.isEmpty = false := List.isEmpty_eq_false_iff.2 fun hnil =>
    h.ne_nil hbody (chomp_of_nil hnil)
  have hfalse : ¬ isInteger (Numeral.chomp cs) = true := fun hcheck =>
    (isInteger_iff.1 hcheck).elim hinteger
  have hcheck : (!body.isEmpty) = true := by simpa using hbody
  obtain ⟨hsuffix, htimes⟩ := h.dropWhile_eq hall
  rw [read, classify, hne, if_neg Bool.false_ne_true, if_neg hfalse, h.takeWhile_eq hall, hcheck,
    hsuffix, htimes (hcs.of_isInfix (chomp_isPrefix cs).isInfix)]
  rfl

theorem Repeats.readable (h : Repeats (Numeral.chomp cs) body n)
    (hall : ∀ c ∈ body, isRangeChar c = true) :
    '\n' ∉ body ∧ (Numeral.Readable cs → Numeral.Readable body) := by
  refine ⟨fun hmem => absurd (hall _ hmem) (by decide), fun hcs => hcs.of_isInfix ?_⟩
  exact (h.isPrefix.trans (chomp_isPrefix cs)).isInfix

theorem expand_of_read {r : Range} (h : Range.read body = .ok r) :
    (Token.range body n).expand = match Repetition.error? r.numbers.length n with
      | some e => .error (.repetition e)
      | none => .ok (Repetition.times n r.numbers) := by
  have hpure : Range.read body = pure r := h
  rw [expand, hpure, pure_bind]
  dsimp only
  cases Repetition.error? r.numbers.length n <;> rfl

/-- **A token that denotes numbers stands for them**, as often as they are repeated, if they can be
repeated so often. -/
theorem read_of_denotes {numbers : List Int} (hcs : Numeral.Readable cs)
    (h : Denotes cs numbers n) :
    read cs = match Repetition.error? numbers.length n with
      | some e => .error (.repetition e)
      | none => .ok (Repetition.times n numbers) := by
  -- an integer is never looked at as a range, though it may be denoted as one
  by_cases hinteger : ∃ m, Numeral.Spells (Numeral.chomp cs) m
  · obtain ⟨m, hm⟩ := hinteger
    obtain ⟨rfl, rfl⟩ := h.eq_of_spells hm
    exact read_of_spells hcs hm
  · cases h with
    | empty h =>
      subst h
      rfl
    | integer h => exact absurd ⟨_, h⟩ hinteger
    | range hrepeats hbody hvalues hlegal =>
      have hall := isRangeChar_of_elements hvalues
      obtain ⟨hlf, hreadable⟩ := hrepeats.readable hall
      rw [read_of_repeats hcs hrepeats hbody hall (not_exists.1 hinteger),
        expand_of_read (Range.read_of_legal (hreadable hcs) hlf hlegal hvalues)]

section
variable (h : ∀ numbers n, ¬ Denotes cs numbers n)
include h

/-- **A token of the shape of a range that denotes nothing is refused**, with a complaint that names
the range. -/
theorem exists_read_error_of_hasShape (hcs : Numeral.Readable cs) (hshape : HasShape cs body) :
    ∃ e, read cs = .error e ∧ e.range? = some (String.ofList body) := by
  obtain ⟨n, hrepeats, hbody, hall⟩ := hshape
  obtain ⟨hlf, hreadable⟩ := hrepeats.readable hall
  obtain ⟨e, he, hrange⟩ := Range.exists_read_error (hreadable hcs) hlf fun values hvalues hlegal =>
    h _ _ (.range hrepeats hbody hvalues hlegal)
  refine ⟨e, ?_, hrange⟩
  rw [read_of_repeats hcs hrepeats hbody hall fun m hm => h _ _ (.integer hm), expand, he]
  rfl

/-- **Any other token that denotes nothing is refused**, with a complaint that names it. -/
theorem read_of_not_hasShape (hshape : ∀ body, ¬ HasShape cs body) :
    read cs = .error (.malformed (String.ofList cs)) := by
  have hne : ¬ cs.isEmpty = true := fun hnil => h _ _ (.empty (List.isEmpty_iff.1 hnil))
  have hinteger : ¬ isInteger (Numeral.chomp cs) = true := fun hcheck =>
    (isInteger_iff.1 hcheck).elim fun m hm => h _ _ (.integer hm)
  have hrange : ¬ ((!((Numeral.chomp cs).takeWhile isRangeChar).isEmpty &&
      isSuffix ((Numeral.chomp cs).dropWhile isRangeChar)) = true) := fun hcheck => by
    obtain ⟨hbody, hsuffix⟩ := Bool.and_eq_true_iff.1 hcheck
    obtain ⟨n, hn⟩ := exists_repeats hsuffix
    exact hshape _ ⟨n, hn, by simpa using hbody, fun _ => List.mem_takeWhile_imp⟩
  rw [read, classify, if_neg hne, if_neg hinteger, if_neg hrange]
  rfl

end

end Token

/-! ## Width lists -/

/-- **Width lists are read by their grammar.**  A token without too many digits is read as numbers
exactly if it denotes them and they can be repeated; if they cannot, that is what is wrong with it.
A token that denotes nothing is refused, with a complaint about the range if it has the shape of
one, and as malformed otherwise.  The tokens of several arguments are read in order: what is wrong
with the first that is not read is what is wrong with all, and otherwise the numbers are those of
all tokens together. -/
theorem read_iff_denotes :
    (∀ cs, Numeral.Readable cs →
      (∀ numbers, Token.read cs = .ok numbers ↔ ∃ once n, Token.Denotes cs once n ∧
        Repetition.error? once.length n = none ∧ numbers = Repetition.times n once) ∧
      (∀ once n e, Token.Denotes cs once n → Repetition.error? once.length n = some e →
        Token.read cs = .error (.repetition e)) ∧
      ((∀ once n, ¬ Token.Denotes cs once n) → ∀ body, Token.HasShape cs body →
        ∃ e, Token.read cs = .error e ∧ e.range? = some (String.ofList body))) ∧
    (∀ cs, (∀ once n, ¬ Token.Denotes cs once n) → (∀ body, ¬ Token.HasShape cs body) →
      Token.read cs = .error (.malformed (String.ofList cs))) ∧
    ∀ args,
      (∀ e, read args = .error e ↔ ∃ front cs back, tokens args = front ++ cs :: back ∧
        (∀ t ∈ front, ∃ numbers, Token.read t = .ok numbers) ∧ Token.read cs = .error e) ∧
      ∀ numbers, read args = .ok numbers ↔ ∃ lists,
        List.Forall₂ (fun t list => Token.read t = .ok list) (tokens args) lists ∧
          numbers = lists.flatten := by
  refine ⟨fun cs hcs => ⟨fun numbers => ⟨fun h => ?_, ?_⟩, fun once n e h he => ?_,
    fun h body => Token.exists_read_error_of_hasShape h hcs⟩,
    fun cs h => Token.read_of_not_hasShape h, fun args => ⟨fun e => ?_, fun numbers => ?_⟩⟩
  · by_cases hdenotes : ∃ once n, Token.Denotes cs once n
    · obtain ⟨once, n, hdenotes⟩ := hdenotes
      rw [Token.read_of_denotes hcs hdenotes] at h
      rcases he : Repetition.error? once.length n with _ | e
      · rw [he] at h
        exact ⟨once, n, hdenotes, he, (Except.ok.inj h).symm⟩
      · rw [he] at h
        cases h
    · have hnot : ∀ once n, ¬ Token.Denotes cs once n := fun once n hd => hdenotes ⟨once, n, hd⟩
      by_cases hshape : ∃ body, Token.HasShape cs body
      · obtain ⟨body, hshape⟩ := hshape
        obtain ⟨e, he, -⟩ := Token.exists_read_error_of_hasShape hnot hcs hshape
        cases he.symm.trans h
      · cases (Token.read_of_not_hasShape hnot (not_exists.1 hshape)).symm.trans h
  · rintro ⟨once, n, hdenotes, he, rfl⟩
    rw [Token.read_of_denotes hcs hdenotes, he]
  · rw [Token.read_of_denotes hcs h, he]
  · rw [read, bind_pure_eq_error, mapM_eq_error_iff]
  · rw [read, bind_eq_ok]
    refine exists_congr fun lists => ?_
    rw [mapM_eq_ok_iff]
    exact and_congr_right fun _ => ⟨fun h => (Except.ok.inj h).symm, fun h => h ▸ rfl⟩

/-- A range that is repeated, nothing, and a range that leads the other way before a token that is
malformed. -/
theorem read_iff_denotes_third_token :
    Token.read "2:10:4\x7b2\x7d\n".toList = .ok [2, 6, 10, 2, 6, 10] ∧
      read ["2:10:4\x7b2\x7d\n,", "1:0:2,x"] = .error (.needsDecrement "1:0:2") := by
  obtain ⟨htoken, -, hread⟩ := read_iff_denotes
  have hrepeats : Token.Repeats (Numeral.chomp "2:10:4\x7b2\x7d\n".toList) "2:10:4".toList 2 :=
    @Token.Repeats.braced "2:10:4".toList ['2'] rfl
  have hvalues : List.Forall₂ Range.Element (Separated.fields ':' "2:10:4".toList)
      [some 2, some 10, some 4] :=
    .cons (.integer (.digits rfl)) <| .cons (.integer (.digits rfl)) <|
      .cons (.integer (.digits rfl)) .nil
  have hlegal : Range.Legal [some 2, some 10, some 4] := by
    refine ⟨by decide, fun s hs => ?_, fun n hn => ?_⟩
    · obtain rfl := Option.some.inj hs
      decide
    · cases hn
  have hnumbers : hlegal.range.numbers = [2, 6, 10] := by
    have hsign : Int.sign 4 = 1 := rfl
    have hrange : hlegal.range = ⟨2, 10, 4, 1, by decide, by decide, by decide⟩ := rfl
    simp [hrange, Range.numbers, Range.groups, Range.consecutive, hsign]
  have hdenotes : Token.Denotes "2:10:4\x7b2\x7d\n".toList [2, 6, 10] 2 :=
    hnumbers ▸ .range hrepeats (by decide) hvalues hlegal
  have hok := ((htoken _ (Numeral.readable_of_length_le (by decide))).1 _).2
    ⟨_, _, hdenotes, rfl, rfl⟩
  refine ⟨hok, ((hread _).1 _).2 ⟨["2:10:4\x7b2\x7d\n".toList, []], "1:0:2".toList, [['x']], rfl,
    ?_, rfl⟩⟩
  simp only [List.forall_mem_cons]
  exact ⟨⟨_, hok⟩, ⟨_, rfl⟩, List.forall_mem_nil _⟩

/-- **A token that denotes a number and is not read**: nobody can count how often it is to be
repeated. -/
theorem read_iff_denotes_uncountable :
    let cs := "4\x7b99999999999999999999\x7d".toList
    ',' ∉ cs ∧ Numeral.Readable cs ∧ Token.Denotes cs [4] 99999999999999999999 ∧
      ¬ (∃ numbers, Token.read cs = .ok numbers) ∧
      Token.read cs = .error (.repetition .uncountable) := by
  intro cs
  have hrepeats : Token.Repeats (Numeral.chomp cs) ['4'] 99999999999999999999 :=
    @Token.Repeats.braced ['4'] "99999999999999999999".toList rfl
  have hvalues : List.Forall₂ Range.Element (Separated.fields ':' ['4']) [some 4] :=
    .cons (.integer (.digits rfl)) .nil
  have hlegal : Range.Legal [some 4] := ⟨by decide, nofun, nofun⟩
  have hread : Token.read cs = .error (.repetition .uncountable) := by rfl
  refine ⟨by decide, Numeral.readable_of_length_le (by decide), ?_, ?_, hread⟩
  · exact Range.numbers_of_last_eq_first hlegal.range rfl ▸
      .range hrepeats (by decide) hvalues hlegal
  · rintro ⟨numbers, hok⟩
    cases hread.symm.trans hok

end WidthList
end ColumnFold
