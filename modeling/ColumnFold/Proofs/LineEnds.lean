import ColumnFold.Text.Line
import ColumnFold.Text.Utf8

/-!
# Line ends in bytes

In a file every kind of line end counts as a line feed.  That is said of the text that is read
(`Line.unify`), but it may as well be said of its bytes: carriage returns and line feeds are bytes
of their own in UTF-8, which no other character and no stray byte can be taken for.  So unifying
commutes with reading, however many of the bytes are not valid.

A text is read character by character, each from the bytes of its encoding (`Utf8.decode_append`).
Unifying leaves these bytes alone unless they are a carriage return, and where no character is
encoded it makes none appear.

* `Utf8.decode_append` — a character is read from the bytes of its encoding.
* `Line.unifyBytes` — bytes with every kind of line end written as a line feed.
* `Line.decode_unifyBytes` — what is read from them is the text with its line ends unified.
-/

set_option autoImplicit false

namespace ColumnFold

namespace Utf8

/-! ## Reading what was written -/

theorem toNat_lt (c : Char) : c.val.toNat < 0x110000 := by
  obtain h | ⟨-, h⟩ := c.valid <;> omega

theorem payload_encodeChar (c : Char) : payload (String.utf8EncodeChar c) = c.val.toNat := by
  have hlt := toNat_lt c
  rw [String.utf8EncodeChar]
  repeat' split
  all_goals
    simp only [payload, UInt8.toNat_ofNat']
    omega

theorem lengthFrom_encodeChar {c : Char} {b : UInt8} {bs : List UInt8}
    (h : String.utf8EncodeChar c = b :: bs) : lengthFrom b = (b :: bs).length := by
  have hlt := toNat_lt c
  rw [String.utf8EncodeChar] at h
  repeat' split at h
  all_goals
    cases h
    simp only [lengthFrom, UInt8.lt_iff_toNat_lt, UInt8.toNat_ofNat', UInt8.reduceToNat]
    repeat' split
  all_goals first | rfl | omega

theorem char?_append (c : Char) (rest : List UInt8) :
    char? (String.utf8EncodeChar c ++ rest) = some c := by
  cases h : String.utf8EncodeChar c with
  | nil => exact absurd h String.utf8EncodeChar_ne_nil
  | cons b bs =>
    have hpayload : Char.ofNat (payload (b :: bs)) = c := by
      rw [← h, payload_encodeChar]
      exact Char.ofNat_toNat c
    rw [List.cons_append, char?, lengthFrom_encodeChar h, ← List.cons_append, List.take_left,
      hpayload, if_pos h]

theorem decodeFrom_eq_drop (k : Nat) (bs : List UInt8) :
    decodeFrom k bs = decode (bs.drop k) := by
  induction k generalizing bs with
  | zero => rfl
  | succ k ih =>
    cases bs with
    | nil => rfl
    | cons b bs => exact ih bs

/-- **A character is read from its encoding**, whatever comes after it. -/
theorem decode_append (c : Char) (rest : List UInt8) :
    decode (String.utf8EncodeChar c ++ rest) = .char c :: decode rest := by
  have hchar := char?_append c rest
  have hlength := String.length_utf8EncodeChar c
  cases h : String.utf8EncodeChar c with
  | nil => exact absurd h String.utf8EncodeChar_ne_nil
  | cons b bs =>
    rw [h] at hchar hlength
    rw [List.cons_append] at hchar ⊢
    have hdrop : (bs ++ rest).drop (c.utf8Size - 1) = rest := by
      rw [← hlength]
      exact List.drop_left
    rw [decode, decodeFrom, hchar]
    show Symbol.char c :: decodeFrom (c.utf8Size - 1) (bs ++ rest) = _
    rw [decodeFrom_eq_drop (c.utf8Size - 1), hdrop]

/-- A byte that begins no character is read as itself. -/
theorem decode_raw {b : UInt8} {bs : List UInt8} (h : char? (b :: bs) = none) :
    decode (b :: bs) = .raw b :: decode bs := by
  rw [decode, decodeFrom, h]
  rfl

/-- Bytes are none, or the encoding of a character and then bytes, or a stray byte and then
bytes. -/
theorem bytesInduction {P : List UInt8 → Prop} (nil : P [])
    (char : ∀ c rest, P rest → P (String.utf8EncodeChar c ++ rest))
    (stray : ∀ b rest, char? (b :: rest) = none → P rest → P (b :: rest)) : ∀ bs, P bs
  | [] => nil
  | b :: bs =>
    match h : char? (b :: bs) with
    | none => stray b bs h (bytesInduction nil char stray bs)
    | some c => by
      have hbytes := eq_append_of_char? h
      have hsize := c.utf8Size_pos
      have hlt : ((b :: bs).drop c.utf8Size).length < bs.length + 1 := by
        rw [List.length_drop, List.length_cons]
        omega
      rw [hbytes]
      exact char c _ (bytesInduction nil char stray ((b :: bs).drop c.utf8Size))
  termination_by bs => bs.length

/-! ## ASCII characters -/

/-- A byte below 128 belongs to the encoding of one character only. -/
theorem toNat_eq_of_mem {c : Char} {b : UInt8} (h : b ∈ String.utf8EncodeChar c)
    (hb : b.toNat < 0x80) : c.toNat = b.toNat := by
  show c.val.toNat = b.toNat
  rw [String.utf8EncodeChar] at h
  repeat' split at h
  -- all bytes of a longer encoding are from 128 on
  all_goals
    simp only [List.mem_cons, List.not_mem_nil, or_false, ← UInt8.toNat_inj,
      UInt8.toNat_ofNat'] at h
    omega

end Utf8

/-! ## Line ends -/

namespace Line

/-- Bytes with a carriage return, alone or before a line feed, written as a line feed. -/
def unifyBytes : List UInt8 → List UInt8
  | [] => []
  | 0x0D :: 0x0A :: bs => 0x0A :: unifyBytes bs
  | b :: bs => (if b = 0x0D then 0x0A else b) :: unifyBytes bs

theorem unifyBytes_append {front : List UInt8} (h : 0x0D ∉ front) (back : List UInt8) :
    unifyBytes (front ++ back) = front ++ unifyBytes back := by
  induction front with
  | nil => rfl
  | cons b front ih =>
    rw [List.mem_cons, not_or] at h
    rw [List.cons_append, unifyBytes.eq_def]
    split
    · contradiction
    · rename_i heq
      injection heq with hb
      exact absurd hb.symm h.1
    · rename_i heq
      injection heq with hb hbs
      subst hb hbs
      rw [if_neg (Ne.symm h.1), ih h.2]
      rfl

theorem unifyBytes_cons {b : UInt8} (h : b ≠ 0x0D) (bs : List UInt8) :
    unifyBytes (b :: bs) = b :: unifyBytes bs := by
  have hmem : 0x0D ∉ [b] := by simpa using Ne.symm h
  exact unifyBytes_append hmem bs

theorem unifyBytes_of_notMem {bs : List UInt8} (h : 0x0D ∉ bs) : unifyBytes bs = bs := by
  have happend := unifyBytes_append h []
  rwa [List.append_nil, unifyBytes, List.append_nil] at happend

theorem notMem_unifyBytes (bs : List UInt8) : 0x0D ∉ unifyBytes bs := by
  fun_induction unifyBytes bs with
  | case1 => exact List.not_mem_nil
  | case2 bs ih => simpa using ih
  | case3 b bs _ ih =>
    rw [List.mem_cons, not_or]
    refine ⟨?_, ih⟩
    split
    · decide
    · rename_i hb
      exact Ne.symm hb

/-- What begins with no line feed after line ends are unified began so before. -/
theorem exists_append_of_unifyBytes {front back bs : List UInt8} (h : 0x0A ∉ front)
    (heq : unifyBytes bs = front ++ back) : ∃ rest, bs = front ++ rest := by
  induction front generalizing bs with
  | nil => exact ⟨bs, rfl⟩
  | cons b front ih =>
    rw [List.mem_cons, not_or] at h
    fun_cases unifyBytes bs with
    | case1 => cases heq
    | case2 bs =>
      rw [unifyBytes] at heq
      injection heq with hb
      exact absurd hb h.1
    | case3 a bs hne =>
      rw [unifyBytes] at heq
      · injection heq with ha hbs
        obtain ⟨rest, rfl⟩ := ih h.2 hbs
        split at ha
        · exact absurd ha h.1
        · exact ⟨rest, congrArg (· :: _) ha⟩
      · exact hne

theorem unify_cons {s : Symbol} (h : s ≠ .cr) (t : Text) : unify (s :: t) = s :: unify t := by
  rw [unify.eq_def]
  split
  · contradiction
  · rename_i heq
    injection heq with hs
    exact absurd hs h
  · rename_i heq
    injection heq with hs ht
    subst hs ht
    rw [if_neg h]

theorem unify_cr {t : Text} (h : t.head? ≠ some .lf) : unify (.cr :: t) = .lf :: unify t := by
  rw [unify.eq_def]
  split
  · contradiction
  · rename_i heq
    injection heq with _ ht
    exact absurd (ht ▸ rfl) h
  · rename_i heq
    injection heq with hs ht
    subst hs ht
    rw [if_pos rfl]

theorem decode_lf (bs : List UInt8) : Utf8.decode (0x0A :: bs) = .lf :: Utf8.decode bs :=
  Utf8.decode_append '\n' bs

theorem decode_cr (bs : List UInt8) : Utf8.decode (0x0D :: bs) = .cr :: Utf8.decode bs :=
  Utf8.decode_append '\r' bs

/-- What a carriage return is read as, if what follows it is read as it should be. -/
theorem decode_unifyBytes_cr {bs : List UInt8}
    (h : Utf8.decode (unifyBytes bs) = unify (Utf8.decode bs)) :
    Utf8.decode (unifyBytes (0x0D :: bs)) = unify (Utf8.decode (0x0D :: bs)) := by
  rw [decode_cr]
  by_cases hbs : ∃ rest, bs = 0x0A :: rest
  · -- the line feed that follows takes the place of both
    obtain ⟨rest, rfl⟩ := hbs
    rw [decode_lf] at h ⊢
    exact h
  · have hhead : (Utf8.decode bs).head? ≠ some .lf := fun hhead => by
      obtain ⟨t, ht⟩ := List.head?_eq_some_iff.1 hhead
      refine hbs ⟨Utf8.encode t, ?_⟩
      rw [← Utf8.encode_decode bs, ht]
      rfl
    rw [unify_cr hhead, ← h, ← decode_lf, unifyBytes]
    · rfl
    · exact fun rest _ heq => hbs ⟨rest, heq⟩

/-- A byte that is no carriage return begins no character before unified line ends if it began none
before. -/
theorem char?_unifyBytes_eq_none {b : UInt8} {bs : List UInt8} (hb : b ≠ 0x0D)
    (h : Utf8.char? (b :: bs) = none) : Utf8.char? (b :: unifyBytes bs) = none := by
  cases hchar : Utf8.char? (b :: unifyBytes bs) with
  | none => rfl
  | some c =>
    have hbytes := Utf8.eq_append_of_char? hchar
    have hmem : (0x0A : UInt8) ∉ String.utf8EncodeChar c := fun hmem => by
      obtain rfl : c = '\n' := Char.toNat_inj.1 (Utf8.toNat_eq_of_mem hmem (by decide))
      injection hbytes with hb
      subst hb
      cases h.symm.trans (Utf8.char?_append '\n' bs)
    rw [← unifyBytes_cons hb] at hbytes
    obtain ⟨rest, hrest⟩ := exists_append_of_unifyBytes hmem hbytes
    rw [hrest, Utf8.char?_append] at h
    cases h

/-- **What is read from bytes with unified line ends** is the text with unified line ends. -/
theorem decode_unifyBytes (bs : List UInt8) :
    Utf8.decode (unifyBytes bs) = unify (Utf8.decode bs) := by
  induction bs using Utf8.bytesInduction with
  | nil => rfl
  | char c rest ih =>
    by_cases hc : c = '\r'
    · subst hc
      exact decode_unifyBytes_cr ih
    · have hmem : (0x0D : UInt8) ∉ String.utf8EncodeChar c := fun hmem =>
        hc (Char.toNat_inj.1 (Utf8.toNat_eq_of_mem hmem (by decide)))
      have hs : Symbol.char c ≠ .cr := fun h => hc (Symbol.char.inj h)
      rw [unifyBytes_append hmem, Utf8.decode_append, Utf8.decode_append, unify_cons hs, ih]
  | stray b rest hraw ih =>
    have hb : b ≠ 0x0D := by
      rintro rfl
      cases hraw.symm.trans (Utf8.char?_append '\r' rest)
    have hs : Symbol.raw b ≠ .cr := by
      intro h
      cases h
    rw [unifyBytes_cons hb, Utf8.decode_raw hraw,
      Utf8.decode_raw (char?_unifyBytes_eq_none hb hraw), unify_cons hs, ih]

end Line
end ColumnFold
