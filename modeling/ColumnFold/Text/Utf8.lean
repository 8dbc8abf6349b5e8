import ColumnFold.Text.Symbol

/-!
# Reading and writing bytes

Texts come from bytes and go back to bytes.  A character is read where the bytes begin with its
UTF-8 encoding; any other byte is kept as it is.  Overlong forms, encoded surrogates and sequences
that are cut short are the encoding of no character, so their bytes are stray, one by one.

* `Utf8.encode`, `Utf8.decode` — between texts and bytes.
* `Utf8.encode_decode` — what is read is written back unchanged.
-/

set_option autoImplicit false

namespace ColumnFold
namespace Utf8

/-! ## Writing -/

/-- The bytes of a symbol. -/
def encodeSymbol : Symbol → List UInt8
  | .char c => String.utf8EncodeChar c
  | .raw b => [b]

/-- The bytes of a text. -/
def encode (t : Text) : List UInt8 := t.flatMap encodeSymbol

@[simp] theorem encode_nil : encode [] = [] := rfl

@[simp] theorem encode_cons (s : Symbol) (t : Text) :
    encode (s :: t) = encodeSymbol s ++ encode t := rfl

/-! ## Reading -/

/-- How many bytes the encoding of a character has if its first byte is `b`. -/
def lengthFrom (b : UInt8) : Nat :=
  if b < 0x80 then 1 else if b < 0xE0 then 2 else if b < 0xF0 then 3 else 4

/-- The number that the payload bits of a sequence of one to four bytes spell. -/
def payload : List UInt8 → Nat
  | [a] => a.toNat
  | [a, b] => a.toNat % 32 * 64 + b.toNat % 64
  | [a, b, c] => (a.toNat % 16 * 64 + b.toNat % 64) * 64 + c.toNat % 64
  | [a, b, c, d] => ((a.toNat % 8 * 64 + b.toNat % 64) * 64 + c.toNat % 64) * 64 + d.toNat % 64
  | _ => 0

/-- The character that the bytes begin with, if they begin with the encoding of one. -/
def char? : List UInt8 → Option Char
  | [] => none
  | b :: bs =>
    let word := (b :: bs).take (lengthFrom b)
    let c := Char.ofNat (payload word)
    if String.utf8EncodeChar c = word then some c else none

/-- Reads the bytes after the next `k`, which belong to a character already read. -/
def decodeFrom : Nat → List UInt8 → Text
  | _, [] => []
  | k + 1, _ :: bs => decodeFrom k bs
  | 0, b :: bs =>
    match char? (b :: bs) with
    | some c => .char c :: decodeFrom (c.utf8Size - 1) bs
    | none => .raw b :: decodeFrom 0 bs

/-- The text that the bytes spell. -/
def decode (bs : List UInt8) : Text := decodeFrom 0 bs

theorem eq_append_of_char? {bs : List UInt8} {c : Char} (h : char? bs = some c) :
    bs = String.utf8EncodeChar c ++ bs.drop c.utf8Size := by
  cases bs with
  | nil => simp [char?] at h
  | cons b bs =>
    simp only [char?] at h
    split at h
    · rename_i hw
      obtain rfl := Option.some.inj h
      have hlen := congrArg List.length hw
      rw [String.length_utf8EncodeChar, List.length_take] at hlen
      rw [hw, hlen]
      rcases Nat.le_total (lengthFrom b) (b :: bs).length with hle | hle
      · rw [Nat.min_eq_left hle, List.take_append_drop]
      · rw [Nat.min_eq_right hle, List.take_of_length_le hle]
        simp
    · simp at h

theorem encode_decodeFrom (k : Nat) (bs : List UInt8) : encode (decodeFrom k bs) = bs.drop k := by
  fun_induction decodeFrom k bs with
  | case1 => simp
  | case2 k b bs ih => simpa using ih
  | case3 b bs c hc ih =>
    have hsize := c.utf8Size_pos
    have h := eq_append_of_char? hc
    rw [encode_cons, ih, List.drop_zero]
    conv => rhs; rw [h]
    rw [show c.utf8Size = c.utf8Size - 1 + 1 by omega, List.drop_succ_cons]
    rfl
  | case4 b bs hc ih => simpa [encodeSymbol] using ih

/-- Every byte list is written back as it was read. -/
theorem encode_decode (bs : List UInt8) : encode (decode bs) = bs :=
  encode_decodeFrom 0 bs

end Utf8
end ColumnFold
