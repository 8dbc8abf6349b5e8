import ColumnFold.Text.Symbol
import ColumnFold.Unicode.BreakClass
import ColumnFold.Unicode.Emoji
import ColumnFold.Unicode.Indic

/-!
# Grapheme clusters

A grapheme cluster is what a reader takes for one character: a letter with its accents, a Hangul
syllable, a flag, a family of emoji.  The boundaries are those of extended grapheme clusters in
Unicode Standard Annex 29.  Whether a symbol joins the cluster before it depends only on that
cluster, through a small state:

* `Cluster.State` — what the symbols of a cluster so far say about the next one.
* `Cluster.State.joins` — whether the next symbol belongs to the same cluster.
-/

set_option autoImplicit false

namespace ColumnFold

open Unicode

/-- The class of a symbol with respect to cluster boundaries; a stray byte stands alone. -/
def Symbol.breakClass : Symbol → BreakClass
  | .char c => .ofChar c
  | .raw _ => .control

namespace Cluster

/-- How far a sequence that joins two characters has come. -/
inductive Link where
  /-- No such sequence has begun. -/
  | idle
  /-- The first character is there, perhaps with marks. -/
  | begun
  /-- The joining character is there as well: another character may follow. -/
  | ready
deriving DecidableEq

/-- What the symbols of a cluster say about the symbol after them. -/
structure State where
  /-- The class of the last symbol. -/
  last : BreakClass
  /-- Whether the cluster ends in an odd number of regional indicators. -/
  oddRegional : Bool
  /-- Pictographs are joined by a zero width joiner. -/
  picture : Link
  /-- Consonants are joined by a virama. -/
  conjunct : Link
deriving DecidableEq

namespace State

/-- The state before the first symbol of a cluster. -/
def blank : State := ⟨.other, false, .idle, .idle⟩

/-- How far pictographs have come with the symbol `s` of class `k`. -/
def nextPicture (link : Link) (s : Symbol) (k : BreakClass) : Link :=
  if s.isChar isPictograph then .begun
  else if link = .begun ∧ k = .extend then .begun
  else if link = .begun ∧ k = .joiner then .ready
  else .idle

/-- How far a conjunct has come with the symbol `s` of class `k`.  The zero width non-joiner ends
a conjunct. -/
def nextConjunct (link : Link) (s : Symbol) (k : BreakClass) : Link :=
  if s.isChar isConjunctConsonant then .begun
  else if link = .idle then .idle
  else if s.isChar isConjunctLinker then .ready
  else if (k = .extend ∨ k = .joiner) ∧ s ≠ .char '\u200c' then link
  else .idle

/-- The state after one more symbol. -/
def next (st : State) (s : Symbol) : State :=
  let k := s.breakClass
  { last := k
    oddRegional := k == .regional && !st.oddRegional
    picture := nextPicture st.picture s k
    conjunct := nextConjunct st.conjunct s k }

/-- The state after the first symbol of a cluster. -/
def start (s : Symbol) : State := blank.next s

/-- Whether the symbol `s` belongs to the cluster before it. -/
def joins (st : State) (s : Symbol) : Bool :=
  match st.last, s.breakClass with
  | .cr, .lf => true
  | .cr, _ | .lf, _ | .control, _ => false
  | _, .cr | _, .lf | _, .control => false
  | .hangulL, .hangulL | .hangulL, .hangulV | .hangulL, .hangulLV | .hangulL, .hangulLVT => true
  | .hangulLV, .hangulV | .hangulLV, .hangulT | .hangulV, .hangulV | .hangulV, .hangulT => true
  | .hangulLVT, .hangulT | .hangulT, .hangulT => true
  | _, .extend | _, .joiner | _, .spacing => true
  | .prepend, _ => true
  | _, .regional => st.oddRegional
  | _, _ =>
    st.conjunct == .ready && s.isChar isConjunctConsonant ||
      st.picture == .ready && s.isChar isPictograph

end State
end Cluster
end ColumnFold
