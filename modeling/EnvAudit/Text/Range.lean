/-! Sets of characters given as ranges of code points. -/
namespace EnvAudit.Text

def inRanges (ranges : List (Nat × Nat)) (code : Nat) : Bool :=
  ranges.any fun (first, last) => first ≤ code && code ≤ last

/-- One run of characters that a case map moves by the same distance: every `stride`-th code point from `first`
to `last` is moved up by `up` and down by `down`. -/
structure Shift where
  first : Nat
  last : Nat
  stride : Nat
  up : Nat
  down : Nat

namespace Shift

def covers (s : Shift) (code : Nat) : Bool :=
  s.first ≤ code && code ≤ s.last && (code - s.first) % s.stride == 0

def image (s : Shift) (code : Nat) : Nat := code + s.up - s.down

def preimage? (s : Shift) (code : Nat) : Option Nat :=
  let source := code + s.down - s.up
  if s.covers source && s.image source == code then some source else none

end Shift

def shiftBy (runs : List Shift) (c : Char) : Char :=
  match runs.find? (·.covers c.toNat) with
  | some run => Char.ofNat (run.image c.toNat)
  | none => c

end EnvAudit.Text
