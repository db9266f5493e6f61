import EnvAudit.Text.Basic
import EnvAudit.Text.Digit

/-! UTF-8. Decoding is strict: it stops at the first byte sequence that encodes no character and names it. The
lossy reading puts one replacement character in the place of every such sequence. -/
namespace EnvAudit.Text

inductive Utf8Flaw
  | start
  | continuation
  | ending
deriving Repr, DecidableEq

structure Utf8Fault where
  flaw : Utf8Flaw
  offset : Nat
  byte : Nat
  length : Nat
deriving Repr, DecidableEq

namespace Utf8Fault

def reason (fault : Utf8Fault) : String :=
  match fault.flaw with
  | .start => "invalid start byte"
  | .continuation => "invalid continuation byte"
  | .ending => "unexpected end of data"

def message (fault : Utf8Fault) : String :=
  if fault.length == 1 then
    "'utf-8' codec can't decode byte 0x" ++ String.ofList (padZeros 2 (hexDigits fault.byte)) ++ " in position "
      ++ String.ofList (decimal fault.offset) ++ ": " ++ fault.reason
  else
    "'utf-8' codec can't decode bytes in position " ++ String.ofList (decimal fault.offset) ++ "-"
      ++ String.ofList (decimal (fault.offset + fault.length - 1)) ++ ": " ++ fault.reason

end Utf8Fault

def isTail (b : Nat) : Bool := 0x80 ≤ b && b ≤ 0xbf

/-- Whether the second byte of a longer sequence may follow its first byte: no overlong form, no surrogate, and
nothing above the last code point. -/
def isSecond (a b : Nat) : Bool :=
  isTail b && !(a == 0xe0 && b < 0xa0) && !(a == 0xed && 0xa0 ≤ b) && !(a == 0xf0 && b < 0x90) && !(a == 0xf4 && 0x90 ≤ b)

def firstChar (bytes : List Nat) : Except (Utf8Flaw × Nat) (Char × Nat) :=
  match bytes with
  | [] => .error (.ending, 0)
  | a :: rest =>
    if a < 0x80 then .ok (Char.ofNat a, 1)
    else if a < 0xc2 then .error (.start, 1)
    else if a < 0xe0 then
      match rest with
      | [] => .error (.ending, 1)
      | b :: _ => if isTail b then .ok (Char.ofNat ((a - 0xc0) * 64 + (b - 0x80)), 2) else .error (.continuation, 1)
    else if a < 0xf0 then
      match rest with
      | [] => .error (.ending, 1)
      | b :: rest =>
        if !isSecond a b then .error (.continuation, 1)
        else
          match rest with
          | [] => .error (.ending, 2)
          | c :: _ =>
            if isTail c then .ok (Char.ofNat ((a - 0xe0) * 4096 + (b - 0x80) * 64 + (c - 0x80)), 3)
            else .error (.continuation, 2)
    else if a < 0xf5 then
      match rest with
      | [] => .error (.ending, 1)
      | b :: rest =>
        if !isSecond a b then .error (.continuation, 1)
        else
          match rest with
          | [] => .error (.ending, 2)
          | c :: rest =>
            if !isTail c then .error (.continuation, 2)
            else
              match rest with
              | [] => .error (.ending, 3)
              | d :: _ =>
                if isTail d then
                  .ok (Char.ofNat ((a - 0xf0) * 262144 + (b - 0x80) * 4096 + (c - 0x80) * 64 + (d - 0x80)), 4)
                else .error (.continuation, 3)
    else .error (.start, 1)

/-- Decodes bytes from an offset on; every step takes at least one byte, so the number of bytes bounds the steps. -/
def decodeFrom (bound offset : Nat) (bytes : List Nat) : Except Utf8Fault (List Char) :=
  match bound, bytes with
  | _, [] => .ok []
  | 0, _ :: _ => .ok []
  | bound + 1, a :: rest =>
    match firstChar (a :: rest) with
    | .error (flaw, length) => .error { flaw, offset, byte := a, length }
    | .ok (c, length) => (decodeFrom bound (offset + length) ((a :: rest).drop length)).map (c :: ·)

def decodeUtf8 (bytes : List Nat) : Except Utf8Fault (List Char) := decodeFrom bytes.length 0 bytes

def decodeLossyFrom (bound : Nat) (bytes : List Nat) : List Char :=
  match bound, bytes with
  | _, [] => []
  | 0, _ :: _ => []
  | bound + 1, a :: rest =>
    match firstChar (a :: rest) with
    | .error (_, length) => Char.ofNat 0xfffd :: decodeLossyFrom bound ((a :: rest).drop length)
    | .ok (c, length) => c :: decodeLossyFrom bound ((a :: rest).drop length)

def decodeUtf8Lossy (bytes : List Nat) : List Char := decodeLossyFrom bytes.length bytes

def encodeChar (c : Char) : List Nat :=
  let n := c.toNat
  if n < 0x80 then [n]
  else if n < 0x800 then [0xc0 + n / 64, 0x80 + n % 64]
  else if n < 0x10000 then [0xe0 + n / 4096, 0x80 + n / 64 % 64, 0x80 + n % 64]
  else [0xf0 + n / 262144, 0x80 + n / 4096 % 64, 0x80 + n / 64 % 64, 0x80 + n % 64]

def encodeUtf8 (text : List Char) : List Nat := text.flatMap encodeChar

def byteWidth (c : Char) : Nat :=
  if c.toNat < 0x80 then 1 else if c.toNat < 0x800 then 2 else if c.toNat < 0x10000 then 3 else 4

theorem length_encodeChar (c : Char) : (encodeChar c).length = byteWidth c := by
  simp only [encodeChar, byteWidth]
  split
  · rfl
  · split
    · rfl
    · split <;> rfl

end EnvAudit.Text
