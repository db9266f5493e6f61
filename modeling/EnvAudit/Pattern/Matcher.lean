import EnvAudit.Pattern.Syntax
import EnvAudit.Text.Blank
import EnvAudit.Text.Fold
import EnvAudit.Text.Letter

/-! The matcher. It tries the possibilities of a pattern in order and goes back to the next one when the rest of
the pattern fails; what the rest requires is passed along as a continuation. -/
namespace EnvAudit.Pattern

/-- A place in the searched text: the reversed characters before it, the characters after it, and what the groups
have matched so far. -/
structure Spot where
  before : List Char
  after : List Char
  position : Nat
  groups : List (Nat × List Char)
deriving Repr

namespace Spot

def advance? (s : Spot) : Option (Char × Spot) :=
  match s.after with
  | [] => none
  | c :: rest => some (c, { s with before := c :: s.before, after := rest, position := s.position + 1 })

def back? (s : Spot) : Nat → Option Spot
  | 0 => some s
  | n + 1 =>
    match s.before with
    | [] => none
    | c :: rest => back? { s with before := rest, after := c :: s.after, position := s.position - 1 } n

end Spot

def Category.contains (ascii : Bool) (c : Char) : Category → Bool
  | .digit => if ascii then Text.isArabic c else Text.isDigit c
  | .space => if ascii then c.toNat == 0x20 || (9 ≤ c.toNat && c.toNat ≤ 13) else Text.isBlank c
  | .word => if ascii then Text.isPlainWordChar c else Text.isWordChar c

def SetItem.contains (options : Options) (c : Char) (variants : List Char) : SetItem → Bool
  | .char code => variants.any (·.toNat == code)
  | .range first last => variants.any fun v => first ≤ v.toNat && v.toNat ≤ last
  | .category kind negated => kind.contains options.ascii c != negated

def setContains (negated : Bool) (items : List SetItem) (options : Options) (c : Char) : Bool :=
  let variants := if options.ignoreCase then Text.variants options.ascii c else [c]
  items.any (·.contains options c variants) != negated

def sameChar (options : Options) (a b : Char) : Bool :=
  if !options.ignoreCase then a == b
  else if options.ascii then Text.variants true a |>.contains b
  else Text.lowerChar a == Text.lowerChar b

namespace Place

def inWord (ascii : Bool) : Option Char → Bool
  | none => false
  | some c => if ascii then Text.isPlainWordChar c else Text.isWordChar c

def holds (s : Spot) : Place → Bool
  | .start => s.before.isEmpty
  | .lineStart => s.before.head?.getD '\n' == '\n'
  | .ending => s.after.isEmpty || s.after == ['\n']
  | .lineEnding => s.after.head?.getD '\n' == '\n'
  | .textEnding => s.after.isEmpty
  | .boundary ascii => inWord ascii s.before.head? != inWord ascii s.after.head?
  | .noBoundary ascii =>
    !(s.before.isEmpty && s.after.isEmpty) && inWord ascii s.before.head? == inWord ascii s.after.head?

end Place

def takeText (options : Options) : List Char → Spot → Option Spot
  | [], s => some s
  | c :: rest, s =>
    match s.advance? with
    | some (d, next) => if sameChar options c d then takeText options rest next else none
    | none => none

/-- A matcher: it calls the continuation at every spot where its part of a match can end, best first, until one
succeeds. -/
abbrev Step := (Spot → Option Spot) → Spot → Option Spot

/-- Repeats a step as often as possible. A step that took nothing is not repeated. -/
def repeatGreedy (step : Step) (k : Spot → Option Spot) :
    Nat → Nat → Option Nat → Option Nat → Spot → Option Spot
  | 0, _, _, _, s => k s
  | bound + 1, least, most, last, s =>
    let fewer := most.map (· - 1)
    match least with
    | least + 1 => step (repeatGreedy step k bound least fewer last) s
    | 0 =>
      if most == some 0 || last == some s.position then k s
      else
        match step (repeatGreedy step k bound 0 fewer (some s.position)) s with
        | some found => some found
        | none => k s

def repeatLazy (step : Step) (k : Spot → Option Spot) :
    Nat → Nat → Option Nat → Option Nat → Spot → Option Spot
  | 0, _, _, _, s => k s
  | bound + 1, least, most, last, s =>
    let fewer := most.map (· - 1)
    match least with
    | least + 1 => step (repeatLazy step k bound least fewer last) s
    | 0 =>
      match k s with
      | some found => some found
      | none =>
        if most == some 0 || last == some s.position then none
        else step (repeatLazy step k bound 0 fewer (some s.position)) s

def repeatPossessive (step : Step) : Nat → Nat → Option Nat → Spot → Option Spot
  | 0, _, _, s => some s
  | bound + 1, least, most, s =>
    let fewer := most.map (· - 1)
    match least with
    | least + 1 =>
      match step some s with
      | some next => repeatPossessive step bound least fewer next
      | none => none
    | 0 =>
      if most == some 0 then some s
      else
        match step some s with
        | some next => if next.position == s.position then some next else repeatPossessive step bound 0 fewer next
        | none => some s

/-- The number of steps that a repetition can take from a spot: after the required ones each but the last takes a
character. -/
def stepBound (least : Nat) (s : Spot) : Nat := least + s.after.length + 2

def Expr.step : Expr → Step
  | .empty => fun k s => k s
  | .set negated items options => fun k s =>
    match s.advance? with
    | some (c, next) => if setContains negated items options c then k next else none
    | none => none
  | .any newline => fun k s =>
    match s.advance? with
    | some (c, next) => if newline || c != '\n' then k next else none
    | none => none
  | .place condition => fun k s => if condition.holds s then k s else none
  | .reference n options => fun k s =>
    match s.groups.lookup n with
    | some text => (takeText options text s).bind k
    | none => none
  | .seq a b => fun k s => a.step (b.step k) s
  | .alt a b => fun k s =>
    match a.step k s with
    | some found => some found
    | none => b.step k s
  | .group n body => fun k s =>
    body.step
      (fun t => k { t with groups := (n, (t.before.take (t.position - s.position)).reverse) :: t.groups }) s
  | .atomic body => fun k s => (body.step some s).bind k
  | .look negated body => fun k s =>
    match body.step some s, negated with
    | some found, false => k { s with groups := found.groups }
    | none, true => k s
    | _, _ => none
  | .lookBack negated width body => fun k s =>
    match (s.back? width).bind (body.step some), negated with
    | some found, false => k { s with groups := found.groups }
    | none, true => k s
    | _, _ => none
  | .whenMatched n yes no => fun k s => if (s.groups.lookup n).isSome then yes.step k s else no.step k s
  | .repeated .greedy least most body => fun k s =>
    repeatGreedy body.step k (stepBound least s) least most none s
  | .repeated .lazy least most body => fun k s =>
    repeatLazy body.step k (stepBound least s) least most none s
  | .repeated .possessive least most body => fun k s =>
    (repeatPossessive body.step (stepBound least s) least most s).bind k

structure Match where
  start : Nat
  stop : Nat
  groups : List (Nat × List Char)
deriving Repr

namespace Match

def group? (m : Match) (n : Nat) : Option (List Char) := m.groups.lookup n

end Match

def Expr.matchAt? (e : Expr) (s : Spot) : Option Match :=
  (e.step some s).map fun t => ⟨s.position, t.position, t.groups⟩

def Expr.searchFrom (e : Expr) : List Char → List Char → Nat → Option Match
  | before, [], position => e.matchAt? ⟨before, [], position, []⟩
  | before, c :: rest, position =>
    match e.matchAt? ⟨before, c :: rest, position, []⟩ with
    | some found => some found
    | none => e.searchFrom (c :: before) rest (position + 1)

def Expr.search (e : Expr) (text : List Char) : Option Match := e.searchFrom [] text 0

end EnvAudit.Pattern
