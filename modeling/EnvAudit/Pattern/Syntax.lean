import EnvAudit.Text.Basic

/-! Search patterns. A pattern is built from characters, character sets, places, groups, repetitions and
alternatives; every leaf carries the options that apply to it. -/
namespace EnvAudit.Pattern

structure Options where
  ignoreCase : Bool := false
  multiLine : Bool := false
  dotAll : Bool := false
  verbose : Bool := false
  ascii : Bool := false
deriving Repr, DecidableEq, Inhabited

inductive Category
  | digit
  | space
  | word
deriving Repr, DecidableEq

inductive SetItem
  | char (code : Nat)
  | range (first last : Nat)
  | category (category : Category) (negated : Bool)
deriving Repr, DecidableEq

inductive Place
  | start
  | lineStart
  | ending
  | lineEnding
  | textEnding
  | boundary (ascii : Bool)
  | noBoundary (ascii : Bool)
deriving Repr, DecidableEq

/-- How a repetition chooses its length: as long as possible, as short as possible, or as long as possible without
ever giving anything back. -/
inductive Eagerness
  | greedy
  | lazy
  | possessive
deriving Repr, DecidableEq

inductive Expr
  | empty
  | set (negated : Bool) (items : List SetItem) (options : Options)
  | any (newline : Bool)
  | place (place : Place)
  | reference (group : Nat) (options : Options)
  | seq (first second : Expr)
  | alt (first second : Expr)
  | group (index : Nat) (body : Expr)
  | atomic (body : Expr)
  | look (negated : Bool) (body : Expr)
  | lookBack (negated : Bool) (width : Nat) (body : Expr)
  | whenMatched (group : Nat) (yes no : Expr)
  | repeated (eagerness : Eagerness) (least : Nat) (most : Option Nat) (body : Expr)
deriving Repr, DecidableEq, Inhabited

namespace Expr

def sequence : List Expr → Expr
  | [] => .empty
  | [last] => last
  | first :: second :: rest => .seq first (sequence (second :: rest))

def choice : List Expr → Expr
  | [] => .empty
  | [last] => last
  | first :: second :: rest => .alt first (choice (second :: rest))

end Expr

/-- The least and the greatest length of a match; the greatest may be unbounded. -/
structure Width where
  least : Nat
  most : Option Nat
deriving Repr, DecidableEq, Inhabited

namespace Width

def add (a b : Width) : Width :=
  ⟨a.least + b.least, do return (← a.most) + (← b.most)⟩

def join (a b : Width) : Width :=
  ⟨min a.least b.least, do return max (← a.most) (← b.most)⟩

def times (w : Width) (least : Nat) (most : Option Nat) : Width :=
  ⟨w.least * least,
    match w.most, most with
    | some 0, _ => some 0
    | some m, some n => some (m * n)
    | _, some 0 => some 0
    | _, _ => none⟩

end Width

namespace Expr

def width (groups : Nat → Width) : Expr → Width
  | .empty => ⟨0, some 0⟩
  | .set .. => ⟨1, some 1⟩
  | .any _ => ⟨1, some 1⟩
  | .place _ => ⟨0, some 0⟩
  | .reference n _ => groups n
  | .seq a b => (a.width groups).add (b.width groups)
  | .alt a b => (a.width groups).join (b.width groups)
  | .group _ body => body.width groups
  | .atomic body => body.width groups
  | .look .. => ⟨0, some 0⟩
  | .lookBack .. => ⟨0, some 0⟩
  | .whenMatched _ yes no => (yes.width groups).join (no.width groups)
  | .repeated _ least most body => (body.width groups).times least most

end Expr
end EnvAudit.Pattern
