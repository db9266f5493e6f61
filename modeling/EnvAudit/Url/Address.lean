import EnvAudit.Text.Basic
import EnvAudit.Text.Digit

/-! The addresses that can stand in the brackets of a host: eight groups of hexadecimal digits, of which a run of
zeros may be left out once, or an address of a later kind. -/
namespace EnvAudit.Url

def isOctet (text : List Char) : Bool :=
  !text.isEmpty && text.length ≤ 3 && text.all Text.isArabic && (text == ['0'] || text.head? != some '0')
    && Text.valueOf 10 (text.map fun c => c.toNat - 48) ≤ 255

def isDotted (text : List Char) : Bool :=
  let parts := Text.pieces '.' text
  parts.length == 4 && parts.all isOctet

def isGroup (text : List Char) : Bool :=
  !text.isEmpty && text.length ≤ 4 && text.all fun c => (Text.hexValue? c).isSome

def groups? (text : List Char) : Option (List (List Char)) :=
  let parts := Text.pieces ':' text
  let last := parts.getLast?.getD []
  if parts.length < 3 then none
  else if last.contains '.' then
    if isDotted last then some (parts.dropLast ++ [['0'], ['0']]) else none
  else some parts

def isSide (groups : List (List Char)) : Bool := groups == [[]] || groups.all isGroup

def isComplete (groups : List (List Char)) : Bool :=
  let inner := groups.dropLast.drop 1
  match inner.count [] with
  | 0 => groups.length == 8 && groups.all isGroup
  | 1 =>
    let before := groups.take (1 + (inner.takeWhile (· != [])).length)
    let after := groups.drop (before.length + 1)
    let written := (before ++ after).countP (· != [])
    groups.length ≤ 9 && isSide before && isSide after && written < 8
  | _ => false

def isGrouped (text : List Char) : Bool :=
  match Text.cut? '%' text with
  | some (address, zone) => !zone.isEmpty && !zone.contains '%' && ((groups? address).map isComplete).getD false
  | none => ((groups? text).map isComplete).getD false

def isLater (text : List Char) : Bool :=
  match Text.cut? '.' text with
  | some ('v' :: version, rest) =>
    !version.isEmpty && version.all (fun c => (Text.hexValue? c).isSome) && !rest.isEmpty && !rest.contains '\n'
  | _ => false

def isBracketable (text : List Char) : Bool := if text.head? == some 'v' then isLater text else isGrouped text

end EnvAudit.Url
