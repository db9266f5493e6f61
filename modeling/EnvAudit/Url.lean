import EnvAudit.Text.Blank
import EnvAudit.Url.Address

/-! Absolute URLs: a scheme, and for schemes of the web a host. -/
namespace EnvAudit.Url

structure Parts where
  scheme : List Char
  authority : List Char
deriving Repr, DecidableEq

def isSchemeChar (c : Char) : Bool := Text.isLatin c || Text.isArabic c || c == '+' || c == '-' || c == '.'

def cutScheme (text : List Char) : List Char × List Char :=
  match Text.cut? ':' text with
  | some (scheme, rest) => if !scheme.isEmpty && scheme.all isSchemeChar then (scheme, rest) else ([], text)
  | none => ([], text)

def disguisedDelimiters : List Nat := [
  0x2047, 0x2048, 0x2049, 0x2100, 0x2101, 0x2105, 0x2106, 0x2a74, 0xfe13, 0xfe16, 0xfe55, 0xfe56, 0xfe5f,
  0xfe6b, 0xff03, 0xff0f, 0xff1a, 0xff1f, 0xff20]

def hasSoundBrackets (authority : List Char) : Bool :=
  match Text.cut? '[' authority with
  | some (_, rest) => authority.contains ']' && isBracketable (rest.takeWhile (· != ']'))
  | none => !authority.contains ']'

/-- Whether an authority can be told apart from the text around it: its brackets are sound, and no character turns
into a delimiter. -/
def isSound (authority : List Char) : Bool :=
  hasSoundBrackets authority && !authority.any fun c => disguisedDelimiters.contains c.toNat

def split? (text : List Char) : Option Parts :=
  let (scheme, rest) := cutScheme text
  let authority := match rest with
    | '/' :: '/' :: rest => rest.takeWhile fun c => c != '/' && c != '?' && c != '#'
    | _ => []
  if isSound authority then some ⟨scheme, authority⟩ else none

def host (authority : List Char) : List Char :=
  let location := (authority.reverse.takeWhile (· != '@')).reverse
  match Text.cut? '[' location with
  | some (_, bracketed) => bracketed.takeWhile (· != ']')
  | none => location.takeWhile (· != ':')

def hostSchemes : List String := ["http", "https", "ftp", "ws", "wss"]

private def lowerLatin (c : Char) : Char := if 'A' ≤ c && c ≤ 'Z' then Char.ofNat (c.toNat + 32) else c

def isAbsolute (text : List Char) : Bool :=
  !text.isEmpty && !text.any Text.isBlank &&
    match split? (text.dropWhile fun c => c.toNat ≤ 0x20) with
    | none => false
    | some parts =>
      (parts.scheme.head?.map Text.isLatin).getD false
        && (!hostSchemes.contains (String.ofList (parts.scheme.map lowerLatin)) || !(host parts.authority).isEmpty)

end EnvAudit.Url
