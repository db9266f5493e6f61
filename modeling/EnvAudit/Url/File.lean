import EnvAudit.Path
import EnvAudit.Text.Utf8
import EnvAudit.Url

/-! Percent encoding. Every byte that may not stand in a path by itself is written as a percent sign and two
hexadecimal digits. Reading such bytes back is lenient: a percent sign without two digits stands for itself. -/
namespace EnvAudit.Url

def isPathByte (b : Nat) : Bool :=
  b < 128 && (Text.isLatin (Char.ofNat b) || Text.isArabic (Char.ofNat b) || "-._~/".toList.contains (Char.ofNat b))

private def upperHex (n : Nat) : Char := Char.ofNat (if n < 10 then 48 + n else 55 + n)

def encodeByte (b : Nat) : List Char :=
  if isPathByte b then [Char.ofNat b] else ['%', upperHex (b / 16), upperHex (b % 16)]

def encodePath (path : List Char) : List Char := (Text.encodeUtf8 path).flatMap encodeByte

def hexByte? (high low : Char) : Option Nat := do return (← Text.hexValue? high) * 16 + (← Text.hexValue? low)

/-- Reads a written path on, after bytes that have been read. A character outside ASCII ends a sequence of bytes. -/
def decodeFrom (bytes : List Nat) : List Char → List Char
  | [] => Text.decodeUtf8Lossy bytes
  | '%' :: high :: low :: rest =>
    match hexByte? high low with
    | some b => decodeFrom (bytes ++ [b]) rest
    | none => decodeFrom (bytes ++ [0x25]) (high :: low :: rest)
  | c :: rest =>
    if c.toNat < 128 then decodeFrom (bytes ++ [c.toNat]) rest
    else Text.decodeUtf8Lossy bytes ++ c :: decodeFrom [] rest
termination_by text => text.length

def decodePath (written : List Char) : List Char := decodeFrom [] written

/-! The URLs of files. -/

def writtenPath (text : List Char) : List Char :=
  let (_, rest) := cutScheme (text.dropWhile fun c => c.toNat ≤ 0x20)
  let rest := match rest with
    | '/' :: '/' :: rest => rest.dropWhile fun c => c != '/' && c != '?' && c != '#'
    | other => other
  rest.takeWhile fun c => c != '?' && c != '#'

def pathText (url : String) : String := String.ofList (decodePath (writtenPath url.toList))

def file (url : String) : Path := .ofString (pathText url)

def ofFile (file : Path) : String := "file://" ++ String.ofList (encodePath file.text.toList)

end EnvAudit.Url
