import EnvAudit.Pattern.Fault
import EnvAudit.Pattern.Syntax
import EnvAudit.Text.Blank
import EnvAudit.Text.Letter

/-! The reader of patterns. It goes through the pattern once, with one token of foresight; a backslash and the
character after it are one token. Every flaw is reported at its place, the first one from the left. -/
namespace EnvAudit.Pattern

abbrev Token := List Char

structure Source where
  length : Nat
  next : Option Token
  rest : List Char
  index : Nat
  options : Options
  unicode : Bool := false
  groups : Nat := 1
  names : List (List Char × Nat) := []
  widths : List (Nat × Width) := []
  behind : Option Nat := none
  conditions : List (Nat × Nat) := []

abbrev Reader := StateT Source (Except Fault)

namespace Source

def place (s : Source) : Nat := s.index - (s.next.getD []).length

def shift (s : Source) : Except Fault Source :=
  match s.rest with
  | [] => .ok { s with next := none }
  | ['\\'] => .error (.flawed .escapeAtEnd (some (s.length - 1)))
  | '\\' :: c :: rest => .ok { s with next := some ['\\', c], rest, index := s.index + 2 }
  | c :: rest => .ok { s with next := some [c], rest, index := s.index + 1 }

def isClosed (s : Source) (group : Nat) : Bool := (s.widths.lookup group).isSome

end Source

namespace Reader

def refuse {α : Type} (flaw : Flaw) (back : Nat) : Reader α := do
  throw (.flawed flaw (some ((← get).place - back)))

def peek : Reader (Option Token) := return (← get).next

def take : Reader (Option Token) := do
  let s ← get
  set (← s.shift)
  return s.next

def accept (c : Char) : Reader Bool := do
  if (← peek) == some [c] then
    let _ ← take
    return true
  else return false

def takeUpTo (among : Char → Bool) : Nat → Reader (List Char)
  | 0 => return []
  | n + 1 => do
    match ← peek with
    | some [c] =>
      if among c then
        let _ ← take
        return c :: (← takeUpTo among n)
      else return []
    | _ => return []

def takeName (closing : Char) (what : String) (name : List Char) : Nat → Reader (List Char)
  | 0 => refuse (.missing what) 0
  | bound + 1 => do
    match ← take with
    | none => if name.isEmpty then refuse (.missing what) 0 else refuse (.openName closing) name.length
    | some token =>
      if token == [closing] then
        if name.isEmpty then refuse (.missing what) 1 else return name
      else takeName closing what (name ++ token) bound

end Reader

open Reader

/-- The greatest count of a repetition, which stands for no bound. -/
def countLimit : Nat := 4294967295

def groupLimit : Nat := 1073741823

private def isOctal (c : Char) : Bool := '0' ≤ c && c ≤ '7'

private def isHex (c : Char) : Bool := (Text.hexValue? c).isSome

private def hexValue (digits : List Char) : Nat := Text.valueOf 16 (digits.filterMap Text.hexValue?)

private def octalValue (digits : List Char) : Nat := Text.valueOf 8 (digits.map fun c => c.toNat - 48)

private def decimalValue (digits : List Char) : Nat := Text.valueOf 10 (digits.filterMap Text.digitValue?)

def isGroupName : List Char → Bool
  | [] => false
  | c :: rest => (c == '_' || (Text.isAlphanumeric c && !Text.isDigit c)) && rest.all Text.isWordChar

/-- The number that a text writes: digits of any script with single underscores between them, an optional plus
sign, and blanks around it. A text with too many digits writes none. -/
def groupNumber? (text : List Char) : Option Nat :=
  let body := Text.trim text
  let body := if body.head? == some '+' then body.drop 1 else body
  let parts := Text.pieces '_' body
  let digits := parts.flatten
  if parts.all (fun part => !part.isEmpty && part.all Text.isDigit) && digits.length ≤ Text.digitLimit then
    some (decimalValue digits)
  else none

def controlEscape? : Char → Option Nat
  | 'a' => some 7
  | 'b' => some 8
  | 'f' => some 12
  | 'n' => some 10
  | 'r' => some 13
  | 't' => some 9
  | 'v' => some 11
  | '\\' => some 92
  | _ => none

def categoryEscape? : Char → Option SetItem
  | 'd' => some (.category .digit false)
  | 'D' => some (.category .digit true)
  | 's' => some (.category .space false)
  | 'S' => some (.category .space true)
  | 'w' => some (.category .word false)
  | 'W' => some (.category .word true)
  | _ => none

def placeEscape? (ascii : Bool) : Char → Option Place
  | 'A' => some .start
  | 'b' => some (.boundary ascii)
  | 'B' => some (.noBoundary ascii)
  | 'Z' => some .textEnding
  | _ => none

def readCode (escape : Token) (digits : Nat) : Reader Nat := do
  let found ← takeUpTo isHex digits
  let escape := escape ++ found
  if found.length != digits then refuse (.incompleteEscape escape) escape.length
  else if digits == 8 && 0x10ffff < hexValue found then refuse (.badEscape escape) escape.length
  else return hexValue found

/-- An escape that names its character. The reader knows no names. -/
def readCharacterName : Reader Nat := do
  if !(← accept '\x7b') then refuse (.missing "\x7b") 0
  let name ← takeName '\x7d' "character name" [] ((← get).rest.length + 2)
  refuse (.unknownCharacterName name) (name.length + 4)

def readSharedEscape (escape : Token) (c : Char) : Reader Nat := do
  if c == 'x' then readCode escape 2
  else if c == 'u' then readCode escape 4
  else if c == 'U' then readCode escape 8
  else if c == 'N' then readCharacterName
  else if Text.isLatin c || Text.isArabic c then refuse (.badEscape escape) escape.length
  else return c.toNat

def readSetEscape (escape : Token) : Reader SetItem := do
  let c := (escape.drop 1).headD '\\'
  match controlEscape? c, categoryEscape? c with
  | some code, _ => return .char code
  | none, some item => return item
  | none, none =>
    if isOctal c then
      let escape := escape ++ (← takeUpTo isOctal 2)
      let code := octalValue (escape.drop 1)
      if 0o377 < code then refuse (.octalTooLarge escape) escape.length else return .char code
    else return .char (← readSharedEscape escape c)

def charExpr (code : Nat) (options : Options) : Expr := .set false [.char code] options

def readReference (escape : Token) (options : Options) : Reader Expr := do
  let s ← get
  let group := decimalValue (escape.drop 1)
  if s.groups ≤ group then refuse (.noSuchGroup group) (escape.length - 1)
  if !s.isClosed group then refuse .openGroupReference escape.length
  match s.behind with
  | some first => if first ≤ group then refuse .lookBehindReference 0
  | none => pure ()
  return .reference group options

/-- An escape outside of sets. Digits are a character when they start with zero or are three octal digits, else the
number of a group. -/
def readEscape (escape : Token) (options : Options) : Reader Expr := do
  let c := (escape.drop 1).headD '\\'
  match categoryEscape? c, placeEscape? options.ascii c, controlEscape? c with
  | some item, _, _ => return .set false [item] options
  | none, some place, _ => return .place place
  | none, none, some code => return charExpr code options
  | none, none, none =>
    if c == '0' then
      let escape := escape ++ (← takeUpTo isOctal 2)
      return charExpr (octalValue (escape.drop 1)) options
    else if Text.isArabic c then
      let escape := escape ++ (← takeUpTo Text.isArabic 1)
      let octal := escape.length == 3 && (escape.drop 1).all isOctal
      let third ← if octal then takeUpTo isOctal 1 else pure []
      if third.isEmpty then readReference escape options
      else
        let escape := escape ++ third
        let code := octalValue (escape.drop 1)
        if 0o377 < code then refuse (.octalTooLarge escape) escape.length else return charExpr code options
    else return charExpr (← readSharedEscape escape c) options

def readMember (token : Token) : Reader SetItem := do
  match token with
  | ['\\', _] => readSetEscape token
  | c :: _ => return .char c.toNat
  | [] => return .char 0

def readMembers (opening : Nat) (members : List SetItem) : Nat → Reader (List SetItem)
  | 0 => do refuse .openSet ((← get).place - opening)
  | bound + 1 => do
    match ← take with
    | none => refuse .openSet ((← get).place - opening)
    | some this =>
      if this == [']'] && !members.isEmpty then return members
      else
        let first ← readMember this
        if !(← accept '-') then readMembers opening (members ++ [first]) bound
        else
          match ← take with
          | none => refuse .openSet ((← get).place - opening)
          | some that =>
            if that == [']'] then return members ++ [first, .char '-'.toNat]
            else
              match first, ← readMember that with
              | .char lo, .char hi =>
                if hi < lo then refuse (.badRange this that) (this.length + 1 + that.length)
                else readMembers opening (members ++ [.range lo hi]) bound
              | _, _ => refuse (.badRange this that) (this.length + 1 + that.length)

def readSet (options : Options) : Reader Expr := do
  let opening := (← get).place - 1
  let negated ← accept '^'
  let members ← readMembers opening [] ((← get).rest.length + 2)
  return .set negated members options

def countOf (digits : List Char) : Reader Nat := do
  if Text.digitLimit < digits.length then throw (.longNumber digits.length)
  let count := decimalValue digits
  if countLimit ≤ count then throw .repetitionTooLarge
  return count

/-- The bounds of a repetition after its opening brace, or nothing when the brace is a plain character. -/
def readBounds : Reader (Option (Nat × Option Nat)) := do
  if (← peek) == some ['\x7d'] then return none
  let before ← get
  let here := before.place
  let lo ← takeUpTo Text.isArabic (before.rest.length + 1)
  let comma ← accept ','
  let hi ← if comma then takeUpTo Text.isArabic (before.rest.length + 1) else pure lo
  if !(← accept '\x7d') then
    set before
    return none
  else
    let least ← countOf lo
    let most ← if hi.isEmpty then pure none else some <$> countOf hi
    match most with
    | some n => if n < least then refuse .repetitionOrder ((← get).place - here)
    | none => pure ()
    return some (least, most)

/-- Whether an expression may be repeated: a place may not, and a repetition may not be repeated directly. -/
inductive Repeatable
  | plain
  | place
  | repetition
deriving DecidableEq

def readEagerness : Reader Eagerness := do
  if ← accept '?' then return .lazy
  if ← accept '+' then return .possessive
  return .greedy

def repeatLast (token : Token) (here : Nat) (least : Nat) (most : Option Nat) (done : List (Expr × Repeatable)) :
    Reader (List (Expr × Repeatable)) := do
  match done with
  | [] => refuse .nothingToRepeat ((← get).place - here + token.length)
  | (_, .place) :: _ => refuse .nothingToRepeat ((← get).place - here + token.length)
  | (_, .repetition) :: _ => refuse .repeatedRepetition ((← get).place - here + token.length)
  | (body, .plain) :: others =>
    return (.repeated (← readEagerness) least most body, .repetition) :: others

/-- The options that a letter stands for: the letter `u` and the letter `t` change nothing by themselves. -/
def isOptionLetter (c : Char) : Bool := "iLmsxatu".toList.contains c

private def withOption (value : Bool) (c : Char) (options : Options) : Options :=
  match c with
  | 'i' => { options with ignoreCase := value }
  | 'm' => { options with multiLine := value }
  | 's' => { options with dotAll := value }
  | 'x' => { options with verbose := value }
  | 'a' => { options with ascii := value }
  | 'u' => { options with ascii := !value }
  | _ => options

def readOptionsOn (on : List Char) (c : Char) : Nat → Reader (List Char × Char)
  | 0 => refuse (.missing "-, : or )") 0
  | bound + 1 => do
    if c == 'L' then refuse .localeOption 0
    let on := on ++ [c]
    if (c == 'a' || c == 'u') && on.contains 'a' && on.contains 'u' then refuse .clashingOptions 0
    match ← take with
    | none => refuse (.missing "-, : or )") 0
    | some [d] =>
      if d == ')' || d == '-' || d == ':' then return (on, d)
      else if isOptionLetter d then readOptionsOn on d bound
      else if Text.isAlphanumeric d && !Text.isDigit d then refuse .unknownOption 1
      else refuse (.missing "-, : or )") 1
    | some token => refuse (.missing "-, : or )") token.length

def readOptionsOff (off : List Char) (c : Char) : Nat → Reader (List Char)
  | 0 => refuse (.missing ":") 0
  | bound + 1 => do
    if c == 'a' || c == 'u' || c == 'L' then refuse .modeOptionOff 0
    let off := off ++ [c]
    match ← take with
    | none => refuse (.missing ":") 0
    | some [d] =>
      if d == ':' then return off
      else if isOptionLetter d then readOptionsOff off d bound
      else if Text.isAlphanumeric d && !Text.isDigit d then refuse .unknownOption 1
      else refuse (.missing ":") 1
    | some token => refuse (.missing ":") token.length

/-- Option letters after `(?`: for the whole pattern when a parenthesis follows, else the letters turned on and off
for the group. -/
def readOptions (c : Char) : Reader (Option (List Char × List Char)) := do
  let bound := (← get).rest.length + 2
  let (on, after) ← if c == '-' then pure ([], '-') else readOptionsOn [] c bound
  if after == ')' then
    modify fun s => { s with
      options := on.foldl (fun o l => if l == 'u' then o else withOption true l o) s.options
      unicode := s.unicode || on.contains 'u' }
    return none
  else
    if on.contains 't' then refuse .globalOptionOn 1
    if after != '-' then return some (on, [])
    else
      match ← take with
      | none => refuse (.missing "flag") 0
      | some [d] =>
        if isOptionLetter d then
          let off ← readOptionsOff [] d bound
          if off.contains 't' then refuse .globalOptionOff 1
          if on.any off.contains then refuse .optionOnAndOff 1
          return some (on, off)
        else if Text.isAlphanumeric d && !Text.isDigit d then refuse .unknownOption 1
        else refuse (.missing "flag") 1
      | some token => refuse (.missing "flag") token.length

def skipComment (opening : Nat) : Nat → Reader Unit
  | 0 => pure ()
  | bound + 1 => do
    if (← peek).isNone then refuse .openComment ((← get).place - opening)
    else if (← take) == some [')'] then pure () else skipComment opening bound

def skipLine : Nat → Reader Unit
  | 0 => pure ()
  | bound + 1 => do
    match ← take with
    | none => pure ()
    | some token => if token == ['\n'] then pure () else skipLine bound

def openGroup (name : Option (List Char)) : Reader Nat := do
  let s ← get
  let group := s.groups
  match name with
  | none => set { s with groups := group + 1 }
  | some name =>
    match s.names.lookup name with
    | some earlier => refuse (.repeatedGroupName name group earlier) (name.length + 1)
    | none => set { s with groups := group + 1, names := (name, group) :: s.names }
  return group

def readConditionGroup : Reader Nat := do
  let name ← takeName ')' "group name" [] ((← get).rest.length + 2)
  let s ← get
  let group ←
    if isGroupName name then
      match s.names.lookup name with
      | some group => pure group
      | none => refuse (.unknownGroupName name) (name.length + 1)
    else
      match groupNumber? name with
      | none => refuse (.badGroupName name) (name.length + 1)
      | some 0 => refuse .groupZero (name.length + 1)
      | some group =>
        if groupLimit ≤ group then refuse (.noSuchGroup group) (name.length + 1)
        else
          if (s.conditions.lookup group).isNone then
            set { s with conditions := s.conditions ++ [(group, s.place - name.length - 1)] }
          pure group
  match (← get).behind with
  | some first =>
    if !(← get).isClosed group then refuse .openGroupReference 0
    if first ≤ group then refuse .lookBehindReference 0
  | none => pure ()
  return group

def readNamedReference (options : Options) : Reader Expr := do
  let name ← takeName ')' "group name" [] ((← get).rest.length + 2)
  if !isGroupName name then refuse (.badGroupName name) (name.length + 1)
  let s ← get
  match s.names.lookup name with
  | none => refuse (.unknownGroupName name) (name.length + 1)
  | some group =>
    if !s.isClosed group then refuse .openGroupReference (name.length + 1)
    match s.behind with
    | some first => if first ≤ group then refuse .lookBehindReference 0
    | none => pure ()
    return .reference group options

def closeGroup (opening : Nat) : Reader Unit := do
  if !(← accept ')') then refuse .openGroup ((← get).place - opening)

def behindLimit : Nat := 4294967295

def nestingLimit : Nat := 970

def descend (levels depth : Nat) : Reader Nat := do
  if depth < levels then throw .nestingTooDeep
  return depth - levels

inductive GroupKind
  | capture (name : Option (List Char))
  | plain
  | atomic
  | scoped (on off : List Char)
  | comment
  | globalOptions
  | reference (expr : Expr)
  | look (negated behind : Bool)
  | condition (group : Nat)

def readGroupKind (opening : Nat) (options : Options) : Reader GroupKind := do
  if !(← accept '?') then return .capture none
  else
    match ← take with
    | none => refuse .patternEnd 0
    | some ['P'] =>
      if ← accept '<' then
        let name ← takeName '>' "group name" [] ((← get).rest.length + 2)
        if !isGroupName name then refuse (.badGroupName name) (name.length + 1)
        return .capture (some name)
      else if ← accept '=' then return .reference (← readNamedReference options)
      else
        match ← take with
        | none => refuse .patternEnd 0
        | some token => refuse (.unknownExtension ('P' :: token)) (token.length + 2)
    | some [':'] => return .plain
    | some ['#'] =>
      skipComment opening ((← get).rest.length + 3)
      return .comment
    | some ['='] => return .look false false
    | some ['!'] => return .look true false
    | some ['<'] =>
      match ← take with
      | none => refuse .patternEnd 0
      | some ['='] => return .look false true
      | some ['!'] => return .look true true
      | some token => refuse (.unknownExtension ('<' :: token)) (token.length + 2)
    | some ['('] => return .condition (← readConditionGroup)
    | some ['>'] => return .atomic
    | some token =>
      match token with
      | [c] =>
        if isOptionLetter c || c == '-' then
          match ← readOptions c with
          | none => return .globalOptions
          | some (on, off) => return .scoped on off
        else refuse (.unknownExtension token) (token.length + 1)
      | _ => refuse (.unknownExtension token) (token.length + 1)

def scopedOptions (on off : List Char) (options : Options) : Options :=
  off.foldl (fun o l => withOption false l o) (on.foldl (fun o l => withOption true l o) options)

mutual

/-- The alternatives of a group, or of the whole pattern when no options are given from outside, with so many levels
left below them. -/
def readAlternatives (scope : Option Options) (first : Bool) (depth : Nat) : Nat → Reader Expr
  | 0 => refuse .patternEnd 0
  | bound + 1 => do
    let item ← readSequence scope (first && scope.isNone) depth [] bound
    if ← accept '|' then return .alt item (← readAlternatives scope false depth bound) else return item

def readSequence (scope : Option Options) (first : Bool) (depth : Nat) (done : List (Expr × Repeatable)) :
    Nat → Reader Expr
  | 0 => refuse .patternEnd 0
  | bound + 1 => do
    let whole := Expr.sequence (done.reverse.map (·.1))
    match ← peek with
    | none => return whole
    | some this =>
      if this == ['|'] || this == [')'] then return whole
      else
        let _ ← take
        let options := scope.getD (← get).options
        let add := fun (e : Expr) => readSequence scope first depth ((e, .plain) :: done) bound
        let quantify := fun (here : Nat) (least : Nat) (most : Option Nat) => do
          readSequence scope first depth (← repeatLast this here least most done) bound
        match this with
        | [c] =>
          match c with
          | '[' => add (← readSet options)
          | '?' => quantify (← get).place 0 (some 1)
          | '*' => quantify (← get).place 0 none
          | '+' => quantify (← get).place 1 none
          | '\x7b' =>
            let here := (← get).place
            match ← readBounds with
            | none => add (charExpr '\x7b'.toNat options)
            | some (least, most) => quantify here least most
          | '.' => add (.any options.dotAll)
          | '(' => readGroup scope first depth done bound
          | '^' =>
            readSequence scope first depth
              ((.place (if options.multiLine then .lineStart else .start), .place) :: done) bound
          | '$' =>
            readSequence scope first depth
              ((.place (if options.multiLine then .lineEnding else .ending), .place) :: done) bound
          | c =>
            if options.verbose && (c == ' ' || (9 ≤ c.toNat && c.toNat ≤ 13)) then
              readSequence scope first depth done bound
            else if options.verbose && c == '#' then
              skipLine ((← get).rest.length + 2)
              readSequence scope first depth done bound
            else add (charExpr c.toNat options)
        | _ =>
          let e ← readEscape this options
          let kind := match e with
            | .place _ => Repeatable.place
            | _ => Repeatable.plain
          readSequence scope first depth ((e, kind) :: done) bound

def readGroup (scope : Option Options) (first : Bool) (depth : Nat) (done : List (Expr × Repeatable)) :
    Nat → Reader Expr
  | 0 => refuse .patternEnd 0
  | bound + 1 => do
    let opening := (← get).place - 1
    let options := scope.getD (← get).options
    let add := fun (e : Expr) => readSequence scope first depth ((e, .plain) :: done) bound
    match ← readGroupKind opening options with
    | .comment => readSequence scope first depth done bound
    | .globalOptions =>
      if !first || !done.isEmpty then refuse .lateOptions ((← get).place - opening)
      else readSequence scope first depth done bound
    | .reference e => add e
    | .look negated false =>
      let body ← readAlternatives (some options) false (← descend 2 depth) bound
      closeGroup opening
      add (.look negated body)
    | .look negated true =>
      let outer := (← get).behind
      modify fun s => { s with behind := some (outer.getD s.groups) }
      let body ← readAlternatives (some options) false (← descend 2 depth) bound
      modify fun s => { s with behind := outer }
      closeGroup opening
      let widths := (← get).widths
      let width := body.width fun n => (widths.lookup n).getD default
      add (.lookBack negated width.least body)
    | .condition group =>
      let inner ← descend 1 depth
      let yes ← readSequence (some options) false inner [] bound
      let no ← if ← accept '|' then do
          let no ← readSequence (some options) false inner [] bound
          if (← peek) == some ['|'] then refuse .manyBranches 0
          pure no
        else pure Expr.empty
      closeGroup opening
      add (.whenMatched group yes no)
    | .capture name =>
      let group ← openGroup name
      let body ← readAlternatives (some options) false (← descend 2 depth) bound
      closeGroup opening
      modify fun s => { s with widths := (group, body.width fun n => (s.widths.lookup n).getD default) :: s.widths }
      add (.group group body)
    | .atomic =>
      let body ← readAlternatives (some options) false (← descend 2 depth) bound
      closeGroup opening
      add (.atomic body)
    | .plain =>
      let body ← readAlternatives (some options) false (← descend 2 depth) bound
      closeGroup opening
      add body
    | .scoped on off =>
      let body ← readAlternatives (some (scopedOptions on off options)) false (← descend 2 depth) bound
      closeGroup opening
      add body

end

namespace Expr

/-- The first flaw in the widths of the parts that look behind, from the left. -/
def widthFlaw? (groups : Nat → Width) : Expr → Option Flaw
  | .seq a b => a.widthFlaw? groups <|> b.widthFlaw? groups
  | .alt a b => a.widthFlaw? groups <|> b.widthFlaw? groups
  | .group _ body => body.widthFlaw? groups
  | .atomic body => body.widthFlaw? groups
  | .look _ body => body.widthFlaw? groups
  | .lookBack _ _ body =>
    let width := body.width groups
    if behindLimit < width.least then some .lookBehindTooFar
    else if width.most != some width.least then some .lookBehindWidth
    else body.widthFlaw? groups
  | .whenMatched _ yes no => yes.widthFlaw? groups <|> no.widthFlaw? groups
  | .repeated _ _ _ body => body.widthFlaw? groups
  | _ => none

end Expr

def parse (text : List Char) (options : Options) : Except Fault Expr := do
  let source ← Source.shift { length := text.length, next := none, rest := text, index := 0, options }
  let (expr, source) ← (readAlternatives none true nestingLimit (3 * text.length + 8)).run source
  if source.unicode && source.options.ascii then throw .clashingModes
  if source.next.isSome then throw (.flawed .unbalanced (some source.place))
  match source.conditions.find? fun (group, _) => source.groups ≤ group with
  | some (group, position) => throw (.flawed (.noSuchGroup group) (some position))
  | none => pure ()
  match expr.widthFlaw? fun n => (source.widths.lookup n).getD default with
  | some flaw => throw (.flawed flaw none)
  | none => return expr

end EnvAudit.Pattern
