import EnvAudit.CommandLine.Word
import EnvAudit.Text.Blank

/-! Reading the words of a command line by a form. Switches and the words beside them may come in any order. The first
word that is not a value goes to its role; what no role is left for is kept apart. -/
namespace EnvAudit.CommandLine

/-- What has been read: the values of every switch in the order of their coming, the words of the role, and the words
that nothing is known about. -/
structure Seen where
  values : List (String × List String) := []
  taken : Option (List String) := none
  unknown : List String := []
deriving Repr, DecidableEq

namespace Seen

def has (seen : Seen) (key : String) : Bool := seen.values.any (·.1 == key)

def all (seen : Seen) (key : String) : List String :=
  ((seen.values.reverse.find? (·.1 == key)).map (·.2)).getD []

def value? (seen : Seen) (key : String) : Option String := (seen.all key).head?

end Seen

/-- Several short switches in one word; only the last of them can have a value. -/
structure Bundle where
  earlier : List Switch
  last : Switch
  value : Option String
deriving Repr, DecidableEq

/-- Takes the text after a short switch for its value, or else for more short switches. -/
def unbundle (form : Form) (switch : Switch) : List Char → Except Misuse Bundle
  | [] => .ok ⟨[], switch, none⟩
  | c :: rest =>
    if switch.arity != .none then .ok ⟨[], switch, some (String.ofList (c :: rest))⟩
    else
      match form.switch? (String.ofList ['-', c]) with
      | some next => (unbundle form next rest).map fun b => { b with earlier := switch :: b.earlier }
      | none => .error (.unwantedValue switch (String.ofList (c :: rest)))

def Mention.bundle (form : Form) (mention : Mention) : Except Misuse Bundle :=
  match mention.value with
  | none => .ok ⟨[], mention.switch, none⟩
  | some value =>
    if !Word.isLong mention.name && value != "" then unbundle form mention.switch value.toList
    else if mention.switch.arity != .none then .ok ⟨[], mention.switch, some value⟩
    else .error (.unwantedValue mention.switch value)

/-- The values of a switch, from its own word or from those that follow it, and the words that are left. -/
def valuesOf (switch : Switch) (value : Option String) (rest : List Word) :
    Except Misuse { found : List String × List Word // found.2.length ≤ rest.length } :=
  match value, switch.arity with
  | some value, _ => .ok ⟨([value], rest), Nat.le_refl _⟩
  | none, .none => .ok ⟨([], rest), Nat.le_refl _⟩
  | none, .one =>
    match rest with
    | .plain value :: after => .ok ⟨([value], after), by simp⟩
    | _ => .error (.missingValue switch)
  | none, .many =>
    if rest.head?.any Word.isPlain then
      .ok ⟨((rest.takeWhile Word.isPlain).map Word.text, rest.dropWhile Word.isPlain),
        (List.dropWhile_sublist _).length_le⟩
    else .error (.missingValue switch)

def isDigits : List Char → Bool
  | [] => false
  | [c] => Text.isDigit c
  | c :: '_' :: rest => Text.isDigit c && isDigits rest
  | c :: rest => Text.isDigit c && isDigits rest

/-- Whether a text is a whole number, which may have a sign and blanks around it, of at most 4300 digits. -/
def isWholeNumber (text : String) : Bool :=
  let trimmed := Text.trim text.toList
  let digits := match trimmed with
    | '-' :: rest | '+' :: rest => rest
    | other => other
  isDigits digits && (digits.filter (· != '_')).length ≤ 4300

def faultOf? (switch : Switch) (values : List String) : Option Misuse :=
  match values.find? fun value => switch.isNumber && !isWholeNumber value with
  | some value => some (.notNumber switch value)
  | none =>
    (values.find? fun value => !switch.choices.isEmpty && !switch.choices.contains value).map
      fun value => .notChoice switch.label value switch.choices

def Seen.add (form : Form) (seen : Seen) (found : Switch × List String) : Except Stop Seen :=
  let (switch, values) := found
  match switch.effect with
  | .help => .error (.help form)
  | .version => .error .version
  | .setting =>
    let values := values.erase "--"
    match faultOf? switch values with
    | some fault => .error (.misuse form fault)
    | none => .ok { seen with values := seen.values ++ [(switch.key, values)] }

def Seen.takeCommand (form : Form) (names : List String) (seen : Seen) (words : List String) : Except Stop Seen :=
  match words with
  | [] => .ok seen
  | name :: _ =>
    if names.contains name then .ok { seen with taken := some words }
    else .error (.misuse form (.notChoice "command" name names))

def dropSeparator : List Word → List Word
  | .separator :: rest => rest
  | words => words

theorem dropSeparator_length_le (words : List Word) : (dropSeparator words).length ≤ words.length := by
  unfold dropSeparator
  split <;> simp

def readWords (form : Form) (seen : Seen) (words : List Word) : Except Stop Seen :=
  match words with
  | [] => .ok seen
  | .unknown text :: rest => readWords form { seen with unknown := seen.unknown ++ [text] } rest
  | .mention mention :: rest =>
    match mention.bundle form with
    | .error fault => .error (.misuse form fault)
    | .ok bundle =>
      match valuesOf bundle.last bundle.value rest with
      | .error fault => .error (.misuse form fault)
      | .ok ⟨(values, after), _shorter⟩ =>
        match (bundle.earlier.map (·, []) ++ [(bundle.last, values)]).foldlM (Seen.add form) seen with
        | .error stop => .error stop
        | .ok seen => readWords form seen after
  | .separator :: rest =>
    if seen.taken.isSome || rest.isEmpty && form.role != .directory || form.role == .nothing then
      readWords form { seen with unknown := seen.unknown ++ ["--"] } rest
    else
      match form.role with
      | .command names => seen.takeCommand form names ("--" :: rest.map Word.text)
      | _ => readWords form seen rest
  | .plain text :: rest =>
    match seen.taken, form.role with
    | none, .command names => seen.takeCommand form names (text :: rest.map Word.text)
    | none, .directory => readWords form { seen with taken := some [text] } (dropSeparator rest)
    | _, _ => readWords form { seen with unknown := seen.unknown ++ [text] } rest
termination_by words.length
decreasing_by
  all_goals have := dropSeparator_length_le rest
  all_goals simp_all only [List.length_cons]
  all_goals omega

def Form.read (form : Form) (arguments : List String) : Except Stop Seen := do
  readWords form {} (← (Word.ofTexts form arguments).mapError (.misuse form))

end EnvAudit.CommandLine
