import EnvAudit.Usage.Site

/-! Reads in sources that break the grammar. Each line is searched for the plainest forms of a read: a name in
capitals after the object of the variables, behind a period or in brackets and quotes. -/
namespace EnvAudit.Usage.Fallback

def beginsName (c : Char) : Bool := ('A' ≤ c && c ≤ 'Z') || c == '_'

def continuesName (c : Char) : Bool := beginsName c || Text.isArabic c

def name? (text : List Char) : Option (List Char) :=
  match text with
  | c :: _ => if beginsName c then some (text.takeWhile continuesName) else none
  | [] => none

def readAfter? (opening : String) (text : List Char) : Option (List Char) :=
  (Text.dropStart? opening.toList text).bind name?

def isQuote (c : Char) : Bool := c == '\'' || c == '"'

/-- The name in brackets and quotes, which need not be of one kind. -/
def bracketRead? (text : List Char) : Option (List Char) :=
  match Text.dropStart? "process.env[".toList text with
  | some (quote :: rest) =>
    if isQuote quote then
      match name? rest with
      | some name =>
        match rest.drop name.length with
        | last :: ']' :: _ => if isQuote last then some name else none
        | _ => none
      | none => none
    else none
  | _ => none

def readsFrom (read? : List Char → Option (List Char)) (column : Nat) : List Char → List (String × Nat)
  | [] => []
  | c :: rest =>
    match read? (c :: rest) with
    | some name => (String.ofList name, column) :: readsFrom read? (column + 1) rest
    | none => readsFrom read? (column + 1) rest

def usagesOf (site : Site) (line : Nat) (text : List Char) (access : Access) (chain : Chain)
    (read? : List Char → Option (List Char)) : List Usage :=
  (readsFrom read? 0 text).map fun (name, column) =>
    { name, file := site.file, line, column, access, isClientSide := site.isClientSide chain name }

def ofLine (site : Site) (line : Nat) (text : List Char) : List Usage :=
  usagesOf site line text .direct .server (readAfter? "process.env.")
    ++ usagesOf site line text .bracket .server bracketRead?
    ++ usagesOf site line text .direct .client (readAfter? "import.meta.env.")

def usages (site : Site) (source : List Char) : List Usage :=
  (Text.lines source).zipIdx.flatMap fun (text, index) => ofLine site (index + 1) text

end EnvAudit.Usage.Fallback
