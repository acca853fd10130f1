import Lexicon.Toml.Scalar

/-!
# TOML documents

A document is a sequence of statements, each on a line of its own: a key with a value, the header of
a table, or the header of one more table of an array.  `Document.read` reads the statements, and
`Document.entries` makes a table of them; `parse` does both.
-/

namespace Lexicon.Toml

/-- A dotted key: its last part, and the parts before it. -/
structure Key where
  parents : List String
  name : String
  deriving DecidableEq, Repr

inductive Statement where
  | entry (key : Key) (value : Value)
  /-- The header of a table, to which the entries that follow belong. -/
  | header (key : Key)
  /-- The header of one more table of an array. -/
  | element (key : Key)

/-- The greatest number of parts of a key, and the greatest depth of brackets and braces. -/
def depthLimit : Nat := 79

/-! ## Blanks, comments and keys -/

/-- Skips blanks, line breaks and comments. -/
def skipFiller (inComment : Bool) : List Char → List Char
  | [] => []
  | '\r' :: '\n' :: rest => skipFiller false rest
  | c :: rest =>
    if inComment && isPlain c then skipFiller true rest
    else if isBlank c || c == '\n' then skipFiller false rest
    else if c == '#' then skipFiller true rest
    else c :: rest

def filler : Reader Unit := modify (skipFiller false)

def blanks : Reader Unit := discard (takeWhile isBlank)

/-- Reads the rest of a line with nothing on it but a comment, up to the line break. -/
def endOfLine : Reader Unit := do
  blanks
  if (← peek) = some '#' then discard (takeWhile isPlain)
  let text ← get
  guard (text.isEmpty || (afterLineBreak? text).isSome)

/-- A character of a key without quotes. -/
def isBareKeyChar (c : Char) : Bool := c.isAlphanum || c == '_' || c == '-'

/-- Reads one part of a key, with the blanks around it. -/
def keyPart : Reader String := do
  blanks
  let part ←
    if (← peek).any isBareKeyChar then pure (String.ofList (← takeWhile isBareKeyChar))
    else lineString
  blanks
  return part

/-- Reads a dotted key of at most `limit` parts. -/
def dottedKey : (limit : Nat) → Reader Key
  | 0 => failure
  | limit + 1 => do
    let part ← keyPart
    if ← accept ['.'] then
      let key ← dottedKey limit
      return ⟨part :: key.parents, key.name⟩
    else return ⟨[], part⟩

def key : Reader Key := dottedKey depthLimit

/-! ## Values -/

/-- The elements of an array after its opening bracket, a comma after each but perhaps the last,
and what follows the closing bracket. -/
def elements (element : Reader Value) (text : List Char) : Option (List Value × List Char) :=
  match skipFiller false text with
  | ']' :: rest => some ([], rest)
  | inner =>
    match element inner with
    | none => none
    | some (v, rest) =>
      match skipFiller false rest with
      | ']' :: rest => some ([v], rest)
      | ',' :: rest =>
        if rest.length < text.length then
          (elements element rest).map fun (vs, rest) => (v :: vs, rest)
        else none
      | _ => none
termination_by text.length

/-- Reads a key, an equals sign and a value. -/
def entry (value : Reader Value) : Reader (Key × Value) := do
  let key ← key
  expect ['=']
  blanks
  return (key, ← value)

/-- Reads the entries of a table after its opening brace, with commas between them, and the closing
brace. -/
def inlineEntries (value : Reader Value) (table : Entries) (text : List Char) :
    Option (Entries × List Char) :=
  match entry value text with
  | none => none
  | some ((key, v), rest) =>
    match table.addDotted key.name v key.parents with
    | none => none
    | some table =>
      match rest.dropWhile isBlank with
      | '}' :: rest => some (table, rest)
      | ',' :: rest =>
        if rest.length < text.length then inlineEntries value table rest else none
      | _ => none
termination_by text.length

/-- Reads a value in which brackets and braces nest at most `depth` deep. -/
def value (depth : Nat) : Reader Value := do
  match ← peek with
  | some '"' => return .string (← string)
  | some '\'' => return .string (← string)
  | some '[' =>
    expect ['[']
    match depth with
    | 0 => failure
    | depth + 1 => return .array (← StateT.mk (elements (value depth)))
  | some '{' =>
    expect ['{']
    match depth with
    | 0 => failure
    | depth + 1 =>
      blanks
      if ← accept ['}'] then return .table .inline []
      else return .table .inline (← StateT.mk (inlineEntries (value depth) []))
  | some 't' =>
    expect ['t', 'r', 'u', 'e']
    return .boolean true
  | some 'f' =>
    expect ['f', 'a', 'l', 's', 'e']
    return .boolean false
  | _ => numberOrDate

/-! ## Statements -/

/-- Reads a statement up to the end of its line. -/
def statement : Reader Statement := do
  let result ←
    if ← accept ['[', '['] then do
      let key ← key
      expect [']', ']']
      pure (.element key)
    else if ← accept ['['] then do
      let key ← key
      expect [']']
      pure (.header key)
    else do
      let (key, v) ← entry (value depthLimit)
      pure (.entry key v)
  endOfLine
  return result

abbrev Document := List Statement

namespace Document

/-- The statements of a text. -/
def readFrom (text : List Char) : Option Document :=
  match skipFiller false text with
  | [] => some []
  | inner =>
    match statement inner with
    | none => none
    | some (s, rest) =>
      if rest.length < text.length then (readFrom rest).map (s :: ·) else none
termination_by text.length

/-- The statements of a text, behind a byte order mark. -/
def read (text : List Char) : Option Document :=
  readFrom (if text.head? = some '\uFEFF' then text.tail else text)

/-- Adds the entries of statements to `root`, where `path` leads to the table of the last header. -/
def entriesFrom (root : Entries) (path : List String) : Document → Option Entries
  | [] => some root
  | .entry key v :: rest => do
    let root ← root.within (Entries.addDotted key.name v key.parents) path
    entriesFrom root path rest
  | .header key :: rest => do
    let root ← root.within (Entries.openTable key.name) key.parents
    entriesFrom root (key.parents ++ [key.name]) rest
  | .element key :: rest => do
    let root ← root.within (Entries.openElement key.name) key.parents
    entriesFrom root (key.parents ++ [key.name]) rest

/-- The table that a document describes, if no statement contradicts one before it. -/
def entries (document : Document) : Option Entries := entriesFrom [] [] document

end Document

/-- The table that a text describes. -/
def parse (text : List Char) : Option Entries := (Document.read text).bind Document.entries

end Lexicon.Toml
