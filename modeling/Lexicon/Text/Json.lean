import Lexicon.Text.Escape

/-!
# JSON text

JSON values with fields in a fixed order, and their compact text.  In strings, quotes, backslashes
and control characters below the blank are escaped; every other character stands as itself.
-/

namespace Lexicon.Text

inductive Json where
  | null
  | number (n : Nat)
  | string (s : String)
  | array (elements : List Json)
  | object (fields : List (String × Json))

namespace Json

/-- A character inside a JSON string. -/
def escaped (c : Char) : String :=
  if c = '"' then "\\\""
  else if c = '\\' then "\\\\"
  else if c = '\x08' then "\\b"
  else if c = '\x0c' then "\\f"
  else if c = '\n' then "\\n"
  else if c = '\r' then "\\r"
  else if c = '\t' then "\\t"
  else if c.toNat < 32 then
    let digits := hexDigits c.toNat
    "\\u" ++ "".pushn '0' (4 - digits.length) ++ digits
  else c.toString

def renderString (s : String) : String := "\"" ++ String.join (s.toList.map escaped) ++ "\""

mutual

/-- The text of a value, without blanks. -/
def render : Json → String
  | null => "null"
  | number n => toString n
  | string s => renderString s
  | array elements => "[" ++ ",".intercalate (renderElements elements) ++ "]"
  | object fields => "\x7b" ++ ",".intercalate (renderFields fields) ++ "\x7d"

def renderElements : List Json → List String
  | [] => []
  | v :: rest => render v :: renderElements rest

def renderFields : List (String × Json) → List String
  | [] => []
  | (name, v) :: rest => (renderString name ++ ":" ++ render v) :: renderFields rest

end

end Json

end Lexicon.Text
