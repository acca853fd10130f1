import Lexicon.Toml.Value

/-!
# TOML scalars

Readers of strings, numbers, dates and times.  A reader takes a value off the front of a text; it
fails where no value of its kind is well-formed.
-/

namespace Lexicon.Toml

/-- A step of reading a text. -/
abbrev Reader := StateT (List Char) Option

/-- The next character, which is not taken. -/
def peek : Reader (Option Char) := return (← get).head?

/-- Takes the text `expected`. -/
def expect (expected : List Char) : Reader Unit := do
  let text ← get
  guard (expected.isPrefixOf text)
  set (text.drop expected.length)

/-- Takes the text `wanted` if it comes next, and tells whether it did. -/
def accept (wanted : List Char) : Reader Bool := do
  let text ← get
  if wanted.isPrefixOf text then
    set (text.drop wanted.length)
    return true
  else return false

/-- Takes the next character, of which `p` must hold. -/
def takeIf (p : Char → Bool) : Reader Char := do
  match ← get with
  | c :: rest =>
    guard (p c)
    set rest
    return c
  | [] => failure

/-- Takes the characters up to the first of which `p` does not hold. -/
def takeWhile (p : Char → Bool) : Reader (List Char) := do
  let text ← get
  set (text.dropWhile p)
  return text.takeWhile p

/-! ## Character classes -/

/-- A blank between values. -/
def isBlank (c : Char) : Bool := c == ' ' || c == '\t'

/-- A character that may stand in comments and, some quotes and backslashes apart, in strings: any
but the controls other than the tab. -/
def isPlain (c : Char) : Bool := c == '\t' || (32 ≤ c.toNat && c.toNat ≠ 127)

def isHexDigit (c : Char) : Bool :=
  c.isDigit || ('a' ≤ c && c ≤ 'f') || ('A' ≤ c && c ≤ 'F')

/-- The value of a hexadecimal digit. -/
def digitValue (c : Char) : Nat :=
  if c.isDigit then c.toNat - '0'.toNat else c.toLower.toNat - 'a'.toNat + 10

/-- The number that digits write in a base. -/
def ofDigits (base : Nat) (digits : List Char) : Nat :=
  digits.foldl (fun n c => n * base + digitValue c) 0

/-! ## Strings -/

/-- The character that an escape of hexadecimal digits stands for. -/
def codePoint? (digits : List Char) : Option Char :=
  let n := ofDigits 16 digits
  if digits.all isHexDigit && n.isValidChar then some (Char.ofNat n) else none

/-- The character that an escape stands for, without its backslash, and what follows it. -/
def escape? : List Char → Option (Char × List Char)
  | 'b' :: rest => some ('\x08', rest)
  | 't' :: rest => some ('\t', rest)
  | 'n' :: rest => some ('\n', rest)
  | 'f' :: rest => some ('\x0c', rest)
  | 'r' :: rest => some ('\r', rest)
  | '"' :: rest => some ('"', rest)
  | '\\' :: rest => some ('\\', rest)
  | 'u' :: a :: b :: c :: d :: rest => (codePoint? [a, b, c, d]).map (·, rest)
  | 'U' :: a :: b :: c :: d :: e :: f :: g :: h :: rest =>
    (codePoint? [a, b, c, d, e, f, g, h]).map (·, rest)
  | _ => none

theorem length_escape?_lt {text rest : List Char} {c : Char} (h : escape? text = some (c, rest)) :
    rest.length < text.length := by
  unfold escape? at h
  split at h
  all_goals first
    | cases h; simp only [List.length_cons]; omega
    | obtain ⟨_, -, h⟩ := Option.map_eq_some_iff.1 h
      cases h
      simp only [List.length_cons]
      omega
    | cases h

/-- What is left behind the line break at the front, if there is one. -/
def afterLineBreak? : List Char → Option (List Char)
  | '\n' :: rest => some rest
  | '\r' :: '\n' :: rest => some rest
  | _ => none

theorem length_afterLineBreak?_lt {text rest : List Char} (h : afterLineBreak? text = some rest) :
    rest.length < text.length := by
  unfold afterLineBreak? at h
  split at h <;> cases h <;> simp only [List.length_cons] <;> omega

/-- The rest of a string in double quotes on one line, and what follows the closing quote. -/
def basicString (text : List Char) : Option (List Char × List Char) :=
  match text with
  | '"' :: rest => some ([], rest)
  | '\\' :: rest =>
    match h : escape? rest with
    | some (c, rest') =>
      have := length_escape?_lt h
      (basicString rest').map fun (s, rest) => (c :: s, rest)
    | none => none
  | c :: rest =>
    if isPlain c then (basicString rest).map fun (s, rest) => (c :: s, rest) else none
  | [] => none
termination_by text.length
decreasing_by all_goals (simp only [List.length_cons]; omega)

/-- The rest of a string in single quotes on one line, and what follows the closing quote. -/
def literalString : List Char → Option (List Char × List Char)
  | [] => none
  | c :: rest =>
    if c = '\'' then some ([], rest)
    else if isPlain c then (literalString rest).map fun (s, rest) => (c :: s, rest)
    else none

/-- Skips blanks and line breaks. -/
def skipWhite : List Char → List Char
  | '\r' :: '\n' :: rest => skipWhite rest
  | c :: rest => if isBlank c || c == '\n' then skipWhite rest else c :: rest
  | [] => []

theorem length_skipWhite_le (text : List Char) : (skipWhite text).length ≤ text.length := by
  fun_induction skipWhite text with
  | case1 rest ih => simp only [List.length_cons]; omega
  | case2 c rest _ _ ih => simp only [List.length_cons]; omega
  | case3 => exact Nat.le_refl _
  | case4 => exact Nat.le_refl _

/-- What follows a backslash that joins lines: blanks, a line break, and all white behind it. -/
def afterLineJoin? (text : List Char) : Option (List Char) :=
  (afterLineBreak? (text.dropWhile isBlank)).map skipWhite

theorem length_afterLineJoin?_lt {text rest : List Char} (h : afterLineJoin? text = some rest) :
    rest.length < text.length := by
  obtain ⟨r, hr, rfl⟩ := Option.map_eq_some_iff.1 h
  have h1 := length_afterLineBreak?_lt hr
  have h2 := length_skipWhite_le r
  have h3 := (List.dropWhile_sublist isBlank (l := text)).length_le
  omega

/-- The quotes at the front of the rest of a string over several lines: those that belong to the
string when three of them close it, and what follows. -/
def closing? (quote : Char) (text : List Char) : Option (List Char × List Char) :=
  let run := (text.takeWhile (· == quote)).length
  if run < 3 then none else
    let inner := min (run - 3) 2
    some (List.replicate inner quote, text.drop (inner + 3))

/-- The rest of a string over several lines between triple quotes, and what follows them.  Every
line break counts as a line feed; with `escapes`, a backslash starts an escape or joins lines. -/
def multiLineString (quote : Char) (escapes : Bool) (text : List Char) :
    Option (List Char × List Char) :=
  match closing? quote text with
  | some closed => some closed
  | none =>
    match text with
    | [] => none
    | c :: rest =>
      match hb : afterLineBreak? (c :: rest) with
      | some rest' =>
        have := length_afterLineBreak?_lt hb
        (multiLineString quote escapes rest').map fun (s, rest) => ('\n' :: s, rest)
      | none =>
        if escapes && c == '\\' then
          match hj : afterLineJoin? rest with
          | some rest' =>
            have := length_afterLineJoin?_lt hj
            multiLineString quote escapes rest'
          | none =>
            match he : escape? rest with
            | some (c, rest') =>
              have := length_escape?_lt he
              (multiLineString quote escapes rest').map fun (s, rest) => (c :: s, rest)
            | none => none
        else if isPlain c then
          (multiLineString quote escapes rest).map fun (s, rest) => (c :: s, rest)
        else none
termination_by text.length
decreasing_by all_goals (simp only [List.length_cons] at *; omega)

/-- Reads a string on one line. -/
def lineString : Reader String := do
  if ← accept ['"'] then return String.ofList (← StateT.mk basicString)
  else
    expect ['\'']
    return String.ofList (← StateT.mk literalString)

/-- Reads a string.  A line break just behind triple quotes does not count. -/
def string : Reader String := do
  if ← accept ['"', '"', '"'] then
    modify fun text => (afterLineBreak? text).getD text
    return String.ofList (← StateT.mk (multiLineString '"' true))
  else if ← accept ['\'', '\'', '\''] then
    modify fun text => (afterLineBreak? text).getD text
    return String.ofList (← StateT.mk (multiLineString '\'' false))
  else lineString

/-! ## Dates and times -/

/-- Reads a number of `n` digits between `lo` and `hi`. -/
def fixedNumber (n lo hi : Nat) : Reader Nat := do
  let digits ← (List.replicate n ()).mapM fun _ => takeIf Char.isDigit
  let value := ofDigits 10 digits
  guard (lo ≤ value ∧ value ≤ hi)
  return value

/-- The number of days of a month. -/
def daysIn (year month : Nat) : Nat :=
  if month = 2 then
    if year % 4 = 0 ∧ (year % 100 ≠ 0 ∨ year % 400 = 0) then 29 else 28
  else if month ∈ [4, 6, 9, 11] then 30
  else 31

/-- Reads a time of day. -/
def time : Reader Unit := do
  discard (fixedNumber 2 0 23)
  expect [':']
  discard (fixedNumber 2 0 59)
  expect [':']
  discard (fixedNumber 2 0 60)
  if ← accept ['.'] then
    discard (takeIf Char.isDigit)
    discard (takeWhile Char.isDigit)

/-- Reads the distance from universal time, if one comes next. -/
def offset : Reader Unit := do
  match ← peek with
  | some c =>
    if c = 'Z' ∨ c = 'z' then discard (takeIf fun _ => true)
    else if c = '+' ∨ c = '-' then
      discard (takeIf fun _ => true)
      discard (fixedNumber 2 0 23)
      expect [':']
      discard (fixedNumber 2 0 59)
  | none => return

/-- Whether a time of day is separated from a date at the front of the text. -/
def timeFollows : List Char → Bool
  | c :: d :: _ => (c == 'T' || c == 't' || c == ' ') && d.isDigit
  | _ => false

/-- Reads a date, with a time of day if one follows. -/
def date : Reader Unit := do
  let year ← fixedNumber 4 0 9999
  expect ['-']
  let month ← fixedNumber 2 1 12
  expect ['-']
  discard (fixedNumber 2 1 (daysIn year month))
  if timeFollows (← get) then
    discard (takeIf fun _ => true)
    time
    offset

/-! ## Numbers -/

/-- The digits at the front of a text, with single underscores allowed between them and dropped,
and what follows. -/
def digitRun (isDigit : Char → Bool) : List Char → Option (List Char × List Char)
  | [] => none
  | c :: '_' :: rest =>
    if isDigit c then (digitRun isDigit rest).map fun (ds, rest) => (c :: ds, rest) else none
  | c :: rest =>
    if isDigit c then
      if rest.head?.any isDigit then
        (digitRun isDigit rest).map fun (ds, rest) => (c :: ds, rest)
      else some ([c], rest)
    else none

def digits (isDigit : Char → Bool) : Reader (List Char) := StateT.mk (digitRun isDigit)

/-- The least number that rounds beyond the doubles. -/
def doubleBound : Nat := Nat.pow 2 1024 - Nat.pow 2 970

/-- Whether `m * 10 ^ e` is a number that no double holds, where `m` has the given digits.  Powers
of ten are only taken where the number of digits leaves the answer open. -/
def overflowsDouble (digits : List Char) (e : Int) : Bool :=
  let digits := digits.dropWhile (· == '0')
  let places := digits.length + e
  if digits.isEmpty || places < 309 then false
  else if 309 < places then true
  else
    let m := ofDigits 10 digits
    doubleBound * Nat.pow 10 (-e).toNat ≤ m * Nat.pow 10 e.toNat

/-- Reads the sign of a number, if it has one: whether it is negative. -/
def sign? : Reader (Option Bool) := do
  if ← accept ['-'] then return some true
  else if ← accept ['+'] then return some false
  else return none

/-- Reads what follows the digits `whole` of a number: if it is a fraction or an exponent, the
number is a float.  A positive float that no double holds is refused. -/
def floatTail? (negative : Bool) (whole : List Char) : Reader Bool := do
  let dotted ← accept ['.']
  let fraction ← if dotted then digits Char.isDigit else pure []
  let scaled := (← get).head?.any fun c => c == 'e' || c == 'E'
  let exponent : Int ←
    if scaled then do
      discard (takeIf fun _ => true)
      let down := (← sign?).getD false
      let n := ofDigits 10 (← digits Char.isDigit)
      pure (if down then -(n : Int) else n)
    else pure 0
  guard (negative || !overflowsDouble (whole ++ fraction) (exponent - fraction.length))
  return dotted || scaled

/-- An integer of 64 bits. -/
def integer (n : Int) : Reader Value := do
  guard (Int64.minValue.toInt ≤ n ∧ n ≤ Int64.maxValue.toInt)
  return .integer n

/-- Reads a number in decimal digits, or one of the words for infinity and for no number. -/
def decimal (literal : Reader String) : Reader Value := do
  let negative := (← sign?).getD false
  if ← accept ['i', 'n', 'f'] then return .float (← literal)
  else if ← accept ['n', 'a', 'n'] then return .float (← literal)
  else
    let whole ← digits Char.isDigit
    guard (whole.length = 1 ∨ whole.head? ≠ some '0')
    if ← floatTail? negative whole then return .float (← literal)
    else
      let n := ofDigits 10 whole
      integer (if negative then -(n : Int) else n)

/-- What the characters at the front of a number, a date or a time tell about its form. -/
inductive NumberForm where
  | date
  | time
  | decimal
  /-- The digits of another base follow a mark of two characters. -/
  | based (base : Nat) (isDigit : Char → Bool)

def NumberForm.of : List Char → NumberForm
  | '0' :: 'x' :: _ => based 16 isHexDigit
  | '0' :: 'o' :: _ => based 8 fun c => '0' ≤ c && c ≤ '7'
  | '0' :: 'b' :: _ => based 2 fun c => c == '0' || c == '1'
  | a :: b :: ':' :: _ => if [a, b].all Char.isDigit then time else decimal
  | a :: b :: c :: d :: '-' :: _ => if [a, b, c, d].all Char.isDigit then date else decimal
  | _ => decimal

/-- Reads a number, a date or a time. -/
def numberOrDate : Reader Value := do
  let text ← get
  let literal : Reader String := return String.ofList (text.take (text.length - (← get).length))
  match NumberForm.of text with
  | .date =>
    date
    return .dateTime (← literal)
  | .time =>
    time
    return .dateTime (← literal)
  | .decimal => decimal literal
  | .based base isDigit =>
    set (text.drop 2)
    integer (ofDigits base (← digits isDigit))

end Lexicon.Toml
