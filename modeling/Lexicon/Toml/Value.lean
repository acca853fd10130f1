/-!
# TOML values

A TOML document is a table.  Headers and dotted keys may come back to a table later in the document
and add to it; whether they may depends on how the table came to be, so each table remembers that.
-/

namespace Lexicon.Toml

/-- How a table came to be. -/
inductive TableKind where
  /-- Between braces.  Nothing can be added. -/
  | inline
  /-- Under a header of its own.  Only tables with headers can be added. -/
  | headed
  /-- Above a table with a header.  It may still get a header of its own. -/
  | implied
  /-- By a dotted key.  Other dotted keys can add to it. -/
  | dotted
  deriving DecidableEq, Repr

inductive Value where
  | string (text : String)
  | integer (n : Int)
  | float (literal : String)
  | boolean (b : Bool)
  | dateTime (literal : String)
  | array (elements : List Value)
  | table (kind : TableKind) (entries : List (String × Value))
  /-- The tables under a repeated header. -/
  | tables (earlier : List (List (String × Value))) (last : List (String × Value))

/-- The keys of a table with their values, in the order of the document. -/
abbrev Entries := List (String × Value)

/-- The elements of an array, which may be written as tables under a repeated header. -/
def Value.elements? : Value → Option (List Value)
  | array elements => some elements
  | tables earlier last => some ((earlier ++ [last]).map (table .headed))
  | _ => none

namespace Entries

/-- Changes, adds or refuses the value of `key`, as `f` says. -/
def alter (key : String) (f : Option Value → Option Value) : Entries → Option Entries
  | [] => (f none).map fun v => [(key, v)]
  | (k, v) :: rest =>
    if k = key then (f (some v)).map fun v => (k, v) :: rest
    else (alter key f rest).map ((k, v) :: ·)

/-- Adds a value under a key that has none. -/
def add (key : String) (v : Value) : Entries → Option Entries :=
  alter key fun old => if old.isNone then some v else none

/-- Adds a value under a dotted key, `parents` before `key`.  A parent that is missing becomes a
dotted table.  The last parent has to be a dotted table; those before it may also be tables above
a header, and tables under a repeated header. -/
def addDotted (key : String) (v : Value) : List String → Entries → Option Entries
  | [] => add key v
  | parent :: parents =>
    let inner := addDotted key v parents
    alter parent fun
      | none => (inner []).map (.table .dotted)
      | some (.table .dotted entries) => (inner entries).map (.table .dotted)
      | some (.table .implied entries) =>
        if parents.isEmpty then none else (inner entries).map (.table .implied)
      | some (.tables earlier last) =>
        if parents.isEmpty then none else (inner last).map (.tables earlier)
      | some _ => none

/-- Changes the entries of the table under the header path `path`.  A table that is missing is
implied; of the tables under a repeated header it is the last. -/
def within (f : Entries → Option Entries) : List String → Entries → Option Entries
  | [] => f
  | key :: path =>
    let inner := within f path
    alter key fun
      | none => (inner []).map (.table .implied)
      | some (.table .inline _) => none
      | some (.table kind entries) => (inner entries).map (.table kind)
      | some (.tables earlier last) => (inner last).map (.tables earlier)
      | some _ => none

/-- Opens a table under a header.  Only an implied table may be there already. -/
def openTable (key : String) : Entries → Option Entries :=
  alter key fun
    | none => some (.table .headed [])
    | some (.table .implied entries) => some (.table .headed entries)
    | some _ => none

/-- Opens one more table under a repeated header. -/
def openElement (key : String) : Entries → Option Entries :=
  alter key fun
    | none => some (.tables [] [])
    | some (.tables earlier last) => some (.tables (earlier ++ [last]) [])
    | some _ => none

end Entries

end Lexicon.Toml
