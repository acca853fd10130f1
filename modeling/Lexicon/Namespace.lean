import Lexicon.Symbol

/-!
# Namespaces

A namespace binds names to values and keeps them in the order in which they were first bound.
-/

namespace Lexicon

/-- Values bound to symbols, in binding order. -/
structure Namespace (α : Type) where
  bindings : List (Symbol × α) := []
  deriving Repr

namespace Namespace

variable {α : Type}

/-- Replaces the value of `name` in its place, or appends a binding. -/
def bindIn (name : Symbol) (value : α) : List (Symbol × α) → List (Symbol × α)
  | [] => [(name, value)]
  | (n, v) :: rest => if n = name then (n, value) :: rest else (n, v) :: bindIn name value rest

/-- The value bound to a symbol. -/
def getSymbol? (ns : Namespace α) (name : Symbol) : Option α := ns.bindings.lookup name

/-- Binds a name.  A name that was bound keeps its place, and its old value is returned. -/
def bind (ns : Namespace α) (name : Symbol) (value : α) : Option α × Namespace α :=
  (ns.getSymbol? name, ⟨bindIn name value ns.bindings⟩)

/-- Binds pairs in turn. -/
def ofList (pairs : List (Symbol × α)) : Namespace α :=
  pairs.foldl (fun ns (name, value) => (ns.bind name value).2) {}

/-- The value bound to a name in normal form. -/
def get? (ns : Namespace α) (symbols : SymbolTable) (name : String) : Option α :=
  (symbols.lookup? name).bind ns.getSymbol?

/-- Whether a name in normal form is bound. -/
def contains (ns : Namespace α) (symbols : SymbolTable) (name : String) : Bool :=
  (ns.get? symbols name).isSome

/-- The value bound to the normal form of a spelling. -/
def resolve? (ns : Namespace α) (symbols : SymbolTable) (spelling : String) : Option α :=
  ns.get? symbols (String.ofList (Unicode.normalize spelling.toList))

/-- The bound names, in binding order. -/
def names (ns : Namespace α) : List Symbol := ns.bindings.map (·.1)

def size (ns : Namespace α) : Nat := ns.bindings.length

def isEmpty (ns : Namespace α) : Bool := ns.bindings.isEmpty

/-- Whether two namespaces bind the same values to the same names, in whatever order. -/
def sameAs [BEq α] (ns other : Namespace α) : Bool :=
  ns.size == other.size &&
    ns.bindings.all fun (name, value) => other.getSymbol? name == some value

end Namespace

end Lexicon
