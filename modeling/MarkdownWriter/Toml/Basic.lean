/-!
# TOML documents

A TOML document is a table of values under keys. It is written as statements: a header says which
table the following assignments go to, an assignment gives a key its value. A key may be given only
once and a table opened only once, and a table that one notation made cannot be added to by another;
`Table.ofStatements` refuses such documents.
-/

namespace MarkdownWriter.Toml

/-- How a table came into being, which decides what can still be added to it. -/
inductive Origin where
  /-- By a header that opens a table inside it. -/
  | implicit
  /-- By its own header. -/
  | header
  /-- By a dotted key. -/
  | dotted
  /-- By an inline table. -/
  | inline
  deriving DecidableEq, Repr

/-- A value. -/
inductive Value where
  | string (text : String)
  | boolean (b : Bool)
  | integer (n : Int)
  /-- A number that is no integer, as it is written. -/
  | float (text : String)
  | array (items : List Value)
  | table (origin : Origin) (entries : List (String × Value))
  deriving Repr, Inhabited

/-- The entries of a table, in the order they were given. -/
abbrev Entries := List (String × Value)

/-- A piece of a document. -/
inductive Statement where
  | header (path : List String)
  | assign (path : List String) (value : Value)
  deriving Repr, Inhabited

namespace Entries

/-- Give a key that is already there a new value. -/
def replace (key : String) (value : Value) (entries : Entries) : Entries :=
  entries.map fun (k, v) => if k == key then (k, value) else (k, v)

/-- Assign a value to a key, which may lead through tables that dotted keys made. -/
def assign (value : Value) : List String → Entries → Option Entries
  | [], _ => none
  | [key], entries => if (entries.lookup key).isSome then none else some (entries ++ [(key, value)])
  | key :: path, entries =>
      match entries.lookup key with
      | none => (assign value path []).map fun inner => entries ++ [(key, .table .dotted inner)]
      | some (.table .dotted inner) =>
          (assign value path inner).map fun inner => entries.replace key (.table .dotted inner)
      | some _ => none

/-- Open the table a header names. Tables on the way come into being if they are not there. -/
def openTable : List String → Entries → Option Entries
  | [], _ => none
  | [key], entries =>
      match entries.lookup key with
      | none => some (entries ++ [(key, .table .header [])])
      | some (.table .implicit inner) => some (entries.replace key (.table .header inner))
      | some _ => none
  | key :: path, entries =>
      match entries.lookup key with
      | none => (openTable path []).map fun inner => entries ++ [(key, .table .implicit inner)]
      | some (.table .inline _) => none
      | some (.table origin inner) =>
          (openTable path inner).map fun inner => entries.replace key (.table origin inner)
      | some _ => none

/-- Change the entries of the table at a path. -/
def within (change : Entries → Option Entries) : List String → Entries → Option Entries
  | [], entries => change entries
  | key :: path, entries =>
      match entries.lookup key with
      | some (.table origin inner) =>
          (within change path inner).map fun inner => entries.replace key (.table origin inner)
      | _ => none

/-- The entries after a statement, with the path of the table that is open. -/
def step : List String × Entries → Statement → Option (List String × Entries)
  | (_, entries), .header path => (entries.openTable path).map (path, ·)
  | (current, entries), .assign path value =>
      (entries.within (assign value path) current).map (current, ·)

/-- The entries a sequence of statements gives, if it is a document. -/
def ofStatements (statements : List Statement) : Option Entries :=
  (statements.foldlM step ([], [])).map Prod.snd

end Entries

end MarkdownWriter.Toml
