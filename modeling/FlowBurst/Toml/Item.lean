/-!
# Items of a document

The values of a TOML document and the tables that hold them. A table knows how it came to be,
since that decides how it may be extended: by its own header, implied by the header of a table
inside it, or by a dotted key.

`Entries.put` adds an item under a dotted key, and `Entries.openTable` and `Entries.openElement`
make room for what follows a header. Each refuses what would define something twice.
-/

namespace FlowBurst.Toml

/-- How a table came to be. -/
inductive Origin
  | header
  /-- Only tables inside it have had headers. -/
  | implied
  | dotted
  deriving DecidableEq, Repr

/-- A value, a table or an array of tables. The values of floating-point numbers and of dates are
not kept. -/
inductive Item
  | text (value : String)
  | integer (value : Int)
  | boolean (value : Bool)
  | real
  | moment
  | array (items : List Item)
  /-- A table in braces, which cannot be extended. -/
  | inlineTable (entries : List (String × Item))
  | table (origin : Origin) (entries : List (String × Item))
  /-- The tables under headers in double brackets. -/
  | tables (elements : List (List (String × Item)))
  deriving Repr

/-- Items by their keys. -/
abbrev Entries := List (String × Item)

namespace Entries

/-- Changes the item of a key, or adds one if there is none. -/
def alter (f : Option Item → Option Item) (key : String) : Entries → Option Entries
  | [] => (f none).map fun item => [(key, item)]
  | (k, item) :: entries =>
    if k = key then (f (some item)).map fun item => (k, item) :: entries
    else (alter f key entries).map ((k, item) :: ·)

/-- Changes the last of several tables. -/
def alterLast (f : Entries → Option Entries) : List Entries → Option (List Entries)
  | [] => none
  | [e] => (f e).map ([·])
  | e :: es => (alterLast f es).map (e :: ·)

/-- Adds an item under a dotted key, where `open_` says whether the table at hand takes further
entries. Tables on the way may have been implied or made by dotted keys; the one that takes the item
must have been made by a dotted key, unless the key has no dot. -/
def put (item : Item) : (path : List String) → (open_ : Bool) → Entries → Option Entries
  | [], _, _ => none
  | [key], open_, entries =>
    if open_ then
      alter (fun
        | none => some item
        | some _ => none) key entries
    else none
  | key :: path, _, entries =>
    alter (fun
      | none => (put item path true []).map (.table .dotted)
      | some (.table .dotted inner) => (put item path true inner).map (.table .dotted)
      | some (.table .implied inner) => (put item path false inner).map (.table .implied)
      | some (.tables elements) => (alterLast (put item path false) elements).map .tables
      | some _ => none) key entries

/-- Changes the table at a path. Tables that are missing on the way are implied, and of several
tables the last is meant. -/
def descend (f : Entries → Option Entries) : (path : List String) → Entries → Option Entries
  | [], entries => f entries
  | key :: path, entries =>
    alter (fun
      | none => (descend f path []).map (.table .implied)
      | some (.table origin inner) => (descend f path inner).map (.table origin)
      | some (.tables elements) => (alterLast (descend f path) elements).map .tables
      | some _ => none) key entries

/-- Opens a table under its header. -/
def openTable (key : String) : Entries → Option Entries :=
  alter (fun
    | none => some (.table .header [])
    | some (.table .implied inner) => some (.table .header inner)
    | some _ => none) key

/-- Opens a further table of several under its header. -/
def openElement (key : String) : Entries → Option Entries :=
  alter (fun
    | none => some (.tables [[]])
    | some (.tables elements) => some (.tables (elements ++ [[]]))
    | some _ => none) key

end Entries

end FlowBurst.Toml
