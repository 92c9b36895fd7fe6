import FlowBurst.Toml.Number
import FlowBurst.Toml.Text

/-!
# Documents

A document is a list of expressions, one to a line: pairs of a dotted key and a value, and headers
of tables. `Document.ofString?` reads a document and builds its tables; it refuses what is not a
document, and what defines something twice.
-/

namespace FlowBurst.Toml

open FlowBurst.Text (Reader)

/-! ### Values -/

/-- At most `fuel` items of an array, up to its closing bracket. A comma may follow the last. -/
def itemsUpTo (item : Reader Item) : (fuel : Nat) → Reader (List Item)
  | 0, _ => none
  | fuel + 1, cs =>
    match skipSpace false cs with
    | ']' :: rest => some ([], rest)
    | cs => do
      let (i, cs) ← item cs
      match skipSpace false cs with
      | ',' :: rest => do
        let (is, rest) ← itemsUpTo item fuel rest
        return (i :: is, rest)
      | ']' :: rest => return ([i], rest)
      | _ => none

/-- A dotted key, an equals sign and a value. -/
def pair (item : Reader Item) : Reader (List String × Item) := fun cs => do
  let (path, cs) ← keyPath cs
  let (_, cs) ← Text.char '=' cs
  let (i, cs) ← item (skipBlanks cs)
  return ((path, i), cs)

/-- At most `fuel` pairs, one at least, up to a closing brace. -/
def pairsUpTo (item : Reader Item) : (fuel : Nat) → Reader (List (List String × Item))
  | 0, _ => none
  | fuel + 1, cs => do
    let (p, cs) ← pair item cs
    match skipBlanks cs with
    | ',' :: rest => do
      let (ps, rest) ← pairsUpTo item fuel rest
      return (p :: ps, rest)
    | '}' :: rest => return ([p], rest)
    | _ => none

/-- The entries of an inline table, up to its closing brace. -/
def inlineEntries (item : Reader Item) : Reader Item := fun cs =>
  match skipBlanks cs with
  | '}' :: rest => some (.inlineTable [], rest)
  | cs => do
    let (pairs, rest) ← pairsUpTo item (cs.length + 1) cs
    let entries ← pairs.foldlM
      (fun (entries : Entries) (pair : List String × Item) => entries.put pair.2 pair.1 true) []
    return (.inlineTable entries, rest)

/-- A value that is neither an array nor a table. -/
def scalarValue : Reader Item := fun cs =>
  match cs with
  | '"' :: _ | '\'' :: _ => (string cs).map fun (s, rest) => (.text s, rest)
  | 't' :: 'r' :: 'u' :: 'e' :: rest => some (.boolean true, rest)
  | 'f' :: 'a' :: 'l' :: 's' :: 'e' :: rest => some (.boolean false, rest)
  | _ => (moment cs).orElse fun _ => number cs

/-- A value in which arrays and tables are nested at most so deep. -/
def value : (depth : Nat) → Reader Item
  | 0, cs => scalarValue cs
  | depth + 1, cs =>
    match cs with
    | '[' :: rest =>
      (itemsUpTo (value depth) (rest.length + 1) rest).map fun (is, rest) => (.array is, rest)
    | '{' :: rest => inlineEntries (value depth) rest
    | _ => scalarValue cs

/-! ### Expressions -/

/-- What a line of a document says. -/
inductive Expression
  | pair (path : List String) (item : Item)
  | table (path : List String)
  /-- The header of a further table of several. -/
  | element (path : List String)
  deriving Repr

/-- An expression at the front of a text. -/
def expression : Reader Expression := fun cs =>
  match cs with
  | '[' :: '[' :: rest => do
    let (path, rest) ← keyPath rest
    let (_, rest) ← Text.chars [']', ']'] rest
    return (.element path, rest)
  | '[' :: rest => do
    let (path, rest) ← keyPath rest
    let (_, rest) ← Text.char ']' rest
    return (.table path, rest)
  | _ => (pair (value (depthLimit - 1)) cs).map fun ((path, i), rest) => (.pair path i, rest)

/-- At most `fuel` lines, up to the end of the text. -/
def expressionsUpTo : (fuel : Nat) → List Char → Option (List Expression)
  | 0, _ => none
  | fuel + 1, cs =>
    match skipBlanks cs with
    | [] => some []
    | cs =>
      match lineRest? cs with
      | some rest => expressionsUpTo fuel rest
      | none => do
        let (e, rest) ← expression cs
        let rest ← lineRest? rest
        let es ← expressionsUpTo fuel rest
        return e :: es

/-! ### Documents -/

/-- A document that is being built: its entries, and the path of the table whose header was the
latest. -/
structure Document where
  entries : Entries := []
  header : List String := []

namespace Document

/-- Opens something at the end of a path. -/
def openAt (f : String → Entries → Option Entries) (path : List String) (d : Document) :
    Option Document := do
  let key ← path.getLast?
  let entries ← d.entries.descend (f key) path.dropLast
  return { entries, header := path }

/-- Adds an expression. -/
def add (d : Document) : Expression → Option Document
  | .pair path item => do
    let entries ← d.entries.descend (fun es => es.put item path true) d.header
    return { d with entries }
  | .table path => d.openAt Entries.openTable path
  | .element path => d.openAt Entries.openElement path

/-- The entries of a document. A byte order mark may stand in front of it. -/
def ofString? (s : String) : Option Entries := do
  let cs := match s.toList with
    | '\ufeff' :: rest => rest
    | cs => cs
  let es ← expressionsUpTo (cs.length + 1) cs
  let d ← es.foldlM add {}
  return d.entries

end Document

end FlowBurst.Toml
