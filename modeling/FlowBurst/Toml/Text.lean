import FlowBurst.Text.Reader

/-!
# Strings, keys and the space between them

The lexical parts of a document: blanks, comments and ends of lines, the four ways to write a
string, and dotted keys. Control characters other than the tab do not occur anywhere.
-/

namespace FlowBurst.Toml

open FlowBurst.Text (Reader)

/-! ### Space -/

/-- Whether a character is a blank. -/
def isBlank (c : Char) : Bool := c = ' ' || c = '\t'

/-- Whether a character may stand in a comment. -/
def isPlain (c : Char) : Bool :=
  c = '\t' || (0x20 ≤ c.toNat && c.toNat ≤ 0x7E) || 0x80 ≤ c.toNat

/-- A text without the blanks at its front. -/
def skipBlanks (cs : List Char) : List Char := cs.dropWhile isBlank

/-- A text without the line break at its front. -/
def newline? : List Char → Option (List Char)
  | '\n' :: rest => some rest
  | '\r' :: '\n' :: rest => some rest
  | _ => none

/-- What follows the end of a line; the last line may end with the text. -/
def lineEnd? (cs : List Char) : Option (List Char) :=
  match cs with
  | [] => some []
  | _ => newline? cs

/-- What follows the rest of a line that holds nothing but blanks and a comment. -/
def lineRest? (cs : List Char) : Option (List Char) :=
  match skipBlanks cs with
  | '#' :: rest => lineEnd? (rest.dropWhile isPlain)
  | rest => lineEnd? rest

/-- A text without the blanks, line breaks and comments at its front. Inside a comment, the text is
left alone from a character on that may not stand there. -/
def skipSpace (inComment : Bool) : List Char → List Char
  | '\n' :: rest => skipSpace false rest
  | '\r' :: '\n' :: rest => skipSpace false rest
  | c :: rest =>
    if inComment then if isPlain c then skipSpace true rest else c :: rest
    else if isBlank c then skipSpace false rest
    else if c = '#' then skipSpace true rest
    else c :: rest
  | [] => []

/-! ### Strings -/

/-- The character that an escape stands for, without its backslash. -/
def escape : Reader Char
  | 'b' :: rest => some ('\x08', rest)
  | 'f' :: rest => some ('\x0c', rest)
  | 'n' :: rest => some ('\n', rest)
  | 'r' :: rest => some ('\r', rest)
  | 't' :: rest => some ('\t', rest)
  | '\\' :: rest => some ('\\', rest)
  | '"' :: rest => some ('"', rest)
  | 'u' :: rest => scalar 4 rest
  | 'U' :: rest => scalar 8 rest
  | _ => none
where
  /-- A character by its number, in so many hexadecimal digits. -/
  scalar (count : Nat) : Reader Char := fun cs => do
    let (n, rest) ← Text.fixedDigits 16 count 0 cs
    if n.isValidChar then some (Char.ofNat n, rest) else none

/-- At most `fuel` pieces of a string, up to its closing mark, which may bring characters along. -/
def piecesUpTo (closing piece : Reader (List Char)) : (fuel : Nat) → Reader (List Char)
  | 0, _ => none
  | fuel + 1, cs =>
    match closing cs with
    | some answer => some answer
    | none => do
      let (front, cs) ← piece cs
      let (back, cs) ← piecesUpTo closing piece fuel cs
      return (front ++ back, cs)

/-- The pieces of a string up to its closing mark. Each piece has a character at least. -/
def pieces (closing piece : Reader (List Char)) : Reader String := fun cs =>
  (piecesUpTo closing piece (cs.length + 1) cs).map fun (s, rest) => (String.ofList s, rest)

/-- A mark that ends a string of one line. -/
def mark (m : Char) : Reader (List Char) := fun cs =>
  (Text.char m cs).map fun (_, rest) => ([], rest)

/-- Three marks that end a string of several lines; up to two further ones in front of them belong
to the string. -/
def marks (m : Char) : Reader (List Char) := fun cs =>
  let closing (extra : Nat) : Option (List Char × List Char) :=
    (Text.chars (List.replicate (3 + extra) m) cs).map fun (_, rest) =>
      (List.replicate extra m, rest)
  (closing 2).orElse fun _ => (closing 1).orElse fun _ => closing 0

/-- A character that stands for itself between given marks. -/
def plain (m : Char) : Reader (List Char)
  | c :: rest => if isPlain c && c != m then some ([c], rest) else none
  | [] => none

/-- A piece of a string between quotation marks: an escape, or a character as it is. -/
def basicPiece : Reader (List Char)
  | '\\' :: rest => (escape rest).map fun (c, rest) => ([c], rest)
  | cs => plain '"' cs

/-- A piece of a string of several lines, which may hold its own mark and line breaks. -/
def longPiece (m : Char) (piece : Reader (List Char)) : Reader (List Char) := fun cs =>
  match newline? cs with
  | some rest => some (['\n'], rest)
  | none =>
    match cs with
    | c :: rest => if c = m then some ([m], rest) else piece cs
    | [] => none

/-- A piece of a string of several lines between quotation marks: a backslash at the end of a line
takes the space that follows away. -/
def basicLongPiece : Reader (List Char) := fun cs =>
  let folded := match cs with
    | '\\' :: rest => newline? (skipBlanks rest)
    | _ => none
  match folded with
  | some rest => some ([], skipLines rest)
  | none => longPiece '"' basicPiece cs
where
  /-- A text without the blanks and line breaks at its front. -/
  skipLines : List Char → List Char
    | '\r' :: '\n' :: rest => skipLines rest
    | c :: rest => if isBlank c || c = '\n' then skipLines rest else c :: rest
    | [] => []

/-- A string of one line. -/
def shortString : Reader String
  | '"' :: rest => pieces (mark '"') basicPiece rest
  | '\'' :: rest => pieces (mark '\'') (plain '\'') rest
  | _ => none

/-- A string. A line break right after three opening marks does not belong to it. -/
def string : Reader String
  | '"' :: '"' :: '"' :: rest => pieces (marks '"') basicLongPiece ((newline? rest).getD rest)
  | '\'' :: '\'' :: '\'' :: rest =>
    pieces (marks '\'') (longPiece '\'' (plain '\'')) ((newline? rest).getD rest)
  | cs => shortString cs

/-! ### Keys -/

/-- Whether a character may stand in a key without quotation marks. -/
def isBare (c : Char) : Bool :=
  let n := c.toNat
  (48 ≤ n && n ≤ 57) || (65 ≤ n && n ≤ 90) || (97 ≤ n && n ≤ 122) || c = '-' || c = '_'

/-- A key without dots. -/
def simpleKey : Reader String := fun cs =>
  match cs with
  | '"' :: _ | '\'' :: _ => shortString cs
  | _ =>
    match cs.takeWhile isBare with
    | [] => none
    | name => some (String.ofList name, cs.dropWhile isBare)

/-- At most `fuel` keys with dots between them, blanks around each. -/
def keysUpTo : (fuel : Nat) → Reader (List String)
  | 0, _ => none
  | fuel + 1, cs => do
    let (key, cs) ← simpleKey (skipBlanks cs)
    match skipBlanks cs with
    | '.' :: rest => do
      let (path, rest) ← keysUpTo fuel rest
      return (key :: path, rest)
    | rest => return ([key], rest)

/-- How deep keys and values may be nested, and one more. -/
def depthLimit : Nat := 80

/-- A dotted key. -/
def keyPath : Reader (List String) := keysUpTo (depthLimit - 1)

end FlowBurst.Toml
