/-
# Words of TOML documents

Blanks, comments, line ends, keys and the four kinds of string. Every reader takes
the rest of the document and returns what it read together with what follows.
-/

import BeanConstraints.Text.Digits

namespace BeanConstraints.Toml

/-- A blank within a line. -/
def isBlank (c : Char) : Bool :=
  c == ' ' || c == '\t'

/-- Drop the blanks at the head. -/
def skipBlanks (cs : List Char) : List Char :=
  cs.dropWhile isBlank

/-- A character that may stand in a comment: no control character but the tabulator. -/
def isCommentChar (c : Char) : Bool :=
  c == '\t' || (0x20 ≤ c.toNat && c != '\x7f')

/-- A character that stands for itself in a string of one line in double quotes. -/
def isBasicChar (c : Char) : Bool :=
  c == '\t' || (0x20 ≤ c.toNat && c != '\x7f' && c != '"' && c != '\\')

/-- A character that may stand in a string in single quotes. -/
def isLiteralChar (c : Char) : Bool :=
  c == '\t' || (0x20 ≤ c.toNat && c != '\x7f' && c != '\'')

/-- A character of a key without quotes. -/
def isBareChar (c : Char) : Bool :=
  c.isAlphanum || c == '-' || c == '_'

/-- What follows the end of a line: a line feed, alone or after a carriage return. -/
def lineEnd? : List Char → Option (List Char)
  | '\n' :: rest => some rest
  | '\r' :: '\n' :: rest => some rest
  | _ => none

/-- What follows the rest of a line that may hold only blanks and a comment. The last line of a
document needs no line end. -/
def restOfLine? (cs : List Char) : Option (List Char) :=
  let cs := match skipBlanks cs with
    | '#' :: rest => rest.dropWhile isCommentChar
    | rest => rest
  if cs.isEmpty then some [] else lineEnd? cs

/-- Drop blanks, line ends and comments, which may stand between the items of an array. -/
def skipFiller? (inComment : Bool) : List Char → Option (List Char)
  | [] => if inComment then none else some []
  | '\n' :: rest => skipFiller? false rest
  | '\r' :: '\n' :: rest => skipFiller? false rest
  | c :: rest =>
      if inComment then
        if isCommentChar c then skipFiller? true rest else none
      else if isBlank c then skipFiller? false rest
      else if c == '#' then skipFiller? true rest
      else if c == '\r' then none
      else some (c :: rest)

/-- The character of a one-letter escape. -/
def escapedChar? : Char → Option Char
  | 'b' => some '\x08'
  | 't' => some '\t'
  | 'n' => some '\n'
  | 'f' => some '\x0c'
  | 'r' => some '\r'
  | '"' => some '"'
  | '\\' => some '\\'
  | _ => none

/-- The character whose code point the digits write in base 16. -/
def numberedChar? (digits : List Char) : Option Char := do
  let (n, _) ← Text.hexNumber? digits.length digits
  Text.charOf? n

/-- Put a character before the text that was read. -/
def prepend (c : Char) (read : List Char × List Char) : List Char × List Char :=
  (c :: read.1, read.2)

/-- The text of a string of one line in double quotes, after its opening quote. -/
def basicString? : List Char → Option (List Char × List Char)
  | [] => none
  | '"' :: rest => some ([], rest)
  | '\\' :: 'u' :: a :: b :: c :: d :: rest => do
      let x ← numberedChar? [a, b, c, d]
      (basicString? rest).map (prepend x)
  | '\\' :: 'U' :: a :: b :: c :: d :: e :: f :: g :: h :: rest => do
      let x ← numberedChar? [a, b, c, d, e, f, g, h]
      (basicString? rest).map (prepend x)
  | '\\' :: e :: rest => do
      let x ← escapedChar? e
      (basicString? rest).map (prepend x)
  | c :: rest => if isBasicChar c then (basicString? rest).map (prepend c) else none

/-- Whether a line ends here but for blanks. -/
def endsLine (cs : List Char) : Bool :=
  (lineEnd? (skipBlanks cs)).isSome

/-- The text of a string of several lines in double quotes, after its opening quotes. Up to two
quotes may stand before the closing three. While `skipping`, blanks and line ends are dropped:
a backslash at the end of a line asks for that. -/
def basicLines? (skipping : Bool) : List Char → Option (List Char × List Char)
  | [] => none
  | '"' :: '"' :: '"' :: '"' :: '"' :: rest => some (['"', '"'], rest)
  | '"' :: '"' :: '"' :: '"' :: rest => some (['"'], rest)
  | '"' :: '"' :: '"' :: rest => some ([], rest)
  | '"' :: rest => (basicLines? false rest).map (prepend '"')
  | '\r' :: '\n' :: rest =>
      if skipping then basicLines? true rest else (basicLines? false rest).map (prepend '\n')
  | '\n' :: rest =>
      if skipping then basicLines? true rest else (basicLines? false rest).map (prepend '\n')
  | '\\' :: 'u' :: a :: b :: c :: d :: rest => do
      let x ← numberedChar? [a, b, c, d]
      (basicLines? false rest).map (prepend x)
  | '\\' :: 'U' :: a :: b :: c :: d :: e :: f :: g :: h :: rest => do
      let x ← numberedChar? [a, b, c, d, e, f, g, h]
      (basicLines? false rest).map (prepend x)
  | '\\' :: e :: rest =>
      if endsLine (e :: rest) then basicLines? true (e :: rest)
      else do
        let x ← escapedChar? e
        (basicLines? false rest).map (prepend x)
  | c :: rest =>
      if skipping && isBlank c then basicLines? true rest
      else if isBasicChar c then (basicLines? false rest).map (prepend c)
      else none

/-- The text of a string of one line in single quotes, after its opening quote. -/
def literalString? : List Char → Option (List Char × List Char)
  | [] => none
  | '\'' :: rest => some ([], rest)
  | c :: rest => if isLiteralChar c then (literalString? rest).map (prepend c) else none

/-- The text of a string of several lines in single quotes, after its opening quotes. -/
def literalLines? : List Char → Option (List Char × List Char)
  | [] => none
  | '\'' :: '\'' :: '\'' :: '\'' :: '\'' :: rest => some (['\'', '\''], rest)
  | '\'' :: '\'' :: '\'' :: '\'' :: rest => some (['\''], rest)
  | '\'' :: '\'' :: '\'' :: rest => some ([], rest)
  | '\'' :: rest => (literalLines? rest).map (prepend '\'')
  | '\r' :: '\n' :: rest => (literalLines? rest).map (prepend '\n')
  | '\n' :: rest => (literalLines? rest).map (prepend '\n')
  | c :: rest => if isLiteralChar c then (literalLines? rest).map (prepend c) else none

/-- Drop one line end at the head. -/
def dropLineEnd (cs : List Char) : List Char :=
  (lineEnd? cs).getD cs

/-- A string of any kind. -/
def string? : List Char → Option (String × List Char)
  | '"' :: '"' :: '"' :: rest =>
      (basicLines? false (dropLineEnd rest)).map fun read => (String.ofList read.1, read.2)
  | '"' :: rest => (basicString? rest).map fun read => (String.ofList read.1, read.2)
  | '\'' :: '\'' :: '\'' :: rest =>
      (literalLines? (dropLineEnd rest)).map fun read => (String.ofList read.1, read.2)
  | '\'' :: rest => (literalString? rest).map fun read => (String.ofList read.1, read.2)
  | _ => none

/-- One part of a key: a string of one line, or bare characters. -/
def keyPart? : List Char → Option (String × List Char)
  | '"' :: rest => (basicString? rest).map fun read => (String.ofList read.1, read.2)
  | '\'' :: rest => (literalString? rest).map fun read => (String.ofList read.1, read.2)
  | cs =>
      match cs.span isBareChar with
      | ([], _) => none
      | (name, rest) => some (String.ofList name, rest)

/-- The parts of a dotted key, of which there may be `limit`, with the blanks around them. -/
def keyParts? (limit : Nat) (cs : List Char) : Option (List String × List Char) :=
  match limit with
  | 0 => none
  | limit + 1 => do
      let (part, rest) ← keyPart? (skipBlanks cs)
      match skipBlanks rest with
      | '.' :: rest =>
          let (parts, rest) ← keyParts? limit rest
          return (part :: parts, rest)
      | rest => return ([part], rest)

/-- How deep a document may nest: parts of a key, or arrays and tables in one another. -/
def depthLimit : Nat := 79

/-- A key as the tables on the way to it and its last part, and what follows it. -/
def key? (cs : List Char) : Option ((List String × String) × List Char) := do
  let (parts, rest) ← keyParts? depthLimit cs
  let last ← parts.getLast?
  return ((parts.dropLast, last), rest)

end BeanConstraints.Toml
