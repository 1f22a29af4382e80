/-
# Reading JSON

A reader for JSON texts. Strings are read in two steps: first the pieces between
the quotes, characters and escaped code units, then the pairing of surrogates.
Nesting is bounded only by the length of the text.
-/

import BeanConstraints.Json.Basic
import BeanConstraints.Text.Digits

namespace BeanConstraints.Json

/-- One piece of a string: a character, or a code unit given by a numeric escape. -/
inductive Piece where
  | plain (c : Char)
  | unit (n : Nat)

/-- The character of a one-letter escape. -/
def escapedChar? : Char → Option Char
  | '"' => some '"'
  | '\\' => some '\\'
  | '/' => some '/'
  | 'b' => some '\x08'
  | 'f' => some '\x0c'
  | 'n' => some '\n'
  | 'r' => some '\r'
  | 't' => some '\t'
  | _ => none

/-- The pieces of a string up to its closing quote, and what follows the quote. Control
characters have to be escaped. -/
def pieces? : List Char → Option (List Piece × List Char)
  | [] => none
  | '"' :: rest => some ([], rest)
  | '\\' :: 'u' :: a :: b :: c :: d :: rest => do
      let (n, _) ← Text.hexNumber? 4 [a, b, c, d]
      let (pieces, rest) ← pieces? rest
      return (.unit n :: pieces, rest)
  | '\\' :: e :: rest => do
      let c ← escapedChar? e
      let (pieces, rest) ← pieces? rest
      return (.plain c :: pieces, rest)
  | c :: rest => do
      if c.toNat < 0x20 then none
      let (pieces, rest) ← pieces? rest
      return (.plain c :: pieces, rest)

/-- The characters that pieces denote, if every surrogate among the units is paired. -/
def join? : List Piece → Option (List Char)
  | [] => some []
  | .plain c :: rest => (join? rest).map (c :: ·)
  | .unit high :: .unit low :: rest =>
      if 0xD800 ≤ high && high < 0xDC00 then
        if 0xDC00 ≤ low && low < 0xE000 then
          (join? rest).map (Char.ofNat (0x10000 + (high - 0xD800) * 0x400 + (low - 0xDC00)) :: ·)
        else none
      else do
        let c ← Text.charOf? high
        (join? (.unit low :: rest)).map (c :: ·)
  | .unit n :: rest => do
      let c ← Text.charOf? n
      (join? rest).map (c :: ·)

/-- The value that the pieces of a string denote. -/
def ofPieces (pieces : List Piece) : Json :=
  match join? pieces with
  | some cs => string (String.ofList cs)
  | none => unpaired

/-- Blanks between tokens. -/
def isSpace (c : Char) : Bool :=
  c == ' ' || c == '\t' || c == '\n' || c == '\r'

/-- Drop the blanks at the head. -/
def skipSpace (cs : List Char) : List Char :=
  cs.dropWhile isSpace

/-- A run of at least one digit and what follows it. -/
def digits? (cs : List Char) : Option (List Char × List Char) :=
  match cs.span (Text.isDigitIn 10) with
  | ([], _) => none
  | run => some run

/-- The whole part of a number. A leading zero stands alone. -/
def whole? : List Char → Option (List Char × List Char)
  | '0' :: rest =>
      match rest with
      | c :: _ => if Text.isDigitIn 10 c then none else some (['0'], rest)
      | [] => some (['0'], rest)
  | cs => digits? cs

/-- The fraction of a number, empty if there is none. -/
def fraction? : List Char → Option (List Char × List Char)
  | '.' :: rest => (digits? rest).map fun run => ('.' :: run.1, run.2)
  | cs => some ([], cs)

/-- The exponent of a number, empty if there is none. -/
def exponent? : List Char → Option (List Char × List Char)
  | e :: rest =>
      if e == 'e' || e == 'E' then
        match rest with
        | s :: rest' =>
            if s == '+' || s == '-' then (digits? rest').map fun run => (e :: s :: run.1, run.2)
            else (digits? rest).map fun run => (e :: run.1, run.2)
        | [] => none
      else some ([], e :: rest)
  | [] => some ([], [])

/-- A number and what follows it. -/
def number? (cs : List Char) : Option (Json × List Char) := do
  let (negative, cs) := match cs with
    | '-' :: rest => (true, rest)
    | _ => (false, cs)
  let (whole, cs) ← whole? cs
  let (fraction, cs) ← fraction? cs
  let (exponent, cs) ← exponent? cs
  let n := Text.ofDigits 10 whole
  if fraction.isEmpty && exponent.isEmpty && !(negative && n == 0) then
    return (integer (if negative then -(n : Int) else n), cs)
  let sign := if negative then ['-'] else []
  return (decimal (String.ofList (sign ++ whole ++ fraction ++ exponent)), cs)

/-- The object of members whose keys are given as pieces. -/
def ofMembers (members : List (List Piece × Json)) : Json :=
  let named := members.mapM fun entry => (join? entry.1).map fun key => (String.ofList key, entry.2)
  match named with
  | some members => object members
  | none => unpaired

mutual

/-- A value and what follows it, in at most `fuel` nested steps. -/
def value? (fuel : Nat) (cs : List Char) : Option (Json × List Char) :=
  match fuel with
  | 0 => none
  | fuel + 1 =>
      match skipSpace cs with
      | 'n' :: 'u' :: 'l' :: 'l' :: rest => some (null, rest)
      | 't' :: 'r' :: 'u' :: 'e' :: rest => some (bool true, rest)
      | 'f' :: 'a' :: 'l' :: 's' :: 'e' :: rest => some (bool false, rest)
      | '"' :: rest => (pieces? rest).map fun read => (ofPieces read.1, read.2)
      | '[' :: rest =>
          match skipSpace rest with
          | ']' :: rest => some (array [], rest)
          | rest => (items? fuel rest).map fun read => (array read.1, read.2)
      | '\x7b' :: rest =>
          match skipSpace rest with
          | '\x7d' :: rest => some (object [], rest)
          | rest => (members? fuel rest).map fun read => (ofMembers read.1, read.2)
      | rest => number? rest

/-- The items of an array up to its closing bracket. -/
def items? (fuel : Nat) (cs : List Char) : Option (List Json × List Char) :=
  match fuel with
  | 0 => none
  | fuel + 1 => do
      let (item, rest) ← value? fuel cs
      match skipSpace rest with
      | ',' :: rest =>
          let (items, rest) ← items? fuel rest
          return (item :: items, rest)
      | ']' :: rest => return ([item], rest)
      | _ => none

/-- The members of an object up to its closing brace. -/
def members? (fuel : Nat) (cs : List Char) : Option (List (List Piece × Json) × List Char) :=
  match fuel with
  | 0 => none
  | fuel + 1 =>
      match skipSpace cs with
      | '"' :: rest => do
          let (key, rest) ← pieces? rest
          match skipSpace rest with
          | ':' :: rest =>
              let (item, rest) ← value? fuel rest
              match skipSpace rest with
              | ',' :: rest =>
                  let (members, rest) ← members? fuel rest
                  return ((key, item) :: members, rest)
              | '\x7d' :: rest => return ([(key, item)], rest)
              | _ => none
          | _ => none
      | _ => none

end

/-- The value that a text denotes, if it is one JSON value between blanks. Every nested step
reads a character, so the length of the text bounds the nesting. -/
def read? (text : String) : Option Json :=
  let cs := text.toList
  match value? (2 * cs.length + 2) cs with
  | some (value, rest) => if (skipSpace rest).isEmpty then some value else none
  | none => none

end BeanConstraints.Json
