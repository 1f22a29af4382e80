/-
# TOML documents

A document is read line by line into one table. A header closes the table before
it, files that table in the document and opens the next one, so the lines between
two headers build a table of their own.
-/

import BeanConstraints.Toml.Scalar

namespace BeanConstraints.Toml

/-- The items of an array up to its closing bracket, each read by `value`. A comma may follow
the last one. -/
def items? (value : List Char → Option (Toml × List Char)) (fuel : Nat) (cs : List Char) :
    Option (List Toml × List Char) :=
  match fuel with
  | 0 => none
  | fuel + 1 => do
      match ← skipFiller? false cs with
      | ']' :: rest => return ([], rest)
      | cs =>
          let (item, rest) ← value cs
          match ← skipFiller? false rest with
          | ',' :: rest =>
              let (items, rest) ← items? value fuel rest
              return (item :: items, rest)
          | ']' :: rest => return ([item], rest)
          | _ => none

/-- Keys with their values up to the closing brace, each value read by `value`, added to the
table read so far. All stands on one line, and no comma follows the last. -/
def members? (value : List Char → Option (Toml × List Char)) (fuel : Nat) (entries : Entries)
    (cs : List Char) : Option (Entries × List Char) :=
  match fuel with
  | 0 => none
  | fuel + 1 => do
      let ((path, key), rest) ← key? cs
      let rest ← expect? '=' rest
      let (item, rest) ← value (skipBlanks rest)
      let entries ← addKey? path key item entries
      match skipBlanks rest with
      | ',' :: rest => members? value fuel entries rest
      | '\x7d' :: rest => return (entries, rest)
      | _ => none

/-- A value and what follows it, with at most `depth` arrays and tables in one another. -/
def value? (depth : Nat) (cs : List Char) : Option (Toml × List Char) :=
  match depth, cs with
  | depth + 1, '[' :: rest => do
      let (items, rest) ← items? (value? depth) (rest.length + 1) rest
      return (.array items, rest)
  | depth + 1, '\x7b' :: rest =>
      match skipBlanks rest with
      | '\x7d' :: rest => some (.table .inline [], rest)
      | _ => do
          let (entries, rest) ← members? (value? depth) (rest.length + 1) [] rest
          return (.table .inline entries, rest)
  | _, 't' :: 'r' :: 'u' :: 'e' :: rest => some (.boolean true, rest)
  | _, 'f' :: 'a' :: 'l' :: 's' :: 'e' :: rest => some (.boolean false, rest)
  | _, cs =>
      match string? cs with
      | some (s, rest) => some (.string s, rest)
      | none => numeric? cs

/-- A document while it is read: the tables filed so far and the open table, to which lines
add. -/
structure Draft where
  filed : Entries
  /-- The header of the open table: the tables on the way to it, and its own name. -/
  header : Option (List String × String)
  /-- The open table is the next element of an array of tables. -/
  repeated : Bool
  entries : Entries

namespace Draft

/-- No line read yet: lines add to the document itself. -/
def start : Draft := ⟨[], none, false, []⟩

/-- File the open table in the document. -/
def close? (draft : Draft) : Option Entries :=
  match draft.header with
  | none => some draft.entries
  | some (path, key) => do
      let (filed, _) ← within .implied (fun _ outer =>
        match find? outer key with
        | some (.tables elements) =>
            if draft.repeated then
              some (replace outer key (.tables (elements ++ [draft.entries])), ())
            else none
        | some _ => none
        | none => some (outer ++ [(key, .table .header draft.entries)], ()))
        path .header draft.filed
      return filed

/-- Open a table by its header. A table that was only passed through so far is taken up with
what is in it; any other value under that name makes the header a repetition. -/
def openTable? (filed : Entries) (path : List String) (key : String) : Option Draft := do
  let (filed, held) ← within .implied (fun _ outer =>
    match find? outer key with
    | none => some (outer, [])
    | some (.table .implied inner) =>
        some (outer.filter (fun entry => entry.1 != key), inner)
    | some _ => none) path .header filed
  return ⟨filed, some (path, key), false, held⟩

/-- Open the next element of an array of tables by its header. -/
def openElement? (filed : Entries) (path : List String) (key : String) : Option Draft := do
  let (filed, _) ← within .implied (fun _ outer =>
    match find? outer key with
    | none => some (outer ++ [(key, .tables [])], ())
    | some (.tables _) => some (outer, ())
    | some _ => none) path .header filed
  return ⟨filed, some (path, key), true, []⟩

/-- Read a header, whose opening bracket is at the head of the line. -/
def header? (draft : Draft) (cs : List Char) : Option (Draft × List Char) := do
  let filed ← draft.close?
  match cs with
  | '[' :: '[' :: rest =>
      let ((path, key), rest) ← key? rest
      let rest ← expect? ']' rest
      let rest ← expect? ']' rest
      let rest ← restOfLine? rest
      return (← openElement? filed path key, rest)
  | _ =>
      let rest ← expect? '[' cs
      let ((path, key), rest) ← key? rest
      let rest ← expect? ']' rest
      let rest ← restOfLine? rest
      return (← openTable? filed path key, rest)

/-- Read a line that gives a key its value. -/
def keyLine? (draft : Draft) (cs : List Char) : Option (Draft × List Char) := do
  let ((path, key), rest) ← key? cs
  let rest ← expect? '=' rest
  let (value, rest) ← value? depthLimit (skipBlanks rest)
  let rest ← restOfLine? rest
  let entries ← addKey? path key value draft.entries
  return (⟨draft.filed, draft.header, draft.repeated, entries⟩, rest)

/-- Read the lines of a document, at most `fuel` of them. -/
def lines? (fuel : Nat) (draft : Draft) (cs : List Char) : Option Draft :=
  match fuel with
  | 0 => none
  | fuel + 1 =>
      match skipBlanks cs with
      | [] => some draft
      | '#' :: rest => do lines? fuel draft (← restOfLine? ('#' :: rest))
      | '\n' :: rest => lines? fuel draft rest
      | '\r' :: rest => do lines? fuel draft (← lineEnd? ('\r' :: rest))
      | '[' :: rest => do
          let (draft, rest) ← draft.header? ('[' :: rest)
          lines? fuel draft rest
      | rest => do
          let (draft, rest) ← draft.keyLine? rest
          lines? fuel draft rest

end Draft

/-- The table that a document denotes, if it is one. A byte order mark at its head does not
count. -/
def read? (text : String) : Option Entries := do
  let cs := match text.toList with
    | '\uFEFF' :: rest => rest
    | cs => cs
  let draft ← Draft.start.lines? (cs.length + 1) cs
  draft.close?

end BeanConstraints.Toml
