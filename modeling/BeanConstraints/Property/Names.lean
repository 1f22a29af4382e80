/-
# What property values mean

A flag is on exactly if its value is the word "true", in any mixture of ASCII
cases. A list of names is separated by commas, with blanks around the names.
Empty entries at the end do not count; an empty entry before a name stays, so
that whoever reads the list can refuse it.
-/

import BeanConstraints.Text.Blank

namespace BeanConstraints.Property

/-- The ASCII letters in lower case; every other character as it is. -/
def lowerAscii (s : String) : List Char :=
  s.toList.map Char.toLower

/-- Whether a value turns a flag on. -/
def isTrue (value : String) : Bool :=
  lowerAscii value == "true".toList

/-- The entries between the commas, trimmed. -/
def entries (value : String) : List (List Char) :=
  (value.toList.splitOn ',').map Text.trimChars

/-- Drop the empty entries at the end. -/
def dropTrailingEmpty (entries : List (List Char)) : List (List Char) :=
  (entries.reverse.dropWhile List.isEmpty).reverse

/-- Keep every entry at its first place only. -/
def firsts : List (List Char) → List (List Char)
  | [] => []
  | entry :: rest => entry :: (firsts rest).filter (fun later => later != entry)

/-- The names in a list separated by commas. -/
def names (value : String) : List String :=
  (firsts (dropTrailingEmpty (entries value))).map String.ofList

end BeanConstraints.Property
