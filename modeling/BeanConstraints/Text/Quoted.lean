/-
# Quoted texts and labelled fields

The form in which values are shown for inspection: a text stands in double
quotes with everything unprintable escaped, and a record stands as its name
followed by its fields in braces, on one line.
-/

import BeanConstraints.Text.Printable

namespace BeanConstraints.Text

/-- A digit of a number in base 16, in lower case. -/
def hexDigit (n : Nat) : Char :=
  if n < 10 then Char.ofNat (48 + n) else Char.ofNat (87 + n)

/-- A number in base 16 without leading zeros. -/
def hexDigits (n : Nat) : List Char :=
  if n < 16 then [hexDigit n] else hexDigits (n / 16) ++ [hexDigit (n % 16)]

/-- How one character stands inside double quotes. -/
def quotedChar (c : Char) : List Char :=
  if c = '\x00' then ['\\', '0']
  else if c = '\t' then ['\\', 't']
  else if c = '\n' then ['\\', 'n']
  else if c = '\r' then ['\\', 'r']
  else if c = '"' then ['\\', '"']
  else if c = '\\' then ['\\', '\\']
  else if isPrintable c then [c]
  else ['\\', 'u', '\x7b'] ++ hexDigits c.toNat ++ ['\x7d']

/-- A text in double quotes with everything unprintable escaped. -/
def quoted (s : String) : String :=
  String.ofList ('"' :: s.toList.flatMap quotedChar ++ ['"'])

/-- Texts in square brackets, separated by commas. -/
def bracketed (items : List String) : String :=
  "[" ++ ", ".intercalate items ++ "]"

/-- The fields of a record, each as its label and its value. -/
def shownFields (fields : List (String × String)) : List String :=
  fields.map fun field => field.1 ++ ": " ++ field.2

/-- A record as its name and its fields in braces. -/
def labelled (name : String) (fields : List (String × String)) : String :=
  name ++ " \x7b " ++ ", ".intercalate (shownFields fields) ++ " \x7d"

/-- A record that holds more than the fields it shows, which two dots stand for. -/
def labelledOpen (name : String) (fields : List (String × String)) : String :=
  name ++ " \x7b " ++ ", ".intercalate (shownFields fields ++ [".."]) ++ " \x7d"

/-- Keys and values in braces. -/
def braced (entries : List (String × String)) : String :=
  "\x7b" ++ ", ".intercalate (shownFields entries) ++ "\x7d"

end BeanConstraints.Text
