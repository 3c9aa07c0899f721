import Fieldwatch.Text.Hidden

/-!
# Quoted text

How a text is shown inside an error message: between double quotes, with a backslash before
quotes and backslashes, short names for the common control characters, and a hexadecimal code
for every other hidden character.
-/
namespace Fieldwatch.Text

/-- A number in lower-case hexadecimal digits, without leading zeros. -/
def hex (number : Nat) : String :=
  String.ofList (Nat.toDigits 16 number)

/-- The characters that stand for one character of a quoted text. -/
def quotedChar (c : Char) : List Char :=
  if c = '"' then ['\\', '"']
  else if c = '\\' then ['\\', '\\']
  else if c = '\n' then ['\\', 'n']
  else if c = '\r' then ['\\', 'r']
  else if c = '\t' then ['\\', 't']
  else if c.toNat = 0 then ['\\', '0']
  else if isHidden c then "\\u\x7b".toList ++ (hex c.toNat).toList ++ ['}']
  else [c]

def quote (text : String) : String :=
  String.ofList ('"' :: text.toList.flatMap quotedChar ++ ['"'])

end Fieldwatch.Text
