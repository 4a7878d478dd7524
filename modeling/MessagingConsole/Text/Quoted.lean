import MessagingConsole.Text.Unprintable

/-!
# Quoted texts

A text between double quotes, as the messages of this library show what a user
typed.  Nothing unprintable is left in it, so it never breaks a line.
-/

namespace MessagingConsole.Text

/-- How one character is written between quotes: the two marks of the notation
itself and four controls have short escapes, other unprintable characters are
written by their code point, all else stands for itself. -/
def escapeChar (c : Char) : List Char :=
  if c = '"' then ['\\', '"']
  else if c = '\\' then ['\\', '\\']
  else if c = '\n' then ['\\', 'n']
  else if c = '\r' then ['\\', 'r']
  else if c = '\t' then ['\\', 't']
  else if c = '\x00' then ['\\', '0']
  else if isUnprintable c then ['\\', 'u', '\x7b'] ++ Nat.toDigits 16 c.toNat ++ ['\x7d']
  else [c]

/-- A text in double quotes. -/
def quoted (text : String) : String :=
  String.ofList ('"' :: text.toList.flatMap escapeChar ++ ['"'])

end MessagingConsole.Text
