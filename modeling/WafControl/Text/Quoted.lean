import WafControl.Text.Unprintable

/-!
# Quoted text

Text in double quotes, as it stands inside a message and as it stands in JSON.

Inside a message a quote and a backslash are escaped, tab, carriage return, line feed and NUL have
letters of their own, and any other character that is not printed is shown by its number in
lower-case hexadecimal without leading zeros. An apostrophe and all other characters stand for
themselves.

In JSON the shortest way is taken: what has a letter of its own behind a backslash is written with
it, other control characters with four digits, and everything else as it is.
-/

namespace WafControl

namespace Text

/-- How one character is written between the quotes. -/
def quotedChar (c : Char) : List Char :=
  if c = '"' then ['\\', '"']
  else if c = '\\' then ['\\', '\\']
  else if c = '\t' then ['\\', 't']
  else if c = '\r' then ['\\', 'r']
  else if c = '\n' then ['\\', 'n']
  else if c.val = 0 then ['\\', '0']
  else if isUnprintable c then ['\\', 'u', '\x7b'] ++ hexDigits c.toNat ++ ['\x7d']
  else [c]

def quoted (s : String) : String :=
  String.ofList ('"' :: s.toList.flatMap quotedChar ++ ['"'])

end Text

namespace Json

/-- The letter that stands for a character behind a backslash. -/
def escapeLetter? (c : Char) : Option Char :=
  if c = '"' then some '"'
  else if c = '\\' then some '\\'
  else if c = '\n' then some 'n'
  else if c = '\r' then some 'r'
  else if c = '\t' then some 't'
  else if c.val = 8 then some 'b'
  else if c.val = 12 then some 'f'
  else none

def quotedChar (c : Char) : List Char :=
  match escapeLetter? c with
  | some letter => ['\\', letter]
  | none =>
    if c.toNat < 32 then ['\\', 'u', '0', '0'] ++ Text.hexByte c.toUInt8 else [c]

def quoted (s : String) : String := String.ofList ('"' :: s.toList.flatMap quotedChar ++ ['"'])

end Json

end WafControl
