import Sexpr.Text.Cased
/-!
The classes of characters that lexemes are made of. A digit is an ASCII digit, `Char.isDigit`. Digits
are symbol characters too; special characters and whitespace are not.
-/
namespace Sexpr

def specialCharacters : List Char :=
  ['(', ')', '[', ']', '\x7b', '\x7d', '\x27', '\x60', '~', '^', '@']

def symbolMarks : List Char :=
  ['!', '#', '$', '%', '&', '*', '_', '-', '+', '=', ':', '<', '>', '.', '|']

def isSpecial (c : Char) : Bool :=
  specialCharacters.contains c

def isSymbolChar (c : Char) : Bool :=
  c.isDigit || isCased c || symbolMarks.contains c

def isWhitespace (c : Char) : Bool :=
  c = ' ' || c = ',' || c = '\t' || c = '\r' || c = '\n'

def opensGap (c : Char) : Bool :=
  isWhitespace c || c = ';'

end Sexpr
