import CompositionRoot.Text.ClusterTable
import CompositionRoot.Text.Printable

/-! Texts in double quotes, with escapes for what could not be told apart on a screen. -/
namespace CompositionRoot.Text

def codeEscape (c : Char) : List Char :=
  "\\u\x7b".toList ++ Nat.toDigits 16 c.toNat ++ ['}']

/-- A character as it is written between double quotes. Marks that would join the character before
them are escaped, and so is what has no visible form. -/
def quotedChar (c : Char) : List Char :=
  if c = '\x00' then ['\\', '0']
  else if c = '\t' then ['\\', 't']
  else if c = '\r' then ['\\', 'r']
  else if c = '\n' then ['\\', 'n']
  else if c = '"' ∨ c = '\\' then ['\\', c]
  else if graphemeExtendRanges.contains c ∨ ¬ isPrintable c then codeEscape c
  else [c]

def quoted (text : String) : String :=
  "\"" ++ String.ofList (text.toList.flatMap quotedChar) ++ "\""

end CompositionRoot.Text
