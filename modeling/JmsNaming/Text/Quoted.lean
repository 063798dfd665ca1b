import JmsNaming.Text.Character

/-
Quoted text, as messages and nested values show it: between single quotes, or between double
quotes when the text has a single quote and no double one, with escapes for the backslash, the
quote used, line ends, tabs and whatever does not print.
-/
namespace JmsNaming.Text

/-- One character between quotes `q`. -/
def quotedChar (q c : Char) : List Char :=
  if c = q || c = '\\' then ['\\', c]
  else if c = '\n' then ['\\', 'n']
  else if c = '\r' then ['\\', 'r']
  else if c = '\t' then ['\\', 't']
  else if isPrintable c then [c]
  else if c.toNat < 0x100 then '\\' :: 'x' :: hexText c.toNat 2
  else if c.toNat < 0x10000 then '\\' :: 'u' :: hexText c.toNat 4
  else '\\' :: 'U' :: hexText c.toNat 8

/-- The quote that a text is put between. -/
def quoteFor (s : List Char) : Char :=
  if s.contains '\'' && !s.contains '"' then '"' else '\''

/-- The text between quotes. -/
def quoted (s : List Char) : List Char :=
  let q := quoteFor s
  q :: s.flatMap (quotedChar q) ++ [q]

end JmsNaming.Text
