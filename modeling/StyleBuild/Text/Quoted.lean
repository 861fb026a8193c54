import StyleBuild.Text.CharClass.Printable

/-!
# Quoted texts

Messages quote what the user wrote so that it can be told from the words around it.  The quotes are
single, unless the text has a single quote and no double one; a backslash, the chosen quote and
everything that is not printable are escaped.
-/

namespace StyleBuild.Text

/-- Single quotes, unless only double ones leave the text without an escape. -/
def quoteFor (t : Text) : Char :=
  if t.contains '\'' && !t.contains '"' then '"' else '\''

/-- One character between quotes of the kind `quote`. -/
def escaped (quote c : Char) : Text :=
  if c = quote || c = '\\' then ['\\', c]
  else if c = '\n' then ['\\', 'n']
  else if c = '\r' then ['\\', 'r']
  else if c = '\t' then ['\\', 't']
  else if CharClass.isPrintable c then [c]
  else if c.toNat < 0x100 then '\\' :: 'x' :: hex 2 c.toNat
  else if c.toNat < 0x10000 then '\\' :: 'u' :: hex 4 c.toNat
  else '\\' :: 'U' :: hex 8 c.toNat

/-- The text between quotes. -/
def quoted (t : Text) : Text :=
  quoteFor t :: t.flatMap (escaped (quoteFor t)) ++ [quoteFor t]

end StyleBuild.Text
