/-
Quoted texts.

A text is shown between quotes with everything escaped that would not print:
single quotes, unless it holds a single quote and no double one.  The backslash
and the enclosing quote are escaped, so that the end of a quoted text is
unmistakable.
-/
import ShaderPlayer.Text.PrintableTable
import ShaderPlayer.Text.Word

namespace ShaderPlayer.Text

/-- Whether a character has a printed form; of all blanks only the space has one. -/
def isPrintable (c : Char) : Bool :=
  let n := c.toNat
  if n < 128 then 0x20 ≤ n && n < 0x7f else !inRanges unprintableRanges n

/-- The quote that encloses a text. -/
def quoteFor (t : Text) : Char :=
  if t.contains '\'' && !t.contains '"' then '"' else '\''

/-- One character of a quoted text. -/
def escapeChar (quote c : Char) : Text :=
  if c = quote ∨ c = '\\' then ['\\', c]
  else if c = '\n' then ['\\', 'n']
  else if c = '\r' then ['\\', 'r']
  else if c = '\t' then ['\\', 't']
  else if isPrintable c then [c]
  else if c.toNat < 0x100 then '\\' :: 'x' :: ofHex 2 c.toNat
  else if c.toNat < 0x10000 then '\\' :: 'u' :: ofHex 4 c.toNat
  else '\\' :: 'U' :: ofHex 8 c.toNat

/-- The text between quotes. -/
def quoted (t : Text) : Text :=
  let quote := quoteFor t
  quote :: t.flatMap (escapeChar quote) ++ [quote]

/-- A list of texts, each quoted, between brackets. -/
def quotedList (ts : List Text) : Text :=
  '[' :: join [',', ' '] (ts.map quoted) ++ [']']

end ShaderPlayer.Text
