import RoutePattern.Text.Hex
import RoutePattern.Unicode.Printable

/-!
# Quoted text

Messages show a text between quotes with everything unprintable spelled out, so that it can be
read back from the message. Single quotes are the rule; double quotes stand where the text holds
a single quote and no double one.
-/
namespace RoutePattern.Text

/-- The single quotation mark. -/
def singleQuote : Char := '\x27'

/-- The double quotation mark. -/
def doubleQuote : Char := '\x22'

/-- The quotation mark around a text. -/
def quoteFor (text : Text) : Char :=
  if text.contains singleQuote && !text.contains doubleQuote then doubleQuote else singleQuote

/-- One character between quotes: the quote and the backslash after a backslash, line feed,
carriage return and tab by letter, and everything unprintable by its number. -/
def quoteChar (quote c : Char) : Text :=
  let code := c.toNat
  if c == quote || c == '\\' then ['\\', c]
  else if c == '\n' then ['\\', 'n']
  else if c == '\r' then ['\\', 'r']
  else if c == '\t' then ['\\', 't']
  else if Unicode.isPrintable code then [c]
  else if code < 0x100 then '\\' :: 'x' :: hexDigits 2 code
  else if code < 0x10000 then '\\' :: 'u' :: hexDigits 4 code
  else '\\' :: 'U' :: hexDigits 8 code

/-- A text between quotes. -/
def quoted (text : Text) : Text :=
  let quote := quoteFor text
  quote :: text.flatMap (quoteChar quote) ++ [quote]

end RoutePattern.Text
