import NonconformingQuad.Text.Printable

/-! Quoted texts in messages. The quote is an apostrophe, unless the text has apostrophes
and no double quote. Backslash, quote, line ends and tabulator are escaped by a backslash,
characters that do not show by their code point. -/
namespace NonconformingQuad.Text

/-- The last `width` hexadecimal digits of `n`. -/
def hexDigits (n : Nat) : Nat → List Char
  | 0 => []
  | width + 1 => hexDigits (n / 16) width ++ [Nat.digitChar (n % 16)]

def codePoint (n : Nat) : List Char :=
  if n < 256 then ['\\', 'x'] ++ hexDigits n 2
  else if n < 65536 then ['\\', 'u'] ++ hexDigits n 4
  else ['\\', 'U'] ++ hexDigits n 8

def escaped (quote c : Char) : List Char :=
  if c = quote ∨ c = '\\' then ['\\', c]
  else if c = '\t' then ['\\', 't']
  else if c = '\n' then ['\\', 'n']
  else if c = '\r' then ['\\', 'r']
  else if isPrintable c then [c]
  else codePoint c.toNat

def quoteOf (cs : List Char) : Char :=
  if cs.contains '\'' && !cs.contains '\"' then '\"' else '\''

def quoted (text : String) : String :=
  let cs := text.toList
  let q := quoteOf cs
  String.ofList (q :: cs.flatMap (escaped q) ++ [q])

end NonconformingQuad.Text
