import Reckoner.Text.Basic

/-!
# Tokens (kinded spans of a source text)

A token is a kind and a span. It holds no text of its own: what it spells is looked up
in a source text, and nothing ties it to the text it was read from, so every look-up
allows for a span that lies outside.
-/

namespace Reckoner

/-- What a token is. -/
inductive TokenKind where
  | unknown
  | eof
  | whitespace
  | number
  | plus
  | minus
  | times
  | slash
  | caret
  | leftParen
  | rightParen
  deriving DecidableEq, Repr

namespace TokenKind

/-- Every kind, in the order of declaration. -/
def all : List TokenKind :=
  [unknown, eof, whitespace, number, plus, minus, times, slash, caret, leftParen, rightParen]

/-- The word for a kind. -/
def word : TokenKind → Text
  | unknown => "unknown"
  | eof => "eof"
  | whitespace => "whitespace"
  | number => "number"
  | plus => "plus"
  | minus => "minus"
  | times => "times"
  | slash => "slash"
  | caret => "caret"
  | leftParen => "lparen"
  | rightParen => "rparen"

/-- The name of a kind: its word in capitals. -/
def name (k : TokenKind) : Text :=
  k.word.map Char.toUpper

/-- The characters that are tokens by themselves, with their kinds. -/
def singles : List (Char × TokenKind) :=
  [('+', plus), ('-', minus), ('*', times), ('/', slash), ('^', caret), ('(', leftParen),
    (')', rightParen)]

/-- The kind of a character that is a token by itself. -/
def ofChar? (c : Char) : Option TokenKind :=
  singles.lookup c

end TokenKind

/-- A kind of token and its span: `length` characters from place `start` on. -/
structure Token where
  kind : TokenKind
  start : Int
  length : Int
  deriving DecidableEq, Repr

namespace Token

/-- The characters of `source` within the span. -/
def text (t : Token) (source : Text) : Text :=
  source.slice t.start (t.start + t.length)

/-- What the token spells in `source`; nothing if the span is empty or starts behind
the end. -/
def spelling? (t : Token) (source : Text) : Option Text :=
  if source.length ≤ t.start ∨ t.length = 0 then none else some (t.text source)

/-- `buffer` with the spelling added, and whether there was one. -/
def appendTo (t : Token) (source buffer : Text) : Bool × Text :=
  match t.spelling? source with
  | some s => (true, buffer ++ s)
  | none => (false, buffer)

/-- The token as printed trees show it. -/
def describe (t : Token) : Text :=
  "Token(" ++ t.kind.name ++ ", begin=" ++ Text.ofInt t.start ++ ", length=" ++
    Text.ofInt t.length ++ ")"

end Token

end Reckoner
