/-
# ExportDocs.Token -- tokens of a JavaScript source

A lexeme is a stretch of the source with its class; lexemes in order are the source.  A token is a
lexeme that means something to the extraction of exports, with the line it starts on: white space
and comments are left out, doc comments are kept (`Token.significant`).  Lines are counted on the
way from the index of one lexeme to the index of the next.
-/
import ExportDocs.Text.Blank
import ExportDocs.Text.Lines

namespace ExportDocs

set_option autoImplicit false

/-- The class of a lexeme. -/
inductive TokenClass where
  | blank
  | comment
  | lineComment
  | blockComment
  | hashbang
  | regex
  | doubleQuoted
  | singleQuoted
  | template
  | interpolation
  | binary
  | octal
  | hexadecimal
  | integer
  | float
  | punctuation
  | operator
  | operatorWord
  | keyword
  | declarationWord
  | reserved
  | constant
  | builtin
  | exception
  | identifier
  | privateName
  | error
  deriving DecidableEq, Repr, Inhabited

namespace TokenClass

/-- The name of a class in token dumps. -/
def label : TokenClass → String
  | blank => "Token.Text.Whitespace"
  | comment => "Token.Comment"
  | lineComment => "Token.Comment.Single"
  | blockComment => "Token.Comment.Multiline"
  | hashbang => "Token.Comment.Hashbang"
  | regex => "Token.Literal.String.Regex"
  | doubleQuoted => "Token.Literal.String.Double"
  | singleQuoted => "Token.Literal.String.Single"
  | template => "Token.Literal.String.Backtick"
  | interpolation => "Token.Literal.String.Interpol"
  | binary => "Token.Literal.Number.Bin"
  | octal => "Token.Literal.Number.Oct"
  | hexadecimal => "Token.Literal.Number.Hex"
  | integer => "Token.Literal.Number.Integer"
  | float => "Token.Literal.Number.Float"
  | punctuation => "Token.Punctuation"
  | operator => "Token.Operator"
  | operatorWord => "Token.Operator.Word"
  | keyword => "Token.Keyword"
  | declarationWord => "Token.Keyword.Declaration"
  | reserved => "Token.Keyword.Reserved"
  | constant => "Token.Keyword.Constant"
  | builtin => "Token.Name.Builtin"
  | exception => "Token.Name.Exception"
  | identifier => "Token.Name.Other"
  | privateName => "Token.Name"
  | error => "Token.Error"

/-- A comment of any form. -/
def isComment : TokenClass → Bool
  | comment | lineComment | blockComment | hashbang => true
  | _ => false

/-- A plain string literal. -/
def isString : TokenClass → Bool
  | doubleQuoted | singleQuoted => true
  | _ => false

/-- A string, template or regular expression literal, or a part of one. -/
def isLiteralText : TokenClass → Bool
  | regex | doubleQuoted | singleQuoted | template | interpolation => true
  | _ => false

/-- An operator, written in signs or as a word. -/
def isOperator : TokenClass → Bool
  | operator | operatorWord => true
  | _ => false

end TokenClass

/-- A stretch of the source with its class. -/
structure Lexeme where
  type : TokenClass
  value : Text
  deriving DecidableEq, Repr, Inhabited

/-- A lexeme with the index of its first character in the source. -/
structure PlacedLexeme extends Lexeme where
  index : Nat
  deriving DecidableEq, Repr, Inhabited

/-- A significant lexeme with the line it starts on, counted from one. -/
structure Token where
  type : TokenClass
  value : Text
  line : Nat
  deriving DecidableEq, Repr, Inhabited

/-- Whether a lexeme is a doc comment. -/
def Lexeme.isDoc (lexeme : Lexeme) : Bool :=
  lexeme.type.isComment && Text.startsWith lexeme.value "/**".toList &&
    lexeme.value != "/**/".toList

/-- Whether a lexeme is kept as a token. -/
def Lexeme.isSignificant (lexeme : Lexeme) : Bool :=
  !Text.allBlank lexeme.value && (!lexeme.type.isComment || lexeme.isDoc)

namespace Token

/-- The tokens among lexemes of a source; `line` is the line of the index `last`. -/
def significantAfter (source : Text) (line last : Nat) : List PlacedLexeme → List Token
  | [] => []
  | lexeme :: rest =>
    let here := line + Text.newlines (source.extract last lexeme.index)
    let others := significantAfter source here lexeme.index rest
    if lexeme.isSignificant then ⟨lexeme.type, lexeme.value, here⟩ :: others else others

/-- The tokens among the lexemes of a source. -/
def significant (source : Text) (lexemes : List PlacedLexeme) : List Token :=
  significantAfter source 1 0 lexemes

/-- A doc comment. -/
def isDoc (token : Token) : Bool := Lexeme.isDoc ⟨token.type, token.value⟩

/-- A plain string literal. -/
def isString (token : Token) : Bool := token.type.isString

/-- Punctuation of any form. -/
def isPunctuation (token : Token) : Bool := token.type == .punctuation

/-- The given punctuation. -/
def isMark (token : Token) (mark : Char) : Bool := token.isPunctuation && token.value == [mark]

/-- An opening bracket. -/
def isOpener (token : Token) : Bool := token.isMark '(' || token.isMark '{' || token.isMark '['

/-- A closing bracket. -/
def isCloser (token : Token) : Bool := token.isMark ')' || token.isMark '}' || token.isMark ']'

/-- Whether a token is spelled as the given word, whatever its class. -/
def spells (token : Token) (word : String) : Bool := token.value == word.toList

/-- A string literal without its quotes. -/
def stringValue (token : Token) : Text := token.value.tail.dropLast

/-- The line a token ends on. -/
def lastLine (token : Token) : Nat := token.line + Text.newlines token.value

end Token

end ExportDocs
