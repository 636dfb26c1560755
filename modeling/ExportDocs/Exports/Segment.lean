/-
# ExportDocs.Exports.Segment -- cutting tokens into top-level statements

The tokens of a module are cut into segments: a doc comment between statements, or the tokens of
one statement.  A statement ends with a semicolon outside brackets, or before a token outside
brackets that begins another statement; a doc comment outside brackets begins one, and so does a
statement keyword unless the token before it asks for more.
-/
import ExportDocs.Token

namespace ExportDocs

set_option autoImplicit false

/-- A stretch of tokens at the top level. -/
inductive Segment where
  | doc (comment : Token)
  | statement (first : Token) (more : List Token)
  deriving DecidableEq, Repr, Inhabited

namespace Segment

/-- The tokens of a segment. -/
def tokens : Segment → List Token
  | doc comment => [comment]
  | statement first more => first :: more

/-- Words that begin a declaration. -/
def declarationKeywords : List Text :=
  ["function".toList, "class".toList, "const".toList, "let".toList, "var".toList]

/-- Tokens after which a statement keyword continues the current statement. -/
def continuations : List Text :=
  ["=", "(", "[", ",", ":", "?", "=>", ".", "...", "default", "export", "async", "return", "await",
    "yield", "extends", "new", "typeof", "void", "delete", "in", "of", "instanceof"].map
    String.toList

/-- Whether a token begins a module statement, given the token that follows it. -/
def isStarter (token : Token) (following : Option Token) : Bool :=
  if token.isString || token.isPunctuation then false
  else if declarationKeywords.contains token.value || token.spells "export" then true
  else if token.spells "import" then
    following.any fun other => !(other.isMark '(' || other.isMark '.')
  else if token.spells "async" then following.any (·.spells "function")
  else false

/-- Whether a token outside brackets begins a new statement after `previous`. -/
def isBoundary (previous token : Token) (following : Option Token) : Bool :=
  token.isDoc ||
    (isStarter token following &&
      !(previous.type.isOperator || continuations.contains previous.value))

/-- How many brackets are open after a token; a closing bracket too many closes none. -/
def depthAfter (depth : Nat) (token : Token) : Nat :=
  if token.isOpener then depth + 1 else if token.isCloser then depth - 1 else depth

/-- Whether a token is no bracket and stands outside all brackets. -/
def isOutside (depth : Nat) (token : Token) : Bool :=
  depth == 0 && !token.isOpener && !token.isCloser

/-- The rest of a statement whose last token so far is `previous`, and the tokens after it. -/
def statementRest (depth : Nat) (previous : Token) : List Token → List Token × List Token
  | [] => ([], [])
  | token :: rest =>
    if isOutside depth token && token.isMark ';' then ([token], rest)
    else if isOutside depth token && isBoundary previous token rest.head? then ([], token :: rest)
    else
      let (inside, after) := statementRest (depthAfter depth token) token rest
      (token :: inside, after)

/-- A statement from its first token on: its further tokens and the tokens after it. -/
def statementFrom (first : Token) (rest : List Token) : List Token × List Token :=
  if isOutside 0 first && first.isMark ';' then ([], rest)
  else statementRest (depthAfter 0 first) first rest

theorem statementRest_append (depth : Nat) (previous : Token) (tokens : List Token) :
    (statementRest depth previous tokens).1 ++ (statementRest depth previous tokens).2 = tokens := by
  fun_induction statementRest depth previous tokens <;> simp_all

theorem statementFrom_append (first : Token) (rest : List Token) :
    (statementFrom first rest).1 ++ (statementFrom first rest).2 = rest := by
  unfold statementFrom
  split
  · rfl
  · exact statementRest_append _ _ _

theorem statementFrom_length (first : Token) (rest : List Token) :
    (statementFrom first rest).2.length ≤ rest.length := by
  have same := congrArg List.length (statementFrom_append first rest)
  rw [List.length_append] at same
  omega

/-- The segments of a token list. -/
def split : List Token → List Segment
  | [] => []
  | token :: rest =>
    if token.isDoc then doc token :: split rest
    else statement token (statementFrom token rest).1 :: split (statementFrom token rest).2
termination_by tokens => tokens.length
decreasing_by
  · simp
  · have := statementFrom_length token rest
    simp only [List.length_cons]
    omega

/-- The segments in order are the token list. -/
theorem flatten_split (all : List Token) : ((split all).map tokens).flatten = all := by
  fun_induction split all with
  | case1 => rfl
  | case2 token rest _ ih => simp [tokens, ih]
  | case3 token rest _ ih =>
    simp [tokens, ih, statementFrom_append]

end Segment

end ExportDocs
