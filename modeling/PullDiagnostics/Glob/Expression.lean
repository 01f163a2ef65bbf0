import PullDiagnostics.Glob.Parser

/-!
# Patterns as regular expressions

A set of patterns is compiled as a whole. Patterns that a comparison of texts can decide (a
text as it stands, a text at the start or the end of a path, an extension) need no more; all
others become regular expressions, and an expression that is nested too deeply cannot be
compiled. Then there is no set at all: `setError?` tells why.

The height of an expression counts repetitions, groups, branches, sequences and classes; a
sequence, a class or a choice of one item has the height of the item.
-/

namespace PullDiagnostics.Glob

/-! ### The text of an expression -/

/-- The characters that mean something in an expression. -/
def metaCharacters : List Char :=
  "\\.+*?()|[]\x7b\x7d^$#&-~".toList

/-- A byte that stands for itself in an expression. -/
def escapedByte (b : UInt8) : List Char :=
  if 0x80 ≤ b then '\\' :: 'x' :: Hex.padded 2 b.toNat
  else if metaCharacters.contains (asciiChar b) then ['\\', asciiChar b]
  else [asciiChar b]

/-- A character that stands for itself in an expression. -/
def escaped (c : Char) : List Char :=
  (String.utf8EncodeChar c).flatMap escapedByte

/-- A range in a class of an expression. -/
def rangeExpression (range : Char × Char) : List Char :=
  if range.1 = range.2 then escaped range.1 else escaped range.1 ++ '-' :: escaped range.2

mutual

/-- The expression of a token. -/
def Token.expression (closed : Bool) : Token → List Char
  | .literal c => escaped c
  | .anyByte => if closed then "[^/]".toList else ['.']
  | .anyRun => if closed then "[^/]*".toList else ['.', '*']
  | .leading => "(?:/?|.*/)".toList
  | .trailing => "/.*".toList
  | .between => "(?:/|/.*/)".toList
  | .oneOf negated ranges =>
      '[' :: ((if negated then ['^'] else []) ++ ranges.flatMap rangeExpression ++ [']'])
  | .either branches =>
      match branchExpressions closed branches with
      | [] => []
      | first :: others => "(?:".toList ++ List.intercalate ['|'] (first :: others) ++ [')']

/-- The expression of a list of tokens. -/
def sequenceExpression (closed : Bool) : List Token → List Char
  | [] => []
  | t :: rest => t.expression closed ++ sequenceExpression closed rest

/-- The expressions of those branches that are not empty. -/
def branchExpressions (closed : Bool) : List (List Token) → List (List Char)
  | [] => []
  | branch :: rest =>
      let text := sequenceExpression closed branch
      if text.isEmpty then branchExpressions closed rest
      else text :: branchExpressions closed rest

end

/-- The expression of a pattern; its characters are bytes. -/
def expression (closed : Bool) (tokens : List Token) : List Char :=
  "(?-u)^".toList ++ sequenceExpression closed tokens ++ ['$']

/-! ### The height of an expression -/

/-- How many items the expression of a token puts into the sequence around it. -/
def Token.itemCount : Token → Nat
  | .literal c => c.utf8Size
  | .trailing => 2
  | .either branches => if anySolid branches then 1 else 0
  | _ => 1

/-- How many items the expressions of tokens make together. -/
def itemCount (tokens : List Token) : Nat :=
  tokens.foldl (fun n token => n + token.itemCount) 0

mutual

/-- The height of the expression of a token. -/
def Token.height (closed : Bool) : Token → Nat
  | .literal _ => 0
  | .anyByte => if closed then 1 else 0
  | .anyRun => if closed then 2 else 1
  | .leading | .between => 4
  | .trailing => 1
  | .oneOf _ ranges =>
      if 2 ≤ (ranges.flatMap fun (low, high) => byteRanges low high).length then 2 else 1
  | .either branches =>
      if !anySolid branches then 0
      else if 2 ≤ (branches.filter hasSolid).length then branchHeight closed branches + 2
      else branchHeight closed branches + 1

/-- The height of the highest one of some tokens. -/
def tallest (closed : Bool) : List Token → Nat
  | [] => 0
  | t :: rest => max (t.height closed) (tallest closed rest)

/-- The height of the highest one of some branches. -/
def branchHeight (closed : Bool) : List (List Token) → Nat
  | [] => 0
  | branch :: rest =>
      let height := tallest closed branch
      max (if 2 ≤ itemCount branch then height + 1 else height) (branchHeight closed rest)

end

/-- The greatest height of an expression that can be compiled. -/
def maxHeight : Nat := 250

/-- Whether the expression of a pattern cannot be compiled. It is a sequence, as the marks of
its ends are items. -/
def isTooDeep (closed : Bool) (tokens : List Token) : Bool :=
  maxHeight < tallest closed tokens + 1

/-! ### Patterns that need no expression -/

/-- Whether all tokens are characters that stand for themselves. -/
def isText (tokens : List Token) : Bool :=
  tokens.all fun
    | .literal _ => true
    | _ => false

/-- The tokens after a star, if a star may stand for any stretch. -/
def afterRun? (closed : Bool) : List Token → Option (List Token)
  | .anyRun :: rest => if closed then none else some rest
  | _ => none

/-- Whether a pattern asks for an extension and nothing else. -/
def asksExtension (closed : Bool) (tokens : List Token) : Bool :=
  let name? : Option (List Token) := match tokens with
    | .leading :: .anyRun :: rest => some rest
    | _ => afterRun? closed tokens
  match name? with
  | some (.literal '.' :: rest) =>
      rest.all fun
        | .literal c => c != '.' && c != '/'
        | _ => false
  | _ => false

/-- Whether a pattern asks for a text at the start of a path and nothing else. -/
def asksStart (closed : Bool) (tokens : List Token) : Bool :=
  match tokens.reverse with
  | .trailing :: before => isText before
  | .anyRun :: before => !closed && !before.isEmpty && isText before
  | _ => !tokens.isEmpty && isText tokens

/-- Whether a pattern asks for a text at the end of a path and nothing else. -/
def asksEnd (closed : Bool) (tokens : List Token) : Bool :=
  let rest := match tokens with
    | .leading :: rest => rest
    | _ => tokens
  match rest with
  | [] => false
  | .anyRun :: text =>
      !closed && isText text && !text.isEmpty &&
        !(match text with | [.literal '/'] => true | _ => false)
  | text => isText text

/-- Whether comparing texts decides about a pattern. -/
def isPlain (closed : Bool) (tokens : List Token) : Bool :=
  asksStart closed tokens || asksExtension closed tokens || asksEnd closed tokens

/-- Whether a pattern ends in a text with a dot and no slash behind it, so that only paths with
one extension are held against it. -/
def needsExtension (tokens : List Token) : Bool :=
  let ending := tokens.reverse.takeWhile fun
    | .literal c => c != '.' && c != '/'
    | _ => false
  match tokens.reverse.drop ending.length with
  | .literal '.' :: _ => true
  | _ => false

/-! ### Sets of patterns -/

/-- Why patterns make no set: the expression of one of them cannot be compiled. -/
inductive SetError where
  /-- The one of this number among those that become one expression. -/
  | together (number : Nat)
  /-- One that is compiled alone. -/
  | alone (expression : String)
  deriving DecidableEq, Inhabited

/-- What is said of patterns that make no set. -/
def SetError.message : SetError → String
  | .together n => "error parsing pattern " ++ toString n
  | .alone expression => "error parsing glob '" ++ expression ++ "': error parsing pattern 0"

/-- Why patterns make no set. Those that need an extension are compiled one by one, before the
others. -/
def setError? (closed : Bool) (globs : List Glob) : Option SetError :=
  let compiled := (globs.map Glob.tokens).filter (!isPlain closed ·)
  let (single, joint) := compiled.partition needsExtension
  match single.find? (isTooDeep closed) with
  | some tokens => some (.alone (String.ofList (expression closed tokens)))
  | none => (joint.findIdx? (isTooDeep closed)).map .together

end PullDiagnostics.Glob
