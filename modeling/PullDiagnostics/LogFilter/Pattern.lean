import PullDiagnostics.Bytes
import PullDiagnostics.Text.Blank
import PullDiagnostics.Text.Letter

/-!
# Patterns for the values of fields

A directive may ask that the text of a field match a regular expression. Here it is only
decided whether a text is one: `isPattern`. A pattern stands between braces, so none is closed
in it, and no item can be repeated a given number of times.

Letters of all scripts are not told apart in a pattern: what depends on them (letters of
either case, the classes of digits, blanks and word characters, the ends of words) is refused
where `Flags.unicode` holds. Where it does not hold, whatever matches bytes beyond ASCII is
refused instead, as a value is text and such a byte is none.

A pattern must not be nested too deeply. Its height counts repetitions, groups, branches,
sequences and classes; a part of one item has the height of the item.
-/

namespace PullDiagnostics.LogFilter

/-- What the flags of a group say of the text in it. -/
structure Flags where
  ignoresCase : Bool := false
  unicode : Bool := true
  spaced : Bool := false
  deriving DecidableEq, Inhabited

/-- The flags that there are. -/
def flagLetters : List Char :=
  ['i', 'm', 's', 'U', 'u', 'R', 'x']

/-- The flags with one of them put on or off. -/
def Flags.set (flags : Flags) (on : Bool) (letter : Char) : Flags :=
  if letter = 'i' then { flags with ignoresCase := on }
  else if letter = 'u' then { flags with unicode := on }
  else if letter = 'x' then { flags with spaced := on }
  else flags

/-- How deeply a pattern may be nested. -/
def tallestPattern : Nat := 250

/-! ### Blanks and comments -/

/-- What follows blanks and comments; a comment goes from a number sign to the end of the
line. -/
def skipSpace : (inComment : Bool) → List Char → List Char
  | _, [] => []
  | true, c :: rest => skipSpace (c != '\n') rest
  | false, c :: rest =>
      if Text.isBlank c then skipSpace false rest
      else if c = '#' then skipSpace true rest
      else c :: rest

/-- What follows blanks and comments, where the flags allow for them. -/
def Flags.skip (flags : Flags) (text : List Char) : List Char :=
  if flags.spaced then skipSpace false text else text

/-- The character that counts as the next one after a minus sign. Blanks before it do not
count and a number sign does not, but the comment after it does. -/
def Flags.peek (flags : Flags) (text : List Char) : Option Char :=
  if !flags.spaced then text.head?
  else
    match text.dropWhile Text.isBlank with
    | '#' :: rest => ((rest.dropWhile Text.isBlank).head?).or text.head?
    | c :: _ => some c
    | [] => text.head?

/-! ### Single characters -/

/-- What one character or one escape stands for. -/
inductive Atom where
  /-- A character; `asByte` says that it was written as two hexadecimal digits. -/
  | char (c : Char) (asByte : Bool)
  /-- Any character but the end of a line. -/
  | any
  /-- A place, which may have to do with words. -/
  | place (ofWord : Bool)
  /-- A class with a name of one letter, or all that is not in it. -/
  | named (negated : Bool)
  deriving DecidableEq, Inhabited

/-- Whether an atom may stand in a sequence. -/
def Atom.isAllowed (flags : Flags) : Atom → Bool
  | .char c asByte =>
      if flags.unicode then !flags.ignoresCase else !(asByte && 0x80 ≤ c.toNat)
  | .any => flags.unicode
  | .place ofWord => !(ofWord && flags.unicode)
  | .named negated => !flags.unicode && !negated

/-- Whether an atom may stand in a class. -/
def Atom.isAllowedInClass (flags : Flags) : Atom → Bool
  | .char c _ => flags.unicode || c.toNat < 0x80
  | .named negated => !flags.unicode && !negated
  | .any | .place _ => false

/-- Reads a number of hexadecimal digits, which blanks may divide. -/
def readHex (flags : Flags) : (count : Nat) → (value : Nat) → List Char →
    Option (Nat × List Char)
  | 0, value, text => some (value, text)
  | _ + 1, _, [] => none
  | count + 1, value, c :: rest => do
      readHex flags count (16 * value + (← Hex.value? c)) (flags.skip rest)

/-- Reads the character that hexadecimal digits stand for. -/
def readCoded (flags : Flags) (count : Nat) (text : List Char) : Option (Atom × List Char) := do
  let (n, rest) ← readHex flags count 0 (flags.skip text)
  if n.isValidChar then some (.char (Char.ofNat n) (count == 2), rest) else none

/-- The letters that stand for a control character. -/
def controlLetters : List (Char × Nat) :=
  [('a', 0x07), ('f', 0x0C), ('t', 0x09), ('n', 0x0A), ('r', 0x0D), ('v', 0x0B)]

/-- Reads what follows a backslash. -/
def readEscape (flags : Flags) : List Char → Option (Atom × List Char)
  | [] => none
  | c :: rest =>
      if c = 'x' then readCoded flags 2 rest
      else if c = 'u' then readCoded flags 4 rest
      else if c = 'U' then readCoded flags 8 rest
      else if "dsw".toList.contains c then some (.named false, rest)
      else if "DSW".toList.contains c then some (.named true, rest)
      else if "bB<>".toList.contains c then some (.place true, rest)
      else if "Az".toList.contains c then some (.place false, rest)
      else
        match controlLetters.lookup c with
        | some n => some (.char (Char.ofNat n) false, rest)
        | none => if c.isAlphanum || 0x80 ≤ c.toNat then none else some (.char c false, rest)

/-! ### Classes -/

/-- What has been read of one class: how many items stand since the last operator, how high
they are, and the height of what stands before the operator. -/
structure ClassPart where
  negated : Bool := false
  items : Nat := 0
  height : Nat := 0
  left : Option Nat := none

/-- One item more. -/
def ClassPart.add (part : ClassPart) (height : Nat) : ClassPart :=
  { part with items := part.items + 1, height := max part.height height }

/-- The height of all that has been read. -/
def ClassPart.total (part : ClassPart) : Nat :=
  let right := if 2 ≤ part.items then part.height + 1 else part.height
  match part.left with
  | none => right
  | some left => max left right + 1

/-- An operator, which has all that has been read before it. -/
def ClassPart.operate (part : ClassPart) : ClassPart :=
  { negated := part.negated, left := some part.total }

/-- Reads the minus signs that a class may begin with; they stand for themselves. -/
def openingSigns (flags : Flags) : (fuel : Nat) → ClassPart → List Char →
    ClassPart × List Char
  | fuel + 1, part, '-' :: rest => openingSigns flags fuel (part.add 0) (flags.skip rest)
  | _, part, text => (part, text)

/-- Reads what follows the opening bracket of a class: the sign of negation, minus signs, and
without these a closing bracket, which stands for itself. -/
def openClass (flags : Flags) (text : List Char) : ClassPart × List Char :=
  let (negated, text) := match flags.skip text with
    | '^' :: rest => (true, flags.skip rest)
    | other => (false, other)
  match openingSigns flags text.length { negated } text with
  | ({ items := 0, .. }, ']' :: rest) => ({ negated, items := 1 }, flags.skip rest)
  | opened => opened

/-- The classes that have a name between colons. -/
def classNames : List String :=
  ["alnum", "alpha", "ascii", "blank", "cntrl", "digit", "graph", "lower", "print", "punct",
    "space", "upper", "word", "xdigit"]

/-- Reads a class with a name, after its opening bracket: whether it is negated and what
follows. -/
def readNamedClass : List Char → Option (Bool × List Char)
  | ':' :: rest =>
      let (negated, rest) := match rest with
        | '^' :: more => (true, more)
        | _ => (false, rest)
      let name := rest.takeWhile (· != ':')
      match rest.drop name.length with
      | ':' :: ']' :: after =>
          if classNames.contains (String.ofList name) then some (negated, after) else none
      | _ => none
  | _ => none

/-- Reads one character of a class. -/
def readClassAtom (flags : Flags) : List Char → Option (Atom × List Char)
  | [] => none
  | '\\' :: rest => readEscape flags rest
  | c :: rest => some (.char c false, rest)

/-- Reads a character or a range of a class. -/
def readClassItem (flags : Flags) (text : List Char) : Option (List Char) := do
  let (first, rest) ← readClassAtom flags text
  match flags.skip rest with
  | [] => none
  | '-' :: more =>
      if [some ']', some '-'].contains (flags.peek more) then
        if first.isAllowedInClass flags then some ('-' :: more) else none
      else
        let (last, rest) ← readClassAtom flags (flags.skip more)
        match first, last with
        | .char a _, .char b _ =>
            if a ≤ b && first.isAllowedInClass flags && last.isAllowedInClass flags then
              some rest
            else none
        | _, _ => none
  | rest => if first.isAllowedInClass flags then some rest else none

/-- Whether a class that ends may do so: where case is ignored or the bytes outside ASCII are
in it, it is refused. -/
def Flags.allowsClass (flags : Flags) (negated : Bool) : Bool :=
  if flags.unicode then !flags.ignoresCase else !negated

/-- Reads the rest of a class: its height and what follows. `outer` are the classes around it. -/
def readClass (flags : Flags) : (fuel : Nat) → (outer : List ClassPart) → ClassPart →
    List Char → Option (Nat × List Char)
  | 0, _, _, _ => none
  | fuel + 1, outer, part, text =>
      match flags.skip text with
      | [] => none
      | '[' :: rest =>
          match readNamedClass rest with
          | some (negated, after) =>
              if flags.allowsClass negated then readClass flags fuel outer (part.add 0) after
              else none
          | none =>
              let (inner, rest) := openClass flags rest
              readClass flags fuel (part :: outer) inner rest
      | ']' :: rest =>
          if !flags.allowsClass part.negated then none
          else
            let height := part.total + 1
            match outer with
            | [] => some (height, rest)
            | around :: outer => readClass flags fuel outer (around.add height) rest
      | '&' :: '&' :: rest | '-' :: '-' :: rest | '~' :: '~' :: rest =>
          readClass flags fuel outer part.operate rest
      | text => do readClass flags fuel outer (part.add 0) (← readClassItem flags text)

/-! ### Groups -/

/-- Reads the flags of a group up to the sign that ends them, which is given too. No flag is
given twice, and a minus sign is given once, before a flag. -/
def readFlags : (seen : List Char) → (pending : Bool) → Flags → List Char →
    Option (Flags × Char × List Char)
  | _, _, _, [] => none
  | seen, pending, flags, c :: rest =>
      if c = ':' || c = ')' then
        if pending || (c = ')' && seen.isEmpty) then none else some (flags, c, rest)
      else if seen.contains c then none
      else if c = '-' then readFlags (c :: seen) true flags rest
      else if flagLetters.contains c then
        readFlags (c :: seen) false (flags.set (!seen.contains '-') c) rest
      else none

/-- Whether a text is the name of a group. -/
def isGroupName : List Char → Bool
  | [] => false
  | c :: rest =>
      (c = '_' || Text.isLetter c) &&
        rest.all fun d => d = '_' || d = '.' || d = '[' || d = ']' || Text.isLetterOrNumber d

/-- What an opening parenthesis begins. -/
inductive Opening where
  /-- A group, with a name if it has one. -/
  | group (flags : Flags) (name : Option (List Char))
  /-- Flags for the rest of the group around them. -/
  | change (flags : Flags)

/-- Reads the name of a group and what follows the sign after it. -/
def readGroupName (flags : Flags) (text : List Char) : Option (Opening × List Char) :=
  let name := text.takeWhile (· != '>')
  match text.drop name.length with
  | _ :: rest => if isGroupName name then some (.group flags (some name), rest) else none
  | [] => none

/-- Reads what follows an opening parenthesis. -/
def readOpening (flags : Flags) (text : List Char) : Option (Opening × List Char) :=
  match flags.skip text with
  | '?' :: 'P' :: '<' :: rest | '?' :: '<' :: rest => readGroupName flags rest
  | '?' :: rest => do
      let (changed, sign, rest) ← readFlags [] false flags rest
      if sign = ')' then some (.change changed, rest) else some (.group changed none, rest)
  | text => some (.group flags none, text)

/-- What has been read of one group: the items of its last branch, the height of these and of
the last one if it can be repeated, and the branches before. -/
structure GroupPart where
  items : Nat := 0
  height : Nat := 0
  last : Option Nat := none
  branches : Nat := 0
  tallest : Nat := 0

namespace GroupPart

/-- One item more, which can be repeated. -/
def add (part : GroupPart) (height : Nat) : GroupPart :=
  { part with items := part.items + 1, height := max part.height height, last := some height }

/-- One item more, which cannot be repeated. -/
def addFlags (part : GroupPart) : GroupPart :=
  { part with items := part.items + 1, last := none }

/-- The last item repeated. -/
def again? (part : GroupPart) : Option GroupPart :=
  part.last.map fun height =>
    { part with height := max part.height (height + 1), last := some (height + 1) }

/-- The height of the last branch. -/
def branchHeight (part : GroupPart) : Nat :=
  if 2 ≤ part.items then part.height + 1 else part.height

/-- The beginning of another branch. -/
def branch (part : GroupPart) : GroupPart :=
  { branches := part.branches + 1, tallest := max part.tallest part.branchHeight }

/-- The height of all that has been read. -/
def total (part : GroupPart) : Nat :=
  if part.branches = 0 then part.branchHeight else max part.tallest part.branchHeight + 1

end GroupPart

/-- Reads a pattern to its end and gives its height. `outer` are the groups around what is
read, with the flags that hold in them; `names` are the names of groups so far. -/
def readPattern : (fuel : Nat) → (outer : List (GroupPart × Flags)) →
    (names : List (List Char)) → Flags → GroupPart → List Char → Option Nat
  | 0, _, _, _, _, _ => none
  | fuel + 1, outer, names, flags, part, text =>
      match flags.skip text with
      | [] => if outer.isEmpty then some part.total else none
      | '(' :: rest => do
          match ← readOpening flags rest with
          | (.change changed, rest) => readPattern fuel outer names changed part.addFlags rest
          | (.group inner none, rest) =>
              readPattern fuel ((part, flags) :: outer) names inner {} rest
          | (.group inner (some name), rest) =>
              if names.contains name then none
              else readPattern fuel ((part, flags) :: outer) (name :: names) inner {} rest
      | ')' :: rest =>
          match outer with
          | [] => none
          | (around, flags) :: outer =>
              readPattern fuel outer names flags (around.add (part.total + 1)) rest
      | '|' :: rest => readPattern fuel outer names flags part.branch rest
      | '[' :: rest => do
          let (opened, rest) := openClass flags rest
          let (height, rest) ← readClass flags (rest.length + 1) [] opened rest
          readPattern fuel outer names flags (part.add height) rest
      | '\x7b' :: _ => none
      | '?' :: rest | '*' :: rest | '+' :: rest => do
          let rest := match rest with | '?' :: lazily => lazily | _ => rest
          readPattern fuel outer names flags (← part.again?) rest
      | '\\' :: rest => do
          let (atom, rest) ← readEscape flags rest
          if atom.isAllowed flags then readPattern fuel outer names flags (part.add 0) rest
          else none
      | c :: rest =>
          let atom : Atom := match c with
            | '.' => .any
            | '^' | '$' => .place false
            | _ => .char c false
          if atom.isAllowed flags then readPattern fuel outer names flags (part.add 0) rest
          else none

/-- Whether a text is a pattern. -/
def isPattern (text : List Char) : Bool :=
  match readPattern (text.length + 1) [] [] {} {} text with
  | some height => height ≤ tallestPattern
  | none => false

end PullDiagnostics.LogFilter
