import PullDiagnostics.LogFilter.FieldValue
import PullDiagnostics.LogFilter.Verbosity
import PullDiagnostics.Text.Slice

/-!
# Directives

A directive is a level, a target, or both with an equals sign between them. Between brackets
after the target it may be narrowed to one span, and between braces in these to what has one
field, or one field with one value.

Of two directives that apply to a record the more specific one decides: the one with the longer
target, then the one about a span, then the one about a field.
-/

namespace PullDiagnostics

namespace LogFilter

/-- A field that has to be there, and the value that it has to have if one is given. -/
structure FieldMatch where
  name : List Char
  value : Option FieldValue := none
  deriving DecidableEq, Inhabited

namespace FieldMatch

/-- Reads a field: its name, and after an equals sign its value, up to the next one. -/
def parse? (text : List Char) : Option FieldMatch :=
  match text.splitOn '=' with
  | name :: value :: _ => (FieldValue.parse? value).map fun v => { name, value := some v }
  | _ => some { name := text }

/-- The text of a field. -/
def render (field : FieldMatch) : List Char :=
  match field.value with
  | none => field.name
  | some value => field.name ++ '=' :: value.render

/-- The order of fields: those with a value come later, then the names and the values decide. -/
def order (a b : FieldMatch) : Ordering :=
  match a.value, b.value with
  | some _, none => .gt
  | none, some _ => .lt
  | none, none => Text.order a.name b.name
  | some v, some w => (Text.order a.name b.name).then (v.order w)

end FieldMatch

end LogFilter

/-- What one directive says. -/
structure LogDirective where
  target : Option (List Char) := none
  span : Option (List Char) := none
  field : Option LogFilter.FieldMatch := none
  level : Verbosity := .trace
  deriving DecidableEq, Inhabited

namespace LogDirective

/-! ### Reading -/

/-- Whether a directive may start with a character. -/
def isStart (c : Char) : Bool :=
  c = '-' || c = ':' || c = '_' || Text.isLetterOrNumber c

/-- Reads the level after an equals sign; without any text it is the most that there is. -/
def readLevel? (text : List Char) : Option Verbosity :=
  if text.isEmpty then some .trace else Verbosity.parse? text

/-- Reads what follows a bracket: nothing, or an equals sign and a level. Here and below
`text` is the whole directive, and `place` counts the bytes before what is left of it when the
blanks around it do not count. -/
def readEnd? (d : LogDirective) (text : List Char) (place : Nat) :
    List Char → Option LogDirective
  | [] => some d
  | '=' :: _ => do
      let level ← readLevel? (← Text.dropBytes? (place + 1) text)
      some { d with level }
  | _ => none

/-- Reads what follows an opening bracket. An empty name before a brace is no name. -/
def readScope? (target : Option (List Char)) (text : List Char) (place : Nat)
    (inside : List Char) : Option LogDirective := do
  let shown := inside.takeWhile fun c => c != ']' && c != '\x7b'
  let stop := place + Text.byteLength shown
  let span ← Text.cut? text place stop
  match inside.drop shown.length with
  | ']' :: rest => readEnd? { target, span := some span } text (stop + 1) rest
  | '\x7b' :: inside =>
      let shown := inside.takeWhile (· != '\x7d')
      let last := stop + 1 + Text.byteLength shown
      let named ← Text.cut? text (stop + 1) last
      if named.isEmpty then none
      else
        let field ← LogFilter.FieldMatch.parse? named
        let span := if span.isEmpty then none else some span
        match inside.drop shown.length with
        | '\x7d' :: ']' :: rest =>
            readEnd? { target, span, field := some field } text (last + 2) rest
        | _ => none
  | _ => none

/-- Reads a directive, which has no comma in it. Blanks around it are passed over to find its
parts, but count in them. -/
def parse? (text : List Char) : Option LogDirective :=
  match Text.trim text with
  | [] => none
  | '[' :: inside => readScope? none text 1 inside
  | c :: rest =>
      if !isStart c then none
      else
        let shown := (c :: rest).takeWhile fun c => c != '=' && c != '['
        let place := Text.byteLength shown
        match (c :: rest).drop shown.length with
        | [] =>
            match Verbosity.parse? text with
            | some level => some { level }
            | none => some { target := some text }
        | '[' :: inside => do readScope? (some (← Text.cut? text 0 place)) text (place + 1) inside
        | rest => do readEnd? { target := some (← Text.cut? text 0 place) } text place rest

/-! ### Writing -/

/-- What a directive is about between brackets. -/
def writeScope (d : LogDirective) : List Char :=
  if d.span.isNone && d.field.isNone then []
  else
    let field := match d.field with
      | none => []
      | some field => '\x7b' :: (field.render ++ ['\x7d'])
    '[' :: (d.span.getD [] ++ field ++ [']'])

/-- The text of a directive. -/
def render (d : LogDirective) : List Char :=
  let everything := d.target.isNone && d.span.isNone && d.field.isNone
  d.target.getD [] ++ d.writeScope ++ (if everything then [] else ['=']) ++ d.level.name.toList

/-! ### Order -/

/-- The order of things that may be missing: what is missing comes first. -/
def orderOptional {α : Type} (order : α → α → Ordering) : Option α → Option α → Ordering
  | none, none => .eq
  | none, some _ => .lt
  | some _, none => .gt
  | some a, some b => order a b

/-- How specific a directive is, compared with another one. The texts decide at last, so that
only directives about the same thing are equal. -/
def specificity (a b : LogDirective) : Ordering :=
  let length (d : LogDirective) : Option Nat := d.target.map Text.byteLength
  (orderOptional compare (length a) (length b)).then <|
    (compare a.span.isSome.toNat b.span.isSome.toNat).then <|
    (compare a.field.isSome.toNat b.field.isSome.toNat).then <|
    (orderOptional Text.order a.target b.target).then <|
    (orderOptional Text.order a.span b.span).then <|
    orderOptional LogFilter.FieldMatch.order a.field b.field

/-- A directive put into a list whose most specific ones come first, in the place of one about
the same thing. -/
def insert (d : LogDirective) : List LogDirective → List LogDirective
  | [] => [d]
  | e :: rest =>
      match d.specificity e with
      | .eq => d :: rest
      | .gt => d :: e :: rest
      | .lt => e :: insert d rest

/-! ### Use -/

/-- Whether a directive depends on the span that a record is made in. -/
def dependsOnSpan (d : LogDirective) : Bool :=
  d.span.isSome || d.field.isSome

/-- Whether a record's kind alone may tell that a directive applies: no span is named and no
value. -/
def appliesByKind (d : LogDirective) : Bool :=
  d.span.isNone && (d.field.bind (·.value)).isNone

/-- Whether a directive that applies by kind does so to records of a target with some fields. -/
def concerns (d : LogDirective) (target : List Char) (fields : List (List Char)) : Bool :=
  (d.target.getD []).isPrefixOf target && (d.field.all fun f => fields.contains f.name)

end LogDirective

end PullDiagnostics
