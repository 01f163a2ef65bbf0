import PullDiagnostics.Shell.RealNumber

/-!
# Formatted output

Texts with backslash sequences, as the commands that print them understand them, and formats
with conversions that are filled in from arguments, over and over until no argument is left.
-/

namespace PullDiagnostics.Shell.Format

open Numeral

/-- The byte that the letter after a backslash stands for. -/
def letterByte? (b : UInt8) : Option UInt8 :=
  if b = ascii '\\' then some b
  else if b = ascii 'a' then some 7
  else if b = ascii 'b' then some 8
  else if b = ascii 'e' then some 27
  else if b = ascii 'f' then some 12
  else if b = ascii 'n' then some 10
  else if b = ascii 'r' then some 13
  else if b = ascii 't' then some 9
  else if b = ascii 'v' then some 11
  else none

/-- What a backslash stands for together with the bytes after it. -/
def readEscape (bytes : Bytes) : Bytes × Bytes :=
  match bytes with
  | [] => ([ascii '\\'], [])
  | b :: rest =>
      if isOctal b then
        let (value, left) := readOctal 0 3 bytes
        ([value.toUInt8], left)
      else
        match letterByte? b with
        | some c => ([c], rest)
        | none => ([ascii '\\'], bytes)

/-- A text with its backslash sequences resolved, and whether it goes on to the end; one of
the sequences ends all output. A zero may stand before octal digits. -/
def unescape : (fuel : Nat) → Bytes → Bytes × Bool
  | 0, bytes => (bytes, true)
  | _, [] => ([], true)
  | fuel + 1, b :: rest =>
      if b = ascii '\\' then
        match rest with
        | c :: more =>
            if c = ascii 'c' then ([], false)
            else
              let digits :=
                if c = ascii '0' && more.head?.any isOctal then more else rest
              let (bytes, left) := readEscape digits
              let (after, goesOn) := unescape fuel left
              (bytes ++ after, goesOn)
        | [] => ([b], true)
      else
        let (after, goesOn) := unescape fuel rest
        (b :: after, goesOn)

/-- How a conversion fills its field. -/
structure Field where
  left : Bool := false
  zero : Bool := false
  plus : Bool := false
  space : Bool := false
  alternate : Bool := false
  width : Nat := 0
  precision : Option Nat := none

/-- Bytes brought to the width of a field. -/
def Field.pad (f : Field) (bytes : Bytes) : Bytes :=
  let fill := List.replicate (f.width - bytes.length) (ascii ' ')
  if f.left then bytes ++ fill else fill ++ bytes

/-- Digits with a sign, brought to the width of a field. -/
def Field.padNumber (f : Field) (sign digits : List Char) : Bytes :=
  let wanted := f.precision.getD 1
  let full := List.replicate (wanted - digits.length) '0' ++ digits
  let missing := f.width - (sign.length + full.length)
  if f.zero && !f.left && f.precision.isNone then
    Utf8.encode (sign ++ List.replicate missing '0' ++ full)
  else f.pad (Utf8.encode (sign ++ full))

/-- The flags of a conversion. -/
def readFlags (f : Field) : Bytes → Field × Bytes
  | [] => (f, [])
  | b :: rest =>
      if b = ascii '-' then readFlags { f with left := true } rest
      else if b = ascii '0' then readFlags { f with zero := true } rest
      else if b = ascii '+' then readFlags { f with plus := true } rest
      else if b = ascii ' ' then readFlags { f with space := true } rest
      else if b = ascii '#' then readFlags { f with alternate := true } rest
      else (f, b :: rest)

/-- The numbers of a conversion: with a sign or without one. -/
def range (signed : Bool) : Int × Int :=
  if signed then (-0x8000000000000000, 0x7FFFFFFFFFFFFFFF)
  else (-0xFFFFFFFFFFFFFFFF, 0xFFFFFFFFFFFFFFFF)

/-- The number that an argument spells for a conversion, or the code of a byte after a quote;
and what is wrong with it. -/
def argumentNumber (signed : Bool) (argument : Bytes) : Int × List Bytes :=
  let say (s : String) : List Bytes := [argument ++ Utf8.encode (": " ++ s).toList]
  match argument with
  | [] => (0, [])
  | b :: rest =>
      if b = ascii '"' || b = ascii '\'' then ((rest.head?.map (·.toNat)).getD 0, [])
      else
        match readInteger? argument with
        | none => (0, say "expected numeric value")
        | some (n, left) =>
            let (low, high) := range signed
            let value := if n < low then (if signed then low else high) else min n high
            (value,
              if !left.isEmpty then say "not completely converted"
              else if n < low || high < n then say "Numerical result out of range"
              else [])

/-- The sign that a number shows. -/
def Field.sign (f : Field) (negative : Bool) : List Char :=
  if negative then ['-'] else if f.plus then ['+'] else if f.space then [' '] else []

/-- A number as unsigned. -/
def unsigned (n : Int) : Nat :=
  (n % 0x10000000000000000).toNat

/-- The real number that an argument spells, or the code of a byte after a quote; and what is
wrong with it. -/
def argumentReal (argument : Bytes) : RealNumber × List Bytes :=
  let say (s : String) : List Bytes := [argument ++ Utf8.encode (": " ++ s).toList]
  let whole (n : Nat) : RealNumber := { size := .finite n 0 }
  match argument with
  | [] => (whole 0, [])
  | b :: rest =>
      if b = ascii '"' || b = ascii '\'' then (whole ((rest.head?.map (·.toNat)).getD 0), [])
      else
        match RealNumber.read? argument with
        | none => (whole 0, say "expected numeric value")
        | some (x, left, beyond) =>
            (x,
              if !left.isEmpty then say "not completely converted"
              else if beyond then say "Numerical result out of range"
              else [])

/-- The form of the conversion that a letter stands for, if it is one of real numbers. -/
def realForm? (letter : Char) : Option RealNumber.Form :=
  match letter.toLower with
  | 'f' => some .fixed
  | 'e' => some .scientific
  | 'g' => some .general
  | 'a' => some .hexadecimal
  | _ => none

/-- A real number brought to the width of a field. Zeros fill it only where digits stand. -/
def Field.padReal (f : Field) (form : RealNumber.Form) (x : RealNumber) : List Char :=
  let sign := f.sign x.negative
  let body := RealNumber.sizeText form f.alternate f.precision x.size
  let missing := f.width - (sign.length + body.length)
  let isNumber := match x.size with
    | .finite _ _ => true
    | _ => false
  let fill := List.replicate missing
  if f.left then sign ++ body ++ fill ' '
  else if f.zero && isNumber then
    match form, body with
    | .hexadecimal, zero :: x :: digits => sign ++ zero :: x :: fill '0' ++ digits
    | _, _ => sign ++ fill '0' ++ body
  else fill ' ' ++ sign ++ body

/-- How the use of a format ends. -/
inductive Ending where
  | complete
  /-- All output is over. -/
  | cut
  | failed (message : Bytes)
  deriving Inhabited

/-- What a conversion writes and complains of. -/
structure Converted where
  output : Bytes
  complaints : List Bytes := []
  isCut : Bool := false

/-- What a conversion writes; there is none for a letter that stands for no conversion. -/
def convert (f : Field) (letter : UInt8) (argument : Bytes) : Option Converted :=
  let unsignedNumber (marks : List Char) (digits : Nat → List Char) : Option Converted :=
    let (n, complaints) := argumentNumber false argument
    let marks := if f.alternate && n ≠ 0 then marks else []
    some { output := f.padNumber marks (digits (unsigned n)), complaints }
  if letter = ascii 's' then
    some { output := f.pad (match f.precision with | some n => argument.take n | none => argument) }
  else if letter = ascii 'b' then
    let (bytes, goesOn) := unescape (argument.length + 1) argument
    some { output := f.pad bytes, isCut := !goesOn }
  else if letter = ascii 'c' then some { output := f.pad [argument.head?.getD 0] }
  else if letter = ascii 'd' || letter = ascii 'i' then
    let (n, complaints) := argumentNumber true argument
    some { output := f.padNumber (f.sign (n < 0)) (Nat.toDigits 10 n.natAbs), complaints }
  else if letter = ascii 'u' then unsignedNumber [] (Nat.toDigits 10)
  else if letter = ascii 'o' then unsignedNumber ['0'] (Nat.toDigits 8)
  else if letter = ascii 'x' then unsignedNumber ['0', 'x'] (Nat.toDigits 16)
  else if letter = ascii 'X' then
    unsignedNumber ['0', 'X'] fun n => (Nat.toDigits 16 n).map Char.toUpper
  else
    (realForm? (asciiChar letter)).map fun form =>
      let (x, complaints) := argumentReal argument
      let text := f.padReal form x
      let isCapital := (asciiChar letter).isUpper
      { output := Utf8.encode (if isCapital then text.map Char.toUpper else text), complaints }

/-- A number in a conversion: digits, or a star for the next argument. -/
def readSize (arguments : List Bytes) (bytes : Bytes) : Option Int × List Bytes × Bytes :=
  match bytes with
  | b :: rest =>
      if b = ascii '*' then
        (some (argumentNumber true (arguments.head?.getD [])).1, arguments.tail, rest)
      else
        let digits := bytes.takeWhile isDigit
        (if digits.isEmpty then none else some (decimal digits), arguments,
          bytes.drop digits.length)
  | [] => (none, arguments, [])

/-- A field with a width and a precision, if they are given. A negative width brings what is
written to the left, and a negative precision is none. -/
def Field.withSizes (f : Field) (width precision : Option Int) : Field :=
  { f with
    left := f.left || width.any (· < 0)
    width := (width.map Int.natAbs).getD 0
    precision := (precision.filter (0 ≤ ·)).map Int.toNat }

/-- What one use of a format gives. -/
structure Use where
  output : Bytes := []
  complaints : List Bytes := []
  arguments : List Bytes
  /-- Whether there was a conversion. -/
  converted : Bool := false
  ending : Ending := .complete

/-- Uses a format once. -/
def useOnce : (fuel : Nat) → List Bytes → Bytes → Use
  | 0, arguments, _ => { arguments, ending := .cut }
  | _, arguments, [] => { arguments }
  | fuel + 1, arguments, b :: rest =>
      let on (bytes : Bytes) (arguments : List Bytes) (left : Bytes) : Use :=
        let more := useOnce fuel arguments left
        { more with output := bytes ++ more.output }
      if b = ascii '\\' then
        let (bytes, left) := readEscape rest
        on bytes arguments left
      else if b = ascii '%' then
        if rest.head? = some (ascii '%') then on [b] arguments (rest.drop 1)
        else
          let (f, left) := readFlags {} rest
          let (width, arguments, left) := readSize arguments left
          let (precision, arguments, left) : Option Int × List Bytes × Bytes :=
            match left with
            | d :: more =>
                if d = ascii '.' then
                  let (size, arguments, left) := readSize arguments more
                  (some (size.getD 0), arguments, left)
                else (none, arguments, left)
            | [] => (none, arguments, [])
          let f := f.withSizes width precision
          match left with
          | [] =>
              { arguments, ending := .failed (Utf8.encode "missing format character".toList) }
          | letter :: more =>
              match convert f letter (arguments.head?.getD []) with
              | none =>
                  let directive := b :: rest.take (rest.length - more.length)
                  let said := Utf8.encode ": invalid directive".toList
                  { arguments, ending := .failed (directive ++ said) }
              | some c =>
                  let after : Use :=
                    if c.isCut then { arguments := [], ending := .cut }
                    else useOnce fuel arguments.tail more
                  { after with
                    output := c.output ++ after.output
                    complaints := c.complaints ++ after.complaints
                    converted := true }
      else on [b] arguments rest

/-- What the command that fills in formats writes, what it complains of and the number that
it ends with. -/
structure Filled where
  output : Bytes := []
  complaints : List Bytes := []
  status : Nat := 0

/-- Uses a format until no argument is left. -/
def useAll (format : Bytes) : (fuel : Nat) → List Bytes → Filled
  | 0, _ => {}
  | fuel + 1, arguments =>
      let u := useOnce (format.length + 1) arguments format
      let status := if u.complaints.isEmpty then 0 else 1
      match u.ending with
      | .failed message =>
          { output := u.output, complaints := u.complaints ++ [message], status := 2 }
      | .cut => { output := u.output, complaints := u.complaints, status }
      | .complete =>
          if u.converted && !u.arguments.isEmpty then
            let more := useAll format fuel u.arguments
            { output := u.output ++ more.output, complaints := u.complaints ++ more.complaints
              status := max status more.status }
          else { output := u.output, complaints := u.complaints, status }

/-- Fills in a format. -/
def fill (format : Bytes) (arguments : List Bytes) : Filled :=
  useAll format (arguments.length + 1) arguments

/-- Arguments with blanks between them. -/
def spaced : List Bytes → Bytes
  | [] => []
  | [word] => word
  | word :: rest => word ++ ascii ' ' :: spaced rest

/-- The line that repeats arguments. -/
def echoLine (escapes ended : Bool) (words : List Bytes) : Bytes :=
  let text := spaced words
  let (bytes, goesOn) := if escapes then unescape (text.length + 1) text else (text, true)
  if ended && goesOn then bytes ++ [ascii '\n'] else bytes

/-- What the shell's command that repeats its arguments writes; the first one may ask for no
line end. -/
def echo (arguments : List Bytes) : Bytes :=
  match arguments with
  | first :: rest =>
      if first = [ascii '-', ascii 'n'] then echoLine true false rest
      else echoLine true true arguments
  | [] => echoLine true true []

/-- What the program that repeats its arguments writes. Any number of arguments at the start
may ask for no line end, and for backslash sequences to be resolved or not. -/
def plainEcho (escapes ended : Bool) : List Bytes → Bytes
  | [] => echoLine escapes ended []
  | argument :: rest =>
      match argument with
      | dash :: letters =>
          if dash = ascii '-' && !letters.isEmpty &&
              letters.all (fun b => ("neE".toList.map ascii).contains b) then
            let escapes := match (letters.filter (· ≠ ascii 'n')).getLast? with
              | some b => b = ascii 'e'
              | none => escapes
            plainEcho escapes (ended && !letters.contains (ascii 'n')) rest
          else echoLine escapes ended (argument :: rest)
      | [] => echoLine escapes ended (argument :: rest)

end PullDiagnostics.Shell.Format
