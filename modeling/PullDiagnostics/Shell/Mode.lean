import PullDiagnostics.Bytes

/-!
# File modes

Who may do what with a file, as nine bits, and the text of changes to them: whom a change is
about, what becomes of what they may do, and what that is.
-/

namespace PullDiagnostics.Shell.Mode

/-- All bits. -/
def full : Nat := 0o777

/-- The bits for whom a letter stands for. -/
def who? (c : Char) : Option Nat :=
  match c with
  | 'u' => some 0o700
  | 'g' => some 0o070
  | 'o' => some 0o007
  | 'a' => some full
  | _ => none

/-- The bits for what a letter stands for, or for what others may do in a mode. -/
def permission? (mode : Nat) (c : Char) : Option Nat :=
  match c with
  | 'r' => some 0o444
  | 'w' => some 0o222
  | 'x' => some 0o111
  | 'X' => some (if mode &&& 0o111 = 0 then 0 else 0o111)
  | 's' | 't' => some 0
  | 'u' => some ((mode >>> 6 &&& 7) * 0o111)
  | 'g' => some ((mode >>> 3 &&& 7) * 0o111)
  | 'o' => some ((mode &&& 7) * 0o111)
  | _ => none

/-- Bits without some of them. -/
def without (bits others : Nat) : Nat :=
  bits &&& (full ^^^ (others &&& full))

/-- Changes to a mode, read from their text: operators after one another for those that are
named before them, or for all if nobody is, and after a comma the next change. -/
def changes : (fuel : Nat) → (who : Nat) → (mode : Nat) → List Char → Option Nat
  | 0, _, _, _ => none
  | fuel + 1, who, mode, text =>
      match text with
      | [] => none
      | operator :: rest =>
          match who? operator with
          | some bits => changes fuel (who ||| bits) mode rest
          | none =>
              let letters := rest.takeWhile fun c => (permission? mode c).isSome
              let given := (letters.filterMap (permission? mode)).foldl (· ||| ·) 0
              let whose := if who = 0 then full else who
              let bits := given &&& whose
              let next : Option Nat :=
                match operator with
                | '+' => some (mode ||| bits)
                | '-' => some (without mode bits)
                | '=' => some (without mode whose ||| bits)
                | _ => none
              match next, rest.drop letters.length with
              | none, _ => none
              | some mode, [] => some mode
              | some mode, ',' :: rest => changes fuel 0 mode rest
              | some mode, rest => changes fuel who mode rest

/-- A mode after changes that a text spells. -/
def change? (mode : Nat) (text : List Char) : Option Nat :=
  changes (text.length + 1) 0 mode text

/-- A mode in octal digits. -/
def octal (mode : Nat) : String :=
  let digits := Nat.toDigits 8 mode
  String.ofList (List.replicate (4 - digits.length) '0' ++ digits)

/-- The bits that octal digits spell. -/
def ofOctal? (digits : List Char) : Option Nat :=
  if digits.all fun c => '0' ≤ c && c < '8' then
    some (digits.foldl (fun n c => 8 * n + (c.toNat - 48)) 0 &&& full)
  else none

/-- A mode in letters. -/
def symbolic (mode : Nat) : String :=
  let letters (bits : Nat) : String :=
    (if bits &&& 4 = 0 then "" else "r") ++ (if bits &&& 2 = 0 then "" else "w") ++
      (if bits &&& 1 = 0 then "" else "x")
  "u=" ++ letters (mode >>> 6) ++ ",g=" ++ letters (mode >>> 3) ++ ",o=" ++ letters mode

end PullDiagnostics.Shell.Mode
