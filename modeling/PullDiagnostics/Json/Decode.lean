import PullDiagnostics.Json.Printer
import PullDiagnostics.Text.Quoted

/-!
# Reading values as something

A value may not be what is expected of it: of another kind, out of range, or without a member
that has to be there. The first thing that is wrong is told, together with what was found.
-/

namespace PullDiagnostics

/-- Why a value cannot be read as what is expected. -/
inductive DecodeError where
  /-- A value of another kind. -/
  | invalidType (found : Json) (expected : String)
  /-- A value of the right kind that is out of range. -/
  | invalidValue (found : Json) (expected : String)
  /-- An object without a member. -/
  | missingField (name : String)
  /-- A list of another length. -/
  | invalidLength (found : Nat) (expected : String)
  /-- A text that is none of those known. -/
  | unknownVariant (found : String) (known : List String)
  /-- A value that is of none of the kinds that a type has. -/
  | noVariant (name : String)
  /-- A text that is no URL. -/
  | invalidUrl (reason text : String)

namespace Decode

/-- What a value is called when it is not what was expected. -/
def describe : Json → String
  | .null => "null"
  | .bool b => "boolean `" ++ (if b then "true" else "false") ++ "`"
  | .number (.integer n) => "integer `" ++ String.ofList (Json.writeNumber (.integer n)) ++ "`"
  | .number (.double bits) =>
      "floating point `" ++ String.ofList (Json.writeNumber (.double bits)) ++ "`"
  | .string s => "string " ++ Text.quoted s
  | .array _ => "sequence"
  | .object _ => "map"

/-- Reads a string. -/
def string : Json → Except DecodeError String
  | .string s => .ok s
  | j => .error (.invalidType j "a string")

/-- Reads each item of a list, up to the first that cannot be read. -/
def items {ι α : Type} (item : ι → Except DecodeError α) :
    List ι → Except DecodeError (List α)
  | [] => .ok []
  | j :: rest =>
      match item j with
      | .error e => .error e
      | .ok a => (items item rest).map (a :: ·)

/-- Reads an array. -/
def array {α : Type} (item : Json → Except DecodeError α) : Json → Except DecodeError (List α)
  | .array js => items item js
  | j => .error (.invalidType j "a sequence")

/-- Reads an integer in a range that has a name. -/
def integer (low high : Int) (expected : String) : Json → Except DecodeError Int
  | .number (.integer n) =>
      if low ≤ n ∧ n ≤ high then .ok n
      else .error (.invalidValue (.number (.integer n)) expected)
  | j => .error (.invalidType j expected)

/-- Reads a number of 32 bits. -/
def word32 (j : Json) : Except DecodeError UInt32 :=
  (integer 0 0xFFFFFFFF "u32" j).map fun n => UInt32.ofNat n.toNat

/-- Reads a number of 64 bits. -/
def word64 (j : Json) : Except DecodeError UInt64 :=
  (integer 0 0xFFFFFFFFFFFFFFFF "usize" j).map fun n => UInt64.ofNat n.toNat

/-- Reads a truth value. -/
def bool : Json → Except DecodeError Bool
  | .bool b => .ok b
  | j => .error (.invalidType j "a boolean")

/-- Reads a value that may be missing; `null` is as good as missing. -/
def optional {α : Type} (value : Json → Except DecodeError α) :
    Json → Except DecodeError (Option α)
  | .null => .ok none
  | j => (value j).map some

/-- How many members an object that goes by some name has. -/
def sizeText (name : String) (size : Nat) : String :=
  "struct " ++ name ++ " with " ++ toString size ++ (if size = 1 then " element" else " elements")

/-- The texts that an error lists. -/
def alternatives (known : List String) : String :=
  match known.map fun s => "`" ++ s ++ "`" with
  | [] => "nothing"
  | [a] => a
  | [a, b] => a ++ " or " ++ b
  | many => "one of " ++ ", ".intercalate many

end Decode

/-- What is said of a value that cannot be read. -/
def DecodeError.message : DecodeError → String
  | .invalidType found expected =>
      "invalid type: " ++ Decode.describe found ++ ", expected " ++ expected
  | .invalidValue found expected =>
      "invalid value: " ++ Decode.describe found ++ ", expected " ++ expected
  | .missingField name => "missing field `" ++ name ++ "`"
  | .invalidLength found expected =>
      "invalid length " ++ toString found ++ ", expected " ++ expected
  | .unknownVariant found known =>
      "unknown variant `" ++ found ++ "`, expected " ++ Decode.alternatives known
  | .noVariant name => "data did not match any variant of untagged enum " ++ name
  | .invalidUrl reason text => reason ++ ": " ++ Text.quoted text

end PullDiagnostics
