import PullDiagnostics.Decimal.Shortest

/-!
# JSON values

A number is an integer or a double, which is kept as its bits so that two numbers are equal
exactly if they are written alike. The members of an object are listed in the order of their
keys, and no key occurs twice: `Json.set` keeps that order. Only a value that has just been
read from a text lists them as they are written there, until `Json.merged` has put them in
order.
-/

namespace PullDiagnostics

/-- A JSON number. -/
inductive Number where
  | integer (n : Int)
  | double (bits : UInt64)
  deriving DecidableEq

/-- A JSON value. -/
inductive Json where
  | null
  | bool (b : Bool)
  | number (n : Number)
  | string (s : String)
  | array (items : List Json)
  | object (members : List (String × Json))
  deriving Inhabited

namespace Json

/-- The integer `n` as a value. -/
def int (n : Int) : Json :=
  .number (.integer n)

/-- The natural number `n` as a value. -/
def nat (n : Nat) : Json :=
  .number (.integer n)

/-- A list of strings as a value. -/
def strings (items : List String) : Json :=
  .array (items.map .string)

/-- A value that may be absent; `null` stands for its absence. -/
def ofOption {α : Type} (encode : α → Json) : Option α → Json
  | none => .null
  | some a => encode a

/-- The members of an object with the value of one key replaced, or the key put in its
place. -/
def set (key : String) (value : Json) : List (String × Json) → List (String × Json)
  | [] => [(key, value)]
  | (k, v) :: rest =>
      if key < k then (key, value) :: (k, v) :: rest
      else if key = k then (key, value) :: rest
      else (k, v) :: set key value rest

/-- The value of a key among the members of an object. -/
def field? (key : String) : List (String × Json) → Option Json
  | [] => none
  | (k, v) :: rest => if key = k then some v else field? key rest

/-- An object with the given members; a later one replaces an earlier one with its key. -/
def ofMembers (members : List (String × Json)) : Json :=
  .object (members.foldl (fun acc (k, v) => set k v acc) [])

mutual

/-- A value that is written somewhere with the members of its objects in order. Of two members
with one key the later one counts. -/
def merged : Json → Json
  | .array items => .array (mergedItems items)
  | .object members => ofMembers (mergedMembers members)
  | j => j

/-- Items with the members of their objects in order. -/
def mergedItems : List Json → List Json
  | [] => []
  | j :: rest => j.merged :: mergedItems rest

/-- Members with those of the objects in their values in order. -/
def mergedMembers : List (String × Json) → List (String × Json)
  | [] => []
  | (key, j) :: rest => (key, j.merged) :: mergedMembers rest

end

/-- The value of a key that may be missing, but may not occur twice; the outer result is none
if it does. -/
def unique? (key : String) (members : List (String × Json)) : Option (Option Json) :=
  match members.filter (·.1 = key) with
  | [] => some none
  | [(_, j)] => some (some j)
  | _ => none

/-- The value of a key, if the value is an object that has it. -/
def get? (key : String) : Json → Option Json
  | .object members => field? key members
  | _ => none

/-- The string that a value is. -/
def asString? : Json → Option String
  | .string s => some s
  | _ => none

/-- The items of the array that a value is. -/
def asArray? : Json → Option (List Json)
  | .array items => some items
  | _ => none

/-- The integer that a value is. -/
def asInt? : Json → Option Int
  | .number (.integer n) => some n
  | _ => none

/-- The natural number that a value is. -/
def asNat? (j : Json) : Option Nat :=
  j.asInt?.bind fun n => if 0 ≤ n then some n.toNat else none

/-- The truth value that a value is. -/
def asBool? : Json → Option Bool
  | .bool b => some b
  | _ => none

/-- Whether a value is `null`. -/
def isNull : Json → Bool
  | .null => true
  | _ => false

end Json

end PullDiagnostics
