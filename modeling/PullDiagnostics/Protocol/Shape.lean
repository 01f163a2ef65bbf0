import PullDiagnostics.Json.Decode
import PullDiagnostics.Url.Parser

/-!
# Shapes

A shape says what a value that comes with a message has to look like. Reading a value by a
shape gives the value back in a plain form, in which every record is an object with the
members that are known, or tells the first thing that is wrong.

A record may be written as an object or as the list of its members in their order. In an
object the members are looked at in the order of their names, and one that is missing is told
only if none is wrong; in a list they are looked at one after the other. A record that is put
together from others can only be written as an object.
-/

namespace PullDiagnostics.Protocol

mutual

/-- What a value has to look like. -/
inductive Shape where
  | anything
  | text
  | truth
  /-- An integer in a range that has a name. -/
  | integer (low high : Int) (name : String)
  /-- Any number; its kind has a name. -/
  | number (name : String)
  | url
  /-- One of some words, alone or as the only key of an object whose value is `null`. -/
  | word (known : List String)
  /-- `null` is as good as no value. -/
  | orNull (shape : Shape)
  /-- A truth value is as good. -/
  | orTruth (shape : Shape)
  | list (item : Shape)
  /-- A list with an item of each shape. -/
  | row (items : List Shape)
  /-- An object with any keys, which goes by a name. -/
  | dictionary (name : String) (key value : Shape)
  /-- A value of any one of some shapes. -/
  | oneOf (name : String) (options : List Shape)
  /-- A value of which one member tells the shape, by the name of a case or by its place. In a
  list it is the first item. -/
  | tagged (tag : String) (cases : List Member)
  | record (name : String) (fields : List Member)
  /-- A record with the members of others beside its own. -/
  | combined (name : String) (fields : List Member) (parts : List Shape)

/-- A member of a record. -/
inductive Member where
  /-- `hasDefault` says that the member may be missing whatever its shape is. -/
  | mk (name : String) (shape : Shape) (hasDefault : Bool)

end

namespace Member

/-- The name of a member. -/
def name : Member → String
  | .mk name _ _ => name

/-- What the value of a member has to look like. -/
def shape : Member → Shape
  | .mk _ shape _ => shape

/-- Whether a list of members may end before a member. -/
def hasDefault : Member → Bool
  | .mk _ _ hasDefault => hasDefault

/-- Whether an object may be without a member. -/
def mayMiss (f : Member) : Bool :=
  f.hasDefault ||
    match f.shape with
    | .orNull _ => true
    | _ => false

/-- A member that has to be there. -/
def needed (name : String) (shape : Shape) : Member :=
  .mk name shape false

/-- A member that may be `null`, and that an object may be without. -/
def optional (name : String) (shape : Shape) : Member :=
  .mk name (.orNull shape) false

/-- A member that may be `null`, and that a list may be without too. -/
def spare (name : String) (shape : Shape) : Member :=
  .mk name (.orNull shape) true

/-- A member that may be missing, but not `null`. -/
def presumed (name : String) (shape : Shape) : Member :=
  .mk name shape true

end Member

namespace Shape

/-! ### Reading records -/

/-- What is found at a member of an object: nothing, something wrong, or its plain form. -/
abbrev Found := String × Option (Except DecodeError Json)

/-- The first thing that is wrong in the members of an object, in their order. -/
def firstWrong? (found : List Found) : List (String × Json) → Option DecodeError
  | [] => none
  | (key, _) :: rest =>
      match found.lookup key with
      | some (some (.error e)) => some e
      | _ => firstWrong? found rest

/-- The first member that has to be there and is not. -/
def firstMissing? (found : List Found) (fields : List Member) : Option DecodeError :=
  (fields.find? fun f => !f.mayMiss && (found.lookup f.name).join.isNone).map
    fun f => .missingField f.name

/-- The plain forms of the members that are there. -/
def plainMembers (found : List Found) : List (String × Json) :=
  found.filterMap fun (name, result) =>
    match result with
    | some (.ok j) => some (name, j)
    | _ => none

/-- What is made of the members of an object. -/
def settle (fields : List Member) (found : List Found) (members : List (String × Json)) :
    Except DecodeError (List (String × Json)) :=
  match firstWrong? found members with
  | some e => .error e
  | none =>
      match firstMissing? found fields with
      | some e => .error e
      | none => .ok (plainMembers found)

/-- The members of an object that a record does not have by itself. -/
def otherMembers (fields : List Member) (members : List (String × Json)) : List (String × Json) :=
  members.filter fun (key, _) => !(fields.map Member.name).contains key

/-- Why a list is longer than it may be. Inside of a value that is read more than once, the
items that were expected are counted. -/
def tooLong (inner : Bool) (expected length : Nat) : DecodeError :=
  .invalidLength length
    (if !inner then "fewer elements in array"
     else if expected = 1 then "1 element in sequence"
     else toString expected ++ " elements in sequence")

/-! ### Other values -/

/-- Reads the text of a URL. -/
def readUrl : Json → Except DecodeError Json
  | .string s =>
      match Url.parse s.toList with
      | .ok _ => .ok (.string s)
      | .error e => .error (.invalidUrl e.message s)
  | j => .error (.invalidType j "a string representing an URL")

/-- Reads a word. -/
def readWord (known : List String) : Json → Except DecodeError Json
  | .string s => if known.contains s then .ok (.string s) else .error (.unknownVariant s known)
  | .object [(s, value)] =>
      if !known.contains s then .error (.unknownVariant s known)
      else if value.isNull then .ok (.string s)
      else .error (.invalidType value "unit")
  | .object members => .error (.invalidValue (.object members) "map with a single key")
  | j => .error (.invalidType j "string or map")

/-- Reads any number. -/
def readNumber (name : String) : Json → Except DecodeError Json
  | .number n => .ok (.number n)
  | j => .error (.invalidType j name)

/-- What tells the case of a value, and what remains of the value: a member of an object, or
the first item of a list. -/
def tagAndRest? (tag : String) : Json → Option (Json × Json)
  | .object members =>
      (Json.field? tag members).map fun kind =>
        (kind, .object (members.filter fun (key, _) => key != tag))
  | .array (kind :: rest) => some (kind, .array rest)
  | _ => none

mutual

/-- Reads a value by a shape. `inner` says that the value is part of one that is read more
than once, which shows in what is said of lists that are too long. -/
def read (inner : Bool) : Shape → Json → Except DecodeError Json
  | .anything, j => .ok j
  | .text, j => (Decode.string j).map .string
  | .truth, j => (Decode.bool j).map .bool
  | .integer low high name, j => (Decode.integer low high name j).map .int
  | .number name, j => readNumber name j
  | .url, j => readUrl j
  | .word known, j => readWord known j
  | .orNull shape, j => if j.isNull then .ok .null else shape.read inner j
  | .orTruth shape, j => if j.asBool?.isSome then .ok j else shape.read inner j
  | .list item, j => (Decode.array (fun j => item.read inner j) j).map .array
  | .row items, j =>
      match j with
      | .array js => readRow js.length items js
      | j => .error (.invalidType j "a sequence")
  | .dictionary name key value, j =>
      match j with
      | .object members =>
          (Decode.items (fun (entry : String × Json) =>
            match key.read inner (.string entry.1) with
            | .error e => .error e
            | .ok _ => (value.read inner entry.2).map fun v => (entry.1, v)) members).map .object
      | j => .error (.invalidType j name)
  | .oneOf name options, j =>
      match firstOption? options j with
      | some plain => .ok plain
      | none => .error (.noVariant name)
  | .tagged tag cases, j =>
      match tagAndRest? tag j with
      | some (.string kind, rest) => readCase kind cases rest
      | some (.number (.integer n), rest) => readCaseAt n cases rest
      | _ => .error (.missingField tag)
  | .record name fields, j =>
      match j with
      | .object members => (settle fields (readFields inner members fields) members).map .ofMembers
      | .array js => (readList inner name fields.length js.length fields js).map .ofMembers
      | j => .error (.invalidType j ("struct " ++ name))
  | .combined name fields parts, j =>
      match j with
      | .object members =>
          match settle fields (readFields inner members fields) members with
          | .error e => .error e
          | .ok own =>
              (readParts (otherMembers fields members) parts).map fun others =>
                .ofMembers (own ++ others)
      | j => .error (.invalidType j ("struct " ++ name))

/-- What is found at each member of a record in an object. -/
def readFields (inner : Bool) (members : List (String × Json)) : List Member → List Found
  | [] => []
  | .mk name shape _ :: rest =>
      (name, (Json.field? name members).map fun j => shape.read inner j) ::
        readFields inner members rest

/-- Reads the members of a record from a list of their values. -/
def readList (inner : Bool) (record : String) (size length : Nat) :
    List Member → List Json → Except DecodeError (List (String × Json))
  | [], [] => .ok []
  | [], _ :: _ => .error (tooLong inner size length)
  | .mk name shape _ :: rest, j :: js =>
      match shape.read inner j with
      | .error e => .error e
      | .ok plain => (readList inner record size length rest js).map ((name, plain) :: ·)
  | .mk _ _ hasDefault :: rest, [] =>
      if hasDefault then readList inner record size length rest []
      else .error (.invalidLength (size - rest.length - 1) (Decode.sizeText record size))

/-- Reads the items of a list, each by its own shape. -/
def readRow (length : Nat) : List Shape → List Json → Except DecodeError Json
  | [], [] => .ok (.array [])
  | shape :: shapes, j :: js =>
      match shape.read true j with
      | .error e => .error e
      | .ok _ => readRow length shapes js
  | _, _ => .error (.invalidLength length "another number of elements")

/-- The plain form of a value by the first of some shapes that it has. -/
def firstOption? : List Shape → Json → Option Json
  | [], _ => none
  | shape :: rest, j =>
      match shape.read true j with
      | .ok plain => some plain
      | .error _ => firstOption? rest j

/-- Reads a value by the shape of its kind. -/
def readCase (kind : String) : List Member → Json → Except DecodeError Json
  | [], _ => .error (.unknownVariant kind [])
  | .mk name shape _ :: rest, j => if name = kind then shape.read true j else readCase kind rest j

/-- Reads a value by the shape of a case that is told by its place. -/
def readCaseAt (place : Int) : List Member → Json → Except DecodeError Json
  | [], _ => .error (.unknownVariant (toString place) [])
  | .mk _ shape _ :: rest, j =>
      if place = 0 then shape.read true j else readCaseAt (place - 1) rest j

/-- Reads the members that a record has from others. -/
def readParts (members : List (String × Json)) :
    List Shape → Except DecodeError (List (String × Json))
  | [] => .ok []
  | .record _ fields :: rest =>
      match settle fields (readFields true members fields) members with
      | .error e => .error e
      | .ok own => (readParts (otherMembers fields members) rest).map (own ++ ·)
  | shape :: rest =>
      match shape.read true (.object members) with
      | .error e => .error e
      | .ok _ => readParts members rest

end

/-- Reads the value that comes with a message. -/
def of (shape : Shape) (j : Json) : Except DecodeError Json :=
  shape.read false j

end Shape

end PullDiagnostics.Protocol
