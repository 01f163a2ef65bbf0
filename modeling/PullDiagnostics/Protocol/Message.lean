import PullDiagnostics.Json.Decode

/-!
# Messages

Client and server exchange JSON values of two kinds. A *request* names a method and may have
parameters; without an identity nobody waits for a reply to it. A *response* has the identity
of the request that it answers, and a result or an error. A member of a message that is known
may not be written twice, while of those that nobody knows any number may be there.
-/

namespace PullDiagnostics.Protocol

/-- What a response refers to a request by. -/
inductive RequestId where
  | number (n : Int)
  | text (s : String)
  | null
  deriving DecidableEq, Inhabited

namespace RequestId

/-- An identity as a value. -/
def toJson : RequestId → Json
  | .number n => .int n
  | .text s => .string s
  | .null => .null

/-- Reads an identity. -/
def read? : Json → Option RequestId
  | .null => some .null
  | .string s => some (.text s)
  | .number (.integer n) =>
      if -0x8000000000000000 ≤ n ∧ n < 0x8000000000000000 then some (.number n) else none
  | _ => none

end RequestId

/-- What client or server asks the other or tells it. -/
structure Request where
  method : String
  params : Option Json := none
  id : Option RequestId := none
  deriving Inhabited

/-- Why a request is not answered with a result. -/
structure ResponseError where
  code : Int
  message : String
  data : Option Json := none
  deriving Inhabited

/-- The answer to a request. -/
structure Response where
  id : RequestId
  outcome : Except ResponseError Json

/-- The version of the protocol that every message names. -/
def version : Json := .string "2.0"

/-- Whether the members of a message name the version. -/
def hasVersion (members : List (String × Json)) : Bool :=
  ((Json.unique? "jsonrpc" members).bind fun j => j.bind Json.asString?) = some "2.0"

/-- A member that may be missing, but neither wrong nor there twice; the outer result is none
if it is. -/
def readMember? {α : Type} (name : String) (read? : Json → Option α)
    (members : List (String × Json)) : Option (Option α) :=
  match Json.unique? name members with
  | none => none
  | some none => some none
  | some (some j) => (read? j).map some

/-- A member that has to be there. -/
def requireMember? {α : Type} (name : String) (read? : Json → Option α)
    (members : List (String × Json)) : Option α :=
  (readMember? name read? members).bind id

/-- Any value. -/
def readAny? (j : Json) : Option Json :=
  some j.merged

namespace Request

/-- A request as a value. -/
def toJson (r : Request) : Json :=
  .ofMembers ([("jsonrpc", version), ("method", .string r.method)] ++
    (r.params.map fun j => ("params", j)).toList ++
    (r.id.map fun id => ("id", id.toJson)).toList)

/-- Reads a request from the members of an object. A request without a method is one for the
method without a name. -/
def ofMembers? (members : List (String × Json)) : Option Request := do
  let method ← readMember? "method" Json.asString? members
  let params ← readMember? "params" readAny? members
  let id ← readMember? "id" RequestId.read? members
  if hasVersion members then some ⟨method.getD "", params, id⟩ else none

/-- Reads a request. The members may also be given in their order. -/
def read? : Json → Option Request
  | .object members => ofMembers? members
  | .array items =>
      if items.length ≤ 4 then ofMembers? (["jsonrpc", "method", "params", "id"].zip items)
      else none
  | _ => none

/-- Whether nobody waits for a reply. -/
def isNotification (r : Request) : Bool :=
  r.id.isNone

end Request

namespace ResponseError

/-- An error as a value. -/
def toJson (e : ResponseError) : Json :=
  .ofMembers ([("code", .int e.code), ("message", .string e.message)] ++
    (e.data.map fun j => ("data", j)).toList)

/-- Reads the code of an error. -/
def readCode? : Json → Option Int
  | .number (.integer n) =>
      if -0x8000000000000000 ≤ n ∧ n < 0x8000000000000000 then some n else none
  | _ => none

/-- The members of an error, in their order. -/
def names : List String := ["code", "message", "data"]

/-- Reads an error from its members; it has no others. -/
def ofMembers? (members : List (String × Json)) : Option ResponseError := do
  let code ← requireMember? "code" readCode? members
  let message ← requireMember? "message" Json.asString? members
  let data ← readMember? "data" readAny? members
  if members.all (names.contains ·.1) then
    some ⟨code, message, data.bind fun d => if d.isNull then none else some d⟩
  else none

/-- Reads an error. All members may also be given in their order. -/
def read? : Json → Option ResponseError
  | .object members => ofMembers? members
  | .array items => if items.length = names.length then ofMembers? (names.zip items) else none
  | _ => none

/-- What the code of an error stands for. -/
def description (e : ResponseError) : String :=
  if e.code = -32700 then "Parse error"
  else if e.code = -32600 then "Invalid request"
  else if e.code = -32601 then "Method not found"
  else if e.code = -32602 then "Invalid params"
  else if e.code = -32603 then "Internal error"
  else if e.code = -32800 then "Canceled"
  else if e.code = -32801 then "Content modified"
  else "Server error"

/-- What is said of an error. -/
def describe (e : ResponseError) : String :=
  e.description ++ ": " ++ e.message

/-- What was sent is no JSON. -/
def unparsable : ResponseError := ⟨-32700, "Parse error", none⟩

/-- What was sent is no message, or not one for now. -/
def invalidRequest : ResponseError := ⟨-32600, "Invalid request", none⟩

/-- Nothing is known of a method. -/
def methodNotFound (method : String) : ResponseError :=
  ⟨-32601, "Method not found", some (.string method)⟩

/-- A method is known but does nothing here. -/
def methodNotServed : ResponseError := ⟨-32601, "Method not found", none⟩

/-- The parameters of a method are not what it takes. -/
def invalidParams (message : String) : ResponseError := ⟨-32602, message, none⟩

/-- A request was taken back. -/
def canceled : ResponseError := ⟨-32800, "Canceled", none⟩

/-- A request came before the one that starts a session. -/
def notInitialized : ResponseError := ⟨-32002, "Server not initialized", none⟩

end ResponseError

namespace Response

/-- A response as a value. -/
def toJson (r : Response) : Json :=
  .ofMembers [("jsonrpc", version), ("id", r.id.toJson),
    match r.outcome with
    | .ok result => ("result", result)
    | .error e => ("error", e.toJson)]

/-- Reads what a response says. One with a result is no error, whatever else it has. -/
def readOutcome? (members : List (String × Json)) : Option (Except ResponseError Json) :=
  match requireMember? "result" readAny? members with
  | some result => some (.ok result)
  | none => (requireMember? "error" ResponseError.read? members).map .error

/-- Reads a response. -/
def read? : Json → Option Response
  | .object members => do
      let id ← requireMember? "id" RequestId.read? members
      let outcome ← readOutcome? members
      if hasVersion members then some ⟨id, outcome⟩ else none
  | _ => none

end Response

/-- What goes over a connection. -/
inductive Message where
  | request (r : Request)
  | response (r : Response)

namespace Message

/-- A message as a value. -/
def toJson : Message → Json
  | .request r => r.toJson
  | .response r => r.toJson

/-- Reads a message. What can be a response is one. -/
def read? (j : Json) : Option Message :=
  match Response.read? j with
  | some r => some (.response r)
  | none => (Request.read? j).map .request

end Message

end PullDiagnostics.Protocol
