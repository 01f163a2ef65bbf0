import PullDiagnostics.Checker.Basic
import PullDiagnostics.Diagnostic
import PullDiagnostics.Json.Decode
import PullDiagnostics.SourceSet.Basic

/-!
# Settings

What a user can choose. Settings come in layers: built-in defaults, a file in the workspace,
what the client sends at the start and what it sends later. A layer is a JSON object; it
replaces the settings whose keys it names and leaves the others. A layer with a bad value for
any key it names is refused as a whole. A client may put its layer under a key of its own
beside other things.

A layer is put over settings by writing the settings as an object, replacing the members that
the layer names, and reading the object back.
-/

namespace PullDiagnostics

/-- What a user can choose. -/
structure Settings where
  /-- The command that analyses. -/
  command : String := "openjml"
  /-- Its arguments before the files. -/
  args : List String := []
  /-- Its arguments when it is asked for its version. -/
  versionArgs : List String := ["-version"]
  /-- Extensions of the files that are analysed. -/
  extensions : List String := ["java"]
  /-- Patterns of files that are not. -/
  exclude : List String := []
  /-- The length of a list of files above which it goes into a file. -/
  argfileThreshold : UInt64 := 32768
  /-- How wide a finding is shown whose end is not known. -/
  spanWidth : UInt32 := 10
  /-- The name that diagnostics are shown under; the checker's, if there is none. -/
  source : Option String := none
  deriving DecidableEq, Inhabited

namespace Settings

/-- The key under which a client may put its settings. -/
def sectionKey : String := "sift"

/-- The file in a workspace that holds settings. -/
def fileName : String := ".sift.json"

/-! ### Keys -/

/-- The keys of settings. -/
inductive Key where
  | argfileThreshold
  | args
  | command
  | exclude
  | extensions
  | source
  | spanWidth
  | versionArgs
  deriving DecidableEq

namespace Key

/-- All keys, in the order of their names. -/
def all : List Key :=
  [.argfileThreshold, .args, .command, .exclude, .extensions, .source, .spanWidth, .versionArgs]

/-- How a key is written. -/
def name : Key → String
  | .argfileThreshold => "argfileThreshold"
  | .args => "args"
  | .command => "command"
  | .exclude => "exclude"
  | .extensions => "extensions"
  | .source => "source"
  | .spanWidth => "spanWidth"
  | .versionArgs => "versionArgs"

/-- What stands under a key. -/
@[reducible] def Value : Key → Type
  | .argfileThreshold => UInt64
  | .spanWidth => UInt32
  | .command => String
  | .source => Option String
  | .args | .exclude | .extensions | .versionArgs => List String

/-- A value as it is written under its key. -/
def encode : (k : Key) → k.Value → Json
  | .argfileThreshold, n => .nat n.toNat
  | .spanWidth, n => .nat n.toNat
  | .command, s => .string s
  | .source, s => Json.ofOption .string s
  | .args, items | .exclude, items | .extensions, items | .versionArgs, items => .strings items

/-- Reads what is written under a key. -/
def decode : (k : Key) → Json → Except DecodeError k.Value
  | .argfileThreshold => Decode.word64
  | .spanWidth => Decode.word32
  | .command => Decode.string
  | .source => Decode.optional Decode.string
  | .args | .exclude | .extensions | .versionArgs => Decode.array Decode.string

theorem mem_all (k : Key) : k ∈ all := by
  cases k <;> decide

/-- No two settings have the same name. -/
theorem name_injective {k l : Key} (h : k.name = l.name) : k = l := by
  cases k <;> cases l <;> first | rfl | exact absurd h (by decide)

end Key

/-- What settings say under a key. -/
def get (s : Settings) : (k : Key) → k.Value
  | .argfileThreshold => s.argfileThreshold
  | .args => s.args
  | .command => s.command
  | .exclude => s.exclude
  | .extensions => s.extensions
  | .source => s.source
  | .spanWidth => s.spanWidth
  | .versionArgs => s.versionArgs

/-! ### As an object -/

/-- The members of settings as an object. -/
def members (s : Settings) : List (String × Json) :=
  Key.all.map fun k => (k.name, k.encode (s.get k))

/-- The settings as a value. -/
def toJson (s : Settings) : Json :=
  .object s.members

/-- Reads what the members of an object say under a key; the default, if they say nothing. -/
def read (members : List (String × Json)) (k : Key) : Except DecodeError k.Value :=
  match Json.field? k.name members with
  | none => .ok (({} : Settings).get k)
  | some j => k.decode j

/-- Reads settings from the members of an object. Keys are looked at in their order, so the
first bad one in that order is told. Other members are passed over. -/
def ofMembers (members : List (String × Json)) : Except DecodeError Settings := do
  let argfileThreshold ← read members .argfileThreshold
  let args ← read members .args
  let command ← read members .command
  let exclude ← read members .exclude
  let extensions ← read members .extensions
  let source ← read members .source
  let spanWidth ← read members .spanWidth
  let versionArgs ← read members .versionArgs
  pure { command, args, versionArgs, extensions, exclude, argfileThreshold, spanWidth, source }

/-! ### Layers -/

/-- The object of a layer: the one under the section key if there is one, else the layer
itself. -/
def layerOf? : Json → Option (List (String × Json))
  | .object members =>
      match Json.field? sectionKey members with
      | some (.object inner) => some inner
      | _ => some members
  | _ => none

/-- The members of an object with those of a layer in their places. No layer names a key
twice, so their order does not matter. -/
def merge (before layer : List (String × Json)) : List (String × Json) :=
  layer.foldr (fun (key, value) members => Json.set key value members) before

/-- Settings with a layer put over them. -/
def overlay (s : Settings) (layer : Json) : Except DecodeError Settings :=
  match layerOf? layer with
  | none => .ok s
  | some members => ofMembers (merge s.members members)

/-! ### What settings lead to -/

/-- The checker that settings name. -/
def checker (s : Settings) : Checker :=
  { Checker.ofCommand s.command with
    args := s.args, versionArgs := s.versionArgs, argfileThreshold := s.argfileThreshold.toNat }

/-- The files that settings name, under some roots. -/
def sources (s : Settings) (roots : List FilePath) : Except SourceError SourceSet :=
  SourceSet.build roots s.extensions s.exclude

/-- How findings of a checker are shown. -/
def presenter (s : Settings) (checkerName : String) : Presenter :=
  ⟨s.source.getD checkerName, s.spanWidth.toNat⟩

end Settings

end PullDiagnostics
