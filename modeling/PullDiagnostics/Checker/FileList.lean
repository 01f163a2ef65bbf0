import PullDiagnostics.FilePath

/-!
# Lists of files in a file

A list of files that is too long for a command line goes into a file of its own, one path on
a line, each between double quotes with a backslash before every quote and backslash.
-/

namespace PullDiagnostics.FileList

/-- A text with a backslash before every double quote and backslash. -/
def escape : List Char → List Char
  | [] => []
  | c :: rest => if c = '"' || c = '\\' then '\\' :: c :: escape rest else c :: escape rest

/-- The line of a path. -/
def line (path : List Char) : List Char :=
  '"' :: escape path ++ ['"']

/-- The text of a list of paths. -/
def text (paths : List (List Char)) : List Char :=
  paths.flatMap fun p => line p ++ ['\n']

/-- The content of the file for a list of paths; what is not text in them is replaced. -/
def content (files : List FilePath) : Bytes :=
  Utf8.encode (text (files.map fun p => Utf8.decodeLossy p.bytes))

end PullDiagnostics.FileList
