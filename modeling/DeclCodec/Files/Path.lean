import DeclCodec.Text.Split

/-!
# Paths

A path is a row of names, read from the working directory or from the root of the
file system. The written form is reduced: empty names and the names `.` are left
out, and so is a slash at the end. The name `..` stays, because what it leads to
is decided by the files.
-/

namespace DeclCodec

/-- A path; `root` is empty if the path starts at the working directory. -/
structure Path where
  root : String
  names : List String
deriving DecidableEq, Repr

namespace Path

/-- The root of a written path. Exactly two slashes at the beginning are kept as they are. -/
def rootOf : List Char → String
  | '/' :: '/' :: '/' :: _ => "/"
  | '/' :: '/' :: _ => "//"
  | '/' :: _ => "/"
  | _ => ""

/-- Does a name say where to go on? -/
def isStep (name : String) : Bool := name != "" && name != "."

/-- The path with a written form. -/
def ofText (text : String) : Path :=
  ⟨rootOf text.toList, ((Text.splitAt '/' text.toList).map String.ofList).filter isStep⟩

/-- The written form of a path. -/
def text (path : Path) : String :=
  if path.root = "" ∧ path.names = [] then "." else path.root ++ "/".intercalate path.names

/-- A path with another behind it, unless that one has a root of its own. -/
def join (path next : Path) : Path :=
  if next.root = "" then ⟨path.root, path.names ++ next.names⟩ else next

/-- The last name of a path. -/
def name (path : Path) : String := path.names.getLast?.getD ""

/-- The names of a path all lead somewhere. -/
theorem isStep_of_mem_ofText {text name : String} (isName : name ∈ (ofText text).names) :
    isStep name = true := (List.mem_filter.1 isName).2

end Path

end DeclCodec
