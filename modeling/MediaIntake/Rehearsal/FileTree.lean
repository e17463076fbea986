/-! # Files by their paths

A path is followed name by name: from the root if it begins with a slash, from the working
directory otherwise.  Empty names and single dots stay where they are, two dots go up and stay
at the root.  **The first name that cannot be followed decides the fault**, so a missing
directory hides whatever is wrong further on; only the length of the whole path is looked at
before.
-/
namespace MediaIntake.Rehearsal

/-- Why a file could not be read as text. -/
inductive FileFault where
  | notFound
  | accessDenied
  /-- A name was to be looked up in something that is no directory. -/
  | notDirectory
  | isDirectory
  | nameTooLong
  | notText
  | other (code : Nat) (description : String)
  deriving DecidableEq, Repr

/-- What stands under a name. -/
inductive FileTree where
  | file (content : ByteArray)
  | directory (entries : List (String × FileTree))

/-- Files with the directory at the root and the path of the working directory. -/
structure Disk where
  root : List (String × FileTree)
  working : List String := []

namespace Disk

/-- The bytes that a name takes at most. -/
def maxName : Nat := 255

/-- The bytes that a path takes at most. -/
def maxPath : Nat := 4095

/-- The file that the names lead to, from a directory with those above it, the next one first. -/
def follow (here : List (String × FileTree)) (above : List (List (String × FileTree))) :
    List String → Except FileFault ByteArray
  | [] => .error .isDirectory
  | name :: names =>
    if name = "" ∨ name = "." then follow here above names
    else if name = ".." then
      match above with
      | [] => follow here [] names
      | parent :: above => follow parent above names
    else if maxName < name.utf8ByteSize then .error .nameTooLong
    else
      match here.lookup name with
      | none => .error .notFound
      | some (.directory entries) => follow entries (here :: above) names
      | some (.file content) => if names.isEmpty then .ok content else .error .notDirectory

/-- The bytes of the file at a path. -/
def readBytes (d : Disk) (path : String) : Except FileFault ByteArray :=
  let names := path.splitOn "/"
  if path.isEmpty then .error .notFound
  else if maxPath < path.utf8ByteSize then .error .nameTooLong
  else if names.head? = some "" then follow d.root [] names
  else follow d.root [] (d.working ++ names)

/-- The text of the file at a path. -/
def readText (d : Disk) (path : String) : Except FileFault String :=
  match d.readBytes path with
  | .error fault => .error fault
  | .ok bytes =>
    match String.fromUTF8? bytes with
    | some text => .ok text
    | none => .error .notText

end Disk
end MediaIntake.Rehearsal
