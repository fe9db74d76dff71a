/-!
# Directories

A directory of files, and what the system says to reading and to creating a file by its path. Of
what is around the directory nothing is known but that it is there.
-/

namespace BoardSim

/-- Why a file cannot be read or created. -/
inductive FileFault where
  | missing
  | notDirectory
  | isDirectory
  | nameTooLong
  /-- Another reason, in the words of the system. -/
  | other (reason : String)
deriving DecidableEq

def FileFault.message : FileFault → String
  | missing => "No such file or directory (os error 2)"
  | notDirectory => "Not a directory (os error 20)"
  | isDirectory => "Is a directory (os error 21)"
  | nameTooLong => "File name too long (os error 36)"
  | other reason => reason

/-- The files by the names on the way to them. -/
structure Directory where
  files : List (List String × String)

namespace Directory

inductive Place where
  | inside (names : List String)
  | outside

/-- The longest name and the longest path, in bytes. -/
def maxName : Nat := 255
def maxPath : Nat := 4095

def parts (path : String) : List String := (path.splitOn "/").filter (· ≠ "")

def start (path : String) : Place := if path.toList.head? = some '/' then .outside else .inside []

def endsInSlash (path : String) : Bool := path.toList.getLast? == some '/'

def file? (d : Directory) : Place → Option String
  | .inside names => (d.files.find? (·.1 == names)).map (·.2)
  | .outside => none

def isDirectory (d : Directory) : Place → Bool
  | .inside names =>
    names.isEmpty || d.files.any fun (file, _) => names.isPrefixOf file && names ≠ file
  | .outside => true

def Place.parent : Place → Place
  | .inside (name :: names) => .inside (name :: names).dropLast
  | _ => .outside

/-- One part of a path further. -/
def enter (d : Directory) (place : Place) (part : String) : Except FileFault Place :=
  if !d.isDirectory place then .error .notDirectory
  else if part = "." then .ok place
  else if part = ".." then .ok place.parent
  else if maxName < part.utf8ByteSize then .error .nameTooLong
  else
    match place with
    | .outside => .error .missing
    | .inside names =>
      let next := .inside (names ++ [part])
      if (d.file? next).isSome || d.isDirectory next then .ok next else .error .missing

def walk (d : Directory) (path : String) (parts : List String) : Except FileFault Place :=
  if maxPath < path.utf8ByteSize then .error .nameTooLong
  else parts.foldlM d.enter (start path)

def read (d : Directory) (path : String) : Except FileFault String := do
  let place ← d.walk path (parts path)
  match d.file? place with
  | some text => if endsInSlash path then throw .notDirectory else pure text
  | none => throw .isDirectory

/-- Create a file, or overwrite one. A path that ends like that of a directory is refused. -/
def create (d : Directory) (path text : String) : Except FileFault Directory := do
  let names := parts path
  let name := names.getLast?.getD "."
  let parent ← d.walk path names.dropLast
  if !d.isDirectory parent then throw .notDirectory
  else if name = "." || name = ".." || endsInSlash path then throw .isDirectory
  else if maxName < name.utf8ByteSize then throw .nameTooLong
  else
    match parent with
    | .outside => pure d
    | .inside way =>
      if d.isDirectory (.inside (way ++ [name])) then throw .isDirectory
      else pure { files := (way ++ [name], text) :: d.files }

end Directory

end BoardSim
