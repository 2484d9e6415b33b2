/-!
# Files

The files that a program run can read. A path is followed step by step, from
the working directory or from the root, and the first step that cannot be
taken tells what is wrong.

Of the working directory all is known. Of what lies around it only that is
known which every system has: the standard folders at the root, the empty
device, and the device that stands for the input.
-/

namespace LamApp

/-- Why a file cannot be read. -/
inductive FileFault where
  | notFound
  | notDirectory
  | isDirectory
  | nameTooLong
deriving DecidableEq

namespace FileFault

/-- The fault in the words of the system, with its number. -/
def message : FileFault → String
  | notFound => "No such file or directory (os error 2)"
  | notDirectory => "Not a directory (os error 20)"
  | isDirectory => "Is a directory (os error 21)"
  | nameTooLong => "File name too long (os error 36)"

end FileFault

/-- Files and folders by the names on the way to them. -/
structure FileTree where
  files : List (List String × ByteArray)
  folders : List (List String)

/-- What stands at a place of a tree. -/
inductive Entry where
  | file (content : ByteArray)
  | folder

namespace FileTree

/-- What stands at a place. A folder is there if something is in it. -/
def entry? (tree : FileTree) (place : List String) : Option Entry :=
  match tree.files.lookup place with
  | some content => some (.file content)
  | none =>
    if (tree.folders ++ tree.files.map Prod.fst).any place.isPrefixOf then
      some .folder
    else
      none

end FileTree

/-- A folder on the way along a path. -/
inductive Folder where
  /-- A folder of the working directory. -/
  | working (place : List String)
  /-- A folder that holds the working directory. -/
  | above
  /-- A folder below the root. -/
  | system (place : List String)

/-- All that is known of the files. -/
structure FileSystem where
  working : FileTree
  system : FileTree

namespace FileSystem

/-- The longest name of a file, in bytes. -/
def nameLimit : Nat :=
  255

/-- The longest path, in bytes. -/
def pathLimit : Nat :=
  4095

/-- The folders that stand at the root of every system. -/
def standardFolders : List String :=
  [ "bin", "boot", "dev", "etc", "home", "lib", "media", "mnt", "opt", "proc",
    "root", "run", "sbin", "srv", "sys", "tmp", "usr", "var" ]

/-- The files of a working directory, and what the input device holds. -/
def ofFiles (files : List (String × ByteArray)) (input : ByteArray) :
    FileSystem where
  working :=
    { files := files.map fun file => (file.1.splitOn "/", file.2)
      folders := [] }
  system :=
    { files :=
        [ (["dev", "null"], .empty), (["dev", "stdin"], input),
          (["dev", "fd", "0"], input) ]
      folders := standardFolders.map fun name => [name] }

/-- The folder around a folder; the root has none but itself. -/
def parent : Folder → Folder
  | .working [] => .above
  | .working (name :: names) => .working (name :: names).dropLast
  | .above => .above
  | .system place => .system place.dropLast

/-- What stands in a folder under a name, and the folder that it is if it is
one. -/
def child? (system : FileSystem) (name : String) : Folder →
    Option (Entry × Folder)
  | .working place =>
    (system.working.entry? (place ++ [name])).map (·, .working (place ++ [name]))
  | .above => none
  | .system place =>
    (system.system.entry? (place ++ [name])).map (·, .system (place ++ [name]))

/-- Follows the steps of a path to the content of a file. -/
def follow (system : FileSystem) (folder : Folder) :
    List String → Except FileFault ByteArray
  | [] => .error .isDirectory
  | step :: steps =>
    if step = "" || step = "." then
      follow system folder steps
    else if step = ".." then
      follow system (parent folder) steps
    else if nameLimit < step.utf8ByteSize then
      .error .nameTooLong
    else
      match system.child? step folder, steps with
      | none, _ => .error .notFound
      | some (.folder, inner), _ => follow system inner steps
      | some (.file content, _), [] => .ok content
      | some (.file _, _), _ :: _ => .error .notDirectory

/-- The content of the file at a path. -/
def read (system : FileSystem) (path : String) :
    Except FileFault ByteArray :=
  if path.isEmpty then
    .error .notFound
  else if pathLimit < path.utf8ByteSize then
    .error .nameTooLong
  else
    match path.splitOn "/" with
    | "" :: steps => system.follow (.system []) steps
    | steps => system.follow (.working []) steps

end FileSystem
end LamApp
