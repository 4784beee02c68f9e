import ShaderBuild.Disk.Basic

/-!
A file tree with a working directory. Paths are followed component by component: `.` stays, `..`
goes up, and everything that something is looked up in has to be a directory, also where `..` goes
up again at once. What is wrong first on the way is what is reported.
-/

set_option autoImplicit false
set_option relaxedAutoImplicit false

namespace ShaderBuild

/-- Devices that stand in a tree like files. -/
inductive Device where
  /-- Takes everything and keeps nothing. -/
  | null
  /-- Has no room for a single byte. -/
  | full
  deriving DecidableEq, Repr

inductive Node where
  | directory
  | file (content : Bytes)
  | device (device : Device)
  deriving DecidableEq, Repr

/-- Names from the root of a tree downwards. -/
abbrev Location := List String

structure FileTree where
  /-- Everything below the root. -/
  entries : List (Location × Node)
  /-- The working directory. -/
  here : Location
  deriving DecidableEq, Repr

namespace FileTree

/-- An empty working directory, beside the devices. -/
def empty : FileTree where
  entries :=
    [(["dev"], .directory), (["dev", "null"], .device .null), (["dev", "full"], .device .full),
      (["work"], .directory)]
  here := ["work"]

def find? (tree : FileTree) (location : Location) : Option Node :=
  if location = [] then some .directory else tree.entries.lookup location

/-- Puts a node in the place of what was there. -/
def put (tree : FileTree) (location : Location) (node : Node) : FileTree :=
  { tree with
    entries := tree.entries.filter (fun entry ↦ entry.1 != location) ++ [(location, node)] }

/-! ### Paths -/

/-- The longest name, in bytes. -/
def maxNameSize : Nat := 255

/-- The longest path, in bytes. -/
def maxPathSize : Nat := 4095

/-- The names in a path. Slashes that stand together count as one. -/
def components (path : String) : List String :=
  ((path.toList.splitOn '/').filter fun name ↦ !name.isEmpty).map String.ofList

/-- Follows names from one directory to another. -/
def walk (tree : FileTree) : Location → List String → Except OsFailure Location
  | place, [] => .ok place
  | place, name :: rest =>
    if name = "." then walk tree place rest
    else if name = ".." then walk tree place.dropLast rest
    else if name.utf8ByteSize > maxNameSize then .error .nameTooLong
    else
      match tree.find? (place ++ [name]) with
      | some .directory => walk tree (place ++ [name]) rest
      | some _ => .error .notDirectory
      | none => .error .noEntry

/-- What a path leads to: a directory for certain, or an entry of a directory that may be of any
kind or missing. -/
inductive Target where
  | directory
  | entry (location : Location) (name : String) (slashAfter : Bool)
  deriving DecidableEq, Repr

/-- Follows a path up to its last name. -/
def target (tree : FileTree) (path : String) : Except IoError Target :=
  if path.toList.contains '\x00' then .error .nulInPath
  else if path.isEmpty then .error (.system .noEntry)
  else if path.utf8ByteSize > maxPathSize then .error (.system .nameTooLong)
  else
    let start := if path.toList.head? = some '/' then [] else tree.here
    let names := components path
    match names.getLast? with
    | none => .ok .directory
    | some last =>
      if last = "." ∨ last = ".." then
        match tree.walk start names with
        | .error failure => .error (.system failure)
        | .ok _ => .ok .directory
      else
        match tree.walk start names.dropLast with
        | .error failure => .error (.system failure)
        | .ok place => .ok (.entry place last (path.toList.getLast? == some '/'))

/-! ### Reading and writing -/

def readFile (tree : FileTree) (path : String) : Except IoError Bytes :=
  match tree.target path with
  | .error error => .error error
  | .ok .directory => .error (.system .isDirectory)
  | .ok (.entry place name slashAfter) =>
    if name.utf8ByteSize > maxNameSize then .error (.system .nameTooLong)
    else
      match tree.find? (place ++ [name]) with
      | none => .error (.system .noEntry)
      | some .directory => .error (.system .isDirectory)
      | some (.file content) =>
        if slashAfter then .error (.system .notDirectory) else .ok content
      | some (.device .null) => if slashAfter then .error (.system .notDirectory) else .ok []
      | some (.device .full) =>
        .error (if slashAfter then .system .notDirectory else .bare .outOfMemory)

def writeFile (tree : FileTree) (path : String) (content : Bytes) :
    Except IoError Unit × FileTree :=
  match tree.target path with
  | .error error => (.error error, tree)
  | .ok .directory => (.error (.system .isDirectory), tree)
  | .ok (.entry place name slashAfter) =>
    if slashAfter then (.error (.system .isDirectory), tree)
    else if name.utf8ByteSize > maxNameSize then (.error (.system .nameTooLong), tree)
    else
      match tree.find? (place ++ [name]) with
      | some .directory => (.error (.system .isDirectory), tree)
      | some (.device .null) => (.ok (), tree)
      | some (.device .full) =>
        (if content.isEmpty then .ok () else .error (.system .noSpace), tree)
      | _ => (.ok (), tree.put (place ++ [name]) (.file content))

/-- Makes the directories that names lead through and are not there. -/
def makeAlong (tree : FileTree) : Location → List String → FileTree
  | _, [] => tree
  | place, name :: rest =>
    if name = "." then makeAlong tree place rest
    else if name = ".." then makeAlong tree place.dropLast rest
    else
      match tree.find? (place ++ [name]) with
      | some _ => makeAlong tree (place ++ [name]) rest
      | none => makeAlong (tree.put (place ++ [name]) .directory) (place ++ [name]) rest

/-- Makes a directory and all those on the way to it from the working directory. -/
def makeDirectory (tree : FileTree) (path : String) : FileTree :=
  makeAlong tree tree.here (components path)

/-- The files below the working directory, each by its path from there. -/
def listing (tree : FileTree) : List (String × Bytes) :=
  tree.entries.filterMap fun
    | (location, .file content) =>
      if tree.here.isPrefixOf location then
        some (String.intercalate "/" (location.drop tree.here.length), content)
      else none
    | _ => none

/-- The tree as a disk. -/
def disk : Disk FileTree where
  read path tree := tree.readFile path
  write path content tree := tree.writeFile path content

end FileTree

end ShaderBuild
