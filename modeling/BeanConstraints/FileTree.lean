/-
# Trees of files

What a path leads to, in a tree that is held as a list of its files and
directories. A path is walked component by component, from the root or from the
current directory, so everything before the last component has to be a directory.
Whoever reads files gets a function from paths to findings and need not know where
the files are.
-/

namespace BeanConstraints

/-- What a path leads to. -/
inductive Finding where
  | content (bytes : ByteArray)
  | directory
  /-- Something that cannot be read, and why. -/
  | unreadable (reason : String)
  /-- Nothing, and why. -/
  | missing (reason : String)

namespace Finding

/-- Whether there is something. -/
def isThere : Finding → Bool
  | missing _ => false
  | _ => true

/-- The text of the file, or why there is none to read. -/
def text : Finding → Except String String
  | content bytes =>
      match String.fromUTF8? bytes with
      | some text => .ok text
      | none => .error "stream did not contain valid UTF-8"
  | directory => .error "Is a directory (os error 21)"
  | unreadable reason => .error reason
  | missing reason => .error reason

end Finding

/-- The findings at all paths. -/
abbrev Files := String → Finding

namespace Files

/-- A path as it is meant inside a directory, with one slash between them. Inside no directory
it is the path itself, and so it is if it starts at the root. -/
def join (directory path : String) : String :=
  if path.toList.head? == some '/' then path
  else
    match directory.toList.getLast? with
    | none => path
    | some '/' => directory ++ path
    | some _ => directory ++ "/" ++ path

/-- The findings at the paths as they are meant inside a directory. -/
def within (files : Files) (directory : String) : Files := fun path =>
  files (join directory path)

end Files

/-- A file with its bytes, or a directory. -/
inductive FileTree.Node where
  | file (bytes : ByteArray)
  | directory

/-- Files and directories by their places. A place is the list of the names that lead to it from
the root. -/
structure FileTree where
  nodes : List (List String × FileTree.Node)
  /-- The place at which paths start that do not start at the root. -/
  current : List String

namespace FileTree

/-- The components of a path. Slashes that follow one another separate once. -/
def components (path : String) : List String :=
  ((path.toList.splitOn '/').filter fun part => !part.isEmpty).map String.ofList

/-- The place at which a path starts. -/
def origin (tree : FileTree) (path : String) : List String :=
  if path.toList.head? == some '/' then [] else tree.current

/-- Where a component leads from a place. Nothing lies above the root. -/
def step (place : List String) (part : String) : List String :=
  if part == "." then place
  else if part == ".." then place.dropLast
  else place ++ [part]

/-- What stands at a place. -/
def at? (tree : FileTree) (place : List String) : Option Node :=
  if place.isEmpty then some .directory
  else (tree.nodes.find? fun entry => entry.1 == place).map Prod.snd

/-- Put a node at a place, instead of what stood there. -/
def put (tree : FileTree) (place : List String) (node : Node) : FileTree :=
  { tree with nodes := (place, node) :: tree.nodes }

/-- Put a node at the end of the way from a place, and directories at every place before. -/
def putFrom (tree : FileTree) (place : List String) (node : Node) : List String → FileTree
  | [] => tree.put place node
  | part :: rest => (tree.put place .directory).putFrom (step place part) node rest

/-- Put a node at the end of a path, making the directories on the way. -/
def putAt (tree : FileTree) (path : String) (node : Node) : FileTree :=
  tree.putFrom (tree.origin path) node (components path)

/-- The directories that are found at the root of a system. -/
def systemDirectories : List String :=
  ["/bin", "/boot", "/dev", "/etc", "/home", "/lib", "/media", "/mnt", "/opt", "/proc", "/root",
    "/run", "/sbin", "/srv", "/sys", "/tmp", "/usr", "/var"]

/-- A system without files, but for the device that is always empty. -/
def system : FileTree :=
  let bare : FileTree := ⟨[], []⟩
  let furnished := systemDirectories.foldl (fun tree path => putAt tree path .directory) bare
  furnished.putAt "/dev/null" (.file .empty)

/-- A system whose current directory holds files and directories, put there one after the
other. -/
def ofList (current : String) (entries : List (String × Node)) : FileTree :=
  let tree := system.putAt current .directory
  entries.foldl (fun tree entry => tree.putAt entry.1 entry.2)
    { tree with current := components current }

/-- The longest name that a component may have, in bytes. -/
def nameLimit : Nat := 255

/-- The longest path, in bytes. -/
def pathLimit : Nat := 4095

/-- Follow components from a place. -/
def walk (tree : FileTree) (place : List String) : List String → Finding
  | [] =>
      match tree.at? place with
      | some (.file bytes) => .content bytes
      | some .directory => .directory
      | none => .missing "No such file or directory (os error 2)"
  | part :: rest =>
      match tree.at? place with
      | none => .missing "No such file or directory (os error 2)"
      | some (.file _) => .missing "Not a directory (os error 20)"
      | some .directory =>
          if nameLimit < part.utf8ByteSize then
            .missing "File name too long (os error 36)"
          else walk tree (step place part) rest

/-- What a path leads to. A slash at its end asks for a directory. -/
def files (tree : FileTree) : Files := fun path =>
  if path.toList.contains '\x00' then
    .missing "file name contained an unexpected NUL byte"
  else if path.isEmpty then .missing "No such file or directory (os error 2)"
  else if pathLimit < path.utf8ByteSize then .missing "File name too long (os error 36)"
  else
    let closing := if path.toList.getLast? == some '/' then ["."] else []
    tree.walk (tree.origin path) (components path ++ closing)

end FileTree

end BeanConstraints
