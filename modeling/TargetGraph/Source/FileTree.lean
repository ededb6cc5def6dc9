import TargetGraph.Source.ByteStream

/-!
Files and directories as far as a document's path can reach them: a working directory with all that it
holds. Of what lies above it only directories are known.
-/
set_option autoImplicit false

namespace TargetGraph

inductive FileTree where
  | file (bytes : List UInt8)
  | directory (members : List (String × FileTree))
deriving Repr, Inhabited

namespace FileTree

def components (path : String) : List String :=
  (split path.toList).map String.ofList
where
  split : List Char → List (List Char)
    | [] => [[]]
    | c :: rest =>
      if c = '/' then [] :: split rest
      else
        match split rest with
        | [] => [[c]]
        | part :: parts => (c :: part) :: parts

/-- The longest name of a file, and the length that a whole path must stay below, in bytes. -/
def nameLimit : Nat := 255
def pathLimit : Nat := 4096

def holding (names : List String) (tree : Option FileTree) : FileTree :=
  match names with
  | [] => directory []
  | [name] => directory (tree.toList.map fun tree => (name, tree))
  | name :: rest => directory [(name, holding rest tree)]

def names (path : String) : List String :=
  (components path).filter fun name => name ≠ "" ∧ name ≠ "."

/-- Follows the parts of a path from the innermost of some nested directories. Above the outermost one
there are only directories that hold nothing known. -/
def walk : List String → FileTree → List FileTree → Except OpenFailure FileTree
  | [], here, _ => .ok here
  | name :: rest, here, above =>
    match here with
    | file _ => .error (.failed .notADirectory)
    | directory members =>
      if name = "" ∨ name = "." then walk rest here above
      else if name = ".." then
        match above with
        | [] => walk rest (directory []) []
        | parent :: above => walk rest parent above
      else if nameLimit < name.utf8ByteSize then .error (.failed .nameTooLong)
      else
        match members.lookup name with
        | none => .error .notFound
        | some tree => walk rest tree (here :: above)

def follow (workingDirectory : FileTree) (path : String) : Except OpenFailure FileTree :=
  if path.toList.contains '\x00' then .error (.failed .nulInName)
  else if path = "" then .error .notFound
  else if pathLimit ≤ path.utf8ByteSize then .error (.failed .nameTooLong)
  else
    match components path with
    | "" :: parts => walk parts (directory []) []
    | parts => walk parts workingDirectory []

/-- The reads that an opened tree gives. A directory can be opened but not read. -/
def reads : FileTree → ByteStream
  | file bytes => [.bytes bytes]
  | directory _ => [.failed .isDirectory]

def files (workingDirectory : FileTree) : Files := fun path =>
  (workingDirectory.follow path).map reads

end FileTree

end TargetGraph
