import CyclicRedundancy.Stream.Source

/-!
# Trees of files

The places that paths lead to, and the opening of paths. A path is followed name by name: every name
but the last has to lead to a directory, an empty name or a dot stays, and two dots lead to the
parent. Names and paths may not be longer than the system allows.

A tree holds the files and directories that were put into it, as a rule below the working directory.
Of what lies outside, only the places are known that systems have in common. What the names of
standard input lead to depends on what it is: they lead to a pipe itself, but to the beginning of a
file that it is redirected from.
-/

namespace CyclicRedundancy

namespace Files

/-- What a place can hold. -/
inductive Node where
  | file (bytes : List UInt8)
  /-- The standard input of the program that opens it. -/
  | input
  | directory
  /-- Anything else that can be read, the same from its beginning whenever it is opened. -/
  | stream (script : Script) (honest : script.Honest)
  deriving Repr

/-- A place: the names that lead to it from the root. -/
abbrev Place := List String

namespace Place

/-- The root of all places. -/
def root : Place := []

/-- The working directory, which lies in the directory for temporary files. Its own name is not
known: the empty name stands for it, which no path leads to. -/
def here : Place := ["tmp", ""]

/-- The parent of a place; the root is its own. -/
def parent (p : Place) : Place := p.dropLast

/-- Where a name leads from a directory. -/
def enter (p : Place) (name : String) : Place :=
  if name = "" ∨ name = "." then p
  else if name = ".." then parent p
  else p ++ [name]

/-- The places that some names lead through one after the other, without the place where they come
to an end. -/
def passed (p : Place) : List String → List Place
  | [] => []
  | name :: names => p :: passed (enter p name) names

/-- The place where some names come to an end. -/
def reached (p : Place) (names : List String) : Place := names.foldl enter p

end Place

/-- The names on a path, which are separated by slashes. -/
def names (path : String) : List String := (path.toList.splitOn '/').map String.ofList

/-- Where a path starts: at the root if a slash is its first character. -/
def origin (path : String) : Place := if path.startsWith "/" then .root else .here

/-- What is at the places along a path if it leads to a node: directories that it leads through, and
the node. -/
def along (path : String) (node : Node) : List (Place × Node) :=
  (Place.passed (origin path) (names path)).map (·, .directory) ++
    [(Place.reached (origin path) (names path), node)]

/-- Directories that systems have in common. -/
def commonDirectories : List String :=
  ["/bin", "/boot", "/dev/pts", "/dev/shm", "/etc", "/home", "/lib", "/media", "/mnt", "/opt",
    "/root", "/run", "/sbin", "/srv", "/sys", "/tmp", "/usr/bin", "/usr/lib", "/usr/local",
    "/usr/sbin", "/usr/share", "/var/cache", "/var/lib", "/var/log", "/var/run", "/var/spool",
    "/var/tmp"]

/-- Devices that systems have in common: one that holds nothing, and what the names of standard
input lead to. -/
def commonDevices (standard : Node) : List (String × Node) :=
  [("/dev/null", .file []), ("/dev/stdin", standard), ("/dev/fd/0", standard),
    ("/proc/self/fd/0", standard)]

/-- What is known of every system, with the working directory. -/
def common (standard : Node) : List (Place × Node) :=
  (.here, .directory) :: commonDirectories.flatMap (along · .directory) ++
    (commonDevices standard).flatMap fun (path, node) => along path node

/-- The most bytes that a name may have. -/
def longestName : Nat := 255

/-- The most bytes that a path may have. -/
def longestPath : Nat := 4095

/-- The failure of a path with a character that ends texts for the system. -/
def brokenPath : Failure :=
  .reported .invalidInput "file name contained an unexpected NUL byte"

end Files

/-- Files and directories, each at its place. -/
structure Files where
  /-- The files and directories. Of two at one place the later counts. -/
  nodes : List (Files.Place × Files.Node)
  deriving Repr

namespace Files

/-- The tree of some directories and files, each at its path. What a path leads through is there
too. The names of standard input lead to `standard`, which is a pipe unless it is given. -/
def ofPaths (directories : List String) (files : List (String × List UInt8))
    (standard : Node := .input) : Files where
  nodes :=
    common standard ++ directories.flatMap (along · .directory) ++
      files.flatMap fun (path, bytes) => along path (.file bytes)

/-- What is found at a place. -/
def look? (t : Files) (p : Place) : Option Node :=
  (t.nodes.reverse.find? fun (place, _) => place == p).map (·.2)

/-- What is found by following names from a place. The length of a name matters only in a directory,
where the name is looked for. -/
def follow (t : Files) (p : Place) : List String → Except Failure.System Node
  | [] =>
    match t.look? p with
    | some node => .ok node
    | none => .error .notFound
  | name :: names =>
    match t.look? p with
    | some .directory =>
      if longestName < name.utf8ByteSize then .error .nameTooLong
      else t.follow (p.enter name) names
    | some _ => .error .notADirectory
    | none => .error .notFound

/-- Opens a path, when `input` is left of standard input. The empty path names nothing. -/
def access (t : Files) (input : Cursor) (path : String) : Except Failure Handle :=
  if path.toList.contains '\x00' then .error brokenPath
  else if path = "" then .error (.system .notFound)
  else if longestPath < path.utf8ByteSize then .error (.system .nameTooLong)
  else
    match t.follow (origin path) (names path) with
    | .ok (.file bytes) => .ok (.file (.ofList bytes))
    | .ok .input => .ok (.input input)
    | .ok .directory => .ok .directory
    | .ok (.stream script honest) => .ok (.stream script honest)
    | .error refusal => .error (.system refusal)

/-- Whether a path that starts at the root is a name of standard input. -/
def namesInput (path : String) : Bool :=
  match (ofPaths [] []).follow (origin path) (names path) with
  | .ok .input => path.startsWith "/"
  | _ => false

end Files

end CyclicRedundancy
