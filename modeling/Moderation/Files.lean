/-!
# `Moderation.Files`: files and directories

The engine reads its configuration from files and writes its records to files. A tree of files is
given by the files, by further directories and by the working directory; every part of the way to
one of them is a directory. All ways begin at the root of the tree. A path begins there too if it
is absolute, and at the working directory otherwise, and two points in it lead to the directory
above, which is the root again for the root. Names and paths have a limited length, and the
machine may keep some places from being written to.

* `Location.ofText` normalizes the text of a path, `Location.text` is its way back.
* `Files.wayTo` follows the way to a place, and `Files.isThere` says whether it leads somewhere.
* `Files.filesBelow` finds files in all directories below one, in the order of their paths.
* `Files.makeWayFrom` and `Files.withFileAt?` make the directories on a way and the file at its end.
-/

set_option autoImplicit false

namespace Moderation

/-- A place in a tree of files: the names on the way to it. -/
structure Location where
  /-- The slashes at the beginning of a path that does not start at the working directory. -/
  root : String
  parts : List String
  deriving DecidableEq, Repr

namespace Location

/-- The slashes that count at the beginning of a path: two mean something of their own, and more
are one. -/
def rootOf (path : List Char) : String :=
  match (path.takeWhile (· == '/')).length with
  | 0 => ""
  | 2 => "//"
  | _ => "/"

/-- The parts of a path between its slashes. `part` holds the characters of the first one so far, the
last one first. -/
def partsAfter (part : List Char) : List Char → List (List Char)
  | [] => [part.reverse]
  | c :: rest =>
    if c = '/' then part.reverse :: partsAfter [] rest
    else partsAfter (c :: part) rest

/-- The place that a path names. Empty parts and single points do not count. -/
def ofText (path : String) : Location where
  root := rootOf path.toList
  parts := ((partsAfter [] path.toList).map String.ofList).filter fun part =>
    part != "" && part != "."

/-- Whether the path starts at the root of all directories. -/
def isAbsolute (place : Location) : Bool := place.root != ""

/-- The path of a place. -/
def text (place : Location) : String :=
  if place.root == "" && place.parts.isEmpty then "."
  else place.root ++ "/".intercalate place.parts

/-- The place of the directory that a place lies in. -/
def parent (place : Location) : Location := { place with parts := place.parts.dropLast }

/-- The place at the end of a way, with a path that begins at the root as that of `place` does. -/
def resolved (place : Location) (way : List String) : Location where
  root := if place.isAbsolute then place.root else "/"
  parts := way

/-- The number of bytes that a path may have. -/
def pathLimit : Nat := 4095

/-- Whether the path of a place is short enough. -/
def fits (place : Location) : Bool := place.text.utf8ByteSize ≤ pathLimit

end Location

/-- Why a way does not lead on. -/
inductive Obstacle where
  /-- There is nothing, or a file in place of a directory. -/
  | missing
  /-- A name or the whole path is too long. -/
  | tooLong
  deriving DecidableEq, Repr

/-- A tree of files. -/
structure Files where
  /-- The files, by their way from the root. -/
  files : List (List String × ByteArray)
  /-- The ways to further directories. -/
  directories : List (List String) := []
  /-- The way to the working directory. -/
  home : List String := []
  /-- Whether nothing can be made or written at the end of a way. -/
  isLocked : List String → Bool := fun _ => false

namespace Files

/-- The number of bytes that a name may have. -/
def nameLimit : Nat := 255

/-- Whether a name is short enough. -/
def fits (name : String) : Bool := name.utf8ByteSize ≤ nameLimit

/-- The content of the file at the end of a way. -/
def contentAt? (tree : Files) (way : List String) : Option ByteArray := tree.files.lookup way

/-- Whether a way ends at a directory. -/
def isDirectoryAt (tree : Files) (way : List String) : Bool :=
  way.isPrefixOf tree.home || tree.directories.any (way.isPrefixOf ·) ||
    tree.files.any fun (file, _) => way.isPrefixOf file && way.length < file.length

/-- The way along some names from the end of another. Each of them but the last has to be a
directory, and two points lead to the one above. -/
def wayFrom (tree : Files) (way : List String) : List String → Except Obstacle (List String)
  | [] => .ok way
  | part :: parts =>
    if !tree.isDirectoryAt way then .error .missing
    else if part = ".." then wayFrom tree way.dropLast parts
    else if !fits part then .error .tooLong
    else wayFrom tree (way ++ [part]) parts

/-- The way to the directory that the path of a place begins at. -/
def start (tree : Files) (place : Location) : List String :=
  if place.isAbsolute then [] else tree.home

/-- The way to a place. -/
def wayTo (tree : Files) (place : Location) : Except Obstacle (List String) :=
  if !place.fits then .error .tooLong
  else tree.wayFrom (tree.start place) place.parts

/-- The content of the file at a place. -/
def content? (tree : Files) (place : Location) : Option ByteArray :=
  (tree.wayTo place).toOption.bind tree.contentAt?

/-- Whether there is anything at a place. The only obstacle is a length. -/
def isThere (tree : Files) (place : Location) : Except Obstacle Bool :=
  match tree.wayTo place with
  | .ok way => .ok (tree.isDirectoryAt way || (tree.contentAt? way).isSome)
  | .error .missing => .ok false
  | .error .tooLong => .error .tooLong

/-- The ways from the working directory to all files below it. -/
def ways (tree : Files) : List (List String) :=
  (tree.files.map (·.1)).filterMap tree.home.isPrefixOf?

/-- Whether the names `a` come before `b` or are the same. -/
def isOrdered : (a b : List String) → Bool
  | [], _ => true
  | _ :: _, [] => false
  | a :: as, b :: bs => if a = b then isOrdered as bs else a < b

/-- The files with a suffix in the directory at a place and in all directories below, in the
order of the names on the way to them. -/
def filesBelow (tree : Files) (place : Location) (suffix : String) : List Location :=
  match tree.wayTo place with
  | .ok way =>
    let below := (tree.files.map (·.1)).filter fun file =>
      way.isPrefixOf file && way.length < file.length &&
        (file.getLast?.any (·.endsWith suffix))
    let rests := (below.map (·.drop way.length)).mergeSort isOrdered
    rests.map fun rest => { place with parts := place.parts ++ rest }
  | .error _ => []

/-- How many directories lie inside one another below a place. -/
def levelsBelow (tree : Files) (place : Location) : Nat :=
  match tree.wayTo place with
  | .ok way =>
    let directories := tree.home :: tree.directories ++ tree.files.map (·.1.dropLast)
    ((directories.filter (way.isPrefixOf ·)).map (·.length - way.length)).foldl max 0
  | .error _ => 0

/-! ### Making directories and files -/

/-- The way along some names from the directory at the end of `way`, and the tree with the
directories that it lacked on this way. No way leads through a file, no name is too long, and
nothing is made at a locked place. -/
def makeWayFrom (tree : Files) (way : List String) :
    List String → Option (List String) × Files
  | [] => (some way, tree)
  | part :: parts =>
    let next := way ++ [part]
    if part = ".." then makeWayFrom tree way.dropLast parts
    else if !fits part || (tree.contentAt? next).isSome then (none, tree)
    else if tree.isDirectoryAt next then makeWayFrom tree next parts
    else if !tree.isDirectoryAt way || tree.isLocked next then (none, tree)
    else makeWayFrom { tree with directories := tree.directories ++ [next] } next parts

/-- Whether a file can be written at the end of a way: there is a directory for it, no directory
in its place, no name that is too long, and the place is not locked. -/
def isWritableAt (tree : Files) (way : List String) : Bool :=
  tree.isDirectoryAt way.dropLast && !tree.isDirectoryAt way && way.all fits && !tree.isLocked way

/-- The tree with a file at the end of a way, which is empty if it is new. -/
def withFileAt? (tree : Files) (way : List String) : Option Files :=
  if !tree.isWritableAt way then none
  else if (tree.contentAt? way).isSome then some tree
  else some { tree with files := tree.files ++ [(way, .empty)] }

end Files

end Moderation
