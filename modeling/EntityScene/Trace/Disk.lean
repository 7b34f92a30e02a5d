import EntityScene.Trace.Event

/-!
Files that the recorder writes. A path is resolved name by name, from the root if it begins with a slash and
else from the working directory; each name but the last must lead to a directory. Paths and names have a
greatest length.
-/

namespace EntityScene.Trace

inductive File where
  | text (content : String)
  | trace (entries : List Entry)
  deriving DecidableEq, Repr, Inhabited

/-- A place is given by the names that lead to it, from the root or from the working directory. Where the
working directory lies is not known, so no place has both forms. -/
structure Place where
  rooted : Bool
  names : List String
  deriving DecidableEq, Repr, Inhabited

namespace Place

def child (place : Place) (name : String) : Place := { place with names := place.names ++ [name] }

/-- The place is the root, the working directory or a directory above that. -/
def isBase (place : Place) : Bool := place.names.all fun name => name == ".."

/-- The place above. The root has none; above the working directory the way leads on upwards. -/
def above (place : Place) : Place :=
  if place.isBase then if place.rooted then place else place.child ".."
  else { place with names := place.names.dropLast }

end Place

structure Disk where
  directories : List Place := []
  files : List (Place × File) := []
  deriving DecidableEq, Repr, Inhabited

namespace Disk

/-- The parts of a path between its slashes. -/
def parts : List Char → List (List Char)
  | [] => [[]]
  | c :: rest =>
    match parts rest with
    | [] => [[c]]
    | first :: others => if c = '/' then [] :: first :: others else (c :: first) :: others

def partNames (path : String) : List String := (parts path.toList).map String.ofList

/-- The names of a path. Empty names and single dots stand for the directory they follow. -/
def names (path : String) : List String :=
  (partNames path).filter fun name => name != "" && name != "."

/-- Where the first name of the path is looked up. -/
def origin (path : String) : Place := ⟨path.toList.head? == some '/', []⟩

/-- The last name of the path can name a file. -/
def namesFile (path : String) : Bool :=
  match (partNames path).getLast? with
  | some name => name != "" && name != "." && name != ".."
  | none => false

/-- The most bytes of a path. -/
def pathLimit : Nat := 4095

/-- The most bytes of a name. -/
def nameLimit : Nat := 255

/-- The path can be resolved at all: it is not too long, and no null character cuts it short. -/
def usable (path : String) : Bool :=
  decide (path.utf8ByteSize ≤ pathLimit) && !path.toList.contains '\x00'

/-- The name can stand for a new file or directory. -/
def admissible (name : String) : Bool := decide (name.utf8ByteSize ≤ nameLimit)

def isDirectory (disk : Disk) (place : Place) : Bool := place.isBase || disk.directories.contains place

def isFile (disk : Disk) (place : Place) : Bool := disk.files.any fun entry => entry.1 == place

/-- Walks along the names from a directory and makes the directories that are missing. -/
def makeDirectories (disk : Disk) (start : Place) : List String → Option Place × Disk
  | [] => (some start, disk)
  | name :: rest =>
    if name == ".." then disk.makeDirectories start.above rest
    else
      let place := start.child name
      if disk.isDirectory place then disk.makeDirectories place rest
      else if disk.isFile place || !admissible name then (none, disk)
      else { disk with directories := disk.directories ++ [place] }.makeDirectories place rest

/-- Walks along the names from a directory. -/
def walk (disk : Disk) (start : Place) : List String → Option Place
  | [] => some start
  | name :: rest =>
    if name == ".." then disk.walk start.above rest
    else if disk.isDirectory (start.child name) then disk.walk (start.child name) rest
    else none

/-- Creates or overwrites the file at a place whose directory is there. -/
def put (disk : Disk) (directory : Place) (name : String) (file : File) : Bool × Disk :=
  let place := directory.child name
  if disk.isDirectory place || !admissible name then (false, disk)
  else
    (true,
      { disk with files := disk.files.filter (fun entry => entry.1 != place) ++ [(place, file)] })

/-- Writes a file in a directory that is there. -/
def write (disk : Disk) (path : String) (file : File) : Bool × Disk :=
  match usable path && namesFile path, disk.walk (origin path) (names path).dropLast, (names path).getLast? with
  | true, some directory, some name => disk.put directory name file
  | _, _, _ => (false, disk)

/-- Writes a file and makes the directories that lead to it. -/
def save (disk : Disk) (path : String) (file : File) : Bool × Disk :=
  if usable path then
    match disk.makeDirectories (origin path) (names path).dropLast with
    | (none, disk) => (false, disk)
    | (some _, disk) => disk.write path file
  else (false, disk)

def read (disk : Disk) (path : String) : Option File :=
  if usable path && namesFile path then
    match disk.walk (origin path) (names path).dropLast, (names path).getLast? with
    | some directory, some name => disk.files.lookup (directory.child name)
    | _, _ => none
  else none

end Disk

end EntityScene.Trace
