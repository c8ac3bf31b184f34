import BoardLink.CommandLine.Path
import BoardLink.CommandLine.System

/-!
# A file tree in memory

A system of which files are all there is: paths are followed from folder to folder, and the first
part that cannot be followed decides the error.
-/

namespace BoardLink.CommandLine

def isFolder : IoError := .system .other 21 "Is a directory"

def notFolder : IoError := .system .other 20 "Not a directory"

/-- Files by their names from the root on. The folders on these ways exist too, and so do the
working folder and the folders on the way to it. -/
structure FileTree where
  /-- The working folder, where paths start that do not start at the root. -/
  here : List String := []
  files : List (List String × String) := []
  deriving DecidableEq, Repr

inductive Place where
  | folder (way : List String)
  | file (way : List String) (text : String)
  | vacant (way : List String)
  deriving DecidableEq, Repr

namespace FileTree

/-! ### Following a path -/

/-- What stands at the end of a way from the root. -/
def look (t : FileTree) (way : List String) : Place :=
  match t.files.lookup way with
  | some text => .file way text
  | none =>
    if way.isPrefixOf t.here || t.files.any fun (other, _) => way.isPrefixOf other then .folder way
    else .vacant way

/-- The step from a folder to one of its parts. Above the root is the root. -/
def step (t : FileTree) (folder : List String) (part : String) : Except IoError Place :=
  if part = "" ∨ part = "." then .ok (.folder folder)
  else if part = ".." then .ok (.folder folder.dropLast)
  else if Path.maxPart < part.utf8ByteSize then .error Path.tooLong
  else .ok (t.look (folder ++ [part]))

/-- Follows parts from a place. Only a folder leads on, and every part, empty or not, needs one. -/
def follow (t : FileTree) : Place → List String → Except IoError Place
  | place, [] => .ok place
  | .file .., _ :: _ => .error notFolder
  | .vacant _, _ :: _ => .error .noSuchFile
  | .folder way, part :: parts =>
    match t.step way part with
    | .error e => .error e
    | .ok place => t.follow place parts

def start (t : FileTree) (path : String) : Place :=
  .folder (if Path.isAbsolute path then [] else t.here)

/-! ### Reading and writing -/

def read (t : FileTree) (path : String) : Except IoError String := do
  Path.check path
  match ← t.follow (t.start path) (Path.parts path) with
  | .folder _ => .error isFolder
  | .file _ text => .ok text
  | .vacant _ => .error .noSuchFile

def put (t : FileTree) (way : List String) (text : String) : FileTree :=
  { t with files := t.files.filter (fun (other, _) => other ≠ way) ++ [(way, text)] }

/-- What a path for writing leads to. A path that ends in a slash means a folder, whatever stands
there: its last name is not looked at. -/
def target (t : FileTree) (path : String) : Except IoError Place :=
  if Path.endsInSlash path then
    t.follow (t.start path) (((Path.parts path).filter (· ≠ "")).dropLast ++ [""])
  else t.follow (t.start path) (Path.parts path)

def write (t : FileTree) (path text : String) : Except IoError FileTree := do
  Path.check path
  match ← t.target path with
  | .folder _ => .error isFolder
  | .file way _ | .vacant way => .ok (t.put way text)

/-- Opens a device, of which the tree has none: any file there can be opened, but not waited for. -/
def connect (t : FileTree) (path : String) : Except IoError Unit :=
  (t.read path).map fun _ => ()

/-! ### The working folder -/

/-- A tree with files in a working folder among temporary ones, and with the null device. For a
program that does not read what it wrote, that device is as good as an empty file. -/
def ofFiles (files : List (String × String)) : FileTree :=
  let here := ["tmp", "work"]
  files.foldl (fun t (path, text) => t.put (here ++ Path.names path) text)
    { here, files := [(["dev", "null"], "")] }

def toFiles (t : FileTree) : List (String × String) :=
  (t.files.filter fun (way, _) => t.here.isPrefixOf way).map fun (way, text) =>
    (String.intercalate "/" (way.drop t.here.length), text)

/-- The system of which a tree is all there is. -/
def system : System (StateM FileTree) Unit where
  read path := fun t => (t.read path, t)
  write path text := fun t =>
    match t.write path text with
    | .error e => (.error e, t)
    | .ok t => (.ok (), t)
  connect path := fun t => (t.connect path, t)
  serve _ _ := fun t =>
    (.error { context := "registering serial link",
              causes := [(IoError.system .permissionDenied 1 "Operation not permitted").message] }, t)

end FileTree

end BoardLink.CommandLine
