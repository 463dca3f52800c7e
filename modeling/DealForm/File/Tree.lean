import DealForm.File.Path

/-!
# File trees

A tree of directories and regular files, kept as its entries by place, and the directory from which
relative paths start. A path leads from directory to directory; each step may find that there is
no such entry, that it is no directory, or that its name is too long.

Nothing else can go wrong: there are no links and no permissions, a file that can be opened for
writing is written as a whole, and nobody else writes meanwhile.
-/

namespace DealForm

inductive FileFault where
  | notFound
  | alreadyExists
  | notDirectory
  | isDirectory
  | nameTooLong
  | nulByte
  | notText (fault : Utf8.Fault)
  | stated (message : String)
  deriving DecidableEq, Repr

namespace FileFault

def message : FileFault → String
  | notFound => "No such file or directory (os error 2)"
  | alreadyExists => "File exists (os error 17)"
  | notDirectory => "Not a directory (os error 20)"
  | isDirectory => "Is a directory (os error 21)"
  | nameTooLong => "File name too long (os error 36)"
  | nulByte => "file name contained an unexpected NUL byte"
  | notText fault => fault.message
  | stated message => message

end FileFault

/-- The names from the root down to an entry. -/
abbrev Location := List Name

inductive FileNode where
  | directory
  | file (content : Bytes)
  deriving DecidableEq, Repr

structure FileTree where
  entries : List (Location × FileNode)
  workingDirectory : Location := []
  deriving Repr

namespace FileTree

/-- The entry at a place; the root is always a directory. -/
def node? (t : FileTree) (place : Location) : Option FileNode :=
  if place = [] then some .directory else (t.entries.find? (·.1 == place)).map Prod.snd

def isDirectoryAt (t : FileTree) (place : Location) : Bool :=
  t.node? place == some .directory

def putEntry (place : Location) (node : FileNode) :
    List (Location × FileNode) → List (Location × FileNode)
  | [] => [(place, node)]
  | (q, n) :: es => if q = place then (q, node) :: es else (q, n) :: putEntry place node es

def put (t : FileTree) (place : Location) (node : FileNode) : FileTree :=
  { t with entries := putEntry place node t.entries }

def maxName : Nat := 255

def maxPath : Nat := 4095

/-! ## Following a path -/

def step (t : FileTree) (place : Location) (name : Name) : Except FileFault Location :=
  if !t.isDirectoryAt place then .error .notDirectory
  else if name = Path.dot then .ok place
  else if name = Path.dotDot then .ok place.dropLast
  else if maxName < name.length then .error .nameTooLong
  else if (t.node? (place ++ [name])).isSome then .ok (place ++ [name])
  else .error .notFound

def walk (t : FileTree) (place : Location) (names : List Name) : Except FileFault Location :=
  names.foldlM t.step place

def start (t : FileTree) (p : Path) : Location :=
  if p.isAbsolute then [] else t.workingDirectory

/-- Refuses paths that name nothing for any tree. -/
def checkUsable (p : Path) : Except FileFault Unit :=
  if p.bytes.contains 0 then .error .nulByte
  else if p.bytes.isEmpty then .error .notFound
  else if maxPath < p.bytes.length then .error .nameTooLong
  else .ok ()

/-- The entry that a path leads to. A path that ends in a slash leads to directories only. -/
def locate (t : FileTree) (p : Path) : Except FileFault Location := do
  checkUsable p
  let place ← t.walk (t.start p) p.names
  if p.endsInSlash && !t.isDirectoryAt place then .error .notDirectory else .ok place

inductive Target where
  /-- The path ends in the root or in dots, which are there already. -/
  | standing
  | name (directory : Location) (name : Name)

def target (t : FileTree) (p : Path) : Except FileFault Target := do
  checkUsable p
  match p.names.getLast? with
  | none => .ok .standing
  | some last =>
    let directory ← t.walk (t.start p) p.names.dropLast
    if !t.isDirectoryAt directory then .error .notDirectory
    else if last = Path.dot || last = Path.dotDot then .ok .standing
    else .ok (.name directory last)

/-! ## Reading -/

def isDirectory (t : FileTree) (p : Path) : Bool :=
  match t.locate p with
  | .ok place => t.isDirectoryAt place
  | .error _ => false

def holds (t : FileTree) (p : Path) : Bool :=
  match t.locate p with
  | .ok _ => true
  | .error _ => false

def readBytes (t : FileTree) (p : Path) : Except FileFault Bytes := do
  let place ← t.locate p
  match t.node? place with
  | some (.file content) => .ok content
  | some .directory => .error .isDirectory
  | none => .error .notFound

def readText (t : FileTree) (p : Path) : Except FileFault String := do
  let bytes ← t.readBytes p
  (Utf8.decode bytes).mapError .notText

/-! ## Writing -/

def makeDirectory (t : FileTree) (p : Path) : Except FileFault FileTree := do
  match ← t.target p with
  | .standing => .error .alreadyExists
  | .name directory name =>
    if maxName < name.length then .error .nameTooLong
    else if (t.node? (directory ++ [name])).isSome then .error .alreadyExists
    else .ok (t.put (directory ++ [name]) .directory)

/-- Makes a directory, unless one is there; a fault leaves the tree as it is. -/
def ensureDirectory (t : FileTree) (p : Path) : FileTree × Except FileFault Unit :=
  match t.makeDirectory p with
  | .ok t' => (t', .ok ())
  | .error fault => if t.isDirectory p then (t, .ok ()) else (t, .error fault)

/-- Makes a directory and, where they are missing, the directories above it, climbing at most
`turns` of them. Directories that were made stay, even if a later one can not be made. -/
def makeDirectoriesWithin : Nat → FileTree → Path → FileTree × Except FileFault Unit
  | 0, t, p => t.ensureDirectory p
  | turns + 1, t, p =>
    if p.bytes.isEmpty then (t, .ok ())
    else
      match t.makeDirectory p with
      | .ok t' => (t', .ok ())
      | .error .notFound =>
        match p.parent? with
        | none => (t, .error .notFound)
        | some parent =>
          match makeDirectoriesWithin turns t parent with
          | (t', .ok ()) => t'.ensureDirectory p
          | (t', .error fault) => (t', .error fault)
      | .error fault => if t.isDirectory p then (t, .ok ()) else (t, .error fault)

def makeDirectories (t : FileTree) (p : Path) : FileTree × Except FileFault Unit :=
  makeDirectoriesWithin (p.bytes.length + 1) t p

def overwrite (t : FileTree) (p : Path) (content : Bytes) : Except FileFault FileTree := do
  match ← t.target p with
  | .standing => .error .isDirectory
  | .name directory name =>
    let place := directory ++ [name]
    if p.endsInSlash then .error .isDirectory
    else if maxName < name.length then .error .nameTooLong
    else if t.isDirectoryAt place then .error .isDirectory
    else .ok (t.put place (.file content))

def writeBytes (t : FileTree) (p : Path) (content : Bytes) : FileTree × Except FileFault Unit :=
  match (p.parent?.map t.makeDirectories).getD (t, .ok ()) with
  | (t', .error fault) => (t', .error fault)
  | (t', .ok ()) =>
    match t'.overwrite p content with
    | .ok t'' => (t'', .ok ())
    | .error fault => (t', .error fault)

def writeText (t : FileTree) (p : Path) (text : String) : FileTree × Except FileFault Unit :=
  t.writeBytes p (Utf8.encode text)

def append (t : FileTree) (p : Path) (content : Bytes) : Except FileFault FileTree :=
  match t.readBytes p with
  | .ok old => t.overwrite p (old ++ content)
  | .error .notFound => t.overwrite p content
  | .error fault => .error fault

def filesBelow (t : FileTree) (place : Location) : List (Bytes × Bytes) :=
  t.entries.filterMap fun
    | (q, .file content) =>
      if place.isPrefixOf q then some (Path.joinSlashes (q.drop place.length), content) else none
    | _ => none

end FileTree

end DealForm
