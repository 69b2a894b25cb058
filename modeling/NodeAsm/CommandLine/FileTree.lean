import NodeAsm.Fault

/-!
# File trees

The files that a command sees: directories and regular files below the current
directory. Names are byte texts; a path is split at its slashes.
-/

namespace NodeAsm

/-- Why a path cannot be used. -/
inductive PathFault where
  | missing
  | notDirectory
  | isDirectory
  | invalid
  | tooLong
  deriving DecidableEq, Repr

/-- The wording of a path fault. -/
def PathFault.message : PathFault → Text
  | missing => "no such file or directory"
  | notDirectory => "not a directory"
  | isDirectory => "is a directory"
  | invalid => "invalid argument"
  | tooLong => "file name too long"

/-- The fault of an operation on a path. -/
def PathFault.fault (operation path : Text) (f : PathFault) : Fault :=
  .noted (operation ++ " " ++ path) (.plain f.message)

/-- A path below the current directory, outermost name first. -/
abbrev Path := List Text

/-- Directories and files by path. -/
structure FileTree where
  directories : List Path
  files : List (Path × Text)
  deriving DecidableEq, Repr

namespace FileTree

/-- What stands at a path. -/
inductive Found where
  | directory
  | file (content : Text)
  | nothing
  deriving DecidableEq, Repr

/-- Whether a directory stands at a path: one was made, or something stands below
it. -/
def isDirectory (t : FileTree) (p : Path) : Bool :=
  p.isEmpty || t.directories.any (fun d => p.isPrefixOf d)
    || t.files.any fun (q, _) => p.isPrefixOf q && p.length < q.length

/-- What stands at a path. -/
def find (t : FileTree) (p : Path) : Found :=
  match t.files.lookup p with
  | some content => .file content
  | none => if t.isDirectory p then .directory else .nothing

/-- Where a name leads from a directory. -/
def beside (here : Path) (name : Text) : Path :=
  if name = "." then here else if name = ".." then here.dropLast else here ++ [name]

/-- Whether a name leads to a directory whatever stands there. -/
def isDots (name : Text) : Bool :=
  name = "." || name = ".."

/-- What lies above the current directory: directories, of whose other content
nothing is known. -/
def above (names : List Text) : Except PathFault (Path × Found) :=
  if names.all isDots then .ok ([], .directory) else .error .missing

/-- Walks along names from a directory. Every name but the last has to be a
directory. -/
def walk (t : FileTree) (here : Path) : List Text → Except PathFault (Path × Found)
  | [] => .ok (here, t.find here)
  | name :: rest =>
      if name.length > 255 then .error .tooLong
      else if name = ".." ∧ here = [] then above rest
      else
        let next := beside here name
        match rest, t.find next with
        | [], found => .ok (next, found)
        | _ :: _, .directory => walk t next rest
        | _ :: _, .file _ => .error .notDirectory
        | _ :: _, .nothing => .error .missing

/-- Whether a text ends with a slash. It then names a directory. -/
def endsWithSlash (text : Text) : Bool :=
  text.getLast? = some 0x2F

/-- The names of a text between its slashes. -/
def namesOf (text : Text) : List Text :=
  (text.splitAtByte 0x2F).filter fun (name : Text) => !name.isEmpty

/-- What stands at the end of `names`, which a text lists. -/
def follow (t : FileTree) (text : Text) (names : List Text) : Except PathFault (Path × Found) :=
  if text.contains 0 then .error .invalid
  else if text.length ≥ 4096 then .error .tooLong
  else
    match text with
    | [] => .error .missing
    | 0x2F :: _ => above names
    | _ => t.walk [] names

/-- What stands at the path that a text names. -/
def locate (t : FileTree) (text : Text) : Except PathFault (Path × Found) :=
  match t.follow text (namesOf text) with
  | .ok (path, .file content) =>
      if endsWithSlash text then .error .notDirectory else .ok (path, .file content)
  | found => found

/-- The names to follow in order to create a file. In front of a slash at the end
stands a directory, which is not made: only the directory around it is looked
at. -/
def namesToCreate (text : Text) : List Text :=
  let names := namesOf text
  match names.getLast? with
  | some name =>
      if endsWithSlash text && !isDots name then names.dropLast ++ [("." : Text)] else names
  | none => names

/-- Opens a text for reading: its path, and its content if it is a file. -/
def openRead (t : FileTree) (text : Text) : Except Fault (Path × Found) :=
  match t.locate text with
  | .error f => .error (f.fault "open" text)
  | .ok (_, .nothing) => .error (PathFault.missing.fault "open" text)
  | .ok found => .ok found

/-- The content of an opened file, or why a directory cannot be read. -/
def content (text : Text) : Found → Except Fault Text
  | .file content => .ok content
  | .directory => .error (PathFault.isDirectory.fault "read" text)
  | .nothing => .error (PathFault.missing.fault "read" text)

/-- Reads a whole file. -/
def read (t : FileTree) (text : Text) : Except Fault Text := do
  let (_, found) ← t.openRead text
  content text found

/-- Puts a file at a path. -/
def put (t : FileTree) (p : Path) (content : Text) : FileTree :=
  match t.files.lookup p with
  | some _ =>
      { t with files := t.files.map fun (q, old) => (q, if q = p then content else old) }
  | none => { t with files := t.files ++ [(p, content)] }

/-- Makes a file empty, and creates it if it does not exist. -/
def create (t : FileTree) (text : Text) : Except Fault (Path × FileTree) :=
  match t.follow text (namesToCreate text) with
  | .error f => .error (f.fault "open" text)
  | .ok (_, .directory) => .error (PathFault.isDirectory.fault "open" text)
  | .ok (p, _) => .ok (p, t.put p [])

end FileTree

end NodeAsm
