import SasMigration.Files.Path
import SasMigration.Files.Utf8

namespace SasMigration

/-- The names on the way from the current directory. Two points lead to a directory above it, and a
slash to the root. -/
abbrev Place := List Text

namespace Place

def root : Place := [['/']]

/-- The current directory, those above it and the root. They always exist. -/
def isAbove (place : Place) : Bool := place == root || place.all (· == ['.', '.'])

def parent (place : Place) : Place :=
  if place == root then root
  else if place.isAbove then place ++ [['.', '.']]
  else place.dropLast

def isBelow (place : Place) : Bool :=
  !(List.take 1 place).any fun part ↦ part == ['.', '.'] || part == ['/']

end Place

inductive FileEntry
  | file (bytes : List UInt8)
  | directory
deriving DecidableEq, Repr

/-- Files and directories at their places. There are no links. -/
structure FileTree where
  entries : List (Place × FileEntry)
deriving DecidableEq, Repr

namespace FileTree

def empty : FileTree := ⟨[]⟩

def get? (t : FileTree) (place : Place) : Option FileEntry :=
  if place.isAbove then some .directory
  else (t.entries.find? fun e ↦ e.1 == place).map (·.2)

def isDirectoryAt (t : FileTree) (place : Place) : Bool := t.get? place == some .directory

def putEntry (place : Place) (entry : FileEntry) :
    List (Place × FileEntry) → List (Place × FileEntry)
  | [] => [(place, entry)]
  | e :: es => if e.1 = place then (place, entry) :: es else e :: putEntry place entry es

def put (t : FileTree) (place : Place) (entry : FileEntry) : FileTree :=
  ⟨putEntry place entry t.entries⟩

def erase (t : FileTree) (place : Place) : FileTree := ⟨t.entries.filter fun e ↦ e.1 != place⟩

def eraseBelow (t : FileTree) (place : Place) : FileTree :=
  ⟨t.entries.filter fun e ↦ !place.isPrefixOf e.1⟩

def putParents (t : FileTree) (place : Place) : FileTree :=
  (List.range place.length).foldl (fun t n ↦
    if n = 0 then t else t.put (place.take n) .directory) t

def names (t : FileTree) (place : Place) : List Text :=
  t.entries.filterMap fun e ↦
    if e.1.dropLast = place then e.1.getLast? else none

def files (t : FileTree) : List (Place × List UInt8) :=
  t.entries.filterMap fun e ↦
    match e.2 with
    | .file bytes => if e.1.isBelow then some (e.1, bytes) else none
    | .directory => none

def longestName : Nat := 255

def longestPath : Nat := 4095

def isLongName (name : Text) : Bool := longestName < (Utf8.encode name).length

def step (t : FileTree) (place : Place) (part : Text) : Except FileFault Place :=
  match t.get? place with
  | none => .error .notFound
  | some (.file _) => .error .notDirectory
  | some .directory =>
    if part.isEmpty ∨ part = ['.'] then .ok place
    else if part = ['.', '.'] then .ok place.parent
    else if isLongName part then .error .nameTooLong
    else .ok (place ++ [part])

def walk (t : FileTree) : Place → List Text → Except FileFault Place
  | place, [] => .ok place
  | place, part :: parts => do
    let next ← t.step place part
    t.walk next parts

/-- Follows a path, or the part of it before its last name. -/
def follow (t : FileTree) (path : Text) : Except FileFault Place :=
  t.walk (if path.head? = some '/' then Place.root else []) (Text.splitOn ['/'] path)

def checkPath (path : Text) : Except FileFault Unit :=
  if path.contains (Char.ofNat 0) then .error .nullCharacter
  else if path.isEmpty then .error .notFound
  else if longestPath < (Utf8.encode path).length then .error .nameTooLong
  else .ok ()

/-- The place that a path leads to, whether or not something is there. Outside the current directory
nothing is known but the directories above it. -/
def resolve (t : FileTree) (path : Text) : Except FileFault Place := do
  checkPath path
  t.follow path

/-- What the last part of a path stands for. -/
inductive Target
  | directory
  | entry (parent : Place) (name : Text) (slash : Bool)

/-- The last name of a path and the directory that holds it. Slashes may follow the name. Points
and slashes alone stand for a directory that exists. -/
def target (t : FileTree) (path : Text) : Except FileFault Target := do
  checkPath path
  let bare := (path.reverse.dropWhile (· = '/')).reverse
  let (first, name) := Path.cut bare
  let parent ← t.follow first
  if name.isEmpty ∨ name = ['.'] ∨ name = ['.', '.'] then return .directory
  else return .entry parent name (bare.length < path.length)

def find? (t : FileTree) (path : Text) : Option FileEntry :=
  match t.resolve path with
  | .ok place => t.get? place
  | .error _ => none

def isPresent (t : FileTree) (path : Text) : Bool := (t.find? path).isSome

def isDirectory (t : FileTree) (path : Text) : Bool := t.find? path == some .directory

def bytesAt (t : FileTree) (path : Text) : Except Fault (List UInt8) :=
  match t.resolve path with
  | .error fault => .error (.file fault path)
  | .ok place =>
    match t.get? place with
    | some (.file bytes) => .ok bytes
    | some .directory => .error (.file .isDirectory path)
    | none => .error (.file .notFound path)

def unifyLines : Text → Text
  | [] => []
  | '\r' :: '\n' :: rest => '\n' :: unifyLines rest
  | '\r' :: rest => '\n' :: unifyLines rest
  | c :: rest => c :: unifyLines rest

def textAt (t : FileTree) (path : Text) : Except Fault Text := do
  let bytes ← t.bytesAt path
  match Utf8.decode bytes with
  | .ok text => return unifyLines text
  | .error fault => throw (.decode fault)

end FileTree

abbrev FileAction := ExceptT Fault (StateM FileTree)

namespace FileAction

def fail {α : Type} (fault : FileFault) (path : Text) : FileAction α := throw (.file fault path)

def target (path : Text) : FileAction FileTree.Target := do
  let t ← get
  match t.target path with
  | .ok target => return target
  | .error fault => fail fault path

def createDirectory (path : Text) : FileAction Unit := do
  match ← target path with
  | .directory => fail .present path
  | .entry parent name _ =>
    let t ← get
    let place := parent ++ [name]
    if FileTree.isLongName name then fail .nameTooLong path
    else if (t.get? place).isSome then fail .present path
    else set (t.put place .directory)

def ensureDirectory (path : Text) : FileAction Unit := do
  let t ← get
  if t.isDirectory path then return () else createDirectory path

/-- Creates the directories of a path that do not exist. Each turn takes a part off the path. -/
def ensureDirectoriesIn : Nat → Text → FileAction Unit
  | 0, path => ensureDirectory path
  | n + 1, path => do
    let (first, last) := Path.split path
    let (first, last) := if last.isEmpty then Path.split first else (first, last)
    let t ← get
    if first.isEmpty ∨ last.isEmpty ∨ t.isPresent first then ensureDirectory path
    else
      try ensureDirectoriesIn n first
      catch
        | .file .present _ => pure ()
        | fault => throw fault
      if last = ['.'] then return () else ensureDirectory path

def ensureDirectories (path : Text) : FileAction Unit := ensureDirectoriesIn path.length path

def truncate (path : Text) : FileAction Place := do
  match ← target path with
  | .directory | .entry _ _ true => fail .isDirectory path
  | .entry parent name false =>
    let t ← get
    let place := parent ++ [name]
    if FileTree.isLongName name then fail .nameTooLong path
    else if t.isDirectoryAt place then fail .isDirectory path
    else
      set (t.put place (.file []))
      return place

/-- Writes a file. The content is asked for when the file has been emptied. -/
def write (path : Text) (content : Except Fault Text) : FileAction Unit := do
  let p ← truncate path
  match content with
  | .ok text => modify fun t ↦ t.put p (.file (Utf8.encode text))
  | .error fault => throw fault

def joined : List (Except Fault Text) → Text × Option Fault
  | [] => ([], none)
  | .error fault :: _ => ([], some fault)
  | .ok piece :: rest =>
    let (text, fault) := joined rest
    (piece ++ text, fault)

/-- Writes a file piece by piece. What comes before a piece that fails stays in the file. -/
def writePieces (path : Text) (content : Except Fault (List (Except Fault Text))) :
    FileAction Unit := do
  let p ← truncate path
  match content with
  | .ok pieces =>
    let (text, fault) := joined pieces
    modify fun t ↦ t.put p (.file (Utf8.encode text))
    match fault with
    | none => return ()
    | some fault => throw fault
  | .error fault => throw fault

def remove (path : Text) : FileAction Unit := do
  match ← target path with
  | .directory => fail .isDirectory path
  | .entry parent name slash =>
    let t ← get
    let place := parent ++ [name]
    if FileTree.isLongName name then fail .nameTooLong path
    else match t.get? place with
      | none => fail .notFound path
      | some .directory => fail .isDirectory path
      | some (.file _) => if slash then fail .notDirectory path else set (t.erase place)

def removeDirectory (path : Text) : FileAction Unit := do
  let t ← get
  match t.resolve path with
  | .error fault => fail fault path
  | .ok place =>
    match t.get? place with
    | none => fail .notFound path
    | some (.file _) => fail .notDirectory path
    | some .directory => set (t.eraseBelow place)

end FileAction

end SasMigration
