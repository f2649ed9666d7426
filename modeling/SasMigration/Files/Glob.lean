import SasMigration.Files.Tree
import SasMigration.Pattern.Matching

namespace SasMigration.Glob

def isWild (c : Char) : Bool := c == '*' || c == '?' || c == '['

def hasWild (t : Text) : Bool := t.any isWild

/-- The parts of a bracket between the hyphens that make ranges. A hyphen does so when a character
stands before it; `skip` characters are passed over before the next hyphen counts. -/
def hyphenParts : Nat → Text → Text → List Text
  | _, part, [] => [part]
  | skip + 1, part, c :: rest => hyphenParts skip (part ++ [c]) rest
  | 0, part, c :: rest =>
    if c = '-' then part :: hyphenParts 2 [] rest else hyphenParts 0 (part ++ [c]) rest

def closeHyphen : List Text → List Text
  | [] => []
  | [part] => [part]
  | [part, []] => [part ++ "-"]
  | part :: rest => part :: closeHyphen rest

def dropEmptyRanges : List Text → List Text
  | [] => []
  | part :: rest =>
    match dropEmptyRanges rest with
    | [] => [part]
    | next :: more =>
      match part.getLast?, next.head? with
      | some low, some high =>
        if high.toNat < low.toNat then (part.dropLast ++ next.drop 1) :: more
        else part :: next :: more
      | _, _ => part :: next :: more

/-- The characters and ranges of a bracket; `start` is the part of the first piece that is left. -/
def rangeItems : Text → List Text → List ClassItem
  | start, [] => start.map .char
  | start, next :: rest =>
    match start.getLast?, next.head? with
    | some low, some high =>
      start.dropLast.map .char ++ .range low.toNat high.toNat :: rangeItems (next.drop 1) rest
    | _, _ => start.map .char ++ rangeItems next rest

def itemsOf : List Text → List ClassItem
  | [] => []
  | start :: rest => rangeItems start rest

/-- One character that a bracket stands for, with an exclamation mark one that it leaves out. A
bracket of which nothing is left stands for no character, or for any. -/
def bracket (inner : Text) : Pattern :=
  let skip := if inner.head? = some '!' then 2 else 1
  let parts := dropEmptyRanges (closeHyphen (hyphenParts skip [] inner))
  match parts with
  | ('!' :: start) :: rest =>
    .one (.ofItems true .distinguished (itemsOf (start :: rest)))
  | parts => .one (.ofItems false .distinguished (itemsOf parts))

/-- The inside of a bracket whose opening was read. A closing bracket in the first place belongs to
the inside. -/
def bracketInner? (t : Text) : Option Text :=
  let lead := if t.head? = some '!' then ['!'] else []
  let t := t.drop lead.length
  let first := if t.head? = some ']' then [']'] else []
  let t := t.drop first.length
  if t.contains ']' then some (lead ++ first ++ t.takeWhile (· ≠ ']')) else none

def pieces : Nat → Text → List Pattern
  | _, [] => []
  | skip + 1, _ :: rest => pieces skip rest
  | 0, c :: rest =>
    if c = '*' then .span .longest 0 none .all :: pieces 0 rest
    else if c = '?' then .one .all :: pieces 0 rest
    else if c = '[' then
      match bracketInner? rest with
      | some inner => bracket inner :: pieces (inner.length + 1) rest
      | none => .literal ['['] :: pieces 0 rest
    else .literal [c] :: pieces 0 rest

def fits (wild name : Text) : Bool :=
  ((Pattern.inOrder (pieces 0 wild ++ [.anchor .textEnd])).matchStart? name).isSome

def isHidden (name : Text) : Bool := name.head? == some '.'

def namesIn (t : FileTree) (directoriesOnly : Bool) (directory wild : Text) : List Text :=
  match t.resolve (if directory.isEmpty then ['.'] else directory) with
  | .error _ => []
  | .ok place =>
    if t.isDirectoryAt place then
      (t.names place).filter fun name ↦
        (isHidden wild || !isHidden name) && fits wild name &&
          (!directoriesOnly || t.isDirectoryAt (place ++ [name]))
    else []

def plainIn (t : FileTree) (directory name : Text) : List Text :=
  if name.isEmpty then if t.isDirectory directory then [name] else []
  else if t.isPresent (Path.join directory name) then [name] else []

/-- The paths that a path with wildcards stands for. Each turn takes a part off the path. -/
def expandIn (t : FileTree) : Nat → Bool → Text → List Text
  | 0, _, _ => []
  | n + 1, directoriesOnly, path =>
    let (directory, name) := Path.split path
    if !hasWild path then
      if name.isEmpty then if t.isDirectory directory then [path] else []
      else if t.isPresent path then [path] else []
    else if directory.isEmpty then namesIn t directoriesOnly [] name
    else
      let directories :=
        if hasWild directory then expandIn t n true directory else [directory]
      directories.flatMap fun d ↦
        let names := if hasWild name then namesIn t directoriesOnly d name else plainIn t d name
        names.map (Path.join d)

/-- A directory before the first wildcard is listed, and none with a null character can be. -/
def listsNull (path : Text) : Bool :=
  hasWild path && (Path.cut (path.takeWhile fun c ↦ !isWild c)).1.contains (Char.ofNat 0)

def expand (t : FileTree) (path : Text) : Except Fault (List Text) :=
  if listsNull path then .error (.file .nullCharacter path)
  else .ok (expandIn t (path.length + 1) false path)

end SasMigration.Glob
