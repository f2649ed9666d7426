import SasMigration.Text.Basic

namespace SasMigration.Path

/-- A path below another; a path from the root stands alone. -/
def join (first second : Text) : Text :=
  if second.head? = some '/' then second
  else if first.isEmpty ∨ first.getLast? = some '/' then first ++ second
  else first ++ '/' :: second

def joinAll (first : Text) (rest : List Text) : Text := rest.foldl join first

def cut (path : Text) : Text × Text :=
  let back := path.reverse
  ((back.dropWhile (· ≠ '/')).reverse, (back.takeWhile (· ≠ '/')).reverse)

def split (path : Text) : Text × Text :=
  let (first, last) := cut path
  let bare := (first.reverse.dropWhile (· = '/')).reverse
  (if bare.isEmpty then first else bare, last)

def baseName (path : Text) : Text := (cut path).2

/-- A file name without its last point and what follows it. Points at the beginning of a name do
not count. -/
def withoutExtension (name : Text) : Text :=
  let back := name.reverse
  let stem := ((back.dropWhile (· ≠ '.')).drop 1).reverse
  if stem.all (· = '.') then name else stem

end SasMigration.Path
