/-!
# Paths

Parts of a path are separated by slashes. The plain form of a path has no empty parts and no parts
that are a single dot.
-/

namespace Checkup.Path

def parts (path : List Char) : List (List Char) :=
  (path.splitOn '/').filter fun part => !part.isEmpty && part != ['.']

/-- The root of a path: two slashes at the start are kept, more than two count as one. -/
def root (path : List Char) : List Char :=
  match path with
  | '/' :: '/' :: '/' :: _ => ['/']
  | '/' :: '/' :: _ => ['/', '/']
  | '/' :: _ => ['/']
  | _ => []

/-- The plain form of a path; a path without parts is a dot. -/
def plain (path : String) : String :=
  let chars := path.toList
  let shown := root chars ++ List.intercalate ['/'] (parts chars)
  if shown.isEmpty then "." else String.ofList shown

end Checkup.Path
