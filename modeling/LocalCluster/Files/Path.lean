import LocalCluster.Text.Cut

/-!
# Paths

A path is text: segments with slashes between them. Empty segments and the segment `.` do not count,
except that a path may begin with `/` (from the root) or with `.` (from here).

* `parentPath?`: a path without its last segment that counts.
* `joinPath`: a path that continues another one.
* `PathSegments.ofPath`: the parts of a path that these need.
-/

namespace LocalCluster.Files

open LocalCluster.Text

/-- A path taken apart. -/
structure PathSegments where
  /-- What the path begins with: `/`, `.` or nothing. -/
  start : List Char
  /-- The segments after it, as they are written. -/
  segments : List (List Char)
  deriving DecidableEq, Repr

namespace PathSegments

/-- The segment does not count. -/
def isIdle (segment : List Char) : Bool := segment.isEmpty || segment == ['.']

/-- The beginning of a path that is no segment of its own, and what follows it. -/
def cutStart : List Char → List Char × List Char
  | '/' :: rest => (['/'], rest)
  | ['.'] => (['.'], [])
  | '.' :: '/' :: rest => (['.'], '/' :: rest)
  | cs => ([], cs)

/-- The path without the segments at its end that do not count. -/
def trimEnd (p : PathSegments) : PathSegments :=
  { p with segments := (p.segments.reverse.dropWhile isIdle).reverse }

/-- The parts of a path, up to its last segment that counts. -/
def ofPath (path : String) : PathSegments :=
  let (start, rest) := cutStart path.toList
  trimEnd ⟨start, rest.splitOn '/'⟩

/-- The path that has these parts. -/
def toPath (p : PathSegments) : String :=
  String.ofList (p.start ++ List.intercalate ['/'] p.segments)

end PathSegments

/-- A path without its last segment that counts; the root and the empty path have none to lose. -/
def parentPath? (path : String) : Option String :=
  let p := PathSegments.ofPath path
  if p.segments.isEmpty then
    if p.start = ['.'] then some "" else none
  else some ({ p with segments := p.segments.dropLast }.trimEnd.toPath)

/-- The path `rest` seen from `base`; a path from the root stands for itself. -/
def joinPath (base rest : String) : String :=
  if rest.toList.head? = some '/' then rest
  else if base = "" ∨ base.toList.getLast? = some '/' then base ++ rest
  else base ++ "/" ++ rest

end LocalCluster.Files
