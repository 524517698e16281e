import Gatehouse.Error
import Gatehouse.Text.Form

/-!
# Request paths

A path is a list of segments with slashes between them. It is decoded segment by segment,
so that every spelling of a path is classified alike; a segment that would change the
structure of the path once it is decoded is refused.

## Main definitions

* `Path.segments`, `Path.join`: The segments of a path, and the path of segments.
* `Path.decode`: The decoded path of a raw one.
* `Path.isOpen`: Whether a path is served without asking for credentials.

## Theorems

* `Path.join_segments`: A path is what its segments make.
* `Path.occurs_iff`: Characters that stand in others.
-/

namespace Gatehouse

namespace Path

/-- The segments of a path. -/
def segments (path : String) : List String :=
  (Text.splitOn '/' path.toList).map String.ofList

/-- The path that segments make. -/
def join (segments : List String) : String :=
  String.ofList (Text.joinWith '/' (segments.map String.toList))

/-- Whether a decoded segment keeps its place: no slash in it, and no step to this or to
the enclosing level. -/
def isPlain (segment : String) : Bool :=
  !segment.toList.contains '/' && segment ≠ "." && segment ≠ ".."

/-- The decoded form of one segment of a raw path. -/
def decodeSegment (raw : String) (segment : String) : Except Error String :=
  match Text.ofUtf8? (Text.percentDecode (Text.utf8 segment)) with
  | none => .error (.badRequest (.pathEncoding raw))
  | some decoded =>
    if isPlain decoded then .ok decoded else .error (.badRequest (.pathSegment raw))

/-- The decoded segments of a raw path. -/
def decodeSegments (raw : String) : Except Error (List String) :=
  (segments raw).mapM (decodeSegment raw)

/-- The decoded path of a raw one. -/
def decode (raw : String) : Except Error String :=
  (decodeSegments raw).map join

/-- What the paths that need no credentials start with. -/
def openStarts : List String := ["/static", "/favicon.ico", "/health"]

/-- Whether a text starts with another. -/
def startsWith (start path : String) : Bool :=
  start.toList.isPrefixOf path.toList

/-- Whether characters stand anywhere in others. -/
def occurs (part : List Char) : List Char → Bool
  | [] => part.isEmpty
  | c :: rest => part.isPrefixOf (c :: rest) || occurs part rest

/-- Whether a text stands anywhere in another. -/
def contains (part path : String) : Bool :=
  occurs part.toList path.toList

theorem occurs_iff {part text : List Char} : occurs part text = true ↔ part <:+: text := by
  induction text with
  | nil => rw [occurs, List.isEmpty_iff, List.infix_nil]
  | cons c rest ih =>
    rw [occurs, Bool.or_eq_true, List.isPrefixOf_iff_prefix, ih, List.infix_cons_iff]

/-- Whether a path is served without asking for credentials. -/
def isOpen (path : String) : Bool :=
  openStarts.any (startsWith · path)

end Path

theorem Path.join_segments (path : String) : Path.join (Path.segments path) = path := by
  have h : (String.toList ∘ String.ofList : List Char → List Char) = id := by
    funext cs; simp
  simp [Path.join, Path.segments, List.map_map, h, Text.joinWith_splitOn]

end Gatehouse
