import VaultAccess.Url.Basic

/-!
# Reading paths

A path is followed segment by segment from the root: a dot stays where it is and two dots leave a
directory. A segment that names a drive is never left, in a URL of any scheme. In the URL of a file it is
written with a colon, and the file lies on no host. Line ends and tabs in a path are dropped; they count
only behind the drive at the front of a file's path.
-/

namespace VaultAccess.Url

/-! ### Characters -/

/-- Whether a character is dropped wherever it stands. -/
def isIgnored (c : Char) : Bool := c == '\t' || c == '\n' || c == '\r'

/-- A text without what is dropped from it. -/
def withoutIgnored (cs : List Char) : List Char := cs.filter (!isIgnored ·)

/-- Whether a character separates the segments of a path. -/
def isSeparator (special : Bool) (c : Char) : Bool := c == '/' || (special && c == '\\')

/-! ### Segments -/

/-- The segments of a text between its separators. -/
def rawSegments (special : Bool) (cs : List Char) : List (List Char) :=
  splitAt '/' (cs.map fun c ↦ if isSeparator special c then '/' else c)

/-- Whether a segment stands for the directory itself. -/
def isSingleDot (s : List Char) : Bool :=
  [".", "%2e", "%2E"].any fun t ↦ s == t.toList

/-- Whether a segment stands for the directory above. -/
def isDoubleDot (s : List Char) : Bool :=
  ["..", ".%2e", ".%2E", "%2e.", "%2E.", "%2e%2e", "%2e%2E", "%2E%2e", "%2E%2E"].any fun t ↦
    s == t.toList

/-- Whether a segment names a drive. -/
def isDrive (s : List Char) : Bool :=
  match s with
  | [c, d] => c.isAlpha && (d == ':' || d == '|')
  | _ => false

/-- A segment of a file's path as it is added to others: a drive is written with a colon. -/
def segmentOf (isFile : Bool) (s : List Char) : List Char :=
  if isFile && isDrive s then s.take 1 ++ [':'] else s

/-- The segments of a directory, in reverse, after it has been left. -/
def leave : List (List Char) → List (List Char)
  | [] => []
  | last :: before => if isDrive last then last :: before else before

/-- The drive at the front of a segment and what follows it, if they are parted by a character that is
dropped. -/
def parted? (s : List Char) : Option (List Char × List Char) :=
  match withoutIgnored s with
  | c :: ':' :: rest =>
    let isParted := ((s.dropWhile (· != ':')).drop 1).head?.any isIgnored
    if c.isAlpha && isParted && !rest.isEmpty then some ([c, ':'], rest) else none
  | _ => none

/-- A segment as it stands in a URL. -/
def encodeSegment (s : List Char) : List Char := encode pathSet (withoutIgnored s)

/-- Follow segments from a directory, whose segments are in reverse. A path that ends in a dot or two
names a directory, so it ends in an empty segment. What is parted from a drive is taken as it is. -/
def follow (isFile : Bool) (before : List (List Char)) : List (List Char) → List (List Char)
  | [] => before.reverse
  | raw :: rest =>
    match if isFile && before.isEmpty then parted? raw else none with
    | some (drive, s) => follow isFile [encodeSegment s, drive] rest
    | none =>
      let s := encodeSegment raw
      if isDoubleDot s then
        follow isFile (if rest.isEmpty then [] :: leave before else leave before) rest
      else if isSingleDot s then
        follow isFile (if rest.isEmpty then [] :: before else before) rest
      else follow isFile (segmentOf isFile s :: before) rest

/-! ### Paths -/

/-- What follows the separator at the front of a text. -/
def afterSeparator? (special : Bool) (cs : List Char) : Option (List Char) :=
  match cs.dropWhile isIgnored with
  | [] => none
  | c :: rest => if isSeparator special c then some rest else none

/-- The segments behind the separator at the front of a path, which may be missing. -/
def segmentsOf (special : Bool) (cs : List Char) : List (List Char) :=
  rawSegments special ((afterSeparator? special cs).getD cs)

/-- The path of a URL other than a file's. A special URL always has one. -/
def pathOf (special : Bool) (cs : List Char) : Path :=
  if cs.isEmpty && !special then .segments []
  else .segments ((follow false [] (segmentsOf special cs)).map String.ofList)

/-- The path of a file, whose slashes at the front count once. -/
def filePath (cs : List Char) : Path :=
  match (follow true [] (segmentsOf true cs)).dropWhile (·.isEmpty) with
  | [] => .segments [""]
  | list => .segments (list.map String.ofList)

/-- Whether a file's path names a drive on the way. -/
def namesDrive (cs : List Char) : Bool :=
  (rawSegments true cs).any fun s ↦ isDrive (withoutIgnored s)

end VaultAccess.Url
