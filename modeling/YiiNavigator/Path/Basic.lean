import YiiNavigator.Text.Basic

/-!
# File paths

A path is an anchor and a list of segments. Reading a text as a path drops its empty segments and
its `.` segments and keeps every `..`; `Path.normalize` then lets each `..` cancel the segment
before it. Two leading slashes make an anchor of their own, three or more count as one.

The functions on texts at the end (`joinText`, `normalizeText`, `splitLast`, …) are those that the
rest of the library uses: a path stays spelled as it was given until it is normalized.
-/

namespace YiiNavigator

/-- Where the segments of a path start. -/
inductive Anchor where
  | relative
  | root
  | doubleRoot
deriving DecidableEq, Repr

/-- The text of an anchor. -/
def Anchor.print : Anchor → Text
  | relative => []
  | root => ['/']
  | doubleRoot => ['/', '/']

/-- The anchor of the path that a text denotes. -/
def Anchor.read : Text → Anchor
  | '/' :: '/' :: '/' :: _ => root
  | '/' :: '/' :: _ => doubleRoot
  | '/' :: _ => root
  | _ => relative

/-- A path as an anchor and its segments. -/
structure Path where
  anchor : Anchor
  segments : List Text
deriving DecidableEq, Repr

namespace Path

/-! ## Reading and printing -/

/-- The segment that stays in place. -/
def here : Text := ['.']

/-- The segment that goes one directory up. -/
def up : Text := ['.', '.']

/-- Whether a piece between slashes is a segment. -/
def isSegment (piece : Text) : Bool :=
  !(piece == [] || piece == here)

/-- The path that a text denotes. -/
def read (text : Text) : Path :=
  ⟨Anchor.read text, (text.splitOn '/').filter isSegment⟩

/-- The text of a path; the relative path without segments is `.`. -/
def print (p : Path) : Text :=
  match p.anchor, p.segments with
  | .relative, [] => here
  | anchor, segments => anchor.print ++ ['/'].intercalate segments

/-- The anchor, unless the path is relative, and the segments. -/
def parts (p : Path) : List Text :=
  match p.anchor with
  | .relative => p.segments
  | anchor => anchor.print :: p.segments

/-! ## Joining and normalizing -/

/-- One path continued by another; an anchored path starts anew. -/
def append (p q : Path) : Path :=
  match q.anchor with
  | .relative => ⟨p.anchor, p.segments ++ q.segments⟩
  | _ => q

/-- The path that several texts denote together, each continuing the ones before. -/
def ofTexts (texts : List Text) : Path :=
  texts.foldl (fun p text => p.append (read text)) ⟨.relative, []⟩

/-- Adds a segment to segments in normal form, kept with the last one first. A `..` cancels the
segment before it; where there is none it stays in a relative path and is lost at a root. -/
def push (anchor : Anchor) (stack : List Text) (segment : Text) : List Text :=
  if segment = up then
    match stack with
    | [] => if anchor = .relative then [up] else []
    | top :: below => if top = up then up :: top :: below else below
  else segment :: stack

/-- The path with its `..` segments resolved by the text alone. -/
def normalize (p : Path) : Path :=
  ⟨p.anchor, (p.segments.foldl (push p.anchor) []).reverse⟩

/-! ## Paths spelled as texts -/

/-- The text in normal form as a path. -/
def normalizeText (text : Text) : Text :=
  (read text).normalize.print

/-- The text in normal form as a path, with backslashes read as slashes. -/
def canonical (text : Text) : Text :=
  normalizeText (text.map fun c => if c = '\\' then '/' else c)

/-- One spelled path continued by another: a slash comes between them unless the first is empty
or ends in one, and a second path that begins with a slash starts anew. -/
def joinText (a b : Text) : Text :=
  if ['/'].isPrefixOf b then b
  else if a.isEmpty || ['/'].isSuffixOf a then a ++ b
  else a ++ '/' :: b

/-- A spelled path continued by several others. -/
def joinTexts (first : Text) (others : List Text) : Text :=
  others.foldl joinText first

/-- Several spelled paths in one; the empty text when there are none. -/
def joinAll (texts : List Text) : Text :=
  joinTexts [] texts

/-- What precedes the last slash of a spelled path and what follows it. The slashes at the end of
the first part go too, unless it has nothing else. -/
def splitLast (text : Text) : Text × Text :=
  let last := (text.reverse.takeWhile (· ≠ '/')).reverse
  let front := text.take (text.length - last.length)
  (if front.all (· == '/') then front else Text.trimEnd front '/', last)

/-- The directory part of a spelled path. -/
def parentText (text : Text) : Text :=
  (splitLast text).1

/-- A file name without its extension. A dot at either end of the name begins none. -/
def stem (name : Text) : Text :=
  let extension := (name.reverse.takeWhile (· ≠ '.')).reverse
  let base := name.take (name.length - extension.length - 1)
  if extension.length < name.length ∧ extension ≠ [] ∧ base ≠ [] then base else name

/-- The last segment of a spelled path without its extension; empty at a root. -/
def stemOf (text : Text) : Text :=
  stem ((read text).segments.getLast?.getD [])

/-! ## Absolute and relative -/

/-- The text in normal form as an absolute path, taken from a working directory. -/
def absoluteText (workingDirectory text : Text) : Text :=
  normalizeText (if ['/'].isPrefixOf text then text else joinText workingDirectory text)

/-- The segments below those that two lists have in common at their front. -/
def dropCommon : List Text → List Text → List Text × List Text
  | a :: as, b :: bs => if a = b then dropCommon as bs else (a :: as, b :: bs)
  | as, bs => (as, bs)

/-- The path that leads from a directory to a file, both taken from a working directory. -/
def relativeText (workingDirectory directory text : Text) : Text :=
  let (above, below) := dropCommon (read (absoluteText workingDirectory directory)).segments
    (read (absoluteText workingDirectory text)).segments
  print ⟨.relative, above.map (fun _ => up) ++ below⟩

end Path
end YiiNavigator
