import YiiNavigator.Text.Case.Tables

/-!
# Lower and upper case

Full case conversion: a character may change into several (the upper case of a sharp s is two
letters), and a capital sigma at the end of a word has a lower-case form of its own.

ASCII letters are decided without the tables, so that closed instances over identifiers evaluate.
-/

namespace YiiNavigator
namespace Text

/-! ## Single characters -/

/-- The form of one character given by the first run that holds it, itself when none does. -/
def mapRuns (runs : List CaseRun) (c : Char) : Char :=
  match runs.findSome? (·.image? c.toNat) with
  | some code => Char.ofNat code
  | none => c

/-- The lower-case form of a character that stands alone. The dotted capital I keeps its dot as a
character of its own. -/
def lowerChar (c : Char) : Text :=
  if c.toNat < 0x80 then [c.toLower]
  else if c.toNat = 0x130 then ['i', Char.ofNat 0x307]
  else [mapRuns lowerRuns c]

/-- The upper-case form of a character. -/
def upperChar (c : Char) : Text :=
  if c.toNat < 0x80 then [c.toUpper]
  else match upperExpansions.lookup c.toNat with
    | some codes => codes.map Char.ofNat
    | none => [mapRuns upperRuns c]

/-! ## Words -/

/-- Whether the rule for a final sigma looks past a character. -/
def isCaseIgnorable (c : Char) : Bool :=
  inRanges caseIgnorableRanges c

/-- Whether a character is a letter with case, for the rule for a final sigma. -/
def isCased (c : Char) : Bool :=
  inRanges casedRanges c

/-- Whether a word goes on at the front of a text: the first character that is not
case-ignorable is a letter with case. -/
def continuesWord (text : Text) : Bool :=
  match text.dropWhile isCaseIgnorable with
  | [] => false
  | c :: _ => isCased c

/-- The lower case of the rest of a text; `inWord` tells whether a letter with case precedes,
case-ignorable characters left out. A capital sigma is final when a word ends with it. -/
def lowerFrom (inWord : Bool) : Text → Text
  | [] => []
  | c :: rest =>
    let form := if c.toNat = 0x3A3 && inWord && !continuesWord rest then [Char.ofNat 0x3C2]
      else lowerChar c
    form ++ lowerFrom (if isCaseIgnorable c then inWord else isCased c) rest

/-- The text in lower case. -/
def lower (text : Text) : Text :=
  lowerFrom false text

/-- The text with its first character in lower case. -/
def lowerFirst : Text → Text
  | [] => []
  | c :: rest => lowerChar c ++ rest

/-- The text with its first character in upper case. -/
def upperFirst : Text → Text
  | [] => []
  | c :: rest => upperChar c ++ rest

/-! ## Letters that differ in case only -/

/-- The ASCII letter that a keyword letter is compared as: case is ignored, the dotless and the
dotted i count as an i and the long s as an s. -/
def foldLetter (c : Char) : Char :=
  if c.toNat = 0x130 || c.toNat = 0x131 then 'i'
  else if c.toNat = 0x17F then 's'
  else c.toLower

end Text
end YiiNavigator
