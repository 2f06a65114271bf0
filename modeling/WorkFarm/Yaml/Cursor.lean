/-!
# A place in a YAML text

A cursor stands in front of the rest of a text and knows its line and column. Blanks are the space and
the tab; a line ends at any of the five line breaks of YAML.

## Main definitions

* `Cursor` — the rest of a text, and where it begins
* `Cursor.takeWhile`, `Cursor.line?` — moving within a line and to the next one
* `Cursor.Gap`, `Cursor.gap` — blanks and line breaks between two words, and how they fold
* `YamlError` — why a text is not YAML
-/

namespace WorkFarm.Yaml

/-- Why a text is not YAML, or is not one document. -/
inductive YamlError where
  /-- A character that may not occur in a text. -/
  | forbiddenChar (c : Char)
  /-- A character with which nothing can begin. -/
  | unexpectedChar
  /-- A tab where indentation is expected. -/
  | tabInIndentation
  /-- A key of a mapping without its colon. -/
  | keyWithoutColon
  /-- A mark that may not stand here. -/
  | misplacedMark
  /-- A quoted text that does not end. -/
  | unclosedQuote
  /-- A backslash with something that is no escape. -/
  | unknownEscape
  /-- A name, tag or directive that is not well formed. -/
  | malformedProperty
  /-- A block of text whose head is not well formed. -/
  | malformedBlock
  /-- A document whose parts do not fit together. -/
  | unexpectedToken
  /-- A reference to a name that was not given. -/
  | unknownAnchor
  | severalDocuments
deriving DecidableEq, Repr

def YamlError.message : YamlError → String
  | .forbiddenChar _ => "control characters are not allowed"
  | .unexpectedChar => "found character that cannot start any token"
  | .tabInIndentation => "found a tab character where indentation is expected"
  | .keyWithoutColon => "could not find expected ':'"
  | .misplacedMark => "found a mark that is not allowed in this context"
  | .unclosedQuote => "found unexpected end of a quoted scalar"
  | .unknownEscape => "found unknown escape character"
  | .malformedProperty => "found a malformed anchor, tag or directive"
  | .malformedBlock => "found a malformed block scalar"
  | .unexpectedToken => "did not find expected node content"
  | .unknownAnchor => "unknown anchor"
  | .severalDocuments => "deserializing from YAML containing more than one document is not supported"

/-- Whether a character is a space or a tab. -/
def isBlank (c : Char) : Bool := c == ' ' || c == '\t'

/-- Whether a character ends a line. -/
def isBreak (c : Char) : Bool :=
  c == '\n' || c == '\r' || c == '\u0085' || c == '\u2028' || c == '\u2029'

/-- Whether a character may occur in a YAML text. -/
def isAllowed (c : Char) : Bool :=
  let n := c.toNat
  n == 0x09 || n == 0x0A || n == 0x0D || (0x20 ≤ n && n ≤ 0x7E) || n == 0x85
    || (0xA0 ≤ n && n ≤ 0xD7FF) || (0xE000 ≤ n && n ≤ 0xFFFD && n != 0xFEFF) || 0x10000 ≤ n

/-- The rest of a text, and where it begins. -/
structure Cursor where
  /-- What has not been read. -/
  rest : List Char
  /-- How many characters have been read. -/
  index : Nat := 0
  /-- How many lines have been read. -/
  line : Nat := 0
  /-- How many characters of this line have been read. -/
  column : Nat := 0

namespace Cursor

def head? (c : Cursor) : Option Char := c.rest.head?

def second? (c : Cursor) : Option Char := (c.rest.drop 1).head?

def atEnd (c : Cursor) : Bool := c.rest.isEmpty

def at? (c : Cursor) (ch : Char) : Bool := c.head? == some ch

def headIs (c : Cursor) (p : Char → Bool) : Bool := c.head?.any p

/-- Whether an optional character is a blank, a line break or missing. -/
def isBoundary (o : Option Char) : Bool := o.all fun ch => isBlank ch || isBreak ch

/-- Whether a blank, a line break or the end comes next. -/
def atBoundary (c : Cursor) : Bool := isBoundary c.head?

/-- Moves over `n` characters of a line. -/
def skip (c : Cursor) (n : Nat) : Cursor :=
  { c with rest := c.rest.drop n, index := c.index + n, column := c.column + n }

/-- Moves over the characters of a line for which `p` holds; these come first in the answer. -/
def takeWhile (c : Cursor) (p : Char → Bool) : List Char × Cursor :=
  let taken := c.rest.takeWhile p
  (taken, { c with
    rest := c.rest.dropWhile p
    index := c.index + taken.length
    column := c.column + taken.length })

/-- Moves to the next line if a line ends here. The two characters of a break of two count as one
newline, and so do the breaks of one byte and the one at code 85. -/
def line? (c : Cursor) : Option (Char × Cursor) :=
  let next (n : Nat) (rest : List Char) : Cursor :=
    { rest, index := c.index + n, line := c.line + 1, column := 0 }
  match c.rest with
  | '\r' :: '\n' :: rest => some ('\n', next 2 rest)
  | ch :: rest =>
    if ch == '\n' || ch == '\r' || ch == '\u0085' then some ('\n', next 1 rest)
    else if isBreak ch then some (ch, next 1 rest)
    else none
  | [] => none

/-- Whether a mark that begins or ends a document stands here: three dashes or points at the start of
a line, with a boundary behind. -/
def documentMark (c : Cursor) : Bool :=
  c.column == 0 && (c.rest.take 3 == ['-', '-', '-'] || c.rest.take 3 == ['.', '.', '.'])
    && isBoundary (c.rest.drop 3).head?

/-- Blanks and line breaks between two words. -/
structure Gap where
  /-- The blanks before the first line break. -/
  blanks : List Char := []
  /-- The first line break, if a line ended. -/
  firstBreak : List Char := []
  /-- The other line breaks. -/
  moreBreaks : List Char := []
  /-- Whether a line ended. -/
  broken : Bool := false

/-- What stands between two words once the lines are folded: a single newline becomes a space, and
before further line breaks it vanishes. -/
def Gap.folded (g : Gap) : List Char :=
  if !g.broken then g.blanks
  else if g.firstBreak == ['\n'] then
    if g.moreBreaks.isEmpty then [' '] else g.moreBreaks
  else g.firstBreak ++ g.moreBreaks

/-- Moves over one blank or line break. -/
def gapStep? (c : Cursor) (g : Gap) : Option (Gap × Cursor) :=
  match c.line? with
  | some (b, c) =>
    if g.broken then some ({ g with moreBreaks := g.moreBreaks ++ [b] }, c)
    else some ({ g with blanks := [], firstBreak := [b], broken := true }, c)
  | none =>
    match c.rest with
    | ch :: _ =>
      if isBlank ch then
        some (if g.broken then g else { g with blanks := g.blanks ++ [ch] }, c.skip 1)
      else none
    | [] => none

/-- Moves over blanks and line breaks. A tab that stands in the first `indent` columns of a new line is
an error. -/
def gap (indent : Nat) : Nat → Cursor → Gap → Except YamlError (Gap × Cursor)
  | 0, c, g => .ok (g, c)
  | fuel + 1, c, g =>
    if g.broken && c.column < indent && c.at? '\t' then .error .tabInIndentation
    else match gapStep? c g with
      | none => .ok (g, c)
      | some (g, c) => gap indent fuel c g

end Cursor

end WorkFarm.Yaml
