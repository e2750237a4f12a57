import AccountLookup.Url.Percent
import Mathlib.Data.List.DropRight

/-! Parsing of the part of an `http` URL that follows its origin, as the URL standard does it, and of
query strings. -/

namespace Url

def isC0ControlOrSpace (c : Char) : Bool := c ≤ ' '

def isTabOrNewline (c : Char) : Bool := c = '\t' || c = '\n' || c = '\r'

/-- The C0 control percent-encode set. -/
def inC0Set (c : Char) : Bool := c < ' ' || '~' < c

/-- The special-query percent-encode set. -/
def inQuerySet (c : Char) : Bool :=
  inC0Set c || c = ' ' || c = '\x22' || c = '#' || c = '<' || c = '>' || c = '\x27'

/-- The path percent-encode set. -/
def inPathSet (c : Char) : Bool :=
  inC0Set c || c = ' ' || c = '\x22' || c = '#' || c = '<' || c = '>' || c = '?' || c = '^' ||
    c = '\x60' || c = '\x7b' || c = '\x7d'

/-- What a request asks for: the segments of the path and the query, both percent-encoded. -/
structure Target where
  path : List (List Char)
  query : Option (List Char)
  deriving DecidableEq, Repr

/-- The input without trailing controls and spaces and without tabs and newlines. -/
def clean (input : List Char) : List Char :=
  (input.rdropWhile isC0ControlOrSpace).filter fun c => !isTabOrNewline c

def isSeparator (c : Char) : Bool := c = '/' || c = '\\'

def isSingleDot (segment : List Char) : Bool :=
  segment = ['.'] || segment.map Char.toLower = ['%', '2', 'e']

def isDoubleDot (segment : List Char) : Bool :=
  match segment with
  | ['.', '.'] => true
  | '.' :: rest => rest.map Char.toLower = ['%', '2', 'e']
  | a :: b :: c :: rest => [a, b, c].map Char.toLower = ['%', '2', 'e'] && isSingleDot rest
  | _ => false

/-- The path state: adds the segments to `path`, where a dot segment goes back, and one at the end
leaves an empty segment. -/
def resolvePath (path : List (List Char)) : (segments : List (List Char)) → List (List Char)
  | [] => path
  | segment :: rest =>
    let last := if rest.isEmpty then [[]] else []
    let path :=
      if isDoubleDot segment then path.dropLast ++ last
      else if isSingleDot segment then path ++ last
      else path ++ [encode inPathSet segment]
    resolvePath path rest

/-- The target of an input that starts with `/`. -/
def parse (input : List Char) : Target :=
  let text := (clean input).takeWhile (· ≠ '#')
  let path := text.takeWhile (· ≠ '?')
  let query := (text.dropWhile (· ≠ '?')).tail?
  { path := resolvePath [] ((path.drop 1).splitOnP isSeparator)
    query := query.map (encode inQuerySet) }

/-! ### Query strings -/

/-- A decoded part of a query string; one that cannot be decoded is left as it is. -/
def decodeQueryPart (l : List Char) : List Char :=
  let plain := l.map fun c => if c = '+' then ' ' else c
  (decodeURIComponent plain).getD plain

/-- The escapes of square brackets are read as brackets before the query is split. -/
def unescapeBrackets : List Char → List Char
  | '%' :: '5' :: c :: rest =>
    if c = 'B' || c = 'b' then '[' :: unescapeBrackets rest
    else if c = 'D' || c = 'd' then ']' :: unescapeBrackets rest
    else '%' :: unescapeBrackets ('5' :: c :: rest)
  | c :: rest => c :: unescapeBrackets rest
  | [] => []

/-- The key and the value of a part whose key ends in a bracket: they are split at the first `=` that
follows a `]`. -/
def splitAfterBracket : List Char → Option (List Char × List Char)
  | ']' :: '=' :: rest => some ([']'], rest)
  | c :: rest => (splitAfterBracket rest).map fun pair => (c :: pair.1, pair.2)
  | [] => none

/-- The key and the value of a part, which are else split at the first `=`. -/
def splitPair (part : List Char) : List Char × List Char :=
  (splitAfterBracket part).getD
    (part.takeWhile (· ≠ '='), (part.dropWhile (· ≠ '=')).drop 1)

def parsePair (part : List Char) : List Char × List Char :=
  (decodeQueryPart (splitPair part).1, decodeQueryPart (splitPair part).2)

/-- The keys and values of a query.  A key with brackets is a key of its own here. -/
def parseQuery (query : Option (List Char)) : List (List Char × List Char) :=
  match query with
  | none => []
  | some query => (((unescapeBrackets query).splitOnP (· = '&')).filter (· ≠ [])).map parsePair

/-- The values of a key, in their order. -/
def queryValues (query : Option (List Char)) (key : String) : List String :=
  ((parseQuery query).filter fun pair => pair.1 = key.toList).map fun pair => String.ofList pair.2

end Url
