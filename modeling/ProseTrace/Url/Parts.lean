/-!
# The parts of URLs

A URL is cut at the marks of punctuation that end its parts (RFC 3986).  Every text can be cut;
whether its parts make sense is another question.
-/

namespace ProseTrace.Url

/-- The parts of a URL, as they are written.  Absent parts are empty; a query and a fragment may
also be there and empty. -/
structure Parts where
  scheme : List Char
  user : List Char
  host : List Char
  port : List Char
  path : List Char
  query : Option (List Char)
  fragment : Option (List Char)

/-- The URL has a scheme or a host, and so does not depend on another one. -/
def Parts.isPlaced (p : Parts) : Bool :=
  !(p.scheme.isEmpty && p.user.isEmpty && p.host.isEmpty && p.port.isEmpty)

private def isSchemeChar (c : Char) : Bool := c.isAlphanum || c == '+' || c == '.' || c == '-'

/-- The scheme and what follows its colon; a text without a scheme may begin with a colon. -/
def splitScheme (url : List Char) : List Char × List Char :=
  let name := url.takeWhile isSchemeChar
  match url.dropWhile isSchemeChar with
  | ':' :: rest => if name.head?.all Char.isAlpha then (name, rest) else ([], url)
  | _ => ([], url)

def splitAuthority : List Char → List Char × List Char
  | '/' :: '/' :: rest =>
    let isEnd (c : Char) : Bool := c == '/' || c == '?' || c == '#'
    (rest.takeWhile (!isEnd ·), rest.dropWhile (!isEnd ·))
  | rest => ([], rest)

/-- The host, in brackets if it holds colons, and what follows it. -/
def splitHost (place : List Char) : List Char × List Char :=
  let behind := place.reverse.takeWhile (· != ']')
  if place.head? = some '[' ∧ behind.length < place.length then
    (place.take (place.length - behind.length), behind.reverse)
  else (place.takeWhile (· != ':'), place.dropWhile (· != ':'))

def splitQuery (rest : List Char) : Option (List Char) × Option (List Char) :=
  let fragment (rest : List Char) : Option (List Char) := rest.tail?
  match rest with
  | '?' :: rest => (some (rest.takeWhile (· != '#')), fragment (rest.dropWhile (· != '#')))
  | rest => (none, fragment rest)

def parts (url : List Char) : Parts :=
  let (scheme, rest) := splitScheme url
  let (authority, rest) := splitAuthority rest
  let place := (authority.reverse.takeWhile (· != '@')).reverse
  let (host, behind) := splitHost place
  let isPathChar (c : Char) : Bool := c != '?' && c != '#'
  let (query, fragment) := splitQuery (rest.dropWhile isPathChar)
  { scheme
    user := (authority.take (authority.length - place.length)).dropLast
    host
    port := if behind.head? = some ':' then behind.drop 1 else behind
    path := rest.takeWhile isPathChar
    query
    fragment }

end ProseTrace.Url
