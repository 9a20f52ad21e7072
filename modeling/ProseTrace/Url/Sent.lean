import ProseTrace.Url.Parts

/-!
# URLs as they are sent

In the form that is sent, characters that have no place in a part of a URL are written as the bytes
of their UTF-8 form, each as a percent sign and two hexadecimal digits; steps up the path are taken,
and the port that a scheme has of its own is left out.
-/

namespace ProseTrace.Url

private def hexDigit (n : Nat) : Char := Char.ofNat (if n < 10 then 48 + n else 55 + n)

def percent (c : Char) : List Char :=
  (String.singleton c).toUTF8.toList.flatMap fun byte =>
    ['%', hexDigit (byte.toNat / 16), hexDigit (byte.toNat % 16)]

def encode (without : String) (text : List Char) : List Char :=
  text.flatMap fun c =>
    if 0x20 ≤ c.toNat && c.toNat < 0x7f && !without.contains c then [c] else percent c

def encodeUser : List Char → List Char := encode " \"#<>?`\x7b\x7d/;=@[\\]^|"

def encodeHost : List Char → List Char := encode " #/:<>?@[]^"

def encodePath : List Char → List Char := encode " \"#<>?`\x7b\x7d"

def encodeQuery : List Char → List Char := encode " \"#<>"

def encodeFragment : List Char → List Char := encode " \"<>`"

def takeStep (taken : List (List Char)) (step : List Char) : List (List Char) :=
  if step = ['.'] then taken
  else if step = ['.', '.'] then if taken = [[]] then taken else taken.tail
  else step :: taken

def resolveSteps (path : List Char) : List Char :=
  ['/'].intercalate ((path.splitOn '/').foldl takeStep []).reverse

def ownPort? (scheme : List Char) : Option Int :=
  match String.ofList scheme with
  | "ftp" => some 21
  | "http" | "ws" => some 80
  | "https" | "wss" => some 443
  | _ => none

structure Sent where
  scheme : List Char
  user : List Char
  host : List Char
  port : Option Int
  path : List Char
  query : Option (List Char)
  fragment : Option (List Char)

def Parts.send (p : Parts) (host : List Char) (port : Option Int) : Sent :=
  { scheme := p.scheme
    user := encodeUser p.user
    host
    port := if port = ownPort? p.scheme then none else port
    path := encodePath (if p.isPlaced then resolveSteps p.path else p.path)
    query := p.query.map encodeQuery
    fragment := p.fragment.map encodeFragment }

namespace Sent

def authority (s : Sent) : List Char :=
  let user := if s.user.isEmpty then [] else s.user ++ ['@']
  let port := match s.port with
    | some port => ':' :: (toString port).toList
    | none => []
  user ++ s.host ++ port

def rootedPath (s : Sent) : List Char := if s.path.isEmpty then ['/'] else s.path

def endsInSlash (s : Sent) : Bool := (s.query.getD s.rootedPath).getLast? = some '/'

def withSlash (s : Sent) : Sent :=
  match s.query with
  | some query => { s with path := s.rootedPath, query := some (query ++ ['/']) }
  | none => { s with path := s.rootedPath ++ ['/'] }

def named (s : Sent) : List (String × List Char) :=
  [("scheme", s.scheme), ("authority", s.authority), ("path", s.path), ("query", s.query.getD []),
    ("fragment", s.fragment.getD [])]

end Sent

end ProseTrace.Url
