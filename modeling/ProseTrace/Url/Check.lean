import ProseTrace.Text.LetterCase
import ProseTrace.Text.Numeral
import ProseTrace.Text.Quoted
import ProseTrace.Url.Address
import ProseTrace.Url.Domain.Name
import ProseTrace.Url.Sent

/-!
# Checking URLs

A check of URLs for a run of the program, in place of the one of the library that its clients are
made with: characters and a length that can be sent, a host that can exist, a port that is an
integer, and without a host a path that cannot be taken for one.  A client puts a slash at the end
and then asks the same of the form that is sent.

A checker takes the library's check as a parameter, `Checker.Platform.opening`, and nothing that is
proved of the checkers depends on this one.
-/

namespace ProseTrace.Url

open Text

inductive Invalid where
  | tooLong
  | partTooLong (name : String)
  | control (c : Char) (position : Nat)
  | ipv4 (host : String)
  | ipv6 (host : String)
  | domain (host : String)
  | port (written : String)
  | pathWithSlashes
  | pathWithColon
  deriving DecidableEq

def Invalid.message : Invalid → String
  | .tooLong => "URL too long"
  | .partTooLong name => s!"URL component '{name}' too long"
  | .control c position =>
    s!"Invalid non-printable ASCII character in URL, {Quoted.quote (String.singleton c)} at " ++
      s!"position {position}."
  | .ipv4 host => s!"Invalid IPv4 address: {Quoted.quote host}"
  | .ipv6 host => s!"Invalid IPv6 address: {Quoted.quote host}"
  | .domain host => s!"Invalid IDNA hostname: {Quoted.quote host}"
  | .port written => s!"Invalid port: {Quoted.quote written}"
  | .pathWithSlashes => "Relative URLs cannot have a path starting with '//'"
  | .pathWithColon => "Relative URLs cannot have a path starting with ':'"

def maxLength : Nat := 65536

private def isControl (c : Char) : Bool := c.toNat < 0x20 || c.toNat == 0x7f

def checkText (url : List Char) : Except Invalid Unit :=
  if maxLength < url.length then .error .tooLong
  else match url.findIdx? isControl with
    | some position => .error (.control (url.getD position ' ') position)
    | none => .ok ()

def sendHost (host : List Char) : Except Invalid (List Char) :=
  let require (sent : Option (List Char)) (error : String → Invalid) : Except Invalid (List Char) :=
    sent.elim (.error (error (String.ofList host))) .ok
  if resemblesIpv4 host then require (if isIpv4 host then some host else none) .ipv4
  else if host.head? = some '[' ∧ host.getLast? = some ']' then
    require (if isIpv6 (host.drop 1).dropLast then some host else none) .ipv6
  else if host.all (·.toNat < 0x80) then .ok (encodeHost (host.map Char.toLower))
  else require (Domain.send? (lower host)) .domain

def readPort (port : List Char) : Except Invalid (Option Int) :=
  let written := String.ofList port
  if port.isEmpty then .ok none
  else match Numeral.readInt? written with
    | some number => .ok (some number)
    | none => .error (.port written)

/-- Without a scheme and a host, a path begins neither with two slashes nor with a colon. -/
def checkPath (p : Parts) : Except Invalid Unit :=
  if p.isPlaced then .ok ()
  else match p.path with
    | '/' :: '/' :: _ => .error .pathWithSlashes
    | ':' :: _ => .error .pathWithColon
    | _ => .ok ()

/-- The form that is sent has parts of a length that can be sent, and a host that can exist: a name
that is sent as four numbers was not looked at as such before. -/
def checkSent (s : Sent) : Except Invalid Unit :=
  match s.named.find? fun (_, part) => maxLength < part.length with
  | some (name, _) => .error (.partTooLong name)
  | none => (sendHost s.host).map fun _ => ()

/-- The text is a URL; the first fault is reported. -/
def check (text : String) : Except Invalid Unit := do
  let url := text.toList
  checkText url
  let p := parts url
  let host ← sendHost p.host
  let port ← readPort p.port
  checkPath p
  let sent := p.send host port
  if sent.endsInSlash then return else checkSent sent.withSlash

end ProseTrace.Url
