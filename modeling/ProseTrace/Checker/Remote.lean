import ProseTrace.Checker.Matches
import ProseTrace.Checker.Settings
import ProseTrace.Json.Reader
import ProseTrace.Log

/-!
# A remote checker

The client of a checker server that is spoken to over HTTP.  Allowed words and disabled rules are
kept by the client: rules go out with each request, words are applied to each answer.

The library that sends requests is no part of this.  Which base URLs it refuses, and in what words,
is a parameter; how a request ends is a script.
-/

namespace ProseTrace.Checker

open Finding Text

structure Request where
  method : String
  path : String
  form : List (String × String)
  deriving DecidableEq

inductive Reply where
  | response (status : Int) (body : List UInt8)
  /-- The connection failed or timed out. -/
  | lost (reason : String)
  /-- Another error of the request, as for a body that cannot be decoded. -/
  | spoiled (reason : String)
  deriving DecidableEq

def isSuccess (status : Int) : Bool := 200 ≤ status && status < 300

/-- Who closes the connection of a client; one that the client opened itself it also closes. -/
inductive Connection where
  | lent
  | owned (isOpen : Bool)
  deriving DecidableEq

def Connection.isUsable : Connection → Bool
  | .lent => true
  | .owned isOpen => isOpen

def Connection.afterClose : Connection → Connection
  | .lent => .lent
  | .owned _ => .owned false

inductive Port where
  | text (written : String)
  | number (value : Int)
  deriving DecidableEq

def Port.number? : Port → Option Int
  | .text written => Numeral.readInt? written
  | .number value => some value

def Port.shown : Port → String
  | .text written => Quoted.quote written
  | .number value => toString value

/-- Why a library opens no client for a base URL, in its words. -/
structure InvalidUrl where
  message : String
  deriving DecidableEq

/-- What a client rests on: the library that opens connections, and the interpreter. -/
structure Platform where
  opening : String → Except InvalidUrl Unit
  /-- How deep lists and objects of an answer may lie within each other. -/
  maxDepth : Nat

structure Remote where
  baseUrl : String
  settings : Settings
  connection : Connection
  maxDepth : Nat

namespace Remote

inductive ConnectError where
  | port (shown : String)
  | url (error : InvalidUrl)
  deriving DecidableEq

def ConnectError.message : ConnectError → String
  | .port shown => s!"Invalid LanguageTool port {shown}"
  | .url error => error.message

def hasScheme : List Char → Bool
  | ':' :: '/' :: '/' :: _ => true
  | _ :: rest => hasScheme rest
  | [] => false

/-- The address of a server, without slashes behind the host and with a scheme. -/
def address (host : String) (port : Int) : String :=
  let bare := (host.toList.reverse.dropWhile (· == '/')).reverse
  let scheme := if hasScheme bare then "" else "http://"
  s!"{scheme}{String.ofList bare}:{port}"

/-- Open a connection; a lent one was opened by someone else. -/
def openAt (platform : Platform) (baseUrl : String) : Connection → Except ConnectError Unit
  | .lent => .ok ()
  | .owned _ => (platform.opening baseUrl).mapError ConnectError.url

def connect (platform : Platform) (host : String) (port : Port) (connection : Connection) :
    Except ConnectError Remote :=
  match port.number? with
  | some number =>
    if 0 < number ∧ number < 65536 then do
      let baseUrl := address host number
      openAt platform baseUrl connection
      return ⟨baseUrl, .empty, connection, platform.maxDepth⟩
    else .error (.port port.shown)
  | none => .error (.port port.shown)

def allowWords (r : Remote) (language : String) (words : List String) : Remote :=
  { r with settings := r.settings.allow language words }

def disableChecks (r : Remote) (language : String) (rules : List String) : Remote :=
  { r with settings := r.settings.disable language rules }

/-- Close the client; a lent connection stays open. -/
def close (r : Remote) : Remote := { r with connection := r.connection.afterClose }

def checkRequest (r : Remote) (language text : String) : Request :=
  let rules := (r.settings.disabled language).toList
  ⟨"POST", "/v2/check", [("text", text), ("language", language)] ++
    (if rules.isEmpty then [] else [("disabledRules", ",".intercalate rules)])⟩

def pingRequest : Request := ⟨"GET", "/v2/languages", []⟩

/-- The suggestions in a reply to a check, before allowed words are left out.  Of what the library
says about a status that is no success only the number is told. -/
def readReply (r : Remote) (text : String) : Reply → Except Fault (List Suggestion)
  | .lost reason => .error (.backend (.requestFailed r.baseUrl reason))
  | .spoiled reason => .error (.backend (.requestFailed r.baseUrl reason))
  | .response status body =>
    if isSuccess status then
      match Json.ofBytes r.maxDepth body with
      | .ok payload => (readMatches text payload).mapError MatchFault.toFault
      | .error .malformed => .error (.backend (.invalidJson r.baseUrl))
      | .error (.tooDeep container) => .error (.tooDeep container)
    else .error (.backend (.requestFailed r.baseUrl s!"HTTP {status}"))

def matchesNote (language text : String) (found : List Suggestion) : Log.Entry :=
  ⟨.debug, s!"LanguageTool reported {found.length} matches for {text.length} chars ({language})"⟩

def conclude (r : Remote) (language text : String) (reply : Reply) :
    Logged (Except Fault (List Suggestion)) :=
  match r.readReply text reply with
  | .ok found => ⟨.ok (r.settings.filter language text found), [matchesNote language text found]⟩
  | .error fault => pure (.error fault)

def readPong : Reply → Except Fault Bool
  | .response status _ => .ok (isSuccess status)
  | .lost _ => .ok false
  | .spoiled reason => .error (.pingRaised reason)

end Remote

/-- The two ends of a connection: a client, the replies still to come, and the requests sent. -/
structure Session where
  remote : Remote
  replies : List Reply
  sent : List Request

namespace Session

def start (remote : Remote) (replies : List Reply) : Session := ⟨remote, replies, []⟩

def allowWords (s : Session) (language : String) (words : List String) : Session :=
  { s with remote := s.remote.allowWords language words }

def disableChecks (s : Session) (language : String) (rules : List String) : Session :=
  { s with remote := s.remote.disableChecks language rules }

def close (s : Session) : Session := { s with remote := s.remote.close }

def noReply : Reply := .lost "no response scripted"

/-- Send a request and take the next reply; nothing is sent on a closed connection. -/
def exchange (s : Session) (request : Request) : Except Fault Reply × Session :=
  if s.remote.connection.isUsable then
    (.ok (s.replies.headD noReply),
      { s with replies := s.replies.tail, sent := s.sent ++ [request] })
  else (.error .clientClosed, s)

def check (s : Session) (language text : String) :
    Logged (Except Fault (List Suggestion) × Session) :=
  match s.exchange (s.remote.checkRequest language text) with
  | (.ok reply, s) => do return (← s.remote.conclude language text reply, s)
  | (.error fault, s) => pure (.error fault, s)

def ping (s : Session) : Except Fault Bool × Session :=
  match s.exchange Remote.pingRequest with
  | (.ok reply, s) => (Remote.readPong reply, s)
  | (.error fault, s) => (.error fault, s)

end Session

end ProseTrace.Checker
