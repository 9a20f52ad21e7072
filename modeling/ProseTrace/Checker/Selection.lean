import ProseTrace.Checker.Feature
import ProseTrace.Checker.Server
import ProseTrace.Config.Options

/-!
# Selection of a checker

A checker is selected by what is given: a host and a port, the wish for the bundled one, or the
place of a jar.  Nothing else may be given with it, and its feature must be enabled.
-/

namespace ProseTrace.Checker

open Document

/-- What a checker is selected by; a part that is not given is null, and values of other kinds
select nothing. -/
structure Selection where
  bundled : Config.Value
  jarLocation : Config.Value
  host : Config.Value
  port : Config.Value

inductive Choice where
  | remote (client : Remote)
  | bundled
  | jar (classpath : Path)

inductive SelectionError where
  | disabled (feature : Feature)
  | noJarFeature
  | notExactlyOne
  | remote (error : Remote.ConnectError)
  | jar (error : Server.SetupError)
  deriving DecidableEq

def SelectionError.message : SelectionError → String
  | .disabled feature => s!"Feature '{feature.name}' is disabled."
  | .noJarFeature => "Features 'bundle-jar' and 'extern-jar' are disabled."
  | .notExactlyOne =>
    "Exactly one of 'bundled', 'jar_location' or 'host and port' must be specified."
  | .remote error => error.message
  | .jar error => error.message

namespace Choice

def feature : Choice → Feature
  | .remote _ => .remoteServer
  | .bundled => .bundleJar
  | .jar _ => .externJar

def describe (c : Choice) : String := s!"LanguageTool({c.feature.name})"

end Choice

namespace Selection

def ofText? : Option String → Config.Value
  | some text => .text text
  | none => .null

def ofOptions (options : Config.BackendOptions) : Selection :=
  ⟨.boolean options.bundled, ofText? options.jarLocation, ofText? options.host,
    ofText? options.port⟩

/-- What may be used, what a jar's location is seen from, and what clients rest on. -/
structure Site where
  enabled : List Feature
  files : FileTree
  homes : Path.Homes
  /-- The port for a server of one's own. -/
  freePort : Int
  platform : Platform

def require (site : Site) (feature : Feature) : Except SelectionError Unit :=
  if feature ∈ site.enabled then .ok () else .error (.disabled feature)

/-- Require what a jar needs: it runs as a server, so that the feature of the bundled checker does
not do, but without either feature both are missed. -/
def requireJar (site : Site) : Except SelectionError Unit :=
  if .bundleJar ∉ site.enabled ∧ .externJar ∉ site.enabled then .error .noJarFeature
  else require site .externJar

def settle (required : Except SelectionError Unit) (note : String)
    (choice : Except SelectionError Choice) : Logged (Except SelectionError Choice) :=
  match required with
  | .ok () => ⟨choice, [⟨.info, note⟩]⟩
  | .error error => pure (.error error)

def choose (s : Selection) (site : Site) : Logged (Except SelectionError Choice) :=
  match s.bundled, s.jarLocation, s.host, s.port with
  | .boolean false, .null, .text host, .text port =>
    settle (require site .remoteServer) s!"Using remote LanguageTool at {host}:{port}"
      (((Remote.connect site.platform host (.text port) (.owned true)).map Choice.remote).mapError
        SelectionError.remote)
  | .boolean true, .null, .null, .null =>
    settle (require site .bundleJar) "Using bundled LanguageTool" (.ok .bundled)
  | .boolean false, .text location, .null, .null =>
    settle (requireJar site) s!"Using LanguageTool jar at {location}"
      (((Server.prepare site.platform site.files site.homes location site.freePort
        (.owned true)).map fun (classpath, _) => Choice.jar classpath).mapError SelectionError.jar)
  | _, _, _, _ => pure (.error .notExactlyOne)

end Selection

end ProseTrace.Checker
