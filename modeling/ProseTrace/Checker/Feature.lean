/-!
# Features of an installation

A checker can only be used if the package that it rests on is installed.
-/

namespace ProseTrace.Checker

inductive Feature where
  | bundleJar
  | externJar
  | remoteServer
  deriving DecidableEq

namespace Feature

def name : Feature → String
  | .bundleJar => "bundle-jar"
  | .externJar => "extern-jar"
  | .remoteServer => "remote-server"

/-- All features, in the order of their names. -/
def all : List Feature := [.bundleJar, .externJar, .remoteServer]

def ofName? (name : String) : Option Feature := all.find? (·.name == name)

/-- The package that has to be installed: the engine, or the client of a server. -/
def package : Feature → String
  | .bundleJar => "language_tool_python"
  | .externJar => "httpx"
  | .remoteServer => "httpx"

def available (installed : List String) : List Feature :=
  all.filter fun feature => installed.contains feature.package

end Feature

end ProseTrace.Checker
