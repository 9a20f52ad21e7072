import ProseTrace.Document.Source
import ProseTrace.Finding.Diagnostic
import ProseTrace.Text.Window

/-!
# Lines and columns of diagnostics

Every location of a list of diagnostics is given the positions of its ends; the end is held on the
line where the location starts.  The locations are visited in the order of their starts, so that one
window serves them all; it starts afresh where a location lies behind it.
-/

namespace ProseTrace.Finding

open Document Text

structure LocatedRange where
  range : ByteRange
  start : Position
  stop : Position
  deriving DecidableEq

structure LocatedDiagnostic where
  diagnostic : Diagnostic
  ranges : List LocatedRange

namespace LocatedDiagnostic

structure Key where
  diagnostic : Nat
  location : Nat
  deriving DecidableEq

def requests (diagnostics : List Diagnostic) : List (Key × ByteRange) :=
  diagnostics.zipIdx.flatMap fun (d, i) => d.locations.zipIdx.map fun (r, k) => (⟨i, k⟩, r)

/-- All locations, in the order of their starts. -/
def ordered (diagnostics : List Diagnostic) : List (Key × ByteRange) :=
  (requests diagnostics).mergeSort fun a b => a.2.start ≤ b.2.start

/-- The window to go on with to the character `target`: columns behind it are no longer known. -/
def windowFor (source : Source) (window : Window) (target : Nat) : Window :=
  if target < window.cursor.charIndex then .ofString source.text else window

def locateRange (source : Source) (window : Window) (range : ByteRange) :
    Except Source.AddressError (LocatedRange × Window) := do
  let startChar ← source.charIndex range.start
  let stopChar ← source.charIndex range.stop
  let (start, window) := (windowFor source window startChar).moveTo startChar false
  let (stop, window) := window.moveTo stopChar true
  return (⟨range, start, stop⟩, window)

def locateAll (source : Source) : Window → List (Key × ByteRange) →
    Except Source.AddressError (List (Key × LocatedRange))
  | _, [] => .ok []
  | window, (key, range) :: rest => do
    let (located, window) ← locateRange source window range
    return (key, located) :: (← locateAll source window rest)

def locate (source : Source) (diagnostics : List Diagnostic) :
    Except Source.AddressError (List LocatedDiagnostic) := do
  let resolved ← locateAll source (.ofString source.text) (ordered diagnostics)
  return diagnostics.zipIdx.map fun (d, i) =>
    ⟨d, (List.range d.locations.length).filterMap fun k => resolved.lookup ⟨i, k⟩⟩

end LocatedDiagnostic

end ProseTrace.Finding
