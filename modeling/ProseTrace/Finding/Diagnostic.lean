import ProseTrace.Finding.Suggestion
import ProseTrace.Text.ByteRange

/-!
# Diagnostics

A diagnostic is a remark that was resolved to byte ranges of the checked source.
-/

namespace ProseTrace.Finding

open Text

structure Diagnostic where
  locations : List ByteRange
  remark : Remark

namespace Diagnostic

def ofSuggestion (suggestion : Suggestion) (locations : List ByteRange) : Diagnostic :=
  ⟨locations, suggestion.remark⟩

def isMappable (d : Diagnostic) : Bool := !d.locations.isEmpty

def anyMappable (diagnostics : List Diagnostic) : Bool := diagnostics.any isMappable

end Diagnostic

end ProseTrace.Finding
