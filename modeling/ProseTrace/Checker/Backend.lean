import ProseTrace.Checker.Engine
import ProseTrace.Checker.Remote
import ProseTrace.Checker.Server

/-!
# Checker backends

What all checkers offer: words can be allowed and rules disabled for a language, texts can be
checked, and the checker can be closed.  A checker is its state, and each operation gives the next
one.
-/

namespace ProseTrace.Checker

open Finding

/-- The operations of a checker whose states are of type `σ`. -/
class Backend (σ : Type) where
  allowWords : σ → String → List String → σ
  disableChecks : σ → String → List String → σ
  check : σ → String → String → Logged (Except Fault (List Suggestion) × σ)
  close : σ → Logged σ

instance : Backend Session where
  allowWords := Session.allowWords
  disableChecks := Session.disableChecks
  check := Session.check
  close s := pure s.close

instance : Backend Bundled where
  allowWords := Bundled.allowWords
  disableChecks := Bundled.disableChecks
  check := Bundled.check
  close b := pure b.close

instance : Backend Server where
  allowWords := Server.allowWords
  disableChecks := Server.disableChecks
  check := Server.check
  close := Server.close

end ProseTrace.Checker
