import Gatekeeper.Ledger.Call
import Gatekeeper.Metrics

/-!
# `Gatekeeper.Health`: the pages for those who watch a server

A server answers on a second address: that it lives, whether it is ready for
clients, and what it has counted. It is ready as long as its storage is in order.

* `Health.answer`: the answer to a request.
-/

set_option autoImplicit false

namespace Gatekeeper.Health

open Gatekeeper.Ledger

/-- The pages there are. -/
inductive Page where
  | live
  | ready
  | metrics
  deriving DecidableEq, Repr

/-- The page of a path. -/
def Page.ofPath? : String → Option Page
  | "/live" => some .live
  | "/ready" => some .ready
  | "/metrics" => some .metrics
  | _ => none

/-- What is on a page. -/
inductive Body where
  | text (words : String)
  | counters (metrics : Metrics)
  | nothing

/-- The answer to a request. -/
structure Answer where
  status : Nat
  body : Body

/-- What a page shows. -/
def Page.content (conditions : Conditions) (metrics : Metrics) : Page → Answer
  | .live => ⟨200, .text "ok"⟩
  | .ready =>
    match callHealthCheck conditions with
    | .ok () => ⟨200, .text "ok"⟩
    | .error _ => ⟨503, .text "liveness store unavailable"⟩
  | .metrics => ⟨200, .counters metrics⟩

/-- The path of a request's target: what stands before a question mark. -/
def pathOf (target : String) : String := String.ofList (target.toList.takeWhile (· ≠ '?'))

/-- The answer to a request with the given method and target. Pages are only read. -/
def answer (conditions : Conditions) (metrics : Metrics) (method target : String) : Answer :=
  match Page.ofPath? (pathOf target) with
  | none => ⟨404, .nothing⟩
  | some page =>
    let content := page.content conditions metrics
    if method = "GET" then content
    else if method = "HEAD" then { content with body := .nothing }
    else ⟨405, .nothing⟩

/-- The counters as text, a line for each. -/
def Body.render : Body → String
  | .text words => words
  | .counters metrics =>
    String.join (metrics.entries.map fun (metric, n) => s!"{metric.render} {n}\n")
  | .nothing => ""

end Gatekeeper.Health
