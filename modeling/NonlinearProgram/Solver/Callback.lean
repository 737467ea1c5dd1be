import NonlinearProgram.Problem.Expr
import NonlinearProgram.Solver.Engine

/-!
# Callbacks

Callbacks given by expressions, and ways to build one callback on another: `Callback.traced` keeps
the requests it passes on, and `Callback.scripted` replaces the status of the answers to some of
them.
-/

namespace NonlinearProgram.Callback

variable {R τ : Type} {n nf neg : Nat}

/-- The functions and derivatives given by expressions, each filling its buffer in order. An
expression without a value ends the call with the status minus one, and what was written before it
stays. The last notification is not answered. -/
def ofExprs [Elementary R] (functions derivatives : List (Expr R)) : Callback R Unit n nf neg :=
  fun request f g =>
    if 2 ≤ request.status then pure ⟨request.status, f, g⟩
    else
      match fillFrom (functions.map (·.evaluate request.x)) 0 f with
      | (.error _, f) => pure ⟨-1, f, g⟩
      | (.ok _, f) =>
        if 0 < request.derivativesWanted then
          match fillFrom (derivatives.map (·.evaluate request.x)) 0 g with
          | (.error _, g) => pure ⟨-1, f, g⟩
          | (.ok _, g) => pure ⟨request.status, f, g⟩
        else pure ⟨request.status, f, g⟩

/-- The same callback, with the requests made of it as part of its state. -/
def traced (callback : Callback R τ n nf neg) :
    Callback R (Array (Request R n) × τ) n nf neg :=
  fun request f g (requests, state) =>
    let (reply, state) := callback request f g state
    (reply, requests.push request, state)

/-- A traced callback with the status of some answers replaced; requests are counted from zero. -/
def scripted (script : Nat → Option Int)
    (callback : Callback R (Array (Request R n) × τ) n nf neg) :
    Callback R (Array (Request R n) × τ) n nf neg :=
  fun request f g state =>
    let (reply, after) := callback request f g state
    ({ reply with status := (script state.1.size).getD reply.status }, after)

end NonlinearProgram.Callback
