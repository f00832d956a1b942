import ProviderGen.Generation.Call

/-!
A run as a process: it either has a result, or makes a call and goes on with the answer. Nothing
is done until somebody answers the calls, so all that a run does can be read off them.
-/

namespace ProviderGen

/-- The answer to a call. Calls that are not asked for a package are answered with an empty
text. -/
abbrev Answer := Except CallFailure String

inductive Process (α : Type) where
  | done (result : Except RunFailure α)
  | call (call : Call) (next : Answer → Process α)

namespace Process

variable {α β σ : Type}

def bind : Process α → (α → Process β) → Process β
  | .done (.error failure), _ => .done (.error failure)
  | .done (.ok value), k => k value
  | .call c next, k => .call c fun answer => (next answer).bind k

instance : Monad Process where
  pure value := .done (.ok value)
  bind := bind

def fail (failure : RunFailure) : Process α := .done (.error failure)

def ask (c : Call) : Process String :=
  .call c fun
    | .ok package => .done (.ok package)
    | .error cause => .done (.error (.work c.workUnit cause))

/-- The calls of a process and its result, if they are answered from a state of their own. -/
def run (answer : Call → σ → Answer × σ) : Process α → σ → Except RunFailure α × σ
  | .done result, state => (result, state)
  | .call c next, state =>
    let (reply, later) := answer c state
    (next reply).run answer later

def calls (answer : Call → σ → Answer × σ) : Process α → σ → List Call
  | .done _, _ => []
  | .call c next, state =>
    let (reply, later) := answer c state
    c :: (next reply).calls answer later

def perform {m : Type → Type} [Monad m] (answer : Call → m Answer) :
    Process α → m (Except RunFailure α)
  | .done result => pure result
  | .call c next => do
    let reply ← answer c
    (next reply).perform answer

end Process

end ProviderGen
