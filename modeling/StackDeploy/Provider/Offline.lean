/-
# Without a network

A network that is not attached to anything: no request is answered, so neither its clock nor its
tokens reach anyone.
-/

import StackDeploy.Provider.Client

namespace StackDeploy

/-- The network in which every request stays unanswered. -/
def Network.offline {m : Type → Type} [Monad m] : Network m where
  now := pure 0
  freshToken := pure "stratus-00000000-0000-4000-8000-000000000000"
  exchange wire := pure (.error (.unreachable wire.url.text))

end StackDeploy
