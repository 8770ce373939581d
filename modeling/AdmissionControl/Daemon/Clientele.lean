import AdmissionControl.Client.Callers
import AdmissionControl.Daemon.Basic

/-!
# A daemon and its clients

Several clients call one daemon, one call at a time, and the process that the daemon runs in uses
the limiter in between, without a connection.
-/

namespace AdmissionControl

/-- The process that the daemon runs in uses the limiter. -/
def Daemon.operate (plan : Plan) (daemon : Daemon) (operation : Limiter.Operation) : Daemon :=
  { daemon with
    pool :=
      { daemon.pool with
        limiter := daemon.limiter.apply plan.pool.service.tuning operation } }

/-- A daemon, its clients, and the outcomes of their calls so far. -/
structure Clientele (count : Nat) where
  daemon : Daemon
  clients : Fin count → Client Nat
  outcomes : List (Client.Outcome Client.Result) := []

namespace Clientele

variable {count : Nat}

/-- What is done with the limiter. -/
inductive Deed (count : Nat) where
  /-- A client makes a call. -/
  | call (caller : Fin count) (errand : Client.Errand)
  | operate (operation : Limiter.Operation)
deriving DecidableEq

/-- Does something with the limiter. -/
def perform (plan : Daemon.Plan) (clientele : Clientele count) : Deed count → Clientele count
  | .call caller errand =>
      let after :=
        errand.carryOut (Daemon.transport plan) (clientele.clients caller) clientele.daemon
      { daemon := after.world
        clients := fun client =>
          if client = caller then after.client else clientele.clients client
        outcomes := clientele.outcomes ++ [after.outcome] }
  | .operate operation => { clientele with daemon := clientele.daemon.operate plan operation }

/-- Does one thing after another with the limiter. -/
def run (plan : Daemon.Plan) (clientele : Clientele count) (deeds : List (Deed count)) :
    Clientele count := deeds.foldl (perform plan) clientele

end Clientele

end AdmissionControl
