/-
# The process and its database.
-/
import Ocelot.Lib.Run
import Ocelot.Tracker.Loader
import Ocelot.Tracker.UpdateSpec

namespace Ocelot.Tracker

structure Deployment where
  worker : Worker := {}
  db : Tables := {}

inductive DeploymentLabel where
  | update (env : UpdateEnv) (q : Query)
  | announce (env : Env) (c : Call)
  | reload (load : LoadEnv)
  | restart (load : LoadEnv)

namespace Deployment

variable (s : Deployment)

abbrev after (w : Worker) (calls : List UpdateCall) : Deployment :=
  { worker := w, db := s.db.executeAdminAll calls }

def update (env : UpdateEnv) (q : Query) : Option Deployment :=
  let updated := s.worker.handleUpdate env q
  match updated.result with
  | .ok _ => some (s.after updated.worker updated.db)
  | .error _ => none

def announce (env : Env) (c : Call) : Deployment :=
  let outcome := s.worker.announce env c
  { worker := outcome.worker, db := s.db.executeAll outcome.db }

def initial (admission : Option SwarmAdmissionPolicy) : Deployment := { worker := { admission } }

def booted (admission : Option SwarmAdmissionPolicy) (load : LoadEnv) (db : Tables) : Deployment :=
  { worker := (({ admission } : Worker).loadAll load db).worker, db }

def fresh : Worker := { admission := s.worker.admission }

def step : DeploymentLabel → Option Deployment
  | .update env q => s.update env q
  | .announce env c => some (s.announce env c)
  | .reload load => some { s with worker := (s.worker.reload load s.db).worker }
  | .restart load => some { s with worker := (s.fresh.loadAll load s.db).worker }

theorem update_eq_some {s t : Deployment} {env : UpdateEnv} {q : Query}
    (h : s.update env q = some t) : ∃ message, (s.worker.handleUpdate env q).result = .ok message ∧
      t = s.after (s.worker.handleUpdate env q).worker (s.worker.handleUpdate env q).db := by
  unfold update at h
  dsimp only at h
  cases hres : (s.worker.handleUpdate env q).result with
  | error =>
    rw [hres] at h
    cases h
  | ok message =>
    rw [hres] at h
    exact ⟨message, rfl, (Option.some.inj h).symm⟩

end Deployment

namespace Sample

def healthy : UpdateEnv where
  dbError _ := none
  order := []
  commons _ := .error []

def request (params : List (String × String)) : DeploymentLabel :=
  .update healthy (params.map fun param => (lit param.1, lit param.2))

def passkeyA : String := "aaaaaaaaaaaaaaaaaaaaaaaaaaaaaaaa"
def passkeyB : String := "bbbbbbbbbbbbbbbbbbbbbbbbbbbbbbbb"

def addUser (id passkey : String) : DeploymentLabel :=
  request [("action", "add_user"), ("id", id), ("passkey", passkey)]

end Sample

end Ocelot.Tracker
