/-
# Captured requests, sent again.
-/
import Ocelot.Compute.NodeIsolation

namespace Ocelot.Compute

open List Option Decimal Endpoint Run
open Tracker (Bytes lit atoi digit digits)
open Prog (Issues)

/-! ## What authenticates -/

theorem digits_of_all_digit {ds : Bytes} (h : ∀ b ∈ ds, isDigit b = true) :
    ∀ n : ℕ, ds.foldl (fun n b => n.bind fun n => (digit b).map fun d => 10 * n + d) (some n) =
      some (10 ^ ds.length * n + value ds) := by
  induction ds with
  | nil =>
    intro n
    simp [value]
  | cons b ds ih =>
    intro n
    have hb := isDigit_iff.1 (h b mem_cons_self)
    have hdig : digit b = some (b.toNat - 48) := by
      unfold digit
      rw [if_pos]
      simp only [UInt8.le_iff_toNat_le]
      exact hb
    have hval : value (b :: ds) = value ds + 10 ^ ds.length * (b.toNat - 48) := by
      unfold value
      rw [map_cons, reverse_cons, Nat.ofDigits_append, Nat.ofDigits_singleton]
      simp
    rw [foldl_cons, hdig]
    show ds.foldl _ (some (10 * n + (b.toNat - 48))) = _
    rw [ih fun c hc => h c (mem_cons_of_mem b hc), hval, length_cons, pow_succ]
    congr 1
    ring

theorem digits_numeral (n : ℕ) : digits (numeral n) = some n := by
  unfold digits
  rw [if_neg (numeral_ne_nil n), digits_of_all_digit fun b hb => isDigit_of_mem_numeral hb, value_numeral]
  simp

theorem atoi_integer {n m : ℤ} (h : atoi (integer n) = some m) : m = n := by
  unfold integer at h
  split_ifs at h with hn
  · rw [atoi, digits_numeral, bind_some] at h
    split_ifs at h
    cases h
    omega
  · have hplain : atoi (numeral n.natAbs) =
        (digits (numeral n.natAbs)).bind fun k => if k < 2 ^ 63 then some (k : ℤ) else none := by
      -- a numeral does not start with a sign
      unfold atoi
      split
      · rename_i s hs
        have hdig := isDigit_of_mem_numeral (by rw [hs]; exact mem_cons_self)
        cases hdig
      · rename_i s hs
        have hdig := isDigit_of_mem_numeral (by rw [hs]; exact mem_cons_self)
        cases hdig
      · rfl
    rw [hplain, digits_numeral, bind_some] at h
    split_ifs at h
    cases h
    omega

variable {path : NodeID} {body : Body}

theorem verifyAuth_eq_none {env : Env} {db : Database} {req : Request}
    (h : verifyAuth env db path req body = none) :
    ∃ ts secret, req.nodeID = path ∧ atoi req.timestamp = some ts ∧ outsideWindow env.now ts = false ∧
      db.secrets.lookup path = some secret ∧ req.signature = some ⟨secret, ⟨path, req.timestamp, body⟩⟩ := by
  unfold verifyAuth at h
  split at h
  · cases h
  rename_i signature hsigned
  by_cases hmiss : req.nodeID = [] ∨ req.timestamp = []
  · rw [if_pos hmiss] at h
    cases h
  rw [if_neg hmiss] at h
  by_cases hpath : req.nodeID ≠ path
  · rw [if_pos hpath] at h
    cases h
  rw [if_neg hpath] at h
  split at h
  · cases h
  · rename_i ts hts
    split at h
    · cases h
    · rename_i hwin
      split at h
      · cases h
      · split at h
        · cases h
        · rename_i secret hsecret
          split_ifs at h with hhex hsignature
          refine ⟨ts, secret, not_not.1 hpath, hts, by simpa using hwin, hsecret, ?_⟩
          rw [hsigned, hsignature]

variable {r : Signed}

theorem Signed.verifyAuth_eq_none {env : Env} {db : Database}
    (h : verifyAuth env db path r.request body = none) :
    path = r.node ∧ outsideWindow env.now r.ts = false ∧ db.secrets.lookup r.node = some r.secret := by
  obtain ⟨ts, secret, hnode, hts, hwin, hsecret, hsignature⟩ := Compute.verifyAuth_eq_none h
  obtain rfl : r.node = path := hnode
  obtain rfl : ts = r.ts := atoi_integer hts
  obtain rfl : r.secret = secret := congrArg Signature.secret (some.inj hsignature)
  exact ⟨rfl, hwin, hsecret⟩

/-! ## What changes nothing -/

def Signed.isStale (r : Signed) (env : Env) (path : NodeID) (db : Database) : Bool :=
  path ≠ r.node || outsideWindow env.now r.ts || db.secrets.lookup r.node ≠ some r.secret

def Body.isRecorded (body : Body) (node : NodeID) (db : Database) : Bool := body.asMetrics.all fun req =>
    (req.workloads.all fun wm =>
      (db.workloadMetrics.lookup (wm.workloadID, req.ts)).isSome ||
        (db.tables.workloads.lookup wm.workloadID).isNone) &&
      (db.nodeMetrics.lookup (node, req.ts)).isSome

def Endpoint.ignores (endpoint : Endpoint) (body : Body) (node : NodeID) (db : Database) : Bool :=
  match endpoint with
  | .desired => true
  | .metrics => body.isRecorded node db
  | _ => endpoint ≠ body.endpoint

section

variable {env : ℕ → Env} {node : NodeID} {db : Database}

theorem onTables_of_issues {p : Program Response}
    (h : Issues (fun op => ∀ env t, (act env op t).1 = t) p) : (onTables env p db).1 = db := by
  have hsame : (p.run act env db.tables).1 = db.tables := by
    refine Issues.triple (E := fun _ => True) (I := fun t => t = db.tables) h ?_ env
      (fun _ => trivial) db.tables rfl
    intro e op t _ hop ht
    rw [hop, ht]
  show ({ db with tables := (p.run act env db.tables).1 } : Database) = db
  rw [hsame]

theorem act_nowMs (env : Env) (t : Tables) : (act env .nowMs t).1 = t := by
  unfold act
  split_ifs <;> rfl

theorem act_updateNode_of_violation {s : NodeStmt} (h : ∀ n, s.set n = none) (env : Env)
    (t : Tables) : (act env (.exec (.updateNode s)) t).1 = t := by
  unfold act
  split_ifs
  · rfl
  · show (t.updateNode s).1 = t
    unfold Tables.updateNode
    split
    · rfl
    · rename_i n _
      rw [h n]
      split_ifs <;> rfl

theorem handleHeartbeat_nil : (onTables env (handleHeartbeat node []) db).1 = db := by
  refine onTables_of_issues (.perform act_nowMs fun _ => .perform (act_updateNode_of_violation fun n => rfl) ?_)
  rintro (_ | n) <;> exact .ret _

theorem handleInventory_zero : (onTables env (handleInventory node ⟨0, 0, 0, [], []⟩) db).1 = db := by
  refine onTables_of_issues (.perform act_nowMs fun _ => .perform (act_updateNode_of_violation fun n => rfl) ?_)
  rintro (_ | _ | n) <;> exact .ret _

theorem handleHealth_nil : (onTables env (handleHealth node []) db).1 = db := onTables_of_issues (.ret _)

variable {req : MetricsRequest}

theorem insertMetrics_of_recorded (wms : List WorkloadMetrics)
    (h : ∀ wm ∈ wms, db.workloadMetrics.lookup (wm.workloadID, req.ts) ≠ none ∨
      db.tables.workloads.lookup wm.workloadID = none) : ∀ env : ℕ → Env, insertMetrics req env wms db = db := by
  induction wms with
  | nil =>
    intro env
    rfl
  | cons wm rest ih =>
    intro env
    have hfirst : insertWorkloadMetrics (env 0) req wm db = db := by
      unfold insertWorkloadMetrics
      split_ifs with hskip
      · rfl
      · split
        · rfl
        · rename_i rows hins
          rcases h wm mem_cons_self with hthere | hgone
          · exact absurd (Table.lookup_of_insert hins) hthere
          · exact absurd (.inr hgone) hskip
    rw [insertMetrics, hfirst]
    exact ih (fun other hother => h other (mem_cons_of_mem wm hother)) _

theorem handleMetrics_of_recorded
    (h : ∀ wm ∈ req.workloads, db.workloadMetrics.lookup (wm.workloadID, req.ts) ≠ none ∨
      db.tables.workloads.lookup wm.workloadID = none)
    (hnode : db.nodeMetrics.lookup (node, req.ts) ≠ none) : handleMetrics env node req db = db := by
  unfold handleMetrics
  rw [insertMetrics_of_recorded req.workloads h]
  unfold insertNodeMetrics
  split_ifs
  · rfl
  · split
    · rfl
    · rename_i rows hins
      exact absurd (Table.lookup_of_insert hins) hnode

theorem serve_of_ignores {endpoint : Endpoint} (h : endpoint.ignores body node db = true) :
    (serve env node endpoint body db).1 = db := by
  cases endpoint with
  | desired =>
    simp only [serve]
    split_ifs <;> rfl
  | metrics =>
    simp only [serve]
    split
    · rfl
    · rename_i req hreq
      simp only [ignores, Body.isRecorded, hreq, Option.all_some, Bool.and_eq_true,
        List.all_eq_true, Bool.or_eq_true, isSome_iff_ne_none, isNone_iff_eq_none] at h
      exact handleMetrics_of_recorded h.1 h.2
  | heartbeat =>
    cases body with
    | heartbeat => exact absurd h (by simp [ignores, Body.endpoint])
    | empty => rfl
    | _ => exact handleHeartbeat_nil
  | inventory =>
    cases body with
    | inventory => exact absurd h (by simp [ignores, Body.endpoint])
    | empty => rfl
    | _ => exact handleInventory_zero
  | health =>
    cases body with
    | health => exact absurd h (by simp [ignores, Body.endpoint])
    | empty => rfl
    | _ => exact handleHealth_nil

end

theorem of_handle_ne {env : ℕ → Env} {endpoint : Endpoint} {db : Database}
    (h : (handle env endpoint path r.request db).1 ≠ db) :
    r.isStale (env 0) path db = false ∧ endpoint.ignores r.body path db = false := by
  unfold handle at h
  split at h
  · exact absurd rfl h
  · rename_i hacc
    obtain ⟨hpath, hwin, hsecret⟩ := Signed.verifyAuth_eq_none hacc
    constructor
    · simp [Signed.isStale, hpath, hwin, hsecret]
    · by_contra hign
      have hign : endpoint.ignores r.body path db = true := by simpa using hign
      have hsame : (serve (fun k => env (k + 1)) path endpoint r.body db).1 = db := serve_of_ignores hign
      exact h hsame

/-! ## The wire -/

structure Wire where
  db : Database
  sent : List Signed
  admitted : List ℕ
  changes : List (ℕ × Endpoint)

instance {κ ρ : Type*} [DecidableEq κ] [DecidableEq ρ] : DecidableEq (Table κ ρ) := fun a b =>
  decidable_of_iff (a.rows = b.rows) ⟨fun h => by cases a; cases b; cases h; rfl, fun h => h ▸ rfl⟩

deriving instance DecidableEq for Tables

deriving instance DecidableEq for Database

def Call.ofAgent : Call → Bool
  | register _ | heartbeat _ _ | inventory _ _ => true
  | _ => false

namespace Wire

def start (db : Database) : Wire := ⟨db, [], [], []⟩

inductive Label where
  | sign (r : Signed)
  /-- The `k`th signed request arrives: from its agent, from the network or from an attacker. -/
  | deliver (k : ℕ) (endpoint : Endpoint) (path : NodeID) (env : ℕ → Env)
  | register (req : RegisterRequest) (secretHex : Bytes) (env : ℕ → Env)
  | reregister (node : NodeID) (secretHex : Bytes) (env : ℕ → Env)
  | operate (c : Call) (env : ℕ → Env)
  | schedule (env : ℕ → Env)

variable (s : Wire)

def deliver (k : ℕ) (r : Signed) (endpoint : Endpoint) (path : NodeID) (env : ℕ → Env) : Wire :=
  let db := (handle env endpoint path r.request s.db).1
  { s with
    db
    admitted := if endpoint = r.body.endpoint ∧ r.isStale (env 0) path s.db = false
      then k :: s.admitted else s.admitted
    changes := if db = s.db then s.changes else s.changes ++ [(k, endpoint)] }

def step : Label → Option Wire
  | .sign r => some { s with sent := s.sent ++ [r] }
  | .deliver k endpoint path env => s.sent[k]?.map fun r => s.deliver k r endpoint path env
  | .register req secretHex env => some { s with db := registerAgent env req secretHex s.db }
  | .reregister node secretHex env => some { s with db := handleReregister env node secretHex s.db }
  | .operate c env =>
    if c.ofAgent then none else some { s with db := { s.db with tables := (c.code.run act env s.db.tables).1 } }
  | .schedule env => some { s with db := { s.db with tables := (scheduleBatch.run act env s.db.tables).1 } }

def changesBy (k : ℕ) : List (ℕ × Endpoint) := s.changes.filter fun c => c.1 = k

/-- **No replay**: every signed request has changed the database at most once, and only through its
own endpoint. -/
def AtMostOnce : Prop := ∀ k r, s.sent[k]? = some r → s.changesBy k = [] ∨ s.changesBy k = [(k, r.body.endpoint)]

def Guarded : Label → Prop
  | .deliver k endpoint path env =>
    match s.sent[k]? with
    | none => True
    | some r =>
      r.isStale (env 0) path s.db = true ∨ endpoint.ignores r.body path s.db = true ∨
        endpoint = r.body.endpoint ∧ k ∉ s.admitted
  | _ => True

instance (s : Wire) (l : Label) : Decidable (s.Guarded l) := by
  unfold Guarded
  split
  · split <;> infer_instance
  · infer_instance

def Accounted : Prop :=
  ∀ k, s.changesBy k = [] ∨ k ∈ s.admitted ∧ ∃ r, s.sent[k]? = some r ∧ s.changesBy k = [(k, r.body.endpoint)]

variable {s : Wire}

theorem Accounted.atMostOnce (h : s.Accounted) : s.AtMostOnce := by
  intro k r hr
  rcases h k with hnone | ⟨-, _, hr', hone⟩
  · exact .inl hnone
  · rw [hr] at hr'
    cases hr'
    exact .inr hone

theorem deliver_accounted {k : ℕ} {endpoint : Endpoint} {env : ℕ → Env}
    (hs : s.Accounted) (hr : s.sent[k]? = some r) (hguard : s.Guarded (.deliver k endpoint path env)) :
    (s.deliver k r endpoint path env).Accounted := by
  have hadm : ∀ j ∈ s.admitted, j ∈ (s.deliver k r endpoint path env).admitted := by
    intro j hj
    simp only [deliver]
    split_ifs
    · exact mem_cons_of_mem k hj
    · exact hj
  by_cases hchange : (handle env endpoint path r.request s.db).1 = s.db
  · -- nothing is changed
    have hsame : ∀ j, (s.deliver k r endpoint path env).changesBy j = s.changesBy j := by
      intro j
      simp only [changesBy, deliver, if_pos hchange]
    intro j
    rw [hsame]
    rcases hs j with hnone | ⟨hmem, hone⟩
    · exact .inl hnone
    · exact .inr ⟨hadm j hmem, hone⟩
  · obtain ⟨hfresh, hheeded⟩ := of_handle_ne hchange
    have hfirst : endpoint = r.body.endpoint ∧ k ∉ s.admitted := by
      simp only [Guarded, hr, hfresh, hheeded, Bool.false_eq_true, false_or] at hguard
      exact hguard
    have hchanges : ∀ j, (s.deliver k r endpoint path env).changesBy j =
        s.changesBy j ++ if k = j then [(k, endpoint)] else [] := by
      intro j
      simp only [changesBy, deliver, if_neg hchange, filter_append]
      congr 1
      by_cases hj : k = j <;> simp [hj]
    intro j
    rw [hchanges]
    by_cases hj : k = j
    · subst hj
      right
      have hnone : s.changesBy k = [] := by
        rcases hs k with hnone | ⟨hmem, -⟩
        · exact hnone
        · exact absurd hmem hfirst.2
      refine ⟨?_, r, hr, ?_⟩
      · simp [deliver, hfirst.1, hfresh]
      · rw [hnone, if_pos rfl, hfirst.1]
        rfl
    · rw [if_neg hj, append_nil]
      rcases hs j with hnone | ⟨hmem, hone⟩
      · exact .inl hnone
      · exact .inr ⟨hadm j hmem, hone⟩

theorem step_accounted {s' : Wire} {l : Label} (hs : s.Accounted) (hguard : s.Guarded l)
    (h : s.step l = some s') : s'.Accounted := by
  cases l with
  | sign =>
    cases h
    intro k
    rcases hs k with hnone | ⟨hmem, r', hr', hone⟩
    · exact .inl hnone
    · obtain ⟨hk, -⟩ := List.getElem?_eq_some_iff.1 hr'
      refine .inr ⟨hmem, r', ?_, hone⟩
      rw [getElem?_append_left hk]
      exact hr'
  | deliver =>
    obtain ⟨r, hr, rfl⟩ := map_eq_some_iff.1 h
    exact deliver_accounted hs hr hguard
  | register | reregister | schedule =>
    cases h
    exact hs
  | operate =>
    simp only [step] at h
    split_ifs at h
    cases h
    exact hs

/-- **No replay**: from any database, in every run in which a request that is neither stale nor
ignored is delivered to its own endpoint only, and there only once, every signed request changes the
database at most once, and only through the endpoint it was issued for. -/
theorem changes_at_most_once {db : Database} {ls : List Label} {s : Wire}
    (hrun : Run.exec step (start db) ls = some s)
    (hguard : Run.Meets step Guarded (start db) ls) : s.AtMostOnce := by
  have hstart : (start db).Accounted := fun k => .inl rfl
  have haccounted : s.Accounted :=
    Run.exec_invariant_of_meets (fun _ _ _ hs hG h => step_accounted hs hG h) hstart hguard hrun
  exact haccounted.atMostOnce

end Wire

namespace Sample

def atTime (now : Millis) : ℕ → Env := fun _ => { env 1 with now }

def firstBeat : List Wire.Label :=
  [.register machine (lit "ab") (atTime 0), .sign ⟨[1, 0], lit "ab", 0, .heartbeat 0 (lit "ready")⟩,
    .deliver 0 .heartbeat [1, 0] (atTime 0)]

def noData : Database := ⟨.empty, .empty, .empty, .empty⟩

end Sample

namespace Wire

open Sample

theorem changes_at_most_once_beat : ∃ s, Run.exec step (start noData)
        (firstBeat ++ [.deliver 0 .inventory [1, 0] (atTime 5), .deliver 0 .heartbeat [1, 0]
          (atTime 60001)]) = some s ∧
      s.AtMostOnce ∧ s.changes = [(0, .heartbeat)] := by
  refine Run.ends_of (P := fun s => s.changes = [(0, .heartbeat)]) (by decide +kernel) fun s hs hchanges => ?_
  exact ⟨changes_at_most_once hs (by decide +kernel), hchanges⟩

/-- Half a minute later the same heartbeat is taken a second time, and makes a row of metrics. -/
theorem heartbeat_replayed : ∃ s, Run.exec step (start noData)
        (firstBeat ++ [.deliver 0 .heartbeat [1, 0] (atTime 30000),
          .deliver 0 .metrics [1, 0] (atTime 30000)]) = some s ∧
      s.changes = [(0, .heartbeat), (0, .heartbeat), (0, .metrics)] ∧ ¬ s.AtMostOnce := by
  refine Run.ends_of (P := fun s => s.changes = [(0, .heartbeat), (0, .heartbeat), (0, .metrics)] ∧
    s.sent[0]?.isSome = true)
    (by decide +kernel) ?_
  rintro s - ⟨hchanges, hsent⟩
  refine ⟨hchanges, fun honce => ?_⟩
  obtain ⟨r, hr⟩ := isSome_iff_exists.1 hsent
  have hthree : s.changesBy 0 = [(0, .heartbeat), (0, .heartbeat), (0, .metrics)] := by
    rw [changesBy, hchanges]
    rfl
  rcases honce 0 r hr with hnone | hone
  · rw [hthree] at hnone
    cases hnone
  · rw [hthree] at hone
    have hlen : 3 = 1 := congrArg length hone
    cases hlen

end Wire

end Ocelot.Compute
