/-
# How the agent calls the control plane (`compute/agent/client.go`, callers in `agent.go`).
-/
import Ocelot.Lib.Decimal
import Ocelot.Tracker.Types

namespace Ocelot.Agent

open List
open Tracker (Bytes lit)

/-! ## Errors and retries -/

structure APIError where
  statusCode : ℕ
  code : Bytes
  message : Bytes
  retry : Bool
  deriving DecidableEq

namespace APIError

def isGone (e : APIError) : Bool := e.statusCode = 410
def isUnauth (e : APIError) : Bool := e.statusCode = 401
def isRetryable (e : APIError) : Bool := e.retry || 500 ≤ e.statusCode

end APIError

inductive Err where
  | api (e : APIError)
  | context (message : Bytes)
  | text (message : Bytes)
  deriving DecidableEq

def Err.message : Err → Bytes
  | api e => lit "api error " ++ Decimal.numeral e.statusCode ++ lit " " ++ e.code ++ lit ": " ++ e.message
  | context message | text message => message

structure ErrorDetail where
  code : Bytes
  message : Bytes
  retry : Bool
  deriving DecidableEq

inductive Reply (α : Type) where
  | noResponse (message : Bytes)
  | readError (message : Bytes)
  | response (status : ℕ) (body : Bytes) (envelope : Option ErrorDetail) (value : Except Bytes α)

/-- One attempt up to and with `decodeResponse`; `zero` is the value nothing was decoded into. -/
def decodeResponse {α : Type} (zero : α) : Reply α → Except Err α
  | .noResponse message => .error (.text message)
  | .readError message => .error (.text (lit "read body: " ++ message))
  | .response status body envelope value =>
    if status = 304 then .ok zero
    else if 400 ≤ status then
      let plain : Except Err α := .error (.text (lit "http " ++ Decimal.numeral status ++ lit ": " ++ body))
      match envelope with
      | none => plain
      | some detail =>
        if detail.code = [] then plain else .error (.api ⟨status, detail.code, detail.message, detail.retry⟩)
    else if body = [] then .ok zero
    else
      match value with
      | .error message => .error (.text (lit "decode response: " ++ message))
      | .ok v => .ok v

structure Attempt (α : Type) where
  reply : Reply α
  done : Bool
  doneWaiting : Bool

def Attempt.cancelled {α : Type} (a : Attempt α) : Bool := a.done || a.doneWaiting

def maxAttempts : ℕ := 10

section

variable {α : Type} (zero : α) (label : Bytes) (env : ℕ → Attempt α)

def result (n : ℕ) : Except Err α := decodeResponse zero (env n).reply

def retryLoop : ℕ → ℕ → List (Except Err α) × Except Err α
  | 0, _ => ([], .error (.text (label ++ lit ": failed after " ++ Decimal.numeral maxAttempts ++ lit " attempts")))
  | left + 1, n =>
    match result zero env n with
    | .ok v => ([.ok v], .ok v)
    | .error e =>
      if (env n).cancelled then ([.error e], .error (.context (lit "context canceled")))
      else
        let rest := retryLoop left (n + 1)
        (.error e :: rest.1, rest.2)

def withRetry : List (Except Err α) × Except Err α := retryLoop zero label env maxAttempts 0

def Reaches (n i : ℕ) : Prop :=
  ∀ j < i, (∃ e, result zero env (n + j) = .error e) ∧ (env (n + j)).cancelled = false

@[simp] theorem reaches_zero (n : ℕ) : Reaches zero env n 0 := by
  intro j hj
  exact absurd hj (Nat.not_lt_zero j)

theorem reaches_succ {n i : ℕ} : Reaches zero env n (i + 1) ↔
      ((∃ e, result zero env n = .error e) ∧ (env n).cancelled = false) ∧ Reaches zero env (n + 1) i := by
  constructor
  · intro h
    refine ⟨h 0 (Nat.succ_pos i), fun j hj => ?_⟩
    have hlater := h (j + 1) (Nat.succ_lt_succ hj)
    rw [← Nat.add_assoc, Nat.add_right_comm] at hlater
    exact hlater
  · rintro ⟨hfirst, hrest⟩ j hj
    cases j with
    | zero => exact hfirst
    | succ j =>
      rw [← Nat.add_assoc, Nat.add_right_comm]
      exact hrest j (Nat.lt_of_succ_lt_succ hj)

theorem retryLoop_getElem? (left n i : ℕ) (r : Except Err α) :
    (retryLoop zero label env left n).1[i]? = some r ↔ i < left ∧ Reaches zero env n i ∧
      r = result zero env (n + i) := by
  induction left generalizing n i with
  | zero => simp [retryLoop]
  | succ _ ih =>
    cases hres : result zero env n with
    | ok =>
      -- the loop ends with a success
      simp only [retryLoop, hres]
      cases i with
      | zero => simp [reaches_zero, hres, @eq_comm _ r]
      | succ => simp [reaches_succ, hres]
    | error =>
      cases hcanc : (env n).cancelled with
      | true =>
        simp only [retryLoop, hres, hcanc, if_true]
        cases i with
        | zero => simp [reaches_zero, hres, @eq_comm _ r]
        | succ => simp [reaches_succ, hcanc]
      | false =>
        simp only [retryLoop, hres, hcanc, Bool.false_eq_true, if_false]
        cases i with
        | zero => simp [reaches_zero, hres, @eq_comm _ r]
        | succ i =>
          have hidx : n + 1 + i = n + (i + 1) := by omega
          rw [getElem?_cons_succ, ih, reaches_succ, hidx, Nat.succ_lt_succ_iff]
          simp [hres, hcanc]

theorem retryLoop_ne_api (left n : ℕ) (e : APIError) : (retryLoop zero label env left n).2 ≠ .error (.api e) := by
  induction left generalizing n with
  | zero => simp [retryLoop]
  | succ _ ih =>
    simp only [retryLoop]
    split
    · simp
    · split_ifs
      · simp
      · exact ih (n + 1)

end

/-! ## Calls of the agent -/

structure Credentials where
  nodeID : Bytes
  nodeSecret : Bytes
  deriving DecidableEq

structure AgentState where
  bootstrapToken : Bytes
  creds : Credentials
  client : Credentials
  heartbeatSec : ℤ
  inventorySec : ℤ
  desiredSec : ℤ
  deriving DecidableEq

structure RegisterResponse where
  nodeID : Bytes
  nodeSecret : Bytes
  heartbeatIntervalSec : ℤ
  inventoryIntervalSec : ℤ
  desiredPollIntervalSec : ℤ

def isHex (s : Bytes) : Bool :=
  s.length % 2 = 0 && s.all fun b => (48 ≤ b && b ≤ 57) || (97 ≤ b && b ≤ 102) || (65 ≤ b && b ≤ 70)

structure Registration where
  hostname : Except Bytes Bytes
  reply : Reply RegisterResponse
  saved : Except Bytes Unit

namespace AgentState

def register (a : AgentState) (env : Registration) : AgentState × Option Err :=
  if a.bootstrapToken = [] then (a, some (.text (lit "bootstrap token is required for first-time registration")))
  else
    match env.hostname with
    | .error message => (a, some (.text (lit "get hostname: " ++ message)))
    | .ok _ =>
      match decodeResponse ⟨[], [], 0, 0, 0⟩ env.reply with
      | .error e => (a, some (.text (lit "register: " ++ e.message)))
      | .ok resp =>
        match env.saved with
        | .error message => (a, some (.text (lit "save credentials: " ++ message)))
        | .ok () =>
          let creds : Credentials := ⟨resp.nodeID, resp.nodeSecret⟩
          if isHex resp.nodeSecret then
            ({ a with
                creds
                client := creds
                heartbeatSec := if 0 < resp.heartbeatIntervalSec then resp.heartbeatIntervalSec else a.heartbeatSec
                inventorySec := if 0 < resp.inventoryIntervalSec then resp.inventoryIntervalSec else a.inventorySec
                desiredSec := if 0 < resp.desiredPollIntervalSec then resp.desiredPollIntervalSec
                  else a.desiredSec }, none)
          else ({ a with creds }, some (.text (lit "client: decode secret")))

end AgentState

inductive Endpoint where
  | heartbeat | inventory | desired | health | metrics
  deriving DecidableEq

def Endpoint.label (ep : Endpoint) (node : Bytes) : Bytes :=
  let path := fun method name => lit method ++ lit "/v1/nodes/" ++ node ++ lit name
  match ep with
  | heartbeat => path "POST " "/heartbeat"
  | inventory => path "POST " "/inventory"
  | desired => path "GET " "/desired"
  | health => path "POST " "/health"
  | metrics => path "POST " "/metrics"

inductive Action where
  | request (ep : Endpoint) (error : Option Err)
  | register
  deriving DecidableEq

def errorOf {α : Type} : Except Err α → Option Err
  | .ok _ => none
  | .error e => some e

namespace AgentState

def handleAPIError (a : AgentState) (env : Registration) : Err → AgentState × List Action
  | .api e => if e.isGone || e.isUnauth then ((a.register env).1, [.register]) else (a, [])
  | .context _ | .text _ => (a, [])

def requests {α : Type} (ep : Endpoint) (results : List (Except Err α)) : List Action :=
  results.map fun r => .request ep (errorOf r)

def send {α : Type} (a : AgentState) (ep : Endpoint) (zero : α) (env : ℕ → Attempt α) :
    List Action × Except Err α :=
  let out := withRetry zero (ep.label a.creds.nodeID) env
  (requests ep out.1, out.2)

def call {α : Type} (a : AgentState) (ep : Endpoint) (zero : α) (env : ℕ → Attempt α)
    (reg : Registration) : AgentState × List Action × Except Err α :=
  let out := a.send ep zero env
  match out.2 with
  | .ok v => (a, out.1, .ok v)
  | .error e =>
    let handled := a.handleAPIError reg e
    (handled.1, out.1 ++ handled.2, .error e)

end AgentState

structure HeartbeatResponse where
  ok : Bool
  serverTimeMs : ℤ

inductive Tick (δ : Type) where
  | heartbeat (env : ℕ → Attempt HeartbeatResponse) (reg : Registration)
  | inventory (env : ℕ → Attempt Bool)
  | desired (env : ℕ → Attempt δ) (reg : Registration)
  | health (env : ℕ → Attempt Bool)
  | metrics (env : ℕ → Attempt Bool)

namespace AgentState

def turn {δ : Type} (zero : δ) (a : AgentState) : Tick δ → AgentState × List Action
  | .heartbeat env reg => ((a.call .heartbeat ⟨false, 0⟩ env reg).1, (a.call .heartbeat ⟨false, 0⟩ env reg).2.1)
  | .inventory env => (a, (a.send .inventory false env).1)
  | .desired env reg => ((a.call .desired zero env reg).1, (a.call .desired zero env reg).2.1)
  | .health env => (a, (a.send .health false env).1)
  | .metrics env => (a, (a.send .metrics false env).1)

def run {δ : Type} (zero : δ) : AgentState → List (Tick δ) → List (List Action)
  | _, [] => []
  | a, t :: ts => (a.turn zero t).2 :: run zero (a.turn zero t).1 ts

theorem call_eq {α : Type} (a : AgentState) (ep : Endpoint) (zero : α) (env : ℕ → Attempt α) (reg : Registration) :
    (a.call ep zero env reg).1 = a ∧ (a.call ep zero env reg).2.1 = (a.send ep zero env).1 := by
  cases hout : (a.send ep zero env).2 with
  | ok => simp [call, hout]
  | error e =>
    cases e with
    | api e => exact absurd hout (retryLoop_ne_api zero _ env maxAttempts 0 e)
    | context | text => simp [call, hout, handleAPIError]

end AgentState

def Action.refusedBy (f : APIError → Bool) : Action → Bool
  | .request .heartbeat (some (.api e)) | .request .desired (some (.api e)) => f e
  | _ => false

def APIError.asksToRegister (e : APIError) : Bool := e.isGone || e.isUnauth

def APIError.isFinal (e : APIError) : Bool := !e.isRetryable

def Action.isHeartbeat : Action → Bool
  | .request .heartbeat _ => true
  | _ => false

def Action.isRequest : Action → Bool
  | .request _ _ => true
  | .register => false

/-! ## Reactions to a refusal -/

/-- **What the protocol asks.** -/
structure Reacts (calls : List (List Action)) : Prop where
  registers : ∀ pre x mid y post, calls.flatten = pre ++ x :: (mid ++ y :: post) →
    x.refusedBy APIError.asksToRegister = true →
    y.isHeartbeat = true → .register ∈ mid
  ends : ∀ actions ∈ calls, ∀ pre x post, actions = pre ++ x :: post →
    x.refusedBy APIError.isFinal = true → ∀ y ∈ post, y.isRequest = false

namespace Tick

variable {δ : Type} (zero : δ)

def Met (n : ℕ) (e : APIError) : Tick δ → Prop
  | heartbeat env _ => n < maxAttempts ∧ Reaches ⟨false, 0⟩ env 0 n ∧ result ⟨false, 0⟩ env n = .error (.api e)
  | desired env _ => n < maxAttempts ∧ Reaches zero env 0 n ∧ result zero env n = .error (.api e)
  | inventory _ | health _ | metrics _ => False

def Last (n : ℕ) : Tick δ → Prop
  | heartbeat env _ => n + 1 = maxAttempts ∨ (env n).cancelled = true
  | desired env _ => n + 1 = maxAttempts ∨ (env n).cancelled = true
  | inventory _ | health _ | metrics _ => True

def isHeartbeat : Tick δ → Bool
  | heartbeat _ _ => true
  | _ => false

end Tick

section

variable {α : Type} (a : AgentState) (ep : Endpoint) (zero : α) (env : ℕ → Attempt α)

theorem send_getElem? (i : ℕ) (x : Action) : (a.send ep zero env).1[i]? = some x ↔
      i < maxAttempts ∧ Reaches zero env 0 i ∧ x = .request ep (errorOf (result zero env i)) := by
  show ((retryLoop zero _ env maxAttempts 0).1.map _)[i]? = some x ↔ _
  rw [getElem?_map, Option.map_eq_some_iff]
  constructor
  · rintro ⟨r, hr, rfl⟩
    obtain ⟨hi, hreaches, rfl⟩ := (retryLoop_getElem? zero _ env maxAttempts 0 i r).1 hr
    rw [Nat.zero_add]
    exact ⟨hi, hreaches, rfl⟩
  · rintro ⟨hi, hreaches, rfl⟩
    refine ⟨result zero env i, (retryLoop_getElem? zero _ env maxAttempts 0 i _).2 ⟨hi, hreaches, ?_⟩, rfl⟩
    rw [Nat.zero_add]

theorem mem_send {x : Action} (h : x ∈ (a.send ep zero env).1) : ∃ err, x = .request ep err := by
  obtain ⟨i, hi⟩ := mem_iff_getElem?.1 h
  exact ⟨_, ((send_getElem? a ep zero env i x).1 hi).2.2⟩

theorem send_ne_nil : (a.send ep zero env).1 ≠ [] := by
  intro hnil
  have hfirst := (send_getElem? a ep zero env 0 _).2 ⟨by decide, reaches_zero zero env 0, rfl⟩
  rw [hnil] at hfirst
  cases hfirst

theorem send_getElem?_succ {i : ℕ} {e : Err} (hi : i < maxAttempts)
    (hreaches : Reaches zero env 0 i) (hres : result zero env i = .error e) :
    (a.send ep zero env).1[i + 1]? = none ↔ i + 1 = maxAttempts ∨ (env i).cancelled = true := by
  have hmade : ∀ x, (a.send ep zero env).1[i + 1]? = some x ↔ i + 1 < maxAttempts ∧
      (env i).cancelled = false ∧ x = .request ep (errorOf (result zero env (i + 1))) := by
    intro x
    rw [send_getElem?]
    constructor
    · rintro ⟨hlt, hreaches', hx⟩
      have hlast := (hreaches' i (Nat.lt_succ_self i)).2
      rw [Nat.zero_add] at hlast
      exact ⟨hlt, hlast, hx⟩
    · rintro ⟨hlt, hlast, hx⟩
      refine ⟨hlt, ?_, hx⟩
      intro j hj
      rcases Nat.lt_succ_iff_lt_or_eq.1 hj with hj | rfl
      · exact hreaches j hj
      · rw [Nat.zero_add]
        exact ⟨⟨e, hres⟩, hlast⟩
  rw [Option.eq_none_iff_forall_ne_some]
  simp only [ne_eq, hmade, not_and]
  constructor
  · intro hnone
    by_contra hmore
    rw [not_or, Bool.not_eq_true] at hmore
    exact hnone _ (by omega) hmore.2 rfl
  · rintro (hlast | hcanc) x hlt hlive
    · omega
    · rw [hcanc] at hlive
      cases hlive

end

theorem pairwise_iff_forall_split {α : Type} {R : α → α → Prop} (l : List α) :
    l.Pairwise R ↔ ∀ pre x post, l = pre ++ x :: post → ∀ y ∈ post, R x y := by
  constructor
  · rintro h pre x post rfl y hy
    exact (pairwise_cons.1 (pairwise_append.1 h).2.1).1 y hy
  · intro h
    induction l with
    | nil => exact Pairwise.nil
    | cons a l ih =>
      refine pairwise_cons.2 ⟨h [] a l rfl, ih fun pre x post hsplit => ?_⟩
      exact h (a :: pre) x post (by rw [hsplit, cons_append])

theorem pairwise_iff_getElem?_succ {α : Type} {p : α → Prop} (l : List α) :
    l.Pairwise (fun x _ => ¬ p x) ↔ ∀ i x, l[i]? = some x → p x → l[i + 1]? = none := by
  constructor
  · intro h i x hx hp
    by_contra hsome
    obtain ⟨y, hy⟩ := Option.ne_none_iff_exists'.1 hsome
    obtain ⟨hi, rfl⟩ := List.getElem?_eq_some_iff.1 hx
    obtain ⟨hj, rfl⟩ := List.getElem?_eq_some_iff.1 hy
    exact pairwise_iff_getElem.1 h i (i + 1) hi hj (Nat.lt_succ_self i) hp
  · intro h
    rw [pairwise_iff_getElem]
    intro i j hi hj _ hp
    have hnone := h i l[i] (getElem?_eq_getElem hi) hp
    rw [List.getElem?_eq_none_iff] at hnone
    omega

section

variable {δ : Type} (zero : δ)

namespace AgentState

variable (a : AgentState) (t : Tick δ)

theorem turn_eq : (a.turn zero t).1 = a ∧ (a.turn zero t).2 =
        match t with
        | .heartbeat env _ => (a.send .heartbeat ⟨false, 0⟩ env).1
        | .inventory env => (a.send .inventory false env).1
        | .desired env _ => (a.send .desired zero env).1
        | .health env => (a.send .health false env).1
        | .metrics env => (a.send .metrics false env).1 := by
  cases t with
  | heartbeat env reg => exact a.call_eq .heartbeat _ env reg
  | desired env reg => exact a.call_eq .desired zero env reg
  | inventory | health | metrics => exact ⟨rfl, rfl⟩

theorem run_eq (ts : List (Tick δ)) : a.run zero ts = ts.map fun t => (a.turn zero t).2 := by
  induction ts with
  | nil => rfl
  | cons t _ ih => rw [run, (a.turn_eq zero t).1, ih, map_cons]

theorem register_not_mem_turn : .register ∉ (a.turn zero t).2 := by
  rw [(a.turn_eq zero t).2]
  intro h
  cases t with
  | _ =>
    obtain ⟨_, herr⟩ := mem_send _ _ _ _ h
    cases herr

theorem turn_isHeartbeat : ∀ x ∈ (a.turn zero t).2, x.isHeartbeat = t.isHeartbeat := by
  rw [(a.turn_eq zero t).2]
  intro x hx
  cases t with
  | _ =>
    obtain ⟨_, rfl⟩ := mem_send _ _ _ _ hx
    rfl

theorem turn_ne_nil : (a.turn zero t).2 ≠ [] := by
  rw [(a.turn_eq zero t).2]
  cases t with
  | _ => exact send_ne_nil _ _ _ _

end AgentState

theorem send_refusedBy {α : Type} (a : AgentState) {ep : Endpoint}
    (hep : ep = .heartbeat ∨ ep = .desired) (zero : α)
    (env : ℕ → Attempt α) (f : APIError → Bool) (i : ℕ) :
    (∃ x, (a.send ep zero env).1[i]? = some x ∧ x.refusedBy f = true) ↔
      ∃ e, (i < maxAttempts ∧ Reaches zero env 0 i ∧ result zero env i = .error (.api e)) ∧ f e = true := by
  constructor
  · rintro ⟨x, hx, href⟩
    obtain ⟨hi, hreaches, rfl⟩ := (send_getElem? a ep zero env i x).1 hx
    cases hres : result zero env i with
    | ok => rcases hep with rfl | rfl <;> simp [hres, errorOf, Action.refusedBy] at href
    | error err =>
      cases err with
      | api e =>
        refine ⟨e, ⟨hi, hreaches, rfl⟩, ?_⟩
        rcases hep with rfl | rfl <;> simpa [hres, errorOf, Action.refusedBy] using href
      | context | text => rcases hep with rfl | rfl <;> simp [hres, errorOf, Action.refusedBy] at href
  · rintro ⟨e, ⟨hi, hreaches, hres⟩, hf⟩
    refine ⟨_, (send_getElem? a ep zero env i _).2 ⟨hi, hreaches, rfl⟩, ?_⟩
    rcases hep with rfl | rfl <;> simpa [hres, errorOf, Action.refusedBy] using hf

theorem send_not_refusedBy {α : Type} (a : AgentState) {ep : Endpoint}
    (hep : ep ≠ .heartbeat ∧ ep ≠ .desired) (zero : α)
    (env : ℕ → Attempt α) (f : APIError → Bool) (i : ℕ) :
    ¬ ∃ x, (a.send ep zero env).1[i]? = some x ∧ x.refusedBy f = true := by
  rintro ⟨x, hx, href⟩
  obtain ⟨-, -, rfl⟩ := (send_getElem? a ep zero env i x).1 hx
  cases ep with
  | heartbeat => exact hep.1 rfl
  | desired => exact hep.2 rfl
  | _ => cases href

variable (a : AgentState)

theorem turn_refusedBy (t : Tick δ) (f : APIError → Bool) (i : ℕ) :
    (∃ x, (a.turn zero t).2[i]? = some x ∧ x.refusedBy f = true) ↔ ∃ e, t.Met zero i e ∧ f e = true := by
  rw [(a.turn_eq zero t).2]
  cases t with
  | heartbeat env => exact send_refusedBy a (.inl rfl) _ env f i
  | desired env => exact send_refusedBy a (.inr rfl) zero env f i
  | inventory env | health env | metrics env =>
    simpa [Tick.Met] using send_not_refusedBy a ⟨by decide, by decide⟩ false env f i

theorem turn_last {t : Tick δ} {i : ℕ} {e : APIError} (h : t.Met zero i e) :
    (a.turn zero t).2[i + 1]? = none ↔ t.Last i := by
  rw [(a.turn_eq zero t).2]
  cases t with
  | heartbeat env =>
    obtain ⟨hi, hreaches, hres⟩ := h
    exact send_getElem?_succ a .heartbeat _ env hi hreaches hres
  | desired env =>
    obtain ⟨hi, hreaches, hres⟩ := h
    exact send_getElem?_succ a .desired zero env hi hreaches hres
  | inventory | health | metrics => exact h.elim

theorem turn_pairwise (t : Tick δ) (f : APIError → Bool) :
    (a.turn zero t).2.Pairwise (fun x _ => ¬ x.refusedBy f = true) ↔ ∀ n e, t.Met zero n e →
      f e = true → t.Last n := by
  rw [pairwise_iff_getElem?_succ]
  constructor
  · intro h n e hmet hf
    obtain ⟨x, hx, href⟩ := (turn_refusedBy zero a t f n).2 ⟨e, hmet, hf⟩
    exact (turn_last zero a hmet).1 (h n x hx href)
  · intro h n x hx href
    obtain ⟨e, hmet, hf⟩ := (turn_refusedBy zero a t f n).1 ⟨x, hx, href⟩
    exact (turn_last zero a hmet).2 (h n e hmet hf)

theorem mem_turn_refusedBy (t : Tick δ) (f : APIError → Bool) :
    (∃ x ∈ (a.turn zero t).2, x.refusedBy f = true) ↔ ∃ n e, t.Met zero n e ∧ f e = true := by
  constructor
  · rintro ⟨x, hx, href⟩
    obtain ⟨i, hi⟩ := mem_iff_getElem?.1 hx
    exact ⟨i, (turn_refusedBy zero a t f i).1 ⟨x, hi, href⟩⟩
  · rintro ⟨n, hmet⟩
    obtain ⟨x, hx, href⟩ := (turn_refusedBy zero a t f n).2 hmet
    exact ⟨x, mem_of_getElem? hx, href⟩

theorem run_ends_iff (ts : List (Tick δ)) :
    (∀ actions ∈ a.run zero ts, ∀ pre x post, actions = pre ++ x :: post → x.refusedBy APIError.isFinal = true →
      ∀ y ∈ post, y.isRequest = false) ↔ ∀ t ∈ ts, ∀ n e, t.Met zero n e → e.isFinal = true → t.Last n := by
  rw [AgentState.run_eq]
  simp only [forall_mem_map]
  refine forall₂_congr fun t _ => ?_
  rw [← turn_pairwise, pairwise_iff_forall_split]
  -- everything a turn does is a request
  have hrequest : ∀ y ∈ (a.turn zero t).2, y.isRequest = true := by
    intro y hy
    cases y with
    | request => rfl
    | register => exact absurd hy (a.register_not_mem_turn zero t)
  constructor
  · intro h pre x post hsplit y hy href
    have hreq := hrequest y (by rw [hsplit]; simp [hy])
    rw [h pre x post hsplit href y hy] at hreq
    cases hreq
  · intro h pre x post hsplit href y hy
    exact absurd href (h pre x post hsplit y hy)

theorem run_registers_iff (ts : List (Tick δ)) :
    (∀ pre x mid y post, (a.run zero ts).flatten = pre ++ x :: (mid ++ y :: post) →
      x.refusedBy APIError.asksToRegister = true → y.isHeartbeat = true → .register ∈ mid) ↔
      (∀ t ∈ ts, t.isHeartbeat = true → ∀ n e, t.Met zero n e → e.asksToRegister = true → t.Last n) ∧
      ts.Pairwise fun t u => u.isHeartbeat = true → ∀ n e, t.Met zero n e → e.asksToRegister = false := by
  have hreg : .register ∉ (a.run zero ts).flatten := by
    rw [AgentState.run_eq]
    simp only [mem_flatten, mem_map, not_exists, not_and, forall_exists_index, and_imp]
    rintro _ t - rfl
    exact a.register_not_mem_turn zero t
  refine .trans (b := (a.run zero ts).flatten.Pairwise fun x y =>
    x.refusedBy APIError.asksToRegister = true → ¬ y.isHeartbeat = true) ?_ ?_
  · rw [pairwise_iff_forall_split]
    constructor
    · intro h pre x post hsplit y hy href hbeat
      obtain ⟨mid, rest, rfl⟩ := append_of_mem hy
      apply hreg
      rw [hsplit]
      simp [h pre x mid y rest hsplit href hbeat]
    · intro h pre x mid y post hsplit href hbeat
      exact absurd hbeat (h pre x (mid ++ y :: post) hsplit y (by simp) href)
  rw [pairwise_flatten, AgentState.run_eq, pairwise_map]
  simp only [forall_mem_map]
  apply and_congr
  · -- within one call
    refine forall₂_congr fun t _ => ?_
    cases hbeat : t.isHeartbeat with
    | true =>
      simp only [true_imp_iff]
      rw [← turn_pairwise]
      refine Pairwise.iff_of_mem fun _ hy => ?_
      rw [a.turn_isHeartbeat zero t _ hy, hbeat]
      simp
    | false =>
      simp only [Bool.false_eq_true, false_imp_iff, iff_true]
      rw [pairwise_iff_forall_split]
      intro pre x post hsplit y hy _
      rw [a.turn_isHeartbeat zero t y (by rw [hsplit]; simp [hy]), hbeat]
      exact Bool.false_ne_true
  · -- between two calls: every heartbeat turn sends a heartbeat
    refine Pairwise.iff fun t u => ?_
    constructor
    · intro h hbeat n e hmet
      obtain ⟨y, hy⟩ := exists_mem_of_ne_nil _ (a.turn_ne_nil zero u)
      by_contra hasks
      rw [Bool.not_eq_false] at hasks
      obtain ⟨x, hx, href⟩ := (mem_turn_refusedBy zero a t _).2 ⟨n, e, hmet, hasks⟩
      apply h x hx y hy href
      rw [a.turn_isHeartbeat zero u y hy]
      exact hbeat
    · intro h x hx y hy href hbeat
      rw [a.turn_isHeartbeat zero u y hy] at hbeat
      obtain ⟨n, e, hmet, hasks⟩ := (mem_turn_refusedBy zero a t _).1 ⟨x, hx, href⟩
      rw [h hbeat n e hmet] at hasks
      cases hasks

/-- **How the agent reacts to a rejection.** -/
theorem reacts_to_rejection_iff (a : AgentState) (ts : List (Tick δ)) : Reacts (a.run zero ts) ↔
      (∀ t ∈ ts, ∀ n e, t.Met zero n e →
        ((t.isHeartbeat = true ∧ e.asksToRegister = true) ∨ e.isFinal = true) → t.Last n) ∧
      ts.Pairwise fun t u => u.isHeartbeat = true → ∀ n e, t.Met zero n e → e.asksToRegister = false := by
  constructor
  · rintro ⟨hregisters, hends⟩
    obtain ⟨hwithin, hbetween⟩ := (run_registers_iff zero a ts).1 hregisters
    refine ⟨?_, hbetween⟩
    rintro t ht n e hmet (⟨hbeat, hasks⟩ | hfin)
    · exact hwithin t ht hbeat n e hmet hasks
    · exact (run_ends_iff zero a ts).1 hends t ht n e hmet hfin
  · rintro ⟨hlast, hbetween⟩
    refine ⟨(run_registers_iff zero a ts).2 ⟨?_, hbetween⟩, (run_ends_iff zero a ts).2 ?_⟩
    · intro t ht hbeat n e hmet hasks
      exact hlast t ht n e hmet (.inl ⟨hbeat, hasks⟩)
    · intro t ht n e hmet hfin
      exact hlast t ht n e hmet (.inr hfin)

end

namespace Sample

def gone : ErrorDetail := ⟨lit "NODE_GONE", lit "node not registered", false⟩

def refused {α : Type} (message : Bytes) : ℕ → Attempt α :=
  fun _ => ⟨.response 410 [] (some gone) (.error message), false, false⟩

def agent : AgentState := ⟨lit "token", ⟨lit "a", []⟩, ⟨lit "a", []⟩, 30, 300, 15⟩

def welcome : Registration :=
    ⟨.ok (lit "host"), .response 201 (lit "{}") none (.ok ⟨lit "b", [], 30, 300, 15⟩), .ok ()⟩

end Sample

open Sample

/-- Two heartbeats are answered with 410 and no retry: the agent sends each of them ten times, and
does not register. -/
theorem gone_resent_and_not_registered :
    AgentState.run () agent [.heartbeat (refused []) welcome, .heartbeat (refused []) welcome] =
        replicate 2 (replicate 10
          (.request .heartbeat (some (.api ⟨410, lit "NODE_GONE", lit "node not registered", false⟩)))) ∧
      ¬ Reacts (AgentState.run () agent
        [.heartbeat (refused []) welcome, .heartbeat (refused []) welcome]) := by
  refine (and_iff_left_of_imp fun hrun h => ?_).2 (by decide +kernel)
  rw [hrun] at h
  have hreg := h.registers [] _ [] _ _ rfl rfl rfl
  cases hreg

end Ocelot.Agent
