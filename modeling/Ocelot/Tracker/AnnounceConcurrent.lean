/-
# Announces that interleave, one critical section or counter update at a time.

The invariant is a ledger: a counter, with what the calls under way still owe to it, is the size
of its lists. Every step that is undisturbed keeps it.
-/
import Ocelot.Tracker.AnnounceMetadata

namespace Ocelot.Tracker

open List Option Tracker.Worker Locals PeerList Torrent Sample Run

/-! ## The steps of a call -/

inductive Stage where
  | lookup
  | complete (v : Locals)
  | move (v : Locals)
  | expire (v : Locals)
  | succ (v : Locals)
  | count (v : Locals) (ops : List CounterOp)
  | delete (v : Locals)
  | flush (v : Locals)
  | done
  deriving DecidableEq

open Stage

namespace Stage

variable (v : Locals)

def afterMove : Stage := if v.expireToken then .expire v else .succ v

def afterComplete : Stage := if v.inserted then afterMove v else .move v

def afterLookup : Stage :=
  if v.stoppedTorrent then .succ v else if v.completedTorrent then .complete v else .succ v

def afterCount : Stage := if v.stoppedTorrent then .delete v else .flush v

def counting : List CounterOp → Stage
  | [] => afterCount v
  | ops => .count v ops

end Stage

structure Thread where
  env : Env
  call : Call
  user : User
  key : Bytes
  stage : Stage

/-- A leecher of the torrent became a seeder with its completion. -/
structure Completion where
  infoHash : Bytes
  key : Bytes
  deriving DecidableEq

structure Effect where
  worker : Worker
  stage : Stage
  completions : List Completion := []

def Worker.putTorrent (w : Worker) (h : Bytes) (t : Torrent) : Worker :=
  { w with torrents := w.torrents.insert h t }

/-- **One step of a call**, on the torrent as it is at that moment. -/
def Thread.next (th : Thread) (w : Worker) (t : Torrent) : Option Effect :=
  let c := th.call
  let h := c.req.infoHash
  match th.stage with
  | .lookup =>
    let s := lookupSection th.env c th.user th.key t
    let v := s.locals.settle c.req.left
    some { worker := w.putTorrent h s.torrent, stage := .afterLookup v }
  | .complete v => some { worker := w.putTorrent h (completeSection t), stage := .afterComplete v }
  | .move v =>
    let moved := moveSection th.key t v
    some
      { worker := w.putTorrent h moved.1
        stage := .afterMove moved.2
        completions := if th.key ∈ t.leechers then [⟨h, th.key⟩] else [] }
  | .expire v => some { worker := w.putTorrent h (expireSection th.user t), stage := .succ v }
  | .succ v =>
    some
      { worker :=
          { w with stats := { w.stats with succAnnouncements := w.stats.succAnnouncements + 1 } }
        stage := .counting v v.counterOps }
  | .count v ops =>
    match ops with
    | [] => none
    | op :: ops => some { worker := w.applyCounter c.passkey op, stage := .counting v ops }
  | .delete v =>
    some { worker := w.putTorrent h (deleteSection c.req.left th.key t), stage := .flush v }
  | .flush v => some { worker := w.putTorrent h (flushSection c.now v t).1, stage := .done }
  | .done => none

structure System where
  worker : Worker
  threads : List Thread := []
  completions : List Completion := []

inductive Label where
  | spawn (env : Env) (c : Call)
  | step (i : ℕ)

def System.step (s : System) : Label → Option System
  | .spawn env c =>
    match s.worker.users.lookup c.passkey with
    | none => some s
    | some user =>
      match s.worker.admit env c with
      | .error _ => some s
      | .ok t =>
        some { s with threads := s.threads ++ [⟨env, c, user, c.peerKey user t, .lookup⟩] }
  | .step i =>
    (s.threads[i]?).bind fun th =>
      (s.worker.torrents.lookup th.call.req.infoHash).bind fun t =>
        (th.next s.worker t).map fun e =>
          { worker := e.worker
            threads := s.threads.set i { th with stage := e.stage }
            completions := s.completions ++ e.completions }

def System.Done (s : System) : Prop := ∀ th ∈ s.threads, th.stage = .done

variable {s s' : System}

theorem System.step_cases {l : Label} (h : s.step l = some s') :
    (∃ env c, l = .spawn env c ∧
      (s' = s ∨ ∃ user k, s' = { s with threads := s.threads ++ [⟨env, c, user, k, .lookup⟩] })) ∨
      ∃ i pre th post t e, l = .step i ∧ s.threads = pre ++ th :: post ∧
        s.threads[i]? = some th ∧ s.worker.torrents.lookup th.call.req.infoHash = some t ∧
          th.next s.worker t = some e ∧
        s' = { worker := e.worker
               threads := pre ++ { th with stage := e.stage } :: post
               completions := s.completions ++ e.completions } := by
  cases l with
  | spawn env c =>
    refine .inl ⟨env, c, rfl, ?_⟩
    unfold System.step at h
    dsimp only at h
    split at h
    · exact .inl (some.inj h).symm
    · split at h
      · exact .inl (some.inj h).symm
      · exact .inr ⟨_, _, (some.inj h).symm⟩
  | step i =>
    obtain ⟨th, hth, h⟩ := bind_eq_some_iff.1 h
    obtain ⟨t, ht, h⟩ := bind_eq_some_iff.1 h
    obtain ⟨e, he, rfl⟩ := map_eq_some_iff.1 h
    obtain ⟨hi, rfl⟩ := List.getElem?_eq_some_iff.1 hth
    refine .inr ⟨i, s.threads.take i, _, s.threads.drop (i + 1), t, e, rfl, ?_, hth, ht, he, ?_⟩
    · rw [getElem_cons_drop, take_append_drop]
    · rw [set_eq_take_append_cons_drop, if_pos hi]

/-! ## One call alone -/

def Solo (w : Worker) (th : Thread) (w' : Worker) (stage : Stage) : Prop := ∃ n, ∀ completions, ∃ completions',
    exec System.step ⟨w, [th], completions⟩ (replicate n (.step 0)) = some ⟨w', [{ th with stage }], completions'⟩

section

variable {w w' w'' : Worker} {th : Thread} {t t' : Torrent} {stage stage' : Stage}

theorem Solo.refl : Solo w th w th.stage := ⟨0, fun completions => ⟨completions, rfl⟩⟩

theorem Solo.trans (h : Solo w th w' stage) (h' : Solo w' { th with stage } w'' stage') :
    Solo w th w'' stage' := by
  obtain ⟨n, hn⟩ := h
  obtain ⟨m, hm⟩ := h'
  refine ⟨n + m, fun completions => ?_⟩
  obtain ⟨completions', hfirst⟩ := hn completions
  obtain ⟨completions'', hrest⟩ := hm completions'
  refine ⟨completions'', ?_⟩
  rw [replicate_add, exec_append, hfirst]
  exact hrest

theorem Solo.one (th : Thread) {e : Effect} (ht : w.torrents.lookup th.call.req.infoHash = some t)
    (he : th.next w t = some e) : Solo w th e.worker e.stage := by
  refine ⟨1, fun completions => ⟨completions ++ e.completions, ?_⟩⟩
  show (System.step _ (.step 0)).bind _ = _
  simp [System.step, ht, he]

@[simp] theorem Worker.lookup_putTorrent (w : Worker) (h : Bytes) (t : Torrent) :
    (w.putTorrent h t).torrents.lookup h = some t := Finmap.lookup_insert _

@[simp] theorem Worker.putTorrent_putTorrent (w : Worker) (h : Bytes) (t t' : Torrent) :
    (w.putTorrent h t).putTorrent h t' = w.putTorrent h t' := by
  unfold putTorrent
  rw [Finmap.insert_insert]

theorem Worker.applyCounters_putTorrent (w : Worker) (h : Bytes) (t : Torrent) (pk : Bytes)
    (ops : List CounterOp) :
    (w.putTorrent h t).applyCounters pk ops = (w.applyCounters pk ops).putTorrent h t := by
  refine foldl_hom (fun w : Worker => w.putTorrent h t) fun w op => ?_
  unfold applyCounter
  split <;> rfl

theorem Solo.section (th : Thread) {completions : List Completion}
    (he : th.next (w.putTorrent th.call.req.infoHash t) t =
      some ⟨(w.putTorrent th.call.req.infoHash t).putTorrent th.call.req.infoHash t', stage, completions⟩) :
    Solo (w.putTorrent th.call.req.infoHash t) th (w.putTorrent th.call.req.infoHash t') stage := by
  simpa using Solo.one th (w.lookup_putTorrent _ t) he

variable (w t) (env : Env) (c : Call) (user : User) (k : Bytes) (v : Locals)

theorem Solo.afterMove : Solo (w.putTorrent c.req.infoHash t) ⟨env, c, user, k, .afterMove v⟩
      (w.putTorrent c.req.infoHash (if v.expireToken then expireSection user t else t)) (.succ v) := by
  unfold Stage.afterMove
  split
  · exact .section ⟨env, c, user, k, .expire v⟩ rfl
  · exact .refl

theorem Solo.afterLookup : Solo (w.putTorrent c.req.infoHash t) ⟨env, c, user, k, .afterLookup v⟩
      (w.putTorrent c.req.infoHash (completionSections k user t v).1)
      (.succ (completionSections k user t v).2) := by
  unfold Stage.afterLookup completionSections
  split
  · exact .refl
  · split
    · refine (Solo.section ⟨env, c, user, k, .complete v⟩ rfl).trans ?_
      unfold Stage.afterComplete
      by_cases hins : v.inserted = true
      · rw [if_pos hins, if_pos hins]
        exact .afterMove w _ env c user k v
      · rw [if_neg hins, if_neg hins]
        -- the move does not touch the token
        have htok : (moveSection k (completeSection t) v).2.expireToken = v.expireToken := by
          unfold moveSection
          split <;> rfl
        rw [← htok]
        exact (Solo.section ⟨env, c, user, k, .move v⟩ rfl).trans (.afterMove w _ env c user k _)
    · exact .refl

theorem Solo.counting (ops : List CounterOp) {w : Worker} (ht : w.torrents.lookup c.req.infoHash = some t) :
    Solo w ⟨env, c, user, k, .counting v ops⟩ (w.applyCounters c.passkey ops) (.afterCount v) := by
  induction ops generalizing w with
  | nil => exact .refl
  | cons op ops ih =>
    have hrest := ih (w := w.applyCounter c.passkey op) (by rw [torrents_applyCounter, ht])
    exact (Solo.one ⟨env, c, user, k, .count v (op :: ops)⟩ ht rfl).trans hrest

theorem Solo.afterCount : Solo (w.putTorrent c.req.infoHash t) ⟨env, c, user, k, .afterCount v⟩
      (w.putTorrent c.req.infoHash (sectionsAfter c k v t).1) .done := by
  unfold Stage.afterCount sectionsAfter
  split
  · refine (Solo.section ⟨env, c, user, k, .delete v⟩ rfl).trans ?_
    exact .section ⟨env, c, user, k, .flush v⟩ rfl
  · exact .section ⟨env, c, user, k, .flush v⟩ rfl

/-- **An announce that runs alone**, section after section, does what `announce` does at once. -/
theorem solo_announce (w : Worker) (env : Env) (c : Call) :
    ∃ n s, exec System.step { worker := w } (.spawn env c :: replicate n (.step 0)) = some s ∧
      s.Done ∧ s.worker = (w.announce env c).worker := by
  rcases huser : w.users.lookup c.passkey with _ | user
  · exact ⟨0, { worker := w }, by simp [exec, System.step, huser], by simp [System.Done],
      by simp [announce, huser]⟩
  rcases hadm : w.admit env c with e | t
  · exact ⟨0, { worker := w }, by simp [exec, System.step, huser, hadm], by simp [System.Done],
      by simp [announce, huser, hadm]⟩
  obtain ⟨-, ht⟩ := admit_ok hadm
  generalize hk : c.peerKey user t = k
  have hbef := (Solo.one ⟨env, c, user, k, .lookup⟩ ht rfl).trans (.afterLookup w _ env c user k _)
  change Solo w _ (w.putTorrent c.req.infoHash (sectionsBefore env c user k t).1)
    (.succ (sectionsBefore env c user k t).2) at hbef
  generalize hdone : sectionsBefore env c user k t = done at hbef
  let w1 : Worker := { w with stats := { w.stats with succAnnouncements := w.stats.succAnnouncements + 1 } }
  have hsucc := hbef.trans (.one ⟨env, c, user, k, .succ done.2⟩ (w.lookup_putTorrent _ _) rfl)
  have hcnt := Solo.counting done.1 env c user k done.2 done.2.counterOps
    (w1.lookup_putTorrent c.req.infoHash done.1)
  rw [applyCounters_putTorrent] at hcnt
  have haft := Solo.afterCount (w1.applyCounters c.passkey done.2.counterOps) done.1 env c user k done.2
  obtain ⟨n, hn⟩ := (hsucc.trans hcnt).trans haft
  obtain ⟨_, hexec⟩ := hn []
  have hspawn : System.step { worker := w } (.spawn env c) = some ⟨w, [⟨env, c, user, k, .lookup⟩], []⟩ := by
    simp [System.step, huser, hadm, hk]
  refine ⟨n, _, Eq.trans ?_ hexec, ?_, ?_⟩
  · rw [exec, hspawn]
    rfl
  · intro _ hth
    rw [mem_singleton.1 hth]
  · simp only [announce, huser, hadm, announceAdmitted, hk, hdone]
    have htors : (w1.applyCounters c.passkey done.2.counterOps).torrents = w.torrents :=
      (w1.applyCounters_spec c.passkey done.2.counterOps).1
    unfold putTorrent
    rw [htors]

end

/-! ## The global counters -/

def removal (left : Int64) (v : Locals) (side : Side) : ℤ :=
  if v.stoppedTorrent = true ∧ side = sideOf left then 1 else 0

/-- **What a call owes to a global counter**: the updates it will make, less the changes of the
lists it will make. -/
def Stage.owes (left : Int64) (side : Side) : Stage → ℤ
  | .lookup => 0
  | .complete v => if v.inserted then v.net side + removal left v side else 0
  | .move _ => 0
  | .expire v => v.net side + removal left v side
  | .succ v => v.net side + removal left v side
  | .count v ops => netOf ops (.stats side) + removal left v side
  | .delete _ => if side = sideOf left then 1 else 0
  | .flush _ => 0
  | .done => 0

def Thread.owes (th : Thread) (side : Side) : ℤ := th.stage.owes th.call.req.left side

section

variable (left : Int64) (side : Side) (v : Locals)

theorem Stage.owes_afterMove : (afterMove v).owes left side = v.net side + removal left v side := by
  unfold afterMove
  split <;> rfl

theorem Stage.owes_afterComplete : (afterComplete v).owes left side = (complete v).owes left side := by
  unfold afterComplete
  show _ = if v.inserted = true then _ else _
  split
  · exact owes_afterMove left side v
  · rfl

theorem Stage.owes_counting (ops : List CounterOp) :
    (counting v ops).owes left side = netOf ops (.stats side) + removal left v side := by
  cases ops with
  | nil =>
    show (afterCount v).owes left side = _
    unfold afterCount removal
    by_cases hstop : v.stoppedTorrent = true <;> simp [hstop, owes]
  | cons => rfl

end

theorem Worker.count_putTorrent {w : Worker} {h : Bytes} {t t' : Torrent} {k : Bytes} {u : UserID}
    (ht : w.torrents.lookup h = some t) (htouch : Touched k u t t') (side : Side) :
    ((w.putTorrent h t').count side : ℤ) = w.count side + (has (t'.list side) k - has (t.list side) k) := by
  rw [count_eq_weigh, count_eq_weigh, weigh_insert ht (rfl : (w.putTorrent h t').torrents = _) side,
    htouch.weigh_eq (fun _ _ => rfl) (fun _ _ => rfl)]
  ring

structure Locals.Pending (v : Locals) : Prop where
  stoppedTorrent : v.stoppedTorrent = false
  incLeechers : v.incLeechers = false
  incSeeders : v.incSeeders = false
  decLeechers : v.decLeechers = false

def Stage.Sound : Stage → Prop
  | .complete v => v.inserted = false → v.Pending
  | .move v => v.Pending
  | _ => True

/-- A completed announce that had to enrol its peer. -/
def Locals.enrols (v : Locals) : Bool := v.completedTorrent && v.inserted

/-- **The step is undisturbed**: a completed announce finds its peer; the move of a completed
leecher finds a leecher, and a seeder exactly if the call's own lookup had found one; the removal of
a stopped peer finds the peer. -/
def Thread.Undisturbed (th : Thread) (t : Torrent) : Prop :=
  match th.stage with
  | .lookup => (lookupSection th.env th.call th.user th.key t).locals.enrols = false
  | .move v => th.key ∈ t.leechers ∧ (th.key ∈ t.seeders ↔ v.decSeeders = true)
  | .delete _ => th.key ∈ t.list (sideOf th.call.req.left)
  | _ => True

def Thread.Balanced (th : Thread) (w : Worker) (e : Effect) : Prop :=
  ∀ side, ∃ d m : ℤ, e.worker.stats.count side = w.stats.count side + UInt32.ofInt d ∧
    (e.worker.count side : ℤ) = w.count side + m ∧ d + e.stage.owes th.call.req.left side = th.owes side + m

section

variable {th : Thread} {w : Worker} {t : Torrent}
  {t' : Torrent} {stage : Stage} {completions : List Completion} {e : Effect}

theorem Thread.Balanced.of_section {u : UserID}
    (ht : w.torrents.lookup th.call.req.infoHash = some t) (htouch : Touched th.key u t t')
    (howes : ∀ side, stage.owes th.call.req.left side = th.owes side +
      (has (t'.list side) th.key - has (t.list side) th.key)) :
    th.Balanced w ⟨w.putTorrent th.call.req.infoHash t', stage, completions⟩ := by
  intro side
  refine ⟨0, _, by simp [putTorrent], count_putTorrent ht htouch side, ?_⟩
  rw [zero_add]
  exact howes side

theorem Thread.Balanced.of_list_eq (ht : w.torrents.lookup th.call.req.infoHash = some t)
    (hid : t'.id = t.id) (hlist : ∀ side, t'.list side = t.list side)
    (howes : ∀ side, stage.owes th.call.req.left side = th.owes side) :
    th.Balanced w ⟨w.putTorrent th.call.req.infoHash t', stage, completions⟩ := by
  refine .of_section ht (.of_list_eq (u := th.user.id) hid hlist) ?_
  intro side
  rw [howes, hlist]
  omega

theorem owes_afterLookup (env : Env) (c : Call) (user : User) (k : Bytes) (t : Torrent) (side : Side) :
    (afterLookup ((lookupSection env c user k t).locals.settle c.req.left)).owes c.req.left side =
      has ((lookupSection env c user k t).torrent.list side) k - has (t.list side) k := by
  cases hm : (lookupSection env c user k t).locals.moving with
  | true =>
    obtain ⟨hhas, -, -, hstop, -⟩ := lookupSection_moving env c user k t hm
    have hmoving : ((lookupSection env c user k t).locals.settle c.req.left).moving = true := by
      rw [settle_moving, hm]
    obtain ⟨hcomp, hins⟩ : _ ∧ _ := by simpa [moving] using hmoving
    unfold afterLookup
    rw [settle_stoppedTorrent, hstop, if_neg Bool.false_ne_true, if_pos hcomp, hhas side]
    simp [owes, hins]
  | false =>
    have hhas := lookupSection_has env c user k t hm side
    have hnet := settle_net (lookupSection_dec env c user k t hm) side
    have hmoving : ((lookupSection env c user k t).locals.settle c.req.left).moving = false := by
      rw [settle_moving, hm]
    have howes : (afterLookup ((lookupSection env c user k t).locals.settle c.req.left)).owes
        c.req.left side = ((lookupSection env c user k t).locals.settle c.req.left).net side +
          removal c.req.left ((lookupSection env c user k t).locals.settle c.req.left) side := by
      unfold afterLookup
      split
      · rfl
      · split
        · rename_i hcomp
          -- a completion that inserted its peer has nothing to move
          have hins : ((lookupSection env c user k t).locals.settle c.req.left).inserted =
              true := by simpa [moving, hcomp] using hmoving
          exact if_pos hins
        · rfl
    rw [howes, hnet, removal, settle_stoppedTorrent, hhas]
    omega

theorem Thread.balanced_move {env : Env} {c : Call} {user : User} {k : Bytes} {v : Locals}
    (hsound : (Stage.move v).Sound)
    (hund : Thread.Undisturbed ⟨env, c, user, k, .move v⟩ t) (ht : w.torrents.lookup c.req.infoHash = some t)
    (he : Thread.next ⟨env, c, user, k, .move v⟩ w t = some e) :
    Thread.Balanced ⟨env, c, user, k, .move v⟩ w e := by
  cases he
  obtain ⟨hmem, hseed⟩ := hund
  obtain ⟨hstop, hincL, _, _⟩ := hsound
  obtain ⟨p, hp⟩ := Finmap.mem_iff.mp hmem
  obtain ⟨hs, hl, hv⟩ := moveSection_of_lookup hp v
  refine .of_section ht (moveSection_touched k user.id t v) fun side => ?_
  rw [hv, Stage.owes_afterMove]
  cases side with
  | seeder =>
    rw [has_of_lookup hs]
    by_cases hdec : v.decSeeders = true
    · simp [net, removal, hstop, hdec, Thread.owes, Stage.owes, list, has_of_mem (hseed.mpr hdec)]
    · simp [net, removal, hstop, hdec, Thread.owes, Stage.owes, list, has_of_notMem fun h => hdec (hseed.mp h)]
  | leecher =>
    rw [has_of_lookup_none hl]
    simp [net, removal, hstop, hincL, Thread.owes, Stage.owes, list, has_of_mem hmem]

theorem Thread.next_balanced (hsound : th.stage.Sound) (hund : th.Undisturbed t)
    (ht : w.torrents.lookup th.call.req.infoHash = some t) (he : th.next w t = some e) : th.Balanced w e := by
  obtain ⟨env, c, user, k, stage⟩ := th
  cases stage with
  | lookup =>
    -- the flags are decided here: the call owes from now on what section 1 did to the lists
    cases he
    refine .of_section ht (lookupSection_touched env c user k t) fun side => ?_
    exact (owes_afterLookup env c user k t side).trans (zero_add _).symm
  | complete v =>
    cases he
    exact .of_list_eq ht rfl (completeSection_list t) fun side => Stage.owes_afterComplete _ side v
  | move => exact Thread.balanced_move hsound hund ht he
  | expire =>
    cases he
    exact .of_list_eq ht rfl (expireSection_list user t) fun side => rfl
  | succ v =>
    cases he
    intro side
    refine ⟨0, 0, ?_, by simp [Worker.count], ?_⟩
    · cases side <;> simp [Stats.count]
    · rw [Stage.owes_counting, (netOf_counterOps v side).1]
      simp [Thread.owes, Stage.owes]
  | count _ ops =>
    cases ops with
    | nil => cases he
    | cons op =>
      -- one atomic addition: the counter gets what it was owed
      cases he
      intro side
      refine ⟨if op.counter = .stats side then op.delta else 0, 0, w.stats_applyCounter _ op side, ?_, ?_⟩
      · simp [Worker.count, torrents_applyCounter]
      · rw [Stage.owes_counting]
        simp only [Thread.owes, Stage.owes, netOf_cons]
        ring
  | delete =>
    cases he
    refine .of_section ht (deleteSection_touched _ k user.id t) fun side => ?_
    -- undisturbed: the entry still is in the list that the flag was set for
    rw [has_deleteSection hund]
    simp [Thread.owes, Stage.owes]
  | flush =>
    cases he
    exact .of_list_eq ht (flushSection_id _ _ _) (flushSection_list _ _ _) fun side => rfl
  | done => cases he

theorem Thread.next_sound (hsound : th.stage.Sound) (he : th.next w t = some e) : e.stage.Sound := by
  obtain ⟨env, c, user, k, stage⟩ := th
  have hafterMove : ∀ v, (afterMove v).Sound := by
    intro v
    unfold afterMove
    split <;> trivial
  have hcounting : ∀ v ops, (counting v ops).Sound := by
    intro v ops
    cases ops with
    | nil =>
      show (afterCount v).Sound
      unfold afterCount
      split <;> trivial
    | cons => trivial
  cases stage with
  | lookup =>
    cases he
    unfold afterLookup
    split
    · trivial
    · split
      · rename_i hcomp
        intro hins
        have hm : (lookupSection env c user k t).locals.moving = true := by
          rw [← settle_moving _ c.req.left, moving, hcomp, hins]
          rfl
        obtain ⟨hstop, -, hincS, hincL, hdecL⟩ := (lookupSection_moving env c user k t hm).2.2.2
        rw [settle_of_moving env c user k t hm]
        exact ⟨hstop, hincL, hincS, hdecL⟩
      · trivial
  | complete v =>
    cases he
    unfold afterComplete
    split
    · exact hafterMove v
    · rename_i hins
      exact hsound (by simpa using hins)
  | move =>
    cases he
    exact hafterMove _
  | succ v =>
    cases he
    exact hcounting v _
  | count v ops =>
    cases ops with
    | nil => cases he
    | cons _ ops =>
      cases he
      exact hcounting v ops
  | expire | delete | flush =>
    cases he
    trivial
  | done => cases he

/-! ## The completions -/

def Worker.completed (w : Worker) (h : Bytes) : UInt32 := ((w.torrents.lookup h).map Torrent.completed).getD 0

def Stage.uncounted : Stage → ℤ
  | .complete v => if v.inserted then 1 else 0
  | .move _ => -1
  | _ => 0

def Thread.uncounted (th : Thread) (h : Bytes) : ℤ :=
  if th.call.req.infoHash = h then th.stage.uncounted else 0

def completionsOf (h : Bytes) (completions : List Completion) : ℕ := completions.countP fun c => c.infoHash = h

def Thread.Counted (th : Thread) (w : Worker) (e : Effect) : Prop :=
  ∀ h, ∃ d : ℤ, e.worker.completed h = w.completed h + UInt32.ofInt d ∧
    d + Thread.uncounted { th with stage := e.stage } h = th.uncounted h + completionsOf h e.completions

theorem Thread.Counted.of_section (ht : w.torrents.lookup th.call.req.infoHash = some t) {d : ℤ}
    (hcomp : t'.completed = t.completed + UInt32.ofInt d)
    (hown : ∀ c ∈ completions, c.infoHash = th.call.req.infoHash)
    (hcnt : d + stage.uncounted = th.stage.uncounted + completions.length) :
    th.Counted w ⟨w.putTorrent th.call.req.infoHash t', stage, completions⟩ := by
  intro h
  by_cases hh : th.call.req.infoHash = h
  · subst hh
    refine ⟨d, ?_, ?_⟩
    · simp [Worker.completed, Worker.putTorrent, ht, hcomp]
    · have hall : completionsOf th.call.req.infoHash completions = completions.length :=
        countP_eq_length.mpr fun c hc => by simpa using hown c hc
      rw [hall]
      simpa [Thread.uncounted] using hcnt
  · refine ⟨0, ?_, ?_⟩
    · simp [Worker.completed, Worker.putTorrent, Finmap.lookup_insert_of_ne _ (Ne.symm hh)]
    · have hnone : completionsOf h completions = 0 := countP_eq_zero.mpr fun c hc => by simpa [hown c hc] using hh
      simp [Thread.uncounted, hh, hnone]

theorem Thread.Counted.of_completed_eq (ht : w.torrents.lookup th.call.req.infoHash = some t)
    (hcomp : t'.metadata.completed = t.metadata.completed)
    (hown : ∀ c ∈ completions, c.infoHash = th.call.req.infoHash)
    (hcnt : stage.uncounted = th.stage.uncounted + completions.length) :
    th.Counted w ⟨w.putTorrent th.call.req.infoHash t', stage, completions⟩ :=
  .of_section ht (hcomp.trans (UInt32.add_zero _).symm) hown ((zero_add _).trans hcnt)

theorem Thread.Counted.of_torrents_eq {w' : Worker} (hw' : w'.torrents = w.torrents)
    (hcnt : stage.uncounted = th.stage.uncounted) : th.Counted w ⟨w', stage, []⟩ := by
  intro h
  refine ⟨0, ?_, ?_⟩
  · simp [Worker.completed, hw']
  · simp [Thread.uncounted, completionsOf, hcnt]

theorem Stage.uncounted_afterMove (v : Locals) : (afterMove v).uncounted = 0 := by
  unfold afterMove
  split <;> rfl

theorem Stage.uncounted_counting (v : Locals) (ops : List CounterOp) : (counting v ops).uncounted = 0 := by
  cases ops with
  | nil =>
    show (afterCount v).uncounted = 0
    unfold afterCount
    split <;> rfl
  | cons => rfl

theorem Thread.next_counted (hund : th.Undisturbed t) (ht : w.torrents.lookup th.call.req.infoHash = some t)
    (he : th.next w t = some e) : th.Counted w e := by
  obtain ⟨env, c, user, k, stage⟩ := th
  cases stage with
  | lookup =>
    cases he
    refine .of_completed_eq ht (congrArg (·.completed) (lookupSection_metadata env c user k t).1)
      (by simp) ?_
    have henrols : ((lookupSection env c user k t).locals.settle c.req.left).enrols = false := by
      rw [← hund]
      unfold settle
      split_ifs <;> rfl
    generalize (lookupSection env c user k t).locals.settle c.req.left = v at henrols
    unfold enrols at henrols
    unfold Stage.afterLookup
    split_ifs with hstop hcomp
    · rfl
    · rw [hcomp, Bool.true_and] at henrols
      simp [Stage.uncounted, henrols]
    · rfl
  | complete v =>
    cases he
    refine .of_section ht (d := 1) rfl (by simp) ?_
    show 1 + (Stage.afterComplete v).uncounted = (if v.inserted = true then 1 else 0) + 0
    unfold Stage.afterComplete
    split
    · rw [Stage.uncounted_afterMove]
    · rfl
  | move =>
    cases he
    refine .of_completed_eq ht (congrArg (·.completed) (moveSection_metadata k t _)) ?_ ?_
    · intro x hx
      split at hx
      · rw [mem_singleton.1 hx]
      · cases hx
    · rw [Stage.uncounted_afterMove, if_pos hund.1]
      rfl
  | expire =>
    cases he
    exact .of_completed_eq ht rfl (by simp) rfl
  | succ v =>
    cases he
    exact .of_torrents_eq rfl (Stage.uncounted_counting v _)
  | count v ops =>
    cases ops with
    | nil => cases he
    | cons op ops =>
      cases he
      exact .of_torrents_eq (w.torrents_applyCounter _ op) (Stage.uncounted_counting v ops)
  | delete =>
    cases he
    exact .of_completed_eq ht (congrArg (·.completed) (deleteSection_metadata _ _ _)) (by simp) rfl
  | flush =>
    cases he
    exact .of_completed_eq ht (congrArg (·.completed) (flushSection_metadata _ _ _)) (by simp) rfl
  | done => cases he

end

/-! ## Whole runs -/

def System.Undisturbed (s : System) : Label → Prop
  | .spawn _ _ => True
  | .step i => ∀ th ∈ s.threads[i]?, ∀ t ∈ s.worker.torrents.lookup th.call.req.infoHash, th.Undisturbed t

instance (th : Thread) (t : Torrent) : Decidable (th.Undisturbed t) :=
  match th with
  | ⟨_, _, _, k, .move v⟩ =>
    inferInstanceAs (Decidable (k ∈ t.leechers ∧ (k ∈ t.seeders ↔ v.decSeeders = true)))
  | ⟨_, c, _, k, .delete _⟩ => inferInstanceAs (Decidable (k ∈ t.list (sideOf c.req.left)))
  | ⟨env, c, user, k, .lookup⟩ =>
    inferInstanceAs (Decidable ((lookupSection env c user k t).locals.enrols = false))
  | ⟨_, _, _, _, .complete _⟩ | ⟨_, _, _, _, .expire _⟩
  | ⟨_, _, _, _, .succ _⟩ | ⟨_, _, _, _, .count _ _⟩ | ⟨_, _, _, _, .flush _⟩
  | ⟨_, _, _, _, .done⟩ => isTrue trivial

instance (s : System) : (l : Label) → Decidable (s.Undisturbed l)
  | .spawn _ _ => isTrue trivial
  | .step i => inferInstanceAs (Decidable (∀ th ∈ s.threads[i]?,
      ∀ t ∈ s.worker.torrents.lookup th.call.req.infoHash, th.Undisturbed t))

instance (s : System) : Decidable s.Done := inferInstanceAs (Decidable (∀ th ∈ s.threads, th.stage = .done))

/-- **The ledger of the system**: a counter and all that is owed to it give the size of the lists,
and `torrent.Completed`, from its value `base`, and all that is not counted yet give the
completions. -/
structure System.Ledger (base : Bytes → UInt32) (s : System) : Prop where
  sound : ∀ th ∈ s.threads, th.stage.Sound
  stats : ∀ side, s.worker.stats.count side + UInt32.ofInt (s.threads.map fun th => th.owes side).sum =
      0 + UInt32.ofNat (s.worker.count side)
  completed : ∀ h, s.worker.completed h + UInt32.ofInt (s.threads.map fun th => th.uncounted h).sum =
      base h + UInt32.ofNat (completionsOf h s.completions)

theorem balance_step {c c' base : UInt32} {d m x x' : ℤ} {n n' : ℕ}
    (h : c + UInt32.ofInt x = base + UInt32.ofNat n)
    (hc : c' = c + UInt32.ofInt d) (hn : (n' : ℤ) = n + m) (hx : d + x' = x + m) :
    c' + UInt32.ofInt x' = base + UInt32.ofNat n' := by
  rw [hc, UInt32.add_assoc, ← UInt32.ofInt_add, hx, UInt32.ofInt_add, ← UInt32.add_assoc, h,
    UInt32.add_assoc, ofNat_add_ofInt hn]

variable {base : Bytes → UInt32}

theorem System.Ledger.step {l : Label}
    (hs : s.Ledger base) (hund : s.Undisturbed l) (h : s.step l = some s') : s'.Ledger base := by
  rcases System.step_cases h with ⟨_, c, rfl, rfl | ⟨_, k, rfl⟩⟩ |
    ⟨i, pre, th, post, t, e, rfl, hths, hth, ht, he, rfl⟩
  · exact hs
  · -- a call that has only come in owes nothing
    refine ⟨?_, ?_, ?_⟩
    · intro th hth
      rcases mem_append.1 hth with hold | hnew
      · exact hs.sound th hold
      · rw [mem_singleton.1 hnew]
        trivial
    · intro side
      simpa [Thread.owes, owes] using hs.stats side
    · intro h
      simpa [Thread.uncounted, uncounted] using hs.completed h
  · have hsound : th.stage.Sound := hs.sound th (by simp [hths])
    have hbal := Thread.next_balanced hsound (hund th hth t ht) ht he
    have hcounted := Thread.next_counted (hund th hth t ht) ht he
    refine ⟨?_, ?_, ?_⟩
    · intro th' hth'
      rcases mem_append.1 hth' with hb | ha
      · exact hs.sound th' (by simp [hths, hb])
      · rcases mem_cons.1 ha with rfl | ha
        · exact Thread.next_sound hsound he
        · exact hs.sound th' (by simp [hths, ha])
    · intro side
      obtain ⟨d, m, hstats, hcnt, hsum⟩ := hbal side
      refine balance_step (hs.stats side) hstats hcnt ?_
      have howes : Thread.owes { th with stage := e.stage } side = e.stage.owes th.call.req.left side := rfl
      simp only [hths, map_append, map_cons, sum_append, sum_cons, howes]
      omega
    · intro h
      obtain ⟨d, hcomp, hsum⟩ := hcounted h
      refine balance_step (hs.completed h) hcomp (m := completionsOf h e.completions) (by simp [completionsOf]) ?_
      simp only [hths, map_append, map_cons, sum_append, sum_cons]
      omega

theorem System.Ledger.done (hs : s.Ledger base) (hdone : s.Done) :
    s.worker.StatsAgree ∧ ∀ h, s.worker.completed h = base h + UInt32.ofNat (completionsOf h s.completions) := by
  have howes : ∀ side, (s.threads.map fun th => th.owes side).sum = 0 := by
    intro side
    refine sum_eq_zero fun x hx => ?_
    obtain ⟨th, hth, rfl⟩ := mem_map.1 hx
    rw [Thread.owes, hdone th hth]
    rfl
  have huncounted : ∀ h, (s.threads.map fun th => th.uncounted h).sum = 0 := by
    intro h
    refine sum_eq_zero fun x hx => ?_
    obtain ⟨th, hth, rfl⟩ := mem_map.1 hx
    rw [Thread.uncounted, hdone th hth]
    exact ite_self _
  refine ⟨fun side => ?_, fun h => ?_⟩
  · simpa [howes] using hs.stats side
  · simpa [huncounted] using hs.completed h

/-- **Concurrent announces agree with the swarms** once they have all returned: from a worker whose
global counters agree, any number of calls, in any order of their steps, leave counters that agree
and have added one to `torrent.Completed` for each leecher that became a seeder with its completion,
if every step was undisturbed. -/
theorem concurrent_announces_agree {w : Worker} (hw : w.StatsAgree) {ls : List Label} {s : System}
    (hrun : exec System.step { worker := w } ls = some s)
    (hund : Meets System.step System.Undisturbed { worker := w } ls) (hdone : s.Done) : s.worker.StatsAgree ∧
      ∀ h, s.worker.completed h = w.completed h + UInt32.ofNat (completionsOf h s.completions) := by
  have hstart : System.Ledger w.completed { worker := w } := by
    refine ⟨by simp, fun side => ?_, fun h => ?_⟩
    · simpa using hw side
    · simp [completionsOf]
  have hledg := exec_invariant_of_meets (fun s l _ hs hl hstep => hs.step hl hstep) hstart hund hrun
  exact hledg.done hdone

namespace Sample

def enter : List Label := .spawn env (call .started 0 0) :: replicate 5 (.step 0)

/-- A leecher completes while another announce of it is under way, and stops. -/
def completeAndStop : List Label :=
  .spawn env (call .started 1 0) :: replicate 5 (.step 0) ++
    [.spawn env (call .completed 0 0), .spawn env (call .other 1 0), .step 1, .step 2, .step 1] ++
    replicate 2 (.step 2) ++ replicate 7 (.step 1) ++
    .spawn env (call .stopped 0 0) :: replicate 6 (.step 3)

def stopTwice : List Label :=
  enter ++ [.spawn env (call .stopped 0 0), .spawn env (call .stopped 0 0), .step 1, .step 2] ++
    replicate 5 (.step 1) ++ replicate 5 (.step 2)

end Sample

theorem concurrent_announces_agree_sample :
    ∃ s, exec System.step { worker := worker } completeAndStop = some s ∧
      s.Done ∧ s.worker.StatsAgree ∧ s.completions.length = 1 ∧
      ∀ h, s.worker.completed h =
        worker.completed h + UInt32.ofNat (completionsOf h s.completions) := by
  have hrun : exec System.step { worker := worker } completeAndStop = some _ :=
    (some_get (by decide +kernel)).symm
  obtain ⟨hstats, hcomp⟩ := concurrent_announces_agree
    (fun side => by cases side <;> decide +kernel) hrun (by decide +kernel) (by decide +kernel)
  exact ⟨_, hrun, by decide +kernel, hstats, by decide +kernel, hcomp⟩

/-- **Two stops wrap the counter**: both take it down, one entry goes. -/
theorem two_stops_wrap : ∃ s, exec System.step { worker := worker } stopTwice = some s ∧ s.Done ∧
      s.worker.stats.seeders = 4294967295 ∧ s.worker.count .seeder = 0 ∧ ¬ s.worker.StatsAgree := by
  refine ⟨(exec System.step { worker := worker } stopTwice).get (by decide +kernel),
    (some_get _).symm, by decide +kernel, by decide +kernel, by decide +kernel, ?_⟩
  intro h
  exact absurd (h .seeder) (by decide +kernel)

end Ocelot.Tracker
