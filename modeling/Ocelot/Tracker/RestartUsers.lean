/-
# Do users and whitelist survive a restart?
-/
import Ocelot.Tracker.Deployment

namespace Ocelot.Tracker

open Option Finmap Tracker.Worker UniqueTable Run Tables Whitelist Sample

def User.record (user : User) : UserID × UserFlags := (user.id, ⟨user.canLeech, user.protectIP⟩)

def Worker.passkeys (w : Worker) : Finmap fun _ :
    Bytes => UserID × UserFlags := w.users.mapVal fun _ user => user.record

theorem Worker.lookup_passkeys (w : Worker) (passkey : Bytes) :
    w.passkeys.lookup passkey = (w.users.lookup passkey).map User.record := lookup_mapVal _ _ _

/-- **A restart brings back the users and the whitelist**: `LoadAll` into empty lists, with no query
failing, succeeds and leaves the same users under the same passkeys and the same prefixes. -/
def Deployment.RestoresUsers (s : Deployment) : Prop := ∀ load : LoadEnv, (∀ query, load.dbError query = none) →
    (s.fresh.loadAll load s.db).result = .ok () ∧ (s.fresh.loadAll load s.db).worker.passkeys = s.worker.passkeys ∧
      ∀ entry, entry ∈ (s.fresh.loadAll load s.db).worker.whitelist ↔ entry ∈ s.worker.whitelist

def Action.OnUsers : Action → Prop
  | .addUser | .updateUser | .removeUser | .changePasskey | .addWhitelist | .removeWhitelist => True
  | _ => False

instance (a : Action) : Decidable a.OnUsers := by
  cases a <;> unfold Action.OnUsers <;> infer_instance

def DeploymentLabel.OnUsers : DeploymentLabel → Prop
  | .update _ q => q.action.OnUsers
  | _ => False

instance : (l : DeploymentLabel) → Decidable l.OnUsers
  | .update _ q => inferInstanceAs (Decidable q.action.OnUsers)
  | .announce .. | .reload _ | .restart _ => isFalse id

def Worker.HasUserID (w : Worker) (id : UserID) : Prop :=
  ∃ passkey user, w.users.lookup passkey = some user ∧ user.id = id

instance (w : Worker) (id : UserID) : Decidable (w.HasUserID id) := Finmap.decidableExistsLookup w.users

/-- **The condition**: an `add_user` gives an id that, as the 32 bits it is stored in, no live user
has. -/
def Deployment.FreshUserID (s : Deployment) : DeploymentLabel → Prop
  | .update _ q =>
    q.action = .addUser → ∀ id ∈ positiveID (q.get "id"), ¬ s.worker.HasUserID (UInt32.ofInt id)
  | _ => True

instance (s : Deployment) : (l : DeploymentLabel) → Decidable (s.FreshUserID l)
  | .update _ q =>
    inferInstanceAs (Decidable (q.action = .addUser →
      ∀ id ∈ positiveID (q.get "id"), ¬ s.worker.HasUserID (UInt32.ofInt id)))
  | .announce .. | .reload _ | .restart _ => isTrue trivial

/-- **The invariant**: read by passkey, the table is the list. -/
structure Deployment.InStep (s : Deployment) : Prop where
  users : s.db.userPasskeys.index = s.worker.passkeys
  whitelist : s.db.whitelist = s.worker.whitelist
  /-- No action of these writes a torrent, so `LoadTorrents` finds none. -/
  torrents : s.db.torrents = ∅

theorem Tables.scannable_of_torrents_eq_empty {db : Tables} (h : db.torrents = ∅) : db.Scannable := by
  by_contra hne
  obtain ⟨_, ⟨_, _⟩, hjoin, -⟩ := filter_ne_empty_iff.1 hne
  have hrow := (lookup_joined.1 hjoin).2
  rw [h, lookup_empty] at hrow
  cases hrow

theorem Tables.addWhitelistEntry_eq (db : Tables) (entry : Bytes) :
    (db.addWhitelistEntry entry).whitelist = add db.whitelist entry ∧
      (db.addWhitelistEntry entry).userPasskeys.index = db.userPasskeys.index ∧
      (db.addWhitelistEntry entry).torrents = db.torrents := by
  unfold addWhitelistEntry add
  by_cases hmem : entry ∈ db.whitelist
  · rw [dif_pos (by simpa using hmem), if_pos hmem]
    exact ⟨rfl, rfl, rfl⟩
  · rw [dif_neg (by simpa using hmem), if_neg hmem]
    exact ⟨rfl, rfl, rfl⟩

theorem Tables.passkeys_loadUsers (db : Tables) :
    (db.loadUsers.mapVal fun _ user => user.record) = db.userPasskeys.index := by
  apply ext_lookup
  intro _
  rw [lookup_mapVal, loadUsers, lookup_mapVal, map_map]
  show Option.map id _ = _
  rw [map_id, id]

namespace Deployment

variable {s : Deployment}

theorem loadAll_fresh {load : LoadEnv} (hload : ∀ query, load.dbError query = none)
    (hscan : s.db.Scannable) : (s.fresh.loadAll load s.db).result = .ok () ∧
      (s.fresh.loadAll load s.db).worker.passkeys = s.db.userPasskeys.index ∧
      (s.fresh.loadAll load s.db).worker.whitelist = s.db.whitelist := by
  have hok : (s.fresh.loadAll load s.db).result = .ok () := by
    simp [loadAll, loadParts, LoadEnv.torrentsError, hload, hscan]
  refine ⟨hok, ?_⟩
  unfold loadAll at hok ⊢
  rw [loadParts_ok hok]
  refine ⟨?_, rfl⟩
  show ((s.db.loadUsers ∪ ∅).mapVal fun _ user => user.record) = _
  rw [union_empty, passkeys_loadUsers]

theorem restoresUsers_iff (htors : s.db.torrents = ∅) :
    s.RestoresUsers ↔ s.db.userPasskeys.index = s.worker.passkeys ∧
        ∀ entry, entry ∈ s.db.whitelist ↔ entry ∈ s.worker.whitelist := by
  have hscan := scannable_of_torrents_eq_empty htors
  constructor
  · intro h
    have hload : ∀ query, ({} : LoadEnv).dbError query = none := fun _ => rfl
    obtain ⟨-, husers, hents⟩ := h {} hload
    obtain ⟨-, hloaded, hwl⟩ := loadAll_fresh hload hscan
    rw [hloaded] at husers
    rw [hwl] at hents
    exact ⟨husers, hents⟩
  · rintro ⟨husers, hents⟩ _ hload
    obtain ⟨hok, hloaded, hwl⟩ := loadAll_fresh hload hscan
    rw [hloaded, hwl]
    exact ⟨hok, husers, hents⟩

theorem InStep.restoresUsers (h : s.InStep) : s.RestoresUsers := by
  rw [restoresUsers_iff h.torrents]
  exact ⟨h.users, fun _ => by rw [h.whitelist]⟩

variable {env : UpdateEnv} {q : Query} {message : Bytes}

section

variable (h : s.InStep)
include h

theorem InStep.addUser (hok : (s.worker.addUser env q).result = .ok message)
    (hfresh : ∀ id ∈ positiveID (q.get "id"), ¬ s.worker.HasUserID (UInt32.ofInt id)) :
    (s.after (s.worker.addUser env q).worker (s.worker.addUser env q).db).InStep := by
  obtain ⟨id, hid, -, -, heq⟩ := addUser_ok hok
  rw [heq]
  refine ⟨?_, h.whitelist, h.torrents⟩
  show (s.db.userPasskeys.replace _ _ _).index = mapVal _ _
  rw [mapVal_insert, index_replace_of_fresh, h.users]
  · rfl
  · intro passkey r hr hsame
    -- a row with this id is a live user with this id
    rw [h.users, lookup_passkeys] at hr
    obtain ⟨user, huser, rfl⟩ := map_eq_some_iff.1 hr
    exact hfresh id hid ⟨passkey, user, huser, hsame⟩

theorem InStep.updateUser (hok : (s.worker.updateUser env q).result = .ok message) :
    (s.after (s.worker.updateUser env q).worker (s.worker.updateUser env q).db).InStep := by
  obtain ⟨user, huser, heq⟩ := updateUser_ok hok
  rw [heq]
  refine ⟨?_, h.whitelist, h.torrents⟩
  show (s.db.userPasskeys.replace _ _ _).index = mapVal _ _
  have hrow : s.db.userPasskeys.index.lookup (q.get "passkey") = some user.record := by
    rw [h.users, lookup_passkeys, huser, map_some]
  rw [index_replace_of_row hrow, insert_erase_self, mapVal_insert, h.users]
  rfl

theorem InStep.removeUser (hok : (s.worker.removeUser env q).result = .ok message) :
    (s.after (s.worker.removeUser env q).worker (s.worker.removeUser env q).db).InStep := by
  obtain ⟨_, -, heq⟩ := removeUser_ok hok
  rw [heq]
  refine ⟨?_, h.whitelist, h.torrents⟩
  show (s.db.userPasskeys.delete _).index = mapVal _ _
  rw [index_delete, mapVal_erase, h.users]
  rfl

theorem InStep.changePasskey (hok : (s.worker.changePasskey env q).result = .ok message) :
    (s.after (s.worker.changePasskey env q).worker (s.worker.changePasskey env q).db).InStep := by
  obtain ⟨user, huser, hnew, heq⟩ := changePasskey_ok hok
  rw [heq]
  refine ⟨?_, h.whitelist, h.torrents⟩
  show ((s.db.userPasskeys.replace _ _ _).delete _).index = mapVal _ _
  have hrow : s.db.userPasskeys.index.lookup (q.get "old_passkey") = some user.record := by
    rw [h.users, lookup_passkeys, huser, map_some]
  have hne : q.get "new_passkey" ≠ q.get "old_passkey" := by
    intro hsame
    rw [hsame] at hnew
    exact hnew (mem_of_lookup_eq_some huser)
  rw [index_delete, index_replace_of_row hrow, erase_insert_of_ne hne,
    erase_erase_self, mapVal_insert, mapVal_erase, h.users]
  rfl

theorem InStep.addWhitelist (hok : (s.worker.addWhitelist env q).result = .ok message) :
    (s.after (s.worker.addWhitelist env q).worker (s.worker.addWhitelist env q).db).InStep := by
  unfold Worker.addWhitelist at hok ⊢
  rw [whitelistAction_ok hok]
  obtain ⟨hents, hrest⟩ := s.db.addWhitelistEntry_eq (q.get "prefix")
  refine ⟨hrest.1.trans h.users, hents.trans ?_, hrest.2.trans h.torrents⟩
  rw [h.whitelist]

theorem InStep.removeWhitelist (hok : (s.worker.removeWhitelist env q).result = .ok message) :
    (s.after (s.worker.removeWhitelist env q).worker (s.worker.removeWhitelist env q).db).InStep := by
  unfold Worker.removeWhitelist at hok ⊢
  rw [whitelistAction_ok hok]
  refine ⟨h.users, ?_, h.torrents⟩
  show Whitelist.remove s.db.whitelist _ = Whitelist.remove s.worker.whitelist _
  rw [h.whitelist]

end

variable {t : Deployment} {l : DeploymentLabel}

theorem InStep.step (h : s.InStep) (hl : l.OnUsers)
    (hfresh : s.FreshUserID l) (hstep : s.step l = some t) : t.InStep := by
  cases l with
  | announce | reload | restart => exact absurd hl id
  | update _ q =>
    obtain ⟨_, hok, rfl⟩ := update_eq_some hstep
    unfold handleUpdate at hok ⊢
    change q.action.OnUsers at hl
    change q.action = .addUser → _ at hfresh
    cases hact : q.action with
    | addUser =>
      rw [hact] at hok
      exact h.addUser hok (hfresh hact)
    | updateUser =>
      rw [hact] at hok
      exact h.updateUser hok
    | removeUser =>
      rw [hact] at hok
      exact h.removeUser hok
    | changePasskey =>
      rw [hact] at hok
      exact h.changePasskey hok
    | addWhitelist =>
      rw [hact] at hok
      exact h.addWhitelist hok
    | removeWhitelist =>
      rw [hact] at hok
      exact h.removeWhitelist hok
    | _ =>
      rw [hact] at hl
      exact absurd hl id

theorem not_restoresUsers_of_reused (h : s.InStep)
    (hreus : ¬ s.FreshUserID l) (hstep : s.step l = some t) : ¬ t.RestoresUsers := by
  cases l with
  | announce | reload | restart => exact absurd trivial hreus
  | update _ q =>
    obtain ⟨_, hok, rfl⟩ := update_eq_some hstep
    change ¬ (q.action = .addUser → ∀ id ∈ positiveID (q.get "id"), _) at hreus
    push Not at hreus
    obtain ⟨hact, id', hid', passkey, _, huser, hsame⟩ := hreus
    unfold handleUpdate at hok ⊢
    rw [hact] at hok ⊢
    obtain ⟨id, hid, -, hnew, heq⟩ := addUser_ok hok
    obtain rfl : id' = id := mem_unique hid' hid
    rw [heq]
    intro hrests
    obtain ⟨hidx, -⟩ := (restoresUsers_iff (by exact h.torrents)).1 hrests
    -- the old passkey is still in the list, and the table has lost it
    have hne : passkey ≠ q.get "passkey" := by
      rintro rfl
      exact hnew (mem_of_lookup_eq_some huser)
    have hlost : (s.db.userPasskeys.replace (UInt32.ofInt id') (q.get "passkey")
        ⟨addedCanLeech q, addedProtectIP q⟩).index.lookup passkey = none := by
      rw [lookup_index_replace, if_neg hne, h.users, lookup_passkeys, huser]
      simp [User.record, hsame]
    have hkept := congrArg (lookup passkey) hidx
    rw [lookup_passkeys] at hkept
    rw [lookup_insert_of_ne _ hne, huser] at hkept
    exact absurd (hlost.symm.trans hkept) (by simp)

theorem inStep_initial (admission : Option SwarmAdmissionPolicy) : (initial admission).InStep := ⟨rfl, rfl, rfl⟩

theorem InStep.run {ls : List DeploymentLabel} (h : s.InStep) (hls : ∀ l ∈ ls, l.OnUsers)
    (hfresh : Meets Deployment.step FreshUserID s ls) (hrun : exec Deployment.step s ls = some t) : t.InStep := by
  have hmeets : Meets Deployment.step (fun s l => l.OnUsers ∧ s.FreshUserID l) s ls :=
    (meets_of_forall hls s).and hfresh
  refine exec_invariant_of_meets ?_ h hmeets hrun
  rintro u l v hu ⟨hl, hid⟩ hstep
  exact hu.step hl hid hstep

/-- **Restart fidelity, exactly.** -/
theorem restoresUsers_run_iff (admission : Option SwarmAdmissionPolicy) {ls : List DeploymentLabel}
    {t : Deployment} (hls : ∀ l ∈ ls, l.OnUsers) (hrun : exec step (initial admission) ls = some t) :
    (∀ pre post u, ls = pre ++ post → exec step (initial admission) pre = some u →
      u.RestoresUsers) ↔ Meets step FreshUserID (initial admission) ls := by
  constructor
  · intro hrests
    -- by induction on the run: up to the last step it is in step, and the last step is no exception
    induction ls using List.reverseRecOn generalizing t with
    | nil => exact meets_nil _ _
    | append_singleton ls l ih =>
      obtain ⟨u, hu, hlast⟩ := exec_concat_eq_some.1 hrun
      have hbef : ∀ m ∈ ls, m.OnUsers := fun m hm => hls m (List.mem_append_left _ hm)
      have hmeets : Meets step FreshUserID (initial admission) ls := by
        apply ih hbef hu
        intro pre post v hsplit hv
        exact hrests pre (post ++ [l]) v (by rw [hsplit, List.append_assoc]) hv
      refine meets_concat.2 ⟨hmeets, fun v hv => ?_⟩
      obtain rfl : u = v := mem_unique hu hv
      have hin : u.InStep := (inStep_initial admission).run hbef hmeets hu
      by_contra hreus
      exact not_restoresUsers_of_reused hin hreus hlast (hrests _ [] t (by simp) hrun)
  · intro hfresh pre post u hsplit hu
    subst hsplit
    have hpre : ∀ l ∈ pre, l.OnUsers := fun l hl => hls l (List.mem_append_left _ hl)
    exact ((inStep_initial admission).run hpre hfresh.of_append hu).restoresUsers

theorem restoresUsers_run_sample : ∃ t, exec step (initial none)
        [addUser "7" passkeyA, addUser "8" passkeyB] = some t ∧ t.RestoresUsers := by
  refine ends_run (by decide +kernel) fun t ht => ?_
  exact (restoresUsers_run_iff none (by decide +kernel) ht).2 (by decide +kernel) _ [] t (by simp) ht

/-- **An id given twice**: the first passkey works until the restart and is unknown after it. -/
theorem reused_id_lost : ∃ t, exec step (initial none)
        [addUser "7" passkeyA, addUser "7" passkeyB] = some t ∧
      lit passkeyA ∈ t.worker.users ∧
      lit passkeyA ∉ (t.fresh.loadAll {} t.db).worker.users ∧ ¬ t.RestoresUsers := by
  refine ends_of (P := fun t => t.worker.passkeys.lookup (lit passkeyA) = some (7, ⟨true, false⟩) ∧
    (t.fresh.loadAll {} t.db).worker.passkeys.lookup (lit passkeyA) = none) (by decide +kernel) ?_
  rintro t - ⟨hlive, hlost⟩
  refine ⟨?_, ?_, ?_⟩
  · rw [lookup_passkeys] at hlive
    obtain ⟨_, huser, -⟩ := map_eq_some_iff.1 hlive
    exact mem_of_lookup_eq_some huser
  · rw [lookup_passkeys, map_eq_none_iff] at hlost
    exact lookup_eq_none.1 hlost
  · intro hrests
    obtain ⟨-, hsame, -⟩ := hrests {} fun _ => rfl
    rw [hsame, hlive] at hlost
    cases hlost

end Deployment

end Ocelot.Tracker
