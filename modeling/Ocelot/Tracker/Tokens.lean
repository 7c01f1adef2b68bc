/-
# Does a spent token stay spent?
-/
import Ocelot.Tracker.ReloadTorrents

namespace Ocelot.Tracker

open Option Finmap Tracker.Worker Sample

/-! ## The books -/

abbrev TokenKey := Bytes × UserID

def TorrentList.Holds (torrents : TorrentList) (key : TokenKey) : Prop :=
  ∃ t, torrents.lookup key.1 = some t ∧ key.2 ∈ t.tokenedUsers

open TorrentList

inductive TokenFate where
  | untouched
  | granted
  | spent
  deriving DecidableEq

structure Books where
  deployment : Deployment
  fate : TokenKey → TokenFate := fun _ => .untouched

namespace Books

def entry (s : Books) : DeploymentLabel → Option (TokenKey × TokenFate)
  | .update _ q =>
    match q.action with
    | .addToken => (tokenID q).map fun id => ((q.get "info_hash", UInt32.ofInt id), .granted)
    | .removeToken => (tokenID q).map fun id => ((q.get "info_hash", UInt32.ofInt id), .spent)
    | _ => none
  | .announce env c =>
    (s.deployment.worker.announce env c).expired.map fun expired => ((c.req.infoHash, expired.2), .spent)
  | _ => none

def fateAfter (s : Books) (l : DeploymentLabel) : TokenKey → TokenFate :=
  match s.entry l with
  | none => s.fate
  | some (key, fate) => Function.update s.fate key fate

def step (s : Books) (l : DeploymentLabel) : Option Books :=
  (s.deployment.step l).map fun d => { deployment := d, fate := s.fateAfter l }

/-- **The law of tokens**: a spent one is not held, and a granted one is. -/
structure Lawful (s : Books) : Prop where
  spent : ∀ key, s.fate key = .spent → ¬ s.deployment.worker.torrents.Holds key
  granted : ∀ key, s.fate key = .granted → s.deployment.worker.torrents.Holds key

end Books

def DeploymentLabel.OnTokens : DeploymentLabel → Prop
  | .update _ q => q.action = .addToken ∨ q.action = .removeToken
  | _ => True

instance : (l : DeploymentLabel) → Decidable l.OnTokens
  | .update _ q => inferInstanceAs (Decidable (q.action = .addToken ∨ q.action = .removeToken))
  | .announce .. | .reload _ | .restart _ => isTrue trivial

/-- **The condition**: at a `Reload` every token with a row is still held; at a restart, whose
`LoadAll` succeeds, moreover every held token has a row. -/
def Books.Persisted (s : Books) : DeploymentLabel → Prop
  | .reload _ =>
    ∀ infoHash t, s.deployment.worker.torrents.lookup infoHash = some t →
      s.deployment.db.tokensOf infoHash ⊆ t.tokenedUsers
  | .restart load =>
    (s.deployment.fresh.loadAll load s.deployment.db).result = .ok () ∧
      ∀ infoHash t, s.deployment.worker.torrents.lookup infoHash = some t →
        s.deployment.db.tokensOf infoHash = t.tokenedUsers
  | _ => True

instance (s : Books) : (l : DeploymentLabel) → Decidable (s.Persisted l)
  | .reload _ => decidableForallLookup _
  | .restart _ => @instDecidableAnd _ _ inferInstance (decidableForallLookup _)
  | .update .. | .announce .. => isTrue trivial

/-! ## The invariant -/

/-- **The invariant**: the law, that every live torrent is in the database, and that the books are
about live torrents only. -/
structure Books.Sound (s : Books) : Prop where
  lawful : s.Lawful
  joined : ∀ infoHash ∈ s.deployment.worker.torrents, infoHash ∈ s.deployment.db.joined
  live : ∀ key, s.fate key ≠ .untouched → key.1 ∈ s.deployment.worker.torrents

variable {torrents : TorrentList} {t : Torrent} {key : TokenKey}

theorem TorrentList.holds_insert {infoHash : Bytes} : Holds (torrents.insert infoHash t) key ↔
      if key.1 = infoHash then key.2 ∈ t.tokenedUsers else torrents.Holds key := by
  unfold Holds
  by_cases hkey : key.1 = infoHash
  · rw [if_pos hkey, hkey, lookup_insert]
    simp
  · rw [if_neg hkey, lookup_insert_of_ne _ hkey]

theorem TorrentList.holds_iff (ht : torrents.lookup key.1 = some t) :
    torrents.Holds key ↔ key.2 ∈ t.tokenedUsers := by
  unfold Holds
  rw [ht]
  simp

namespace Books

variable {s : Books} {d : Deployment} {infoHash : Bytes} {t' : Torrent} {l : DeploymentLabel} {load : LoadEnv}
  {fate : TokenKey → TokenFate} {t : Torrent} {env : UpdateEnv} {q : Query} {message : Bytes} {db : Tables}

theorem Lawful.of_entry (h : s.Lawful) (hfate : ∀ key, fate key = s.fate key ∧ (s.fate key ≠ .untouched →
            (d.worker.torrents.Holds key ↔ s.deployment.worker.torrents.Holds key)) ∨
        fate key = .spent ∧ ¬ d.worker.torrents.Holds key ∨ fate key = .granted ∧
    d.worker.torrents.Holds key) : (Books.mk d fate).Lawful := by
  constructor
  · intro key hspent
    change fate key = .spent at hspent
    rcases hfate key with ⟨hsame, hholds⟩ | ⟨-, hnot⟩ | ⟨hgrant, -⟩
    · rw [hsame] at hspent
      rw [hholds (by rw [hspent]; decide)]
      exact h.spent key hspent
    · exact hnot
    · rw [hgrant] at hspent
      cases hspent
  · intro key hgrant
    change fate key = .granted at hgrant
    rcases hfate key with ⟨hsame, hholds⟩ | ⟨hspent, -⟩ | ⟨-, hholds⟩
    · rw [hsame] at hgrant
      exact (hholds (by rw [hgrant]; decide)).2 (h.granted key hgrant)
    · rw [hspent] at hgrant
      cases hgrant
    · exact hholds

theorem Sound.frame (h : s.Sound) (hmem : infoHash ∈ s.deployment.worker.torrents)
    (htors : d.worker.torrents = s.deployment.worker.torrents.insert infoHash t')
    (hjoin : ∀ x ∈ s.deployment.db.joined, x ∈ d.db.joined)
    (hfate : ∀ key, key.1 ≠ infoHash → fate key = s.fate key)
    (hlaw : (Books.mk d fate).Lawful) : (Books.mk d fate).Sound := by
  refine ⟨hlaw, ?_, ?_⟩
  · intro x hx
    rw [htors, mem_insert] at hx
    apply hjoin
    rcases hx with rfl | hx
    · exact h.joined x hmem
    · exact h.joined x hx
  · intro key hkey
    change fate key ≠ .untouched at hkey
    rw [htors, mem_insert]
    by_cases hhash : key.1 = infoHash
    · exact .inl hhash
    · rw [hfate key hhash] at hkey
      exact .inr (h.live key hkey)

theorem Sound.write (h : s.Sound) (ht : s.deployment.worker.torrents.lookup infoHash = some t)
    (htors : d.worker.torrents = s.deployment.worker.torrents.insert infoHash t')
    (hjoin : ∀ x ∈ s.deployment.db.joined, x ∈ d.db.joined)
    (htoks : t'.tokenedUsers = t.tokenedUsers) : (Books.mk d s.fate).Sound := by
  refine h.frame (mem_of_lookup_eq_some ht) htors hjoin (fun _ _ => rfl) ?_
  refine h.lawful.of_entry fun key => .inl ⟨rfl, fun _ => ?_⟩
  rw [htors, holds_insert]
  by_cases hkey : key.1 = infoHash
  · rw [if_pos hkey, holds_iff (by rw [hkey]; exact ht), htoks]
  · rw [if_neg hkey]

theorem Sound.enter {user : UserID} {fate : TokenFate}
    (h : s.Sound) (ht : s.deployment.worker.torrents.lookup infoHash = some t)
    (htors : d.worker.torrents = s.deployment.worker.torrents.insert infoHash t')
    (hjoin : ∀ x ∈ s.deployment.db.joined, x ∈ d.db.joined)
    (hself : fate = .spent ∧ user ∉ t'.tokenedUsers ∨ fate = .granted ∧ user ∈ t'.tokenedUsers)
    (hothers : ∀ x, x ≠ user → (x ∈ t'.tokenedUsers ↔ x ∈ t.tokenedUsers)) :
    (Books.mk d (Function.update s.fate (infoHash, user) fate)).Sound := by
  refine h.frame (mem_of_lookup_eq_some ht) htors hjoin (fun key hkey => ?_) ?_
  · exact Function.update_of_ne (fun hsame => hkey (by rw [hsame])) _ _
  refine h.lawful.of_entry fun key => ?_
  rw [htors, holds_insert]
  by_cases hkey : key = (infoHash, user)
  · subst hkey
    rw [Function.update_self, if_pos rfl]
    exact .inr hself
  · refine .inl ⟨Function.update_of_ne hkey _ _, fun _ => ?_⟩
    by_cases hhash : key.1 = infoHash
    · rw [if_pos hhash, holds_iff (by rw [hhash]; exact ht)]
      exact hothers key.2 fun huser => hkey (Prod.ext hhash huser)
    · rw [if_neg hhash]

theorem fateAfter_of_entry {key : TokenKey} {fate : TokenFate}
    (h : s.entry l = some (key, fate)) : s.fateAfter l = Function.update s.fate key fate := by
  unfold fateAfter
  rw [h]

theorem fateAfter_of_none (h : s.entry l = none) : s.fateAfter l = s.fate := by
  unfold fateAfter
  rw [h]

theorem Sound.addToken (h : s.Sound)
    (hact : q.action = .addToken) (hok : (s.deployment.worker.addToken q).result = .ok message) :
    (Books.mk (s.deployment.after (s.deployment.worker.addToken q).worker
      (s.deployment.worker.addToken q).db) (s.fateAfter (.update env q))).Sound := by
  unfold Worker.addToken at hok ⊢
  obtain ⟨id, t, hid, ht, heq⟩ := tokenAction_ok hok
  have hentry : s.entry (.update env q) = some ((q.get "info_hash", UInt32.ofInt id), .granted) := by
    simp [entry, hact, hid]
  rw [fateAfter_of_entry hentry, heq]
  refine h.enter ht rfl (fun x hx => hx) (.inr ⟨rfl, Finset.mem_insert_self _ _⟩) ?_
  intro x hx
  rw [Finset.mem_insert]
  exact or_iff_right hx

theorem Sound.removeToken (h : s.Sound)
    (hact : q.action = .removeToken) (hok : (s.deployment.worker.removeToken q).result = .ok message) :
    (Books.mk (s.deployment.after (s.deployment.worker.removeToken q).worker
      (s.deployment.worker.removeToken q).db) (s.fateAfter (.update env q))).Sound := by
  unfold Worker.removeToken at hok ⊢
  obtain ⟨id, t, hid, ht, heq⟩ := tokenAction_ok hok
  have hentry : s.entry (.update env q) = some ((q.get "info_hash", UInt32.ofInt id), .spent) := by
    simp [entry, hact, hid]
  rw [fateAfter_of_entry hentry, heq]
  refine h.enter ht rfl (fun x hx => hx) (.inl ⟨rfl, Finset.notMem_erase _ _⟩) ?_
  intro x hx
  rw [Finset.mem_erase]
  exact and_iff_right hx

theorem joined_executeAll {calls : List DBCall} (h : infoHash ∈ db.joined) :
    infoHash ∈ (db.executeAll calls).joined := by
  obtain ⟨hhashes, -, -, -, hrows⟩ := db.executeAll_frame calls
  obtain ⟨id, hhash, hrow⟩ := Tables.mem_joined.1 h
  refine Tables.mem_joined.2 ⟨id, ?_, hrows id hrow⟩
  rw [hhashes]
  exact hhash

theorem Sound.announce (env : Env) (c : Call) (h : s.Sound) :
    (Books.mk (s.deployment.announce env c) (s.fateAfter (.announce env c))).Sound := by
  have hentry : s.entry (.announce env c) = (s.deployment.worker.announce env c).expired.map fun expired =>
        ((c.req.infoHash, expired.2), .spent) := rfl
  unfold Deployment.announce
  rcases s.deployment.worker.announce_cases env c with ⟨e, heq⟩ | ⟨user, t, -, hadm, heq⟩
  · rw [heq] at hentry ⊢
    rw [fateAfter_of_none hentry]
    exact h
  · rw [heq] at hentry ⊢
    obtain ⟨-, ht⟩ := admit_ok hadm
    have htoks := finalTorrent_tokenedUsers env c user t
    have htors : (s.deployment.worker.announceAdmitted env c user t).worker.torrents =
        s.deployment.worker.torrents.insert c.req.infoHash (finalTorrent env c user t) := rfl
    by_cases hspends : (finalLocals env c user t).snatched = true ∧ (finalLocals env c user t).expireToken = true
    · have hexp : (s.deployment.worker.announceAdmitted env c user t).expired = some
        (t.id, user.id) := if_pos hspends
      rw [if_pos hspends] at htoks
      rw [hexp] at hentry
      rw [fateAfter_of_entry hentry]
      refine h.enter ht htors (fun _ hx => joined_executeAll hx) (.inl ⟨rfl, ?_⟩) fun x hx => ?_
      · rw [htoks]
        exact Finset.notMem_erase _ _
      · rw [htoks, Finset.mem_erase]
        exact and_iff_right hx
    · have hexp : (s.deployment.worker.announceAdmitted env c user t).expired = none := if_neg hspends
      rw [if_neg hspends] at htoks
      rw [hexp] at hentry
      rw [fateAfter_of_none hentry]
      exact h.write ht htors (fun _ hx => joined_executeAll hx) htoks

theorem Sound.of_kept {w : Worker} (h : s.Sound)
    (hkept : ∀ infoHash t, s.deployment.worker.torrents.lookup infoHash = some t →
      ∃ t', w.torrents.lookup infoHash = some t' ∧ t'.tokenedUsers = t.tokenedUsers)
    (hin : ∀ infoHash ∈ w.torrents, infoHash ∈ s.deployment.db.joined) :
    (Books.mk { s.deployment with worker := w } s.fate).Sound := by
  refine ⟨h.lawful.of_entry fun key => .inl ⟨rfl, fun hkey => ?_⟩, hin, fun key hkey => ?_⟩
  · obtain ⟨t, ht⟩ := mem_iff.1 (h.live key hkey)
    obtain ⟨t', ht', hsame⟩ := hkept _ t ht
    rw [holds_iff ht, ← hsame]
    exact holds_iff ht'
  · obtain ⟨t, ht⟩ := mem_iff.1 (h.live key hkey)
    obtain ⟨t', ht', -⟩ := hkept _ t ht
    exact mem_of_lookup_eq_some ht'

theorem Sound.reload (h : s.Sound) (hheld : ∀ infoHash t, s.deployment.worker.torrents.lookup infoHash = some t →
      s.deployment.db.tokensOf infoHash ⊆ t.tokenedUsers) :
    (Books.mk { s.deployment with worker := (s.deployment.worker.reload load s.deployment.db).worker
      } s.fate).Sound := by
  have hrefresh : ∀ infoHash t, s.deployment.worker.torrents.lookup infoHash = some t →
      ∃ t', (s.deployment.worker.reloadTorrents s.deployment.db).torrents.lookup infoHash = some t' ∧
        t'.tokenedUsers = t.tokenedUsers := by
    intro infoHash t ht
    refine ⟨_, lookup_reloadTorrents ht, ?_⟩
    cases s.deployment.db.joined.lookup infoHash <;> rfl
  have hjoin : ∀ infoHash ∈ (s.deployment.worker.reloadTorrents s.deployment.db).torrents,
      infoHash ∈ s.deployment.db.joined := by
    intro infoHash hmem
    by_cases hlive : infoHash ∈ s.deployment.worker.torrents
    · exact h.joined infoHash hlive
    · have hnone := lookup_eq_none.2 hlive
      obtain ⟨t, ht⟩ := mem_iff.1 hmem
      rw [lookup_reloadTorrents_of_none hnone] at ht
      obtain ⟨r, hr, -⟩ := map_eq_some_iff.1 ht
      exact mem_of_lookup_eq_some hr
  -- whichever of the three lists it is: a live torrent is there with its tokens, and the others are joined
  suffices haft : (∀ infoHash t, s.deployment.worker.torrents.lookup infoHash = some t →
        ∃ t', (s.deployment.worker.reload load s.deployment.db).worker.torrents.lookup infoHash = some t' ∧
          t'.tokenedUsers = t.tokenedUsers) ∧
      ∀ infoHash ∈ (s.deployment.worker.reload load s.deployment.db).worker.torrents, infoHash ∈
        s.deployment.db.joined from
    h.of_kept haft.1 haft.2
  rcases reload_cases load s.deployment.worker s.deployment.db with hcase | hcase | hcase <;>
    rw [hcase]
  · exact ⟨fun infoHash t ht => ⟨t, ht, rfl⟩, h.joined⟩
  · exact ⟨hrefresh, hjoin⟩
  · refine ⟨fun infoHash t ht => ?_, fun infoHash hmem => ?_⟩
    · obtain ⟨t', ht', hsame⟩ := hrefresh infoHash t ht
      rw [lookup_loadTokens, ht']
      refine ⟨_, rfl, ?_⟩
      show t'.tokenedUsers ∪ _ = _
      rw [hsame]
      exact Finset.union_eq_left.2 (hheld infoHash t ht)
    · exact hjoin infoHash (mem_mapVal.1 hmem)

theorem Sound.restart (h : s.Sound) (hload : (s.deployment.fresh.loadAll load s.deployment.db).result = .ok ())
    (hrows : ∀ infoHash t, s.deployment.worker.torrents.lookup infoHash = some t →
      s.deployment.db.tokensOf infoHash = t.tokenedUsers) :
    (Books.mk { s.deployment with worker := (s.deployment.fresh.loadAll load s.deployment.db).worker
      } s.fate).Sound := by
  have hlook := lookup_loadAll hload
  refine h.of_kept (fun infoHash t ht => ?_) fun infoHash hmem => ?_
  · obtain ⟨r, hr⟩ := mem_iff.1 (h.joined infoHash (mem_of_lookup_eq_some ht))
    exact ⟨_, (hlook infoHash).trans (by rw [hr, map_some]), hrows infoHash t ht⟩
  · obtain ⟨t, ht⟩ := mem_iff.1 hmem
    obtain ⟨r, hr, -⟩ := map_eq_some_iff.1 ((hlook infoHash).symm.trans ht)
    exact mem_of_lookup_eq_some hr

theorem Sound.step {t : Books} (h : s.Sound) (hl : l.OnTokens)
    (hpers : s.Persisted l) (hstep : s.step l = some t) : t.Sound := by
  obtain ⟨d, hd, rfl⟩ := map_eq_some_iff.1 hstep
  cases l with
  | update =>
    obtain ⟨_, hok, rfl⟩ := Deployment.update_eq_some hd
    unfold handleUpdate at hok ⊢
    rcases hl with hact | hact
    · rw [hact] at hok ⊢
      exact h.addToken hact hok
    · rw [hact] at hok ⊢
      exact h.removeToken hact hok
  | announce env c =>
    cases hd
    exact h.announce env c
  | reload =>
    cases hd
    exact h.reload hpers
  | restart =>
    cases hd
    exact h.restart hpers.1 hpers.2

theorem sound_booted {admission : Option SwarmAdmissionPolicy}
    (h : (({ admission } : Worker).loadAll load db).result = .ok ()) :
    (Books.mk (Deployment.booted admission load db) fun _ => .untouched).Sound := by
  refine ⟨⟨fun _ hfate => ?_, fun _ hfate => ?_⟩, fun infoHash hmem => ?_, fun _ hfate => absurd rfl hfate⟩
  · cases hfate
  · cases hfate
  · obtain ⟨t, ht⟩ := mem_iff.1 hmem
    obtain ⟨r, hr, -⟩ := map_eq_some_iff.1 ((lookup_loadAll h infoHash).symm.trans ht)
    exact mem_of_lookup_eq_some hr

/-- **A spent token stays spent, and a granted one stays granted**, in every run from a successful
start in which each `Reload` finds only rows of tokens that are held and each restart finds exactly
those. -/
theorem tokens_lawful {admission : Option SwarmAdmissionPolicy} {load : LoadEnv} {db : Tables}
    (hload : (({ admission } : Worker).loadAll load db).result = .ok ()) {ls : List DeploymentLabel}
    {t : Books} (hls : ∀ l ∈ ls, l.OnTokens)
    (hpersisted : Run.Meets step Persisted { deployment := .booted admission load db } ls)
    (hrun : Run.exec step { deployment := .booted admission load db } ls = some t) : t.Lawful := by
  have hmeets : Run.Meets step (fun s l => l.OnTokens ∧ s.Persisted l)
      { deployment := .booted admission load db } ls :=
    (Run.meets_of_forall hls _).and hpersisted
  apply Sound.lawful
  refine Run.exec_invariant_of_meets ?_ (sound_booted hload) hmeets hrun
  rintro u l v hu ⟨hl, hrows⟩ hstep
  exact hu.step hl hrows hstep

end Books

namespace Sample

def grant : DeploymentLabel :=
  .update healthy [(lit "action", lit "add_token"), (lit "user_id", lit "7"), (lit "info_hash", infoHash)]

def books : Books := { deployment := .booted none {} tables }

end Sample

namespace Books

theorem tokens_lawful_sample : ∃ t, Run.exec step books
        [grant, .announce env (call .started 5 0),
          .announce env (call .other 5 9), .restart {}] = some t ∧
      t.fate (infoHash, 7) = .granted ∧ t.Lawful := by
  refine Run.ends_and (by decide +kernel) fun t ht _ => ?_
  exact tokens_lawful (by decide +kernel) (by decide +kernel) (by decide +kernel) ht

/-- **Neither half of the law holds in general.** -/
theorem tokens_misread : (∃ t, Run.exec step books [grant, .announce env (call .started 5 0),
          .announce env (call .completed 0 9), .reload {}] = some t ∧
        t.fate (infoHash, 7) = .spent ∧ t.deployment.worker.torrents.Holds (infoHash, 7)) ∧
    ∃ t, Run.exec step books [grant, .restart {}] = some t ∧ t.fate (infoHash, 7) = .granted ∧
        ¬ t.deployment.worker.torrents.Holds (infoHash, 7) := by
  constructor
  · refine Run.ends_of (P := fun t => t.fate (infoHash, 7) = .spent ∧
      ∃ torrent, t.deployment.worker.torrents.lookup infoHash = some torrent ∧ torrent.tokenedUsers = {7})
      (by decide +kernel) ?_
    rintro t - ⟨hfate, torrent, htor, hseven⟩
    refine ⟨hfate, ?_⟩
    rw [holds_iff htor, hseven]
    decide
  · refine Run.ends_of (P := fun t => t.fate (infoHash, 7) = .granted ∧
      ∃ torrent, t.deployment.worker.torrents.lookup infoHash = some torrent ∧ torrent.tokenedUsers = ∅)
      (by decide +kernel) ?_
    rintro t - ⟨hfate, torrent, htor, hnone⟩
    refine ⟨hfate, ?_⟩
    rw [holds_iff htor, hnone]
    decide

end Books

end Ocelot.Tracker
