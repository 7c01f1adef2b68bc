/-
# What is credited to the user of one client.
-/
import Ocelot.Tracker.AnnounceEntries

namespace Ocelot.Tracker

open List Option Tracker.Worker Finmap Int64 Sample Locals

/-! ## One announce -/

inductive Traffic where
  | up
  | down
  deriving DecidableEq

namespace Traffic

def reported : Traffic → AnnounceRequest → Int64
  | up, req => req.uploaded
  | down, req => req.downloaded

def baseline : Traffic → Peer → Int64
  | up, peer => peer.uploaded
  | down, peer => peer.downloaded

def effective : Traffic → Effective → Int64
  | up, e => e.uploaded
  | down, e => e.downloaded

def credited : Traffic → DBCall → ℤ
  | up, .recordUserStats _ uploaded _ => uploaded.toInt
  | down, .recordUserStats _ _ downloaded => downloaded.toInt
  | _, _ => 0

end Traffic

def Outcome.credited (o : Outcome) (tr : Traffic) : ℤ := (o.db.map tr.credited).sum

theorem toInt_sub_of_pos {a b : Int64} (hle : ¬ a < b) (hpos : 0 < a - b) : (a - b).toInt = a.toInt - b.toInt := by
  rw [lt_iff_toInt_lt] at hle hpos
  have hsub := toInt_sub a b
  have ha := a.toInt_lt
  have hb := b.le_toInt
  have hzero : (0 : Int64).toInt = 0 := rfl
  have hmod : (a.toInt - b.toInt).bmod (2 ^ 64) = a.toInt - b.toInt := by
    rw [hzero, hsub, Int.bmod_def] at hpos
    rw [Int.bmod_def]
    split at hpos <;> omega
  rw [hsub, hmod]

theorem effectiveTraffic_eq (t : Torrent) (user : User) (x y : Int64) (tr : Traffic) :
    tr.effective (effectiveTraffic t user x y) = 0 ∨
      tr.effective (effectiveTraffic t user x y) = tr.effective ⟨x, y, false⟩ := by
  unfold effectiveTraffic
  cases tr
  · split
    · exact .inl rfl
    · split
      · exact .inr rfl
      · split <;> exact .inr rfl
  · split
    · exact .inl rfl
    · split
      · exact .inl rfl
      · split
        · exact .inl rfl
        · exact .inr rfl

def Traffic.change (tr : Traffic) (req : AnnounceRequest) (peer : Peer) : Int64 :=
  tr.reported req - tr.baseline peer

variable (env : Env)

theorem creditTraffic_baseline (c : Call) (user : User) (t : Torrent) (peer : Peer)
    (v : Locals) (tr : Traffic) : tr.baseline (creditTraffic env c user t peer v).peer =
      if 0 < tr.change c.req peer then tr.reported c.req else tr.baseline peer := by
  unfold creditTraffic
  dsimp only
  split <;> cases tr <;> rfl

theorem creditTraffic_credit_effective (c : Call) (user : User) (t : Torrent)
    (peer : Peer) (v : Locals) (tr : Traffic) :
    (((creditTraffic env c user t peer v).db.filter c.dbExec).map tr.credited).sum = 0 ∨
      (((creditTraffic env c user t peer v).db.filter c.dbExec).map tr.credited).sum =
        (tr.effective (effectiveTraffic t user (c.req.uploaded - peer.uploaded)
          (c.req.downloaded - peer.downloaded))).toInt := by
  unfold creditTraffic
  dsimp only
  generalize effectiveTraffic t user (c.req.uploaded - peer.uploaded) (c.req.downloaded - peer.downloaded) = e
  split
  · -- the token's own row credits nothing
    have htok : ∀ x : Int64, (((if e.token then [DBCall.recordToken user.id t.id x] else []).filter
        c.dbExec).map tr.credited).sum = 0 := by
      intro x
      cases e.token
      · rfl
      · rw [if_pos rfl, filter_cons]
        split <;> cases tr <;> rfl
    rw [filter_append, map_append, sum_append, htok, zero_add]
    split
    · rw [filter_cons]
      split
      · right
        cases tr <;> simp [Traffic.credited, Traffic.effective]
      · exact .inl rfl
    · exact .inl rfl
  · exact .inl rfl

theorem creditTraffic_credit (c : Call) (user : User) (t : Torrent) (peer : Peer) (v : Locals) (tr : Traffic) :
    let credit := (((creditTraffic env c user t peer v).db.filter c.dbExec).map tr.credited).sum
    credit = 0 ∨ credit = (tr.change c.req peer).toInt := by
  intro credit
  rcases creditTraffic_credit_effective env c user t peer v tr with hzero | hcred
  · exact .inl hzero
  · rcases effectiveTraffic_eq t user (c.req.uploaded - peer.uploaded)
      (c.req.downloaded - peer.downloaded) tr with hnone | hall
    · rw [hnone] at hcred
      exact .inl hcred
    · rw [hall] at hcred
      refine .inr (hcred.trans ?_)
      cases tr <;> rfl

theorem accountTraffic_credit (c : Call) (user : User) (t : Torrent) (peer : Peer) (v : Locals)
    (tr : Traffic) : let acc := accountTraffic env c user t peer v
    let credit := ((acc.db.filter c.dbExec).map tr.credited).sum
    (tr.baseline acc.peer).toInt ≤ (tr.reported c.req).toInt ∧
      (credit = 0 ∧ tr.baseline acc.peer = tr.reported c.req ∨
        v.inserted = false ∧ credit ≤ (tr.baseline acc.peer).toInt - (tr.baseline peer).toInt) := by
  by_cases hreset : v.inserted ∨ c.req.event = .started
  · unfold accountTraffic
    rw [if_pos hreset]
    exact ⟨by cases tr <;> exact le_rfl, .inl ⟨rfl, by cases tr <;> rfl⟩⟩
  by_cases hlower : c.req.uploaded < peer.uploaded ∨ c.req.downloaded < peer.downloaded
  · unfold accountTraffic
    rw [if_neg hreset, if_pos hlower]
    exact ⟨by cases tr <;> exact le_rfl, .inl ⟨rfl, by cases tr <;> rfl⟩⟩
  unfold accountTraffic
  rw [if_neg hreset, if_neg hlower]
  intro acc credit
  have hins : v.inserted = false := by
    simpa using fun h => hreset (.inl h)
  have hle : ¬ tr.reported c.req < tr.baseline peer := by
    cases tr
    · exact fun h => hlower (.inl h)
    · exact fun h => hlower (.inr h)
  have hbaseline : tr.baseline acc.peer = _ := creditTraffic_baseline env c user t peer v tr
  have hcred : credit = 0 ∨ credit = (tr.change c.req peer).toInt := creditTraffic_credit env c user t peer v tr
  rw [hbaseline]
  -- a change that is not positive, wrapped or not, moves nothing up
  by_cases hpos : 0 < tr.change c.req peer
  · have hchange := toInt_sub_of_pos hle hpos
    rw [lt_iff_toInt_lt] at hle
    rw [if_pos hpos]
    refine ⟨le_rfl, .inr ⟨hins, ?_⟩⟩
    unfold Traffic.change at hcred
    omega
  · rw [if_neg hpos]
    rw [lt_iff_toInt_lt] at hle hpos
    have hzero : (0 : Int64).toInt = 0 := rfl
    refine ⟨by omega, .inr ⟨hins, ?_⟩⟩
    omega

variable {k : Bytes} {user : User} {t : Torrent}

theorem Finds.known {req : AnnounceRequest} {v : Locals}
    {f : Found} (h : Finds req k user t v f) (hknown : f.locals.inserted = false) :
    ∃ side, (t.list side).lookup k = some f.peer ∧ (0 < req.left → side = .leecher) := by
  cases h with
  | leecher _ hl | completing _ _ hl | promoted _ _ _ hl => exact ⟨.leecher, hl, fun _ => rfl⟩
  | newLeecher | newSeeder => cases hknown
  | alreadySeeder hleft _ _ hs | seeder hleft _ hs => exact ⟨.seeder, hs, fun h => absurd h hleft⟩

theorem refreshPeer_baseline (c : Call) (user : User) (inserted : Bool) (peer : Peer)
    (tr : Traffic) : tr.baseline (refreshPeer c user inserted peer).1 = tr.baseline peer := by
  obtain ⟨a, b, d, e, h⟩ := placeAddress_peer c.effectiveIP c.req.port inserted { peer with left := c.req.left }
  unfold refreshPeer
  dsimp only
  rw [h]
  cases tr <;> rfl

theorem lookupSection_credit (env : Env) (c : Call) (user : User) (k : Bytes) (t : Torrent)
    (tr : Traffic) : let s := lookupSection env c user k t
    let credit := ((s.db.filter c.dbExec).map tr.credited).sum
    (tr.baseline s.peer).toInt ≤ (tr.reported c.req).toInt ∧ (credit = 0 ∧ tr.baseline s.peer = tr.reported c.req ∨
        ∃ side p, (t.list side).lookup k = some p ∧ (0 < c.req.left → side = .leecher) ∧
          credit ≤ (tr.baseline s.peer).toInt - (tr.baseline p).toInt) := by
  intro s credit
  have hf := findPeer_finds c.req k user t (ofRequest c.req)
  have hbaseline : tr.baseline s.peer = _ := refreshPeer_baseline c user _ _ tr
  obtain ⟨hle, hcases⟩ := accountTraffic_credit env c user (findPeer c.req k user t (ofRequest c.req)).torrent
    (findPeer c.req k user t (ofRequest c.req)).peer
    (findPeer c.req k user t (ofRequest c.req)).locals tr
  rw [hbaseline]
  refine ⟨hle, ?_⟩
  rcases hcases with hreset | ⟨hknown, hcred⟩
  · exact .inl hreset
  · obtain ⟨side, hp, hside⟩ := hf.known hknown
    exact .inr ⟨side, _, hp, hside, hcred⟩

variable {tr : Traffic}

theorem sum_credited_eq_zero {calls : List DBCall} (h : ∀ call ∈ calls, tr.credited call = 0)
    (reached : DBCall → Bool) : ((calls.filter reached).map tr.credited).sum = 0 := by
  refine sum_eq_zero fun x hx => ?_
  obtain ⟨call, hcall, rfl⟩ := mem_map.1 hx
  exact h call (mem_of_mem_filter hcall)

theorem Worker.credited_announceAdmitted (env : Env) (w : Worker) (c : Call) (user : User)
    (t : Torrent) (tr : Traffic) :
    (w.announceAdmitted env c user t).credited tr =
      (((lookupSection env c user (c.peerKey user t) t).db.filter c.dbExec).map tr.credited).sum := by
  have hrow : ∀ s, ∀ call ∈ [peerRow env c user t s], tr.credited call = 0 := by
    intro s call hcall
    obtain rfl := mem_singleton.1 hcall
    unfold peerRow
    split <;> cases tr <;> rfl
  have hsnatch : ∀ (b : Bool) ip, ∀ call ∈ (if b then [DBCall.recordSnatch user.id t.id c.now ip] else []),
      tr.credited call = 0 := by
    intro b ip call hcall
    cases b
    · cases hcall
    · obtain rfl := mem_singleton.1 hcall
      cases tr <;> rfl
  have hflush : ∀ v t', ∀ call ∈ (flushSection c.now v t').2, tr.credited call = 0 := by
    intro v t' call hcall
    unfold flushSection at hcall
    split at hcall
    · obtain rfl := mem_singleton.1 hcall
      cases tr <;> rfl
    · cases hcall
  have haft : ∀ k v t', ∀ call ∈ (sectionsAfter c k v t').2, tr.credited call = 0 := fun _ _ _ => hflush _ _
  unfold Outcome.credited announceAdmitted
  simp only [filter_append, map_append, sum_append]
  rw [sum_credited_eq_zero (hrow _), sum_credited_eq_zero (hsnatch _ _), sum_credited_eq_zero (haft _ _ _)]
  simp

/-! ## One client -/

structure Client where
  passkey : Bytes
  peerID : Bytes
  infoHash : Bytes

structure Call.Of (c : Call) (client : Client) : Prop where
  passkey : c.passkey = client.passkey
  peerID : c.req.peerID = client.peerID
  infoHash : c.req.infoHash = client.infoHash

def Worker.clientKey (w : Worker) (client : Client) : Option Bytes :=
  (w.users.lookup client.passkey).bind fun user =>
    (w.torrents.lookup client.infoHash).map fun t =>
      peerKeyPrime client.peerID user.id t.id

theorem Worker.clientKey_announce (w : Worker) (env : Env) (c : Call) (client : Client) :
    (w.announce env c).worker.clientKey client = w.clientKey client := by
  rcases w.announce_cases env c with ⟨e, href⟩ | ⟨user, t, -, hadm, hcall⟩
  · rw [href]
  · obtain ⟨htors, -, husers⟩ := announceAdmitted_spec env w c user t
    obtain ⟨f, hf, hid, -⟩ := husers client.passkey
    unfold Worker.clientKey
    rw [hcall, hf, htors]
    -- ids never change: neither the user's nor the torrent's
    have htor : ((w.torrents.insert c.req.infoHash (finalTorrent env c user t)).lookup
        client.infoHash).map Torrent.id = (w.torrents.lookup client.infoHash).map Torrent.id := by
      by_cases hh : client.infoHash = c.req.infoHash
      · rw [hh, lookup_insert, (admit_ok hadm).2, map_some, map_some, (finalTorrent_touched env c user t).id]
      · rw [lookup_insert_of_ne _ hh]
    cases w.users.lookup client.passkey with
    | none => rfl
    | some u =>
      have := congrArg (Option.map (peerKeyPrime client.peerID u.id)) htor
      rw [Option.map_map, Option.map_map] at this
      simpa [hid, Function.comp_def] using this

def creditedAll (w : Worker) (tr : Traffic) : List (Env × Call) → ℤ
  | [] => 0
  | c :: calls =>
    (w.announce c.1 c.2).credited tr + creditedAll (w.announce c.1 c.2).worker tr calls

/-- **The account of one key**: what was credited since the value `first` is covered by the value
reported last and by the baseline of the one entry there is. -/
structure Worker.Covered (w : Worker) (tr : Traffic) (h k : Bytes) (first last credited : ℤ) : Prop where
  total : credited ≤ last - first
  entry : ∀ side p, w.entry h side k = some p → credited ≤ (tr.baseline p).toInt - first ∧
    (tr.baseline p).toInt ≤ last
  once : ¬ w.ListedTwice h k

theorem Call.Of.peerKey_eq {c : Call} {client : Client} {w : Worker}
    (hc : c.Of client) (hkey : w.clientKey client = some k) (huser : w.users.lookup c.passkey = some user)
    (ht : w.torrents.lookup c.req.infoHash = some t) : c.peerKey user t = k := by
  unfold clientKey at hkey
  rw [← hc.passkey, ← hc.infoHash, huser, ht] at hkey
  unfold Call.peerKey
  rw [hc.peerID]
  exact some.inj hkey

theorem sections_entry_cases {env : Env} {c : Call}
    (honce : ¬ (k ∈ t.seeders ∧ k ∈ t.leechers)) {side : Side} {p : Peer}
    (hp : ((sectionsAfter c k (sectionsBefore env c user k t).2
      (sectionsBefore env c user k t).1).1.list side).lookup k = some p) : p =
        (lookupSection env c user k t).peer ∨
      (t.seeders.lookup k = some p ∧ 0 < c.req.left) := by
  cases side with
  | seeder =>
    replace hp := (sections_lookup env c user k t).1.symm.trans hp
    by_cases hleft : 0 < c.req.left
    · rw [if_pos hleft] at hp
      exact .inr ⟨hp, hleft⟩
    · rw [if_neg hleft] at hp
      split at hp
      · cases hp
      · exact .inl (some.inj hp).symm
  | leecher =>
    replace hp := (sections_lookup env c user k t).2.symm.trans hp
    split at hp
    · split at hp
      · cases hp
      · exact .inl (some.inj hp).symm
    · split at hp
      · rename_i hs
        exact absurd ⟨hs.1, mem_of_lookup_eq_some hp⟩ honce
      · cases hp

theorem Worker.Covered.announceAdmitted {w : Worker} {client : Client}
    {first last credited : ℤ} (hw : w.Covered tr client.infoHash k first last credited) {env : Env}
    {c : Call} (hc : c.Of client)
    (hle : last ≤ (tr.reported c.req).toInt) (hk : c.peerKey user t = k)
    (ht : w.torrents.lookup c.req.infoHash = some t)
    (honce : ¬ (w.announceAdmitted env c user t).worker.ListedTwice client.infoHash k) :
    (w.announceAdmitted env c user t).worker.Covered tr client.infoHash k first
      (tr.reported c.req).toInt (credited + (w.announceAdmitted env c user t).credited tr) := by
  have hold : ∀ side, w.entry client.infoHash side k = (t.list side).lookup k := by
    intro side
    unfold Worker.entry
    rw [← hc.infoHash, ht]
    rfl
  have hnew : ∀ side, (w.announceAdmitted env c user t).worker.entry client.infoHash side k =
      ((finalTorrent env c user t).list side).lookup k := by
    intro side
    rw [← hc.infoHash, entry_announceAdmitted]
  have honce' : ¬ (k ∈ t.seeders ∧ k ∈ t.leechers) := fun ⟨hs, hl⟩ => hw.once ⟨t, hc.infoHash ▸ ht, hs, hl⟩
  obtain ⟨_, hcred⟩ := lookupSection_credit env c user k t tr
  have hsum := w.credited_announceAdmitted env c user t tr
  have htot := hw.total
  rw [hk] at hsum
  rw [hsum]
  refine ⟨?_, ?_, honce⟩
  · rcases hcred with ⟨hzero, -⟩ | ⟨side, p, hp, -, hgrowth⟩
    · omega
    · have hentry := hw.entry side p ((hold side).trans hp)
      omega
  · intro side p hp
    rw [hnew] at hp
    unfold finalTorrent finalLocals at hp
    rw [hk] at hp
    rcases sections_entry_cases honce' hp with rfl | ⟨hseed, hleft⟩
    · rcases hcred with ⟨hzero, hreset⟩ | ⟨side', p', hp', -, hgrowth⟩
      · rw [hreset]
        omega
      · have hentry := hw.entry side' p' ((hold side').trans hp')
        omega
    · have hentry := hw.entry .seeder p ((hold .seeder).trans hseed)
      rcases hcred with ⟨hzero, -⟩ | ⟨side', p', hp', hside', -⟩
      · omega
      · -- the call found a leecher entry next to the seeder entry
        rw [hside' hleft] at hp'
        exact absurd ⟨mem_of_lookup_eq_some hseed, mem_of_lookup_eq_some hp'⟩ honce'

theorem Worker.Covered.announce {w : Worker} {client : Client}
    {first last credited : ℤ} (hw : w.Covered tr client.infoHash k first last credited)
    (hkey : w.clientKey client = some k) {env : Env} {c : Call} (hc : c.Of client)
    (hle : last ≤ (tr.reported c.req).toInt)
    (hone : ¬ (w.Reopens env c client.infoHash k ∧ (w.entry client.infoHash .seeder k).isSome = true)) :
    (w.announce env c).worker.Covered tr client.infoHash k first (tr.reported c.req).toInt
      (credited + (w.announce env c).credited tr) := by
  have honce : ¬ (w.announce env c).worker.ListedTwice client.infoHash k := by
    rw [listedTwice_announce]
    rintro (hopens | ⟨htwice, -⟩)
    · exact hone hopens
    · exact hw.once htwice
  rcases w.announce_cases env c with ⟨e, href⟩ | ⟨_, t, huser, hadm, hcall⟩
  · have hzero : (w.announce env c).credited tr = 0 := by
      rw [href]
      rfl
    have htot := hw.total
    refine ⟨by omega, ?_, honce⟩
    intro side p hp
    rw [href] at hp
    have hentry := hw.entry side p hp
    omega
  · obtain ⟨-, ht⟩ := admit_ok hadm
    have hk := hc.peerKey_eq hkey huser ht
    rw [hcall] at honce ⊢
    exact hw.announceAdmitted hc hle hk ht honce

theorem Worker.Covered.run {client : Client} {first : ℤ}
    (calls : List (Env × Call)) {w : Worker} {last credited : ℤ}
    (hw : w.Covered tr client.infoHash k first last credited)
    (hkey : w.clientKey client = some k) (hclient : ∀ c ∈ calls, c.2.Of client)
    (hmono : IsChain (· ≤ ·) (last :: calls.map fun c => (tr.reported c.2.req).toInt))
    (hone : ∀ pre c post, calls = pre ++ c :: post → ¬ ((announceAll w pre).Reopens c.1 c.2 client.infoHash k ∧
        ((announceAll w pre).entry client.infoHash .seeder k).isSome = true)) :
    (announceAll w calls).Covered tr client.infoHash k first
      ((last :: calls.map fun c => (tr.reported c.2.req).toInt).getLast (by simp))
      (credited + creditedAll w tr calls) := by
  induction calls generalizing w last credited with
  | nil => simpa [announceAll, creditedAll] using hw
  | cons c calls ih =>
    rw [map_cons, isChain_cons_cons] at hmono
    have hstep := hw.announce hkey (hclient c (by simp)) hmono.1 (hone [] c calls rfl)
    have hrest := ih hstep (by rw [clientKey_announce, hkey]) (fun d hd => hclient d (by simp [hd])) hmono.2
      (fun pre d post hsplit => hone (c :: pre) d post (by rw [hsplit]; rfl))
    simpa [announceAll, creditedAll, add_assoc] using hrest

/-- **No byte is credited twice**, up or down, to a client that never has two entries: over every
sequence of its announces with amounts that never decrease, what is credited is at most the last
reported amount minus the first, if no announce reports missing data, without stopping, under a key
that is a seeder. -/
theorem credited_le_last_sub_first {w : Worker} (client : Client) {k : Bytes}
    (hkey : w.clientKey client = some k) (hnew : ∀ side, w.entry client.infoHash side k = none)
    (tr : Traffic) (first : Env × Call) (rest : List (Env × Call))
    (hclient : ∀ c ∈ first :: rest, c.2.Of client)
    (hmono : ((first :: rest).map fun c => tr.reported c.2.req).IsChain (· ≤ ·))
    (hone : ∀ before c after, first :: rest = before ++ c :: after →
      ¬ ((announceAll w before).Reopens c.1 c.2 client.infoHash k ∧
        ((announceAll w before).entry client.infoHash .seeder k).isSome = true)) : creditedAll w tr
          (first :: rest) ≤
      (tr.reported ((first :: rest).getLast (cons_ne_nil _ _)).2.req).toInt - (tr.reported first.2.req).toInt := by
  have hstart : w.Covered tr client.infoHash k (tr.reported first.2.req).toInt
      (tr.reported first.2.req).toInt 0 := by
    refine ⟨by omega, ?_, ?_⟩
    · intro side p hp
      rw [hnew side] at hp
      cases hp
    · rw [listedTwice_iff_entry, hnew]
      simp
  have hchain : IsChain (· ≤ ·) ((tr.reported first.2.req).toInt ::
      (first :: rest).map fun c => (tr.reported c.2.req).toInt) := by
    rw [isChain_map] at hmono
    have hints : ((first :: rest).map fun c => (tr.reported c.2.req).toInt).IsChain (· ≤ ·) := by
      rw [isChain_map]
      exact hmono.imp fun _ _ h => le_iff_toInt_le.mp h
    exact isChain_cons_cons.mpr ⟨le_rfl, hints⟩
  have hrun := (hstart.run (first :: rest) hkey hclient hchain hone).total
  rw [zero_add, getLast_cons (by simp), getLast_map] at hrun
  exact hrun

namespace Sample

def client : Client := ⟨passkey, peerID, infoHash⟩

theorem call_of_client (event : Event) (left uploaded : Int64) :
    (call event left uploaded).Of client := ⟨rfl, rfl, rfl⟩

def key : Bytes := peerKeyPrime peerID user.id torrent.id

end Sample

theorem credited_le_last_sub_first_sample : creditedAll Sample.worker .up
      [(Sample.env, Sample.call .started 10 0), (Sample.env, Sample.call .other 0 100)] = 100 ∧
    creditedAll Sample.worker .up
      [(Sample.env, Sample.call .started 10 0), (Sample.env, Sample.call .other 0 100)] ≤
      (100 : Int64).toInt - (0 : Int64).toInt := by
  refine ⟨by decide +kernel, credited_le_last_sub_first client rfl
    (fun side => by cases side <;> rfl) .up (env, call .started 10 0)
    [(env, call .other 0 100)] (by simp [call_of_client]) (by decide) ?_⟩
  intro pre c post hsplit ⟨⟨_, hleft, _⟩, hseed⟩
  match pre, hsplit with
  | [], hsplit => exact absurd hseed (by decide +kernel)
  | [_], hsplit =>
    obtain ⟨-, rfl, -⟩ : _ ∧ _ ∧ _ := by simpa using hsplit
    exact absurd hleft (by decide)
  | _ :: _ :: _, hsplit => simp at hsplit

/-- **A client credited twice.** -/
theorem credited_twice : let first := (Sample.env, Sample.call .started 0 0)
    let rest := [(Sample.env, Sample.call .other 10 100), (Sample.env, Sample.call .other 0 200),
      (Sample.env, Sample.call .other 10 300)]
    (Sample.torrent.freeType = freeNormal ∧ Sample.user.id ∉ Sample.torrent.tokenedUsers) ∧
      (∀ c ∈ first :: rest, c.2.Of Sample.client) ∧ (∀ c ∈ rest, c.2.req.event ≠ .started) ∧
      ((first :: rest).map fun c => Traffic.up.reported c.2.req).IsChain (· ≤ ·) ∧
      creditedAll Sample.worker .up (first :: rest) = 400 ∧ ¬ creditedAll Sample.worker .up (first :: rest) ≤
        (Traffic.up.reported ((first :: rest).getLast (List.cons_ne_nil _ _)).2.req).toInt -
          (Traffic.up.reported first.2.req).toInt := by
  exact ⟨⟨rfl, by decide⟩, by simp [call_of_client], by simp [call], by decide,
    by decide +kernel, by decide +kernel⟩

end Ocelot.Tracker
