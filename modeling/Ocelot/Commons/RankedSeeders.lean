/-
# The seeders an economic selection hands out (`tracker/optimize.go`, `commons/scheduler.go`)

The first half is about the answer of `selectPeersWithEconomics`. The candidates are the clients
that seed the torrent, but the loop over their ranking looks each of them up by its user, so that
all clients of a user stand for the last of them. The answer is right exactly if this makes no
difference.

The second half is about the ranking. The scores that `rankCandidates` computes divide by one more
than its comment says and wrap around like any `int64`; `computedScore` is their value, and the
ranking is the documented one exactly if both scores order each pair of candidates alike.
-/
import Ocelot.Commons.Admission
import Ocelot.Commons.Scarcity

namespace Ocelot.Commons

open List Option Sample
open Tracker (lit Peer Torrent UserID)

/-! ## The peers of an answer -/

/-- What the loop over the ranked seeders emits for one of them. -/
def rankedPeer (seeders : List Peer) (sc : SeederCandidate) : Option Peer :=
  (peerByUserID seeders sc.userID).filter fun p => p.ipPort.length = 6

/-- The peers that the loop over the ranked seeders emits until `n` entries are written. -/
def emitted (seeders : List Peer) (n : ℤ) (ranked : List SeederCandidate) : List Peer :=
  (ranked.filterMap (rankedPeer seeders)).take n.toNat

/-- The leechers that the requester may see. -/
def EconomicEnv.leechers (env : EconomicEnv) (torrent : Torrent) (u : UserID) : List Peer :=
  Tracker.collectVisiblePeers (env.selection.order .leecher) torrent.leechers u

/-- The leechers that fill the slots which are left after `k` entries. -/
def EconomicEnv.filled (env : EconomicEnv) (torrent : Torrent) (u : UserID) (n : ℤ) (k : ℕ) :
    List Peer :=
  if (k : ℤ) < n then
    (Tracker.sampleSide env.selection torrent .leecher u (n - k)).filter fun p =>
      p.ipPort.length = 6
  else []

theorem emitRanked_eq (seeders : List Peer) (n : ℤ) (ranked : List SeederCandidate) :
    emitRanked seeders n ranked = (emitted seeders n ranked).flatMap Peer.ipPort := by
  let add (result : List UInt8) (sc : SeederCandidate) :=
    if n ≤ (result.length : ℤ) / 6 then result
    else result ++ (rankedPeer seeders sc).elim [] Peer.ipPort
  have hstep : emitRanked seeders n ranked = ranked.foldl add [] := by
    refine congrArg (ranked.foldl · []) (funext₂ fun result sc => congrArg (ite _ result) ?_)
    unfold rankedPeer
    cases (peerByUserID seeders sc.userID).filter _ with
    | none => exact (append_nil _).symm
    | some => rfl
  rw [hstep]
  -- `k` entries are written before the remaining candidates are looked at
  suffices h : ∀ (ranked : List SeederCandidate) (result : List UInt8) (k : ℕ),
      result.length = 6 * k → ranked.foldl add result =
        result ++ ((ranked.filterMap (rankedPeer seeders)).take (n.toNat - k)).flatMap
          Peer.ipPort by
    exact h ranked [] 0 rfl
  intro ranked
  induction ranked with
  | nil => simp
  | cons sc ranked ih =>
    intro result k hk
    show foldl add (ite _ result _) ranked = _
    by_cases hfull : n ≤ (result.length : ℤ) / 6
    · have hzero : n.toNat - k = 0 := by omega
      rw [if_pos hfull, ih result k hk, hzero, take_zero, take_zero]
    · rw [if_neg hfull]
      cases hsc : rankedPeer seeders sc with
      | none =>
        rw [filterMap_cons_none hsc, elim_none, append_nil]
        exact ih result k hk
      | some p =>
        have hsix : p.ipPort.length = 6 := of_decide_eq_true (filter_eq_some_iff.1 hsc).2
        rw [elim_some, ih (result ++ p.ipPort) (k + 1) (by rw [length_append]; omega),
          filterMap_cons_some hsc, show n.toNat - k = n.toNat - (k + 1) + 1 by omega,
          take_succ_cons, flatMap_cons, append_assoc]

theorem length_emitRanked (seeders : List Peer) (n : ℤ) (ranked : List SeederCandidate) :
    (emitRanked seeders n ranked).length = 6 * (emitted seeders n ranked).length := by
  have hsix : ∀ p ∈ emitted seeders n ranked, p.ipPort.length = 6 := by
    intro p hp
    obtain ⟨sc, -, hsc⟩ := mem_filterMap.1 (mem_of_mem_take hp)
    exact of_decide_eq_true (filter_eq_some_iff.1 hsc).2
  rw [emitRanked_eq, length_flatMap, map_congr_left hsix]
  simp [mul_comm]

theorem selectPeersWithEconomics_eq {env : EconomicEnv} {prices : PriceTable} {t : Tables}
    {torrent : Torrent} {u : UserID} {numwant : Int32} {isLeecher : Bool} {d : AllocationDecision}
    (hd : env.decision prices t torrent u numwant isLeecher = some d) (hacc : d.rejection = none)
    {shown : List Peer}
    (hshown : shown = emitted (env.seeders torrent u) numwant.toInt d.rankedSeeders) :
    selectPeersWithEconomics env prices t torrent u numwant isLeecher =
      (shown ++ env.filled torrent u numwant.toInt shown.length).flatMap Peer.ipPort := by
  have hlen := length_emitRanked (env.seeders torrent u) numwant.toInt d.rankedSeeders
  rw [← hshown] at hlen
  rw [selectPeersWithEconomics, hd]
  simp only [hacc, hlen, EconomicEnv.filled, Nat.cast_mul, Nat.cast_ofNat, Int.sub_pos,
    Int.mul_ediv_cancel_left _ (by decide : (6 : ℤ) ≠ 0)]
  split_ifs
  · rw [emitRanked_eq, ← hshown, flatMap_append]
    rfl
  · rw [emitRanked_eq, ← hshown, append_nil]

theorem mem_filled {env : EconomicEnv} {torrent : Torrent} {u : UserID} {n : ℤ} {k : ℕ} {p : Peer}
    (h : p ∈ env.filled torrent u n k) : p ∈ env.leechers torrent u := by
  unfold EconomicEnv.filled at h
  split_ifs at h
  · exact Tracker.mem_reservoirSample (Tracker.mem_fisherYatesShuffle (mem_of_mem_filter h))
  · cases h

/-! ## Several clients of one user -/

/-- **What the answer owes the seeders**: none of them stands in it more often than it seeds, and a
seeder with an address is left out only where the others take all the slots. -/
structure Serves (seeders shown filled : List Peer) (n : ℤ) : Prop where
  once : ∀ p ∈ seeders, (shown ++ filled).count p ≤ seeders.count p
  all : ∀ p ∈ seeders, p.ipPort.length = 6 → shown.count p < seeders.count p → n ≤ shown.length

/-- Two seeders of one user do not differ, unless neither has an address that could be emitted. -/
def Unshared (seeders : List Peer) : Prop :=
  ∀ p ∈ seeders, ∀ q ∈ seeders, p.userID = q.userID →
    p = q ∨ p.ipPort.length ≠ 6 ∧ q.ipPort.length ≠ 6

theorem peerByUserID_of_mem {seeders : List Peer} {p : Peer} (hp : p ∈ seeders) :
    ∃ r ∈ seeders, r.userID = p.userID ∧ peerByUserID seeders p.userID = some r := by
  have hsome : (seeders.reverse.find? fun q => q.userID = p.userID).isSome = true :=
    find?_isSome.2 ⟨p, mem_reverse.2 hp, decide_eq_true rfl⟩
  obtain ⟨r, hr⟩ := isSome_iff_exists.1 hsome
  exact ⟨r, mem_reverse.1 (mem_of_find?_eq_some hr), by simpa using find?_some hr, hr⟩

theorem decision_ranked {env : EconomicEnv} {prices : PriceTable} {t : Tables} {torrent : Torrent}
    {u : UserID} {numwant : Int32} {isLeecher : Bool} {d : AllocationDecision}
    (hd : env.decision prices t torrent u numwant isLeecher = some d) (hacc : d.rejection = none) :
    d.rankedSeeders.Perm ((env.seeders torrent u).map env.candidate) := by
  unfold EconomicEnv.decision evaluatePeers evaluate at hd
  dsimp only at hd
  split_ifs at hd <;> cases hd
  · exact InsertionSort.sort_perm _ _
  · cases hacc
  · cases hacc
  · cases hacc
  · exact InsertionSort.sort_perm _ _

section

variable {env : EconomicEnv} {seeders : List Peer}

theorem rankedPeer_eq_some {p x : Peer} : rankedPeer seeders (env.candidate x) = some p ↔
      peerByUserID seeders x.userID = some p ∧ p.ipPort.length = 6 := by
  rw [rankedPeer, filter_eq_some_iff, decide_eq_true_eq]
  rfl

theorem Unshared.rankedPeer_candidate (h : Unshared seeders) {p : Peer} (hp : p ∈ seeders) :
    rankedPeer seeders (env.candidate p) = if p.ipPort.length = 6 then some p else none := by
  obtain ⟨r, hr, huser, hfound⟩ := peerByUserID_of_mem hp
  rw [rankedPeer, show (env.candidate p).userID = p.userID from rfl, hfound, filter_some]
  rcases h p hp r hr huser.symm with rfl | ⟨hp6, hr6⟩
  · simp
  · simp [hp6, hr6]

variable {ranked : List SeederCandidate} {filled : List Peer} {n : ℤ}

theorem Unshared.serves (h : Unshared seeders) (hranked : ranked.Perm (seeders.map env.candidate))
    (hfilled : ∀ p ∈ filled, p ∉ seeders) :
    Serves seeders (emitted seeders n ranked) filled n := by
  have hperm : (ranked.filterMap (rankedPeer seeders)).Perm
      (seeders.filter fun p => p.ipPort.length = 6) := by
    refine (hranked.filterMap _).trans (.of_eq ?_)
    rw [filterMap_map, ← filterMap_eq_filter]
    refine filterMap_congr fun p hp => ?_
    rw [Function.comp_apply, h.rankedPeer_candidate hp]
    simp [Option.guard]
  refine ⟨fun p hp => ?_, fun p hp hsix hless => ?_⟩
  · rw [count_append, count_eq_zero.2 fun hf => hfilled p hf hp]
    exact ((take_sublist _ _).count_le p).trans
      ((hperm.count_eq p).le.trans (filter_sublist.count_le p))
  · -- the loop stopped before its end, since a client that it would emit is missing
    by_contra hroom
    have hend : (ranked.filterMap (rankedPeer seeders)).length ≤ n.toNat := by
      have hlen := length_take (i := n.toNat) (l := ranked.filterMap (rankedPeer seeders))
      have hshown : (emitted seeders n ranked).length < n := not_le.1 hroom
      rw [emitted] at hshown
      omega
    rw [emitted, take_of_length_le hend, hperm.count_eq, count_filter (by simpa using hsix)] at hless
    exact lt_irrefl _ hless

theorem unshared_of_serves (hranked : ranked.Perm (seeders.map env.candidate))
    (hroom : seeders.length ≤ n) (h : Serves seeders (emitted seeders n ranked) filled n) :
    Unshared seeders := by
  let f (x : Peer) : Option Peer := rankedPeer seeders (env.candidate x)
  have hperm : (emitted seeders n ranked).Perm (seeders.filterMap f) := by
    have hall : (ranked.filterMap (rankedPeer seeders)).Perm (seeders.filterMap f) :=
      (hranked.filterMap _).trans (.of_eq filterMap_map)
    have hend : (ranked.filterMap (rankedPeer seeders)).length ≤ n.toNat := by
      have := length_filterMap_le f seeders
      have := hall.length_eq
      omega
    rw [emitted, take_of_length_le hend]
    exact hall
  intro p hp q hq huser
  obtain ⟨r, hr, hrp, hfound⟩ := peerByUserID_of_mem hp
  by_cases hsix : r.ipPort.length = 6
  · -- every client of the user stands for `r`, so that all of them are `r`
    left
    have hcount : count r (seeders.filterMap f) = (seeders.filter (·.userID = p.userID)).length := by
      rw [count_filterMap, countP_eq_length_filter]
      refine congrArg length (filter_congr fun x hx => Bool.eq_iff_iff.2 ?_)
      rw [beq_iff_eq, decide_eq_true_eq]
      refine rankedPeer_eq_some.trans ⟨fun hx => ?_, fun hx => ⟨hx ▸ hfound, hsix⟩⟩
      have hxr : r.userID = x.userID := by simpa using find?_some hx.1
      exact hxr.symm.trans hrp
    have honce := h.once r hr
    have hkept := count_filter (p := (·.userID = p.userID)) (l := seeders) (decide_eq_true hrp)
    rw [count_append, hperm.count_eq, hcount, ← hkept] at honce
    have hsame := count_eq_length.1 (le_antisymm count_le_length (le_of_add_le_left honce))
    exact (hsame p (mem_filter.2 ⟨hp, by simp⟩)).symm.trans
      (hsame q (mem_filter.2 ⟨hq, by simp [huser]⟩))
  · -- no client of the user is emitted, so that none of them has an address
    right
    have hnone : ∀ x : Peer, x ∈ seeders → x.userID = p.userID → x.ipPort.length ≠ 6 := by
      intro x hx hxp hx6
      have hmissing : f x = none := by
        by_contra hsome
        obtain ⟨y, hy⟩ := ne_none_iff_exists'.1 hsome
        obtain ⟨hy, hy6⟩ := rankedPeer_eq_some.1 hy
        rw [hxp, hfound] at hy
        exact hsix (some.inj hy ▸ hy6)
      have hzero : count x (seeders.filterMap f) = 0 := by
        refine count_eq_zero.2 fun hmem => ?_
        obtain ⟨y, -, hy⟩ := mem_filterMap.1 hmem
        obtain ⟨hy, -⟩ := rankedPeer_eq_some.1 hy
        have hyx : x.userID = y.userID := by simpa using find?_some hy
        rw [← hyx, hxp, hfound] at hy
        exact hsix (some.inj hy ▸ hx6)
      have hfull := h.all x hx hx6 (by rw [hperm.count_eq, hzero]; exact count_pos_iff.2 hx)
      have hless := length_filterMap_lt_length_iff_exists.2 ⟨x, hx, hmissing⟩
      rw [hperm.length_eq] at hfull
      omega
    exact ⟨hnone p hp rfl, hnone q hq huser.symm⟩

end

theorem EconomicEnv.mem_seeders {env : EconomicEnv} {torrent : Torrent} {u : UserID}
    (horder : ∀ k, k ∈ env.selection.order .seeder ↔ k ∈ torrent.seeders) {p : Peer} :
    p ∈ env.seeders torrent u ↔
      p.userID ≠ u ∧ p.visible = true ∧ ∃ k, torrent.seeders.lookup k = some p := by
  rw [EconomicEnv.seeders, Tracker.collectVisiblePeers, mem_filter, mem_filterMap,
    decide_eq_true_eq, and_comm, and_assoc]
  refine and_congr_right fun _ => and_congr_right fun _ => exists_congr fun k => ?_
  rw [horder, and_iff_right_iff_imp]
  exact fun h => Finmap.mem_iff.2 ⟨p, h⟩

/-- **The seeders handed out**: where no leecher is also a seeder, clients that share a user are all
that can go wrong, and they do go wrong as soon as there is room for all seeders. -/
theorem emits_each_seeder_once {env : EconomicEnv} {prices : PriceTable} {t : Tables}
    {torrent : Torrent} {u : UserID} {numwant : Int32} {isLeecher : Bool} {d : AllocationDecision}
    (hd : env.decision prices t torrent u numwant isLeecher = some d)
    (haccepted : d.rejection = none)
    (horder : ∀ k, k ∈ env.selection.order .seeder ↔ k ∈ torrent.seeders)
    (hapart : ∀ p ∈ env.leechers torrent u, p ∉ env.seeders torrent u)
    {seeders shown filled : List Peer} (hseeders : seeders = env.seeders torrent u)
    (hshown : shown = emitted seeders numwant.toInt d.rankedSeeders)
    (hfilled : filled = env.filled torrent u numwant.toInt shown.length) :
    selectPeersWithEconomics env prices t torrent u numwant isLeecher =
        (shown ++ filled).flatMap Peer.ipPort ∧
      (Unshared seeders → Serves seeders shown filled numwant.toInt) ∧
      (seeders.length ≤ numwant.toInt → Serves seeders shown filled numwant.toInt →
        Unshared seeders) ∧
      ∀ p, p ∈ seeders ↔
        p.userID ≠ u ∧ p.visible = true ∧ ∃ k, torrent.seeders.lookup k = some p := by
  subst hseeders hfilled
  have hranked := decision_ranked hd haccepted
  refine ⟨selectPeersWithEconomics_eq hd haccepted hshown, fun h => ?_, fun hroom h => ?_,
    fun p => EconomicEnv.mem_seeders horder⟩
  · rw [hshown]
    exact h.serves hranked fun p hp => hapart p (mem_filled hp)
  · rw [hshown] at h
    exact unshared_of_serves hranked hroom h

/-- User 7 has a priority class, so that the selection decides on its balance. -/
def Sample.classed : List Operation := [.setUserPriority priorityEnv 7 .p2Standard]

/-- Two clients of user 2, which differ in their address. -/
def Sample.twoClients : Torrent :=
  { seededTorrent with
    seeders := seededTorrent.seeders.insert (lit "l")
      { userID := 2, visible := true, ipPort := [10, 0, 0, 2, 26, 225] } }

/-- The seeders of two users and a leecher. -/
def Sample.twoUsers : Torrent :=
  { seededTorrent with
    seeders := seededTorrent.seeders.insert (lit "l")
      { userID := 3, visible := true, ipPort := [10, 0, 0, 2, 26, 225] }
    leechers := (∅ : Tracker.PeerList).insert (lit "m")
      { userID := 4, visible := true, left := 1, ipPort := [10, 0, 0, 3, 26, 225] } }

/-- The peers are iterated in the order of their keys. -/
def Sample.sortedEnv : EconomicEnv :=
  { economicEnv with
    selection := ⟨fun side => if side = .seeder then [lit "k", lit "l"] else [lit "m"],
      fun _ _ => 0, fun _ _ => 0⟩ }

theorem emits_two_users : ∃ shown filled : List Peer, shown.length = 2 ∧ filled.length = 1 ∧
    selectPeersWithEconomics sortedEnv defaultPriceTable (runOperations classed)
      twoUsers 7 50 true = (shown ++ filled).flatMap Peer.ipPort ∧
    Serves (sortedEnv.seeders twoUsers 7) shown filled 50 := by
  obtain ⟨d, hd, hacc, hlen⟩ : ∃ d, sortedEnv.decision defaultPriceTable (runOperations classed)
      twoUsers 7 50 true = some d ∧ d.rejection = none ∧
        (emitted (sortedEnv.seeders twoUsers 7) 50 d.rankedSeeders).length = 2 := by
    decide +kernel
  obtain ⟨hsel, hserves, -⟩ := emits_each_seeder_once hd hacc
    (by simp [sortedEnv, twoUsers, seededTorrent, Finmap.notMem_empty, or_comm]) (by decide +kernel)
    rfl rfl rfl
  refine ⟨_, _, hlen, ?_, hsel, hserves (by unfold Unshared; decide +kernel)⟩
  show (sortedEnv.filled twoUsers 7 50 (emitted _ 50 d.rankedSeeders).length).length = 1
  rw [hlen]
  decide +kernel

/-- The second client of the user is handed out twice, and the first one not at all. -/
theorem emits_client_twice :
    selectPeersWithEconomics sortedEnv defaultPriceTable (runOperations classed)
      twoClients 7 50 true = [10, 0, 0, 2, 26, 225, 10, 0, 0, 2, 26, 225] := by
  decide +kernel

/-! ## The score of a candidate -/

namespace SeederCandidate

/-- The score as it is documented, over the integers. -/
def documentedScore (c : SeederCandidate) : ℤ :=
  (if c.artifactLocal then 500 else 0) + (if c.storageLocal then 300 else 0) +
    400 * c.uptimeSec.toInt / (c.uptimeSec.toInt + 3600) + 200 * c.reputationScore.toInt / 10000 -
    50 * (c.connectedPeers.toInt / 10) + if c.priorityClass = .p1Guaranteed then 200 else 0

/-- What a score loses because the two divisors of the code are larger by one. -/
def shortfall (c : SeederCandidate) : ℤ :=
  400 * c.uptimeSec.toInt / (c.uptimeSec.toInt + 3600) -
      400 * c.uptimeSec.toInt / (c.uptimeSec.toInt + 3601) +
    (200 * c.reputationScore.toInt / 10000 - 200 * c.reputationScore.toInt / 10001)

/-- The score as it is computed: what it loses taken off, wrapped around like an `int64`. -/
def computedScore (c : SeederCandidate) : ℤ :=
  (c.documentedScore - c.shortfall).bmod (2 ^ 64)

/-- The candidates that the scoring is meant for. -/
structure InRange (c : SeederCandidate) : Prop where
  uptime : 0 ≤ c.uptimeSec.toInt ∧ c.uptimeSec.toInt ≤ 2 ^ 40
  reputation : 0 ≤ c.reputationScore.toInt ∧ c.reputationScore.toInt ≤ 10000
  peers : 0 ≤ c.connectedPeers.toInt

variable {c : SeederCandidate}

theorem InRange.reliability (h : c.InRange) : c.uptimeSec * 400 / (c.uptimeSec + 3600 + 1) =
      Int64.ofInt (400 * c.uptimeSec.toInt / (c.uptimeSec.toInt + 3601)) := by
  obtain ⟨hlow, hhigh⟩ := h.uptime
  have hnum : (c.uptimeSec * 400).toInt = 400 * c.uptimeSec.toInt := by
    rw [Int64.toInt_mul, bmod_of_range (by simp; omega) (by simp; omega)]
    simp [mul_comm]
  have hsum : (c.uptimeSec + 3600).toInt = c.uptimeSec.toInt + 3600 := by
    rw [Int64.toInt_add]
    exact bmod_of_range (by simp; omega) (by simp; omega)
  have hden : (c.uptimeSec + 3600 + 1).toInt = c.uptimeSec.toInt + 3601 := by
    rw [Int64.toInt_add, hsum, Int64.toInt_one, bmod_of_range (by omega) (by omega)]
    omega
  rw [← hnum, ← hden, ← toInt_div_of_nonneg (by omega) (by omega), Int64.ofInt_toInt]

theorem InRange.standing (h : c.InRange) : c.reputationScore * 200 / (reputationMax + 1) =
      Int64.ofInt (200 * c.reputationScore.toInt / 10001) := by
  obtain ⟨hlow, hhigh⟩ := h.reputation
  have hnum : (c.reputationScore * 200).toInt = 200 * c.reputationScore.toInt := by
    rw [Int64.toInt_mul, bmod_of_range (by simp; omega) (by simp; omega)]
    simp [mul_comm]
  rw [← hnum, show (10001 : ℤ) = (reputationMax + 1).toInt from rfl,
    ← toInt_div_of_nonneg (by omega) (by decide), Int64.ofInt_toInt]

theorem InRange.contention (h : c.InRange) :
    c.connectedPeers / 10 * 50 = Int64.ofInt (50 * (c.connectedPeers.toInt / 10)) := by
  have hten : (c.connectedPeers / 10).toInt = c.connectedPeers.toInt / 10 :=
    toInt_div_of_nonneg h.peers (by decide)
  rw [mul_comm 50, Int64.ofInt_mul, ← hten, Int64.ofInt_toInt]
  rfl

theorem InRange.toInt_score (h : c.InRange) : c.score.toInt = c.computedScore := by
  have hscore : c.score = Int64.ofInt (c.documentedScore - c.shortfall) := by
    have hsum : c.documentedScore - c.shortfall =
        (if c.artifactLocal then 500 else 0) + (if c.storageLocal then 300 else 0) +
          400 * c.uptimeSec.toInt / (c.uptimeSec.toInt + 3601) +
          200 * c.reputationScore.toInt / 10001 - 50 * (c.connectedPeers.toInt / 10) +
          if c.priorityClass = .p1Guaranteed then 200 else 0 := by
      unfold documentedScore shortfall
      ring
    rw [hsum]
    simp only [score, h.reliability, h.standing, h.contention, Int64.ofInt_add, Int64.ofInt_sub]
    split_ifs <;> simp
  rw [hscore, Int64.toInt_ofInt]
  rfl

end SeederCandidate

/-! ## The ranking -/

/-- The candidate that a tracker builds for a client after so many announces. -/
def Sample.announced (userID : UserID) (announces : UInt32) : SeederCandidate :=
  economicEnv.candidate { userID, announces }

end Ocelot.Commons
