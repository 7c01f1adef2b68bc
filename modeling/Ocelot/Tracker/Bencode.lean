/-
# What the tracker writes in bencode (`bencode.go`, `server.go`).
-/
import Ocelot.Lib.Bencode
import Ocelot.Tracker.Announce
import Mathlib.Data.Finset.Sort

namespace Ocelot.Tracker

open List Finmap Bencode Value

/-! ## The encoder -/

def formatInt (n : ℤ) : Bytes := Decimal.integer n

def bencodeString (s : Bytes) : Bytes := formatInt s.length ++ lit ":" ++ s

def bencodeInt (n : Int64) : Bytes := lit "i" ++ formatInt n.toInt ++ lit "e"

def bencodeDict (items : Finmap fun _ : Bytes => Bytes) : Bytes :=
  if items.size = 0 then lit "de"
  else
    -- `sort.Strings` compares byte by byte, as the order on `Bytes` does
    let keys := items.keys.sort (· ≤ ·)
    lit "d" ++ (keys.flatMap fun k => bencodeString k ++ (items.lookup k).getD []) ++ lit "e"

def bencodeList (items : List Bytes) : Bytes := lit "l" ++ items.flatten ++ lit "e"

mutual

def bencode : Value → Bytes
  | .str s => bencodeString s
  | .int n => bencodeInt (Int64.ofInt n)
  | .list items => bencodeList (bencodeItems items)
  | .dict entries => bencodeDict (bencodeEntries entries).toFinmap

def bencodeItems : List Value → List Bytes
  | [] => []
  | v :: items => bencode v :: bencodeItems items

def bencodeEntries : List (Bytes × Value) → List (Σ _ : Bytes, Bytes)
  | [] => []
  | (k, v) :: entries => ⟨k, bencode v⟩ :: bencodeEntries entries

end

def FitsInt64 : Value → Prop
  | .int n => -2 ^ 63 ≤ n ∧ n < 2 ^ 63
  | _ => True

structure Tree where
  value : Value
  canonical : value.Canonical
  fits : value.Every FitsInt64

theorem bencodeString_eq (s : Bytes) : bencodeString s = Bencode.encodeString s := by
  have hlen : ¬ (s.length : ℤ) < 0 := by omega
  rw [bencodeString, formatInt, Decimal.integer, if_neg hlen, Int.natAbs_natCast, append_assoc]
  rfl

theorem bencodeDict_toFinmap {entries : List (Σ _ : Bytes, Bytes)} (h : (entries.map Sigma.fst).IsChain (· < ·)) :
    bencodeDict entries.toFinmap = 100 :: (entries.flatMap (fun e => bencodeString e.1 ++ e.2) ++ [101]) := by
  have hpairwise : (entries.map Sigma.fst).Pairwise (· < ·) := isChain_iff_pairwise.1 h
  have hnodup : (entries.map Sigma.fst).Nodup := by
    refine List.Pairwise.imp ?_ hpairwise
    rintro a b hlt rfl
    exact List.lt_irrefl _ hlt
  have hkeys : entries.toFinmap.keys = (entries.map Sigma.fst).toFinset := by
    ext k
    rw [Finmap.mem_keys, Finmap.mem_list_toFinmap, mem_toFinset, mem_map]
    constructor
    · rintro ⟨b, hb⟩
      exact ⟨_, hb, rfl⟩
    · rintro ⟨⟨k', b⟩, hb, rfl⟩
      exact ⟨b, hb⟩
  have hsort : entries.toFinmap.keys.sort (· ≤ ·) = entries.map Sigma.fst := by
    rw [hkeys]
    exact (List.toFinset_sort _ hnodup).2 (hpairwise.imp List.le_of_lt)
  have hlook : ∀ e ∈ entries, entries.toFinmap.lookup e.1 = some e.2 := by
    intro e he
    rw [dlookup_list_toFinmap]
    exact (mem_dlookup_iff hnodup).2 he
  have hitems : (entries.map Sigma.fst).flatMap (fun k => bencodeString k ++ (entries.toFinmap.lookup k).getD []) =
      entries.flatMap fun e => bencodeString e.1 ++ e.2 := by
    rw [flatMap_map]
    refine flatMap_congr fun e he => ?_
    rw [hlook e he, Option.getD_some]
  unfold bencodeDict
  dsimp only
  rw [hsort, hitems]
  split
  · rename_i hempty
    have hnone : entries.toFinmap = ∅ := ext (Multiset.card_eq_zero.1 hempty)
    rw [hnone, keys_empty, Finset.sort_empty] at hsort
    rw [map_eq_nil_iff.1 hsort.symm]
    rfl
  · rfl

theorem map_fst_bencodeEntries (entries : List (Bytes × Value)) :
    (bencodeEntries entries).map Sigma.fst = entries.map Prod.fst := by
  induction entries with
  | nil => rfl
  | cons _ _ ih => rw [bencodeEntries, map_cons, map_cons, ih]

mutual

theorem bencode_eq : ∀ v : Value, v.Canonical → v.Every FitsInt64 → bencode v = v.encode
  | .str s, _, _ => by rw [bencode, bencodeString_eq, encode]
  | .int n, _, hfits => by
    have hback : (Int64.ofInt n).toInt = n := Int64.toInt_ofInt_of_le hfits.1 hfits.2
    rw [bencode, bencodeInt, hback, encode]
    rfl
  | .list items, hv, hfits => by
    rw [bencode, bencodeList, flatten_bencodeItems items hv.2 hfits.2, encode]
    rfl
  | .dict entries, hv, hfits => by
    have hchain : ((bencodeEntries entries).map Sigma.fst).IsChain (· < ·) := by
      rw [map_fst_bencodeEntries]
      exact hv.1
    rw [bencode, bencodeDict_toFinmap hchain, flatMap_bencodeEntries entries hv.2 hfits.2, encode]

theorem flatten_bencodeItems : ∀ items : List Value, Bencode.EveryItem Ascending items →
    Bencode.EveryItem FitsInt64 items → (bencodeItems items).flatten = Bencode.encodeItems items
  | [], _, _ => rfl
  | v :: items, hv, hfits => by
    rw [bencodeItems, List.flatten_cons, bencode_eq v hv.1 hfits.1,
      flatten_bencodeItems items hv.2 hfits.2, Bencode.encodeItems]

theorem flatMap_bencodeEntries : ∀ entries : List (Bytes × Value),
    Bencode.EveryEntry Ascending entries → Bencode.EveryEntry FitsInt64 entries →
    (bencodeEntries entries).flatMap (fun e => bencodeString e.1 ++ e.2) = Bencode.encodeEntries entries
  | [], _, _ => rfl
  | (k, v) :: entries, hv, hfits => by
    rw [bencodeEntries, List.flatMap_cons, bencodeString_eq, bencode_eq v hv.1 hfits.1,
      flatMap_bencodeEntries entries hv.2 hfits.2, Bencode.encodeEntries]

end

/-! ## Announces -/

def response (content : Bytes) (httpClose html : Bool) : Bytes := lit "HTTP/1.1 200 OK\r\n" ++
    (if html then lit "Content-Type: text/html; charset=utf-8\r\n"
      else lit "Content-Type: text/plain\r\n") ++
        (lit "Content-Length: " ++ formatInt content.length ++ lit "\r\n") ++
    (if httpClose then lit "Connection: close\r\n" else lit "Connection: keep-alive\r\n") ++ lit "\r\n" ++ content

variable (resp : AnnounceResponse)

def announceContent : Bytes := lit "d8:completei" ++ formatInt resp.complete.toInt ++
    lit "e10:incompletei" ++ formatInt resp.incomplete.toInt ++ lit "e8:intervali" ++
      formatInt resp.interval.toInt ++
    lit "e12:min intervali" ++ formatInt resp.minInterval.toInt ++ lit "e5:peers" ++
      (if resp.peers.length = 0 then lit "0:"
      else formatInt resp.peers.length ++ lit ":" ++ resp.peers) ++ (if resp.warning ≠ [] then
      lit "15:warning message" ++ formatInt resp.warning.length ++ lit ":" ++ resp.warning
      else []) ++ lit "e"

def bencodedAnnounceResponse (httpClose : Bool) : Bytes :=
  response (announceContent resp) httpClose false

def AnnounceResponse.value : Value := .dict <|
    [(lit "complete", .int resp.complete.toInt), (lit "incomplete", .int resp.incomplete.toInt),
      (lit "interval", .int resp.interval.toInt), (lit "min interval", .int resp.minInterval.toInt),
      (lit "peers", .str resp.peers)] ++
    if resp.warning ≠ [] then [(lit "warning message", .str resp.warning)] else []

variable (content : Bytes) (n : ℤ) (peers : Bytes) (resp : AnnounceResponse)

theorem AnnounceResponse.canonical_value : resp.value.Canonical := by
  have hchain : [lit "complete", lit "incomplete", lit "interval", lit "min interval", lit "peers",
      lit "warning message"].IsChain (· < ·) := by decide +kernel
  unfold AnnounceResponse.value
  split
  · exact ⟨hchain, trivial, trivial, trivial, trivial, trivial, trivial, trivial⟩
  · exact ⟨hchain.take 5, trivial, trivial, trivial, trivial, trivial, trivial⟩

theorem peers_eq : (if peers.length = 0 then lit "0:" else formatInt peers.length ++ lit ":" ++ peers) =
      Bencode.encodeString peers := by
  split
  · rename_i hnil
    rw [length_eq_zero_iff.1 hnil]
    rfl
  · exact bencodeString_eq peers

theorem announceContent_eq : announceContent resp = resp.value.encode := by
  have hcomp : lit "d8:completei" = 100 :: (encodeString (lit "complete") ++ [105]) := rfl
  have hinc : lit "e10:incompletei" = 101 :: (encodeString (lit "incomplete") ++ [105]) := rfl
  have hint : lit "e8:intervali" = 101 :: (encodeString (lit "interval") ++ [105]) := rfl
  have hminInterval : lit "e12:min intervali" = 101 :: (encodeString (lit "min interval") ++ [105]) := rfl
  have hpeers : lit "e5:peers" = 101 :: encodeString (lit "peers") := rfl
  have hmessage : lit "15:warning message" = encodeString (lit "warning message") := rfl
  have hend : lit "e" = [101] := rfl
  have hwarn : lit "15:warning message" ++ formatInt resp.warning.length ++ lit ":" ++ resp.warning
      = encodeString (lit "warning message") ++ encodeString resp.warning := by
    rw [hmessage, ← bencodeString_eq resp.warning, bencodeString]
    simp only [append_assoc]
  unfold announceContent AnnounceResponse.value
  rw [peers_eq, hwarn, hcomp, hinc, hint, hminInterval, hpeers, hend]
  split <;>
    simp only [formatInt, encode, encodeEntries, append_assoc, cons_append, nil_append, append_nil]

def httpBody : Bytes → Option Bytes
  | 13 :: 10 :: 13 :: 10 :: body => some body
  | _ :: bs => httpBody bs
  | [] => none

def readInt32 : Value → Option Int32
  | .int n => if (Int32.ofInt n).toInt = n then some (Int32.ofInt n) else none
  | _ => none

def readString : Value → Option Bytes
  | .str s => some s
  | _ => none

def readOptional : Option Value → Option Bytes
  | none => some []
  | some v => readString v

def readAnnounceResponse : Value → Option AnnounceResponse
  | .dict entries => do
    let complete ← (entries.lookup (lit "complete")).bind readInt32
    let incomplete ← (entries.lookup (lit "incomplete")).bind readInt32
    let interval ← (entries.lookup (lit "interval")).bind readInt32
    let minInterval ← (entries.lookup (lit "min interval")).bind readInt32
    let peers ← (entries.lookup (lit "peers")).bind readString
    let warning ← readOptional (entries.lookup (lit "warning message"))
    return { interval, minInterval, complete, incomplete, peers, warning }
  | _ => none

theorem readInt32_toInt (n : Int32) : readInt32 (.int n.toInt) = some n := by
  simp [readInt32]

theorem readAnnounceResponse_dict {entries : List (Bytes × Value)} {warning : Bytes}
    (hcomp : entries.lookup (lit "complete") = some (.int resp.complete.toInt))
    (hinc : entries.lookup (lit "incomplete") = some (.int resp.incomplete.toInt))
    (hint : entries.lookup (lit "interval") = some (.int resp.interval.toInt))
    (hmin : entries.lookup (lit "min interval") = some (.int resp.minInterval.toInt))
    (hpeers : entries.lookup (lit "peers") = some (.str resp.peers))
    (hwarn : readOptional (entries.lookup (lit "warning message")) = some warning) :
    readAnnounceResponse (.dict entries) = some { resp with warning } := by
  simp only [readAnnounceResponse, hcomp, hinc, hint, hmin, hpeers, hwarn, Option.bind_some,
    readInt32_toInt, readString,
    Option.bind_eq_bind, Option.pure_def]

theorem readAnnounceResponse_value : readAnnounceResponse resp.value = some resp := by
  unfold AnnounceResponse.value
  split
  · exact readAnnounceResponse_dict resp rfl rfl rfl rfl rfl rfl
  · rename_i hnone
    refine (readAnnounceResponse_dict resp rfl rfl rfl rfl rfl rfl).trans ?_
    rw [← not_not.1 hnone]

theorem httpBody_cons_of_ne {b : UInt8} (hb : b ≠ 13) (bs : Bytes) : httpBody (b :: bs) = httpBody bs := by
  rw [httpBody]
  rintro _ rfl
  exact absurd rfl hb

theorem httpBody_append {line : Bytes} (hline : 13 ∉ line) (bs : Bytes) : httpBody (line ++ bs) = httpBody bs := by
  induction line with
  | nil => rfl
  | cons _ _ ih =>
    rw [mem_cons, not_or] at hline
    rw [cons_append, httpBody_cons_of_ne (Ne.symm hline.1), ih hline.2]

theorem httpBody_line {line next : Bytes} (hline : 13 ∉ line) (hnext : next.head? ≠ some 13) :
    httpBody (line ++ (lit "\r\n" ++ next)) = httpBody next := by
  rw [httpBody_append hline]
  change httpBody (13 :: 10 :: next) = _
  rw [httpBody, httpBody_cons_of_ne (by decide)]
  intro _ _ hbody
  rw [(cons.inj hbody).2] at hnext
  exact hnext rfl

theorem notMem_formatInt : 13 ∉ formatInt n := by
  have hdigs : 13 ∉ Decimal.numeral n.natAbs := fun h => by
    have hdig := Decimal.isDigit_of_mem_numeral h
    cases hdig
  unfold formatInt Decimal.integer
  split
  · rw [mem_cons, not_or]
    exact ⟨by decide, hdigs⟩
  · exact hdigs

theorem httpBody_response (httpClose html : Bool) : httpBody (response content httpClose html) = some content := by
  obtain ⟨type, htype, htypeStart, htypeLine⟩ : ∃ type : Bytes, 13 ∉ type ∧
    (∀ next, (type ++ next).head? ≠ some 13) ∧
      (if html then lit "Content-Type: text/html; charset=utf-8\r\n"
        else lit "Content-Type: text/plain\r\n") = type ++ lit "\r\n" := by
    cases html
    · exact ⟨lit "Content-Type: text/plain", by decide +kernel, nofun, rfl⟩
    · exact ⟨lit "Content-Type: text/html; charset=utf-8", by decide +kernel, nofun, rfl⟩
  obtain ⟨connection, hconnection, hconnectionStart, hconnectionLine⟩ : ∃ connection : Bytes, 13 ∉ connection ∧
      (∀ next, (connection ++ next).head? ≠ some 13) ∧
      (if httpClose then lit "Connection: close\r\n" else lit "Connection: keep-alive\r\n") =
          connection ++ lit "\r\n" := by
    cases httpClose
    · exact ⟨lit "Connection: keep-alive", by decide +kernel, nofun, rfl⟩
    · exact ⟨lit "Connection: close", by decide +kernel, nofun, rfl⟩
  have hstat : lit "HTTP/1.1 200 OK\r\n" = lit "HTTP/1.1 200 OK" ++ lit "\r\n" := rfl
  have hlen : 13 ∉ lit "Content-Length: " ++ formatInt content.length := by
    rw [mem_append, not_or]
    exact ⟨by decide +kernel, notMem_formatInt _⟩
  have hlengthStart : ∀ next, (lit "Content-Length: " ++ next).head? ≠ some 13 := nofun
  unfold response
  rw [htypeLine, hconnectionLine, hstat]
  simp only [append_assoc]
  -- three lines that another line follows, and the last, which an empty line follows
  rw [httpBody_line (by decide +kernel) (htypeStart _), httpBody_line htype (hlengthStart _),
    ← append_assoc (lit "Content-Length: "), httpBody_line hlen (hconnectionStart _), httpBody_append hconnection]
  rfl

/-- **What the tracker writes in bencode can be read back.** -/
theorem bencode_decodes : (∀ (resp : AnnounceResponse) (httpClose : Bool), ∃ body v,
        httpBody (bencodedAnnounceResponse resp httpClose) = some body ∧ v.Canonical ∧
        body = v.encode ∧ Bencode.decode body = some v ∧ readAnnounceResponse v = some resp) ∧
      ∀ tree : Tree, Bencode.decode (bencode tree.value) = some tree.value := by
  constructor
  · intro resp httpClose
    have hcan := resp.canonical_value
    refine ⟨announceContent resp, resp.value, httpBody_response _ _ _, hcan,
      announceContent_eq resp, ?_, readAnnounceResponse_value resp⟩
    exact decode_eq_some_iff.2 ⟨hcan, announceContent_eq resp⟩
  · intro tree
    exact decode_eq_some_iff.2 ⟨tree.canonical, bencode_eq tree.value tree.canonical tree.fits⟩

example : Bencode.decode (lit "d1:bi1e1:ai2ee") = none := by decide +kernel

/-! ## Scrapes -/

def scrapeEntry (t : Torrent) : Bytes :=
  lit "d8:completei" ++ formatInt t.seeders.size ++ lit "e10:incompletei" ++ formatInt t.leechers.size ++
    lit "e10:downloadedi" ++ formatInt t.completed.toNat ++ lit "ee"

/-- The torrents that the loop of `handleScrape` does not skip. -/
def Worker.registered (w : Worker) (infoHashes : List Bytes) : List (Bytes × Torrent) :=
  infoHashes.filterMap fun infoHash => (w.torrents.lookup infoHash).map (infoHash, ·)

/-- The body that `handleScrape` answers with. -/
def Worker.scrape (w : Worker) (infoHashes : List Bytes) : Bytes :=
  lit "d5:filesd" ++ (w.registered infoHashes).flatMap (fun e => bencodeString e.1 ++ scrapeEntry e.2) ++ lit "ee"

def Torrent.counts (t : Torrent) : Value :=
  .dict [(lit "complete", .int t.seeders.size), (lit "downloaded", .int t.completed.toNat),
    (lit "incomplete", .int t.leechers.size)]

/-- What a scrape is to say. -/
def Worker.Scraped (w : Worker) (infoHashes : List Bytes) (v : Value) : Prop :=
  ∃ files, v = .dict [(lit "files", .dict files)] ∧ ∀ infoHash entry, (infoHash, entry) ∈ files ↔
    infoHash ∈ infoHashes ∧ ∃ t, w.torrents.lookup infoHash = some t ∧ entry = t.counts

theorem scrapeEntry_ne_encode (t : Torrent) (rest rest' : Bytes) :
    scrapeEntry t ++ rest ≠ t.counts.encode ++ rest' := by
  have hcomp : lit "d8:completei" = 100 :: (encodeString (lit "complete") ++ [105]) := by decide +kernel
  have hinc : lit "e10:incompletei" = 101 :: 49 :: 48 :: 58 :: 105 :: lit "ncompletei" := by decide +kernel
  have hdownloaded : encodeString (lit "downloaded") = 49 :: 48 :: 58 :: 100 ::
    lit "ownloaded" := by decide +kernel
  simp [scrapeEntry, Torrent.counts, formatInt, encode, encodeEntries, hcomp, hinc, hdownloaded]

/-- **A scrape is canonical and says what was asked exactly if none of the hashes is
registered.** -/
theorem scraped_iff (w : Worker) (infoHashes : List Bytes) :
    (∃ v, decode (w.scrape infoHashes) = some v ∧ w.Scraped infoHashes v) ↔
      ∀ infoHash ∈ infoHashes, w.torrents.lookup infoHash = none := by
  have hfiles : lit "d5:filesd" = 100 :: (encodeString (lit "files") ++ [100]) := by decide +kernel
  have hend : lit "ee" = [101, 101] := by decide +kernel
  cases hreg : w.registered infoHashes with
  | nil =>
    have hnone : ∀ infoHash ∈ infoHashes, w.torrents.lookup infoHash = none := fun infoHash hmem =>
      Option.map_eq_none_iff.1 (filterMap_eq_nil_iff.1 hreg infoHash hmem)
    refine iff_of_true ⟨.dict [(lit "files", .dict [])], decode_eq_some_iff.2 ⟨?_, ?_⟩, [], rfl, ?_⟩ hnone
    · simp [Canonical, Every, EveryEntry, Ascending]
    · simp [Worker.scrape, hreg, hfiles, hend, encode, encodeEntries]
    · intro infoHash _
      simp only [not_mem_nil, false_iff]
      rintro ⟨hmem, t, ht, -⟩
      rw [hnone infoHash hmem] at ht
      cases ht
  | cons first =>
    have hhead : first ∈ w.registered infoHashes := hreg ▸ mem_cons_self
    obtain ⟨infoHash, hmem, hfirst⟩ := mem_filterMap.1 hhead
    obtain ⟨t, ht, rfl⟩ := Option.map_eq_some_iff.1 hfirst
    refine iff_of_false ?_ fun h => absurd ((h infoHash hmem).symm.trans ht) nofun
    rintro ⟨_, hdecode, files, rfl, hscraped⟩
    have hbytes := (decode_eq_some_iff.1 hdecode).2
    simp only [Worker.scrape, hreg, flatMap_cons, hfiles, hend, encode, encodeEntries, bencodeString_eq,
      append_assoc, cons_append, nil_append, append_nil, cons.injEq, true_and, append_cancel_left_eq] at hbytes
    have hkey := (parseString_encodeString infoHash _).symm.trans (congrArg parseString hbytes)
    cases files with
    | nil => cases hkey
    | cons file =>
      rw [encodeEntries, append_assoc, append_assoc, parseString_encodeString] at hkey
      simp only [Option.some.injEq, Prod.mk.injEq] at hkey
      obtain ⟨rfl, hrest⟩ := hkey
      obtain ⟨-, _, ht', hentry⟩ := (hscraped file.1 file.2).1 mem_cons_self
      obtain rfl := Option.mem_unique ht ht'
      rw [hentry] at hrest
      exact scrapeEntry_ne_encode t _ _ hrest

theorem scrape_unsorted : decode (Sample.worker.scrape [Sample.infoHash]) = none := by decide +kernel

end Ocelot.Tracker
