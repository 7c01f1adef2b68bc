/-
# Credits and prices (`commons/credit.go`, `resource.go`, `price.go`).
-/
import Ocelot.Lib.Journal
import Ocelot.Tracker.Types

namespace Ocelot.Commons

open Tracker (Bytes lit)

instance instAddCommGroupInt64 : AddCommGroup Int64 where
  add_assoc := Int64.add_assoc
  zero_add := Int64.zero_add
  add_zero := Int64.add_zero
  add_comm := Int64.add_comm
  neg_add_cancel := Int64.add_left_neg
  sub_eq_add_neg := Int64.sub_eq_add_neg
  nsmul := nsmulRec
  zsmul := zsmulRec

abbrev ComputeCredit := Int64

def creditScale : Int64 := 1000000

def fromCC (cc : Int64) : ComputeCredit := cc * creditScale

def defaultStartingBalance : ComputeCredit := 1000 * creditScale

def maxCredit : ComputeCredit := 9200000 * creditScale

namespace ComputeCredit

/-- `MulFrac`: the product is split at the denominator and each half wraps around on its own. -/
def mulFrac (c : ComputeCredit) (num denom : Int64) : ComputeCredit :=
  if num = 0 ∨ c = 0 then 0
  else
    let q := c / denom
    let r := c % denom
    q * num + r * num / denom

def mulMillis (c : ComputeCredit) (millis : Int64) : ComputeCredit := mulFrac c millis 1000

def clamp (c min max : ComputeCredit) : ComputeCredit :=
  if c < min then min else if max < c then max else c

end ComputeCredit

/-- `ResourceType` is a Go string; a price table read from the database may hold any name. -/
abbrev ResourceType := Bytes

def resourceUpload : ResourceType := lit "upload"
def resourceDownload : ResourceType := lit "download"
def resourceSeeding : ResourceType := lit "seeding"
def resourceStorage : ResourceType := lit "storage"
def resourceNetwork : ResourceType := lit "network"

def resourceGB : Int64 := 1073741824

def resourceHour : Int64 := 3600

structure ResourcePrice where
  base : ComputeCredit
  min : ComputeCredit
  max : ComputeCredit
  deriving DecidableEq

structure PriceTable where
  prices : Finmap fun _ : ResourceType => ResourcePrice
  scarcityFactor : Int64
  maxScarcityMultiplier : Int64

def defaultPriceTable : PriceTable where
  prices := [(resourceUpload, 10, 5, 100), (resourceDownload, 50, 10, 500), (resourceSeeding, 5, 1, 50),
      (resourceStorage, 2, 1, 20), (resourceNetwork, 20, 5, 200)].foldl
    (fun m p => m.insert p.1 ⟨fromCC p.2.1, fromCC p.2.2.1, fromCC p.2.2.2⟩) ∅
  scarcityFactor := 2000
  maxScarcityMultiplier := 3000

namespace PriceTable

variable (pt : PriceTable) (seeders leechers : Int64)

def scarcityMultiplierMillis : Int64 :=
  let total := seeders + leechers + 1
  let util := leechers * 1000 / total
  let denominator := if 1000 - util ≤ 0 then 1 else 1000 - util
  let rawMult := 1000 + pt.scarcityFactor * util / denominator
  let max := if pt.maxScarcityMultiplier ≤ 1000 then 3000 else pt.maxScarcityMultiplier
  let rawMult := if max < rawMult then max else rawMult
  if rawMult < 1000 then 1000 else rawMult

def effective (rt : ResourceType) (seeders leechers : Int64) : ComputeCredit :=
  match pt.prices.lookup rt with
  | none => 0
  | some rp => (rp.base.mulMillis (pt.scarcityMultiplierMillis seeders leechers)).clamp rp.min rp.max

def effectiveForUpload : ComputeCredit :=
  pt.effective resourceUpload seeders leechers

def effectiveForDownload : ComputeCredit :=
  pt.effective resourceDownload seeders leechers

def effectiveForSeeding : ComputeCredit :=
  pt.effective resourceSeeding seeders leechers

def chargeForDownload (downloadBytes seeders leechers : Int64) : ComputeCredit :=
  if downloadBytes ≤ 0 then 0
  else (pt.effectiveForDownload seeders leechers).mulFrac downloadBytes resourceGB

def creditForUpload (uploadBytes seeders leechers : Int64) : ComputeCredit :=
  if uploadBytes ≤ 0 then 0
  else (pt.effectiveForUpload seeders leechers).mulFrac uploadBytes resourceGB

def creditForSeeding (seedBytes durationSec seeders leechers : Int64) : ComputeCredit :=
  if seedBytes ≤ 0 ∨ durationSec ≤ 0 then 0
  else
    let pricePerGBHour := pt.effectiveForSeeding seeders leechers
    let gbHours := seedBytes / resourceGB * durationSec / resourceHour
    if gbHours ≤ 0 then (pricePerGBHour.mulFrac seedBytes resourceGB).mulFrac durationSec resourceHour
    else pricePerGBHour.mulFrac gbHours 1

end PriceTable

end Ocelot.Commons
