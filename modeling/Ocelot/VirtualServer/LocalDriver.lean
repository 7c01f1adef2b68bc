/-
# The directories of the local driver, and its snapshots.
-/
import Ocelot.Lib.FileTree
import Ocelot.VirtualServer.Domain

namespace Ocelot.VirtualServer

open FileTree Option
open Tracker (Bytes lit)

abbrev Path := List Bytes

namespace Path

def segments (s : Bytes) : List Bytes := s.splitOn 47

def isName (c : Bytes) : Bool := c ≠ [] && c ≠ lit "."

def enter (p : Path) (c : Bytes) : Path := if c = lit ".." then p.dropLast else if isName c then p ++ [c] else p

def join (p : Path) (elems : List Bytes) : Path := (elems.flatMap segments).foldl enter p

end Path

abbrev Disk := FileTree Bytes Bytes

structure Driver where
  nodeID : NodeID
  baseDir : Path

namespace Driver

variable (d : Driver)

def volumePath (nspace name : Bytes) : Path := Path.join d.baseDir [nspace, name]

def snapDir : Path := Path.join d.baseDir [lit ".snapshots"]

def snapPath (label stamp : Bytes) : Path := Path.join d.snapDir [label ++ lit "-" ++ stamp]

/-- `copyDirTree`, which fails where the tree is not there; `io` is whether nothing else fails. A
copy into a new child of the tree does not: the names of a directory are read before anything is
made in it. -/
def copyDirTree (disk : Disk) (src dst : Path) (io : Bool) : Option Disk :=
  if io = true ∧ disk.entry src ≠ none then some (disk.graft dst (disk.at_ src)) else none

def snapshot (disk : Disk) (src : Path) (label stamp : Bytes) (io : Bool) : Disk × Option Path :=
  let made := disk.graft d.snapDir (.single .dir)
  match copyDirTree made src (d.snapPath label stamp) io with
  | some disk' => (disk', some (d.snapPath label stamp))
  | none => (made.removeAll (d.snapPath label stamp), none)

def restoreFrom (disk : Disk) (ref : Path) (nspace name : Bytes) (io : Bool) : Disk × Option Path :=
  if disk.entry ref = none ∨ disk.entry (d.volumePath nspace name) ≠ none then (disk, none)
  else
    match copyDirTree disk ref (d.volumePath nspace name) io with
    | some disk' => (disk', some (d.volumePath nspace name))
    | none => (disk.removeAll (d.volumePath nspace name), none)

end Driver

inductive DiskOp where
  | snapshot (src : Path) (label stamp : Bytes) (io : Bool)
  | restoreFrom (ref : Path) (nspace name : Bytes) (io : Bool)
  | write (p : Path) (content : Bytes)
  | remove (p : Path)

namespace Driver

variable {d : Driver} {disk disk' : Disk} {ref src target : Path} {label stamp nspace name : Bytes} {io : Bool}

def step (d : Driver) (disk : Disk) : DiskOp → Disk
  | .snapshot src label stamp io => (d.snapshot disk src label stamp io).1
  | .restoreFrom ref nspace name io => (d.restoreFrom disk ref nspace name io).1
  | .write p content => disk.graft p (.single (.file content))
  | .remove p => disk.removeAll p

def place (d : Driver) : DiskOp → Path
  | .snapshot _ label stamp _ => d.snapPath label stamp
  | .restoreFrom _ nspace name _ => d.volumePath nspace name
  | .write p _ | .remove p => p

theorem copyDirTree_eq_some (h : copyDirTree disk src target io = some disk') :
    disk' = disk.graft target (disk.at_ src) := by
  unfold copyDirTree at h
  split_ifs at h
  exact (some.inj h).symm

theorem at_snapshot_of_apart (hdir : ¬ ref <+: d.snapDir) (hpath : Apart ref (d.snapPath label stamp)) :
    (d.snapshot disk src label stamp io).1.at_ ref = disk.at_ ref := by
  have hmade : (disk.graft d.snapDir (.single .dir)).at_ ref = disk.at_ ref := at_graft_single hdir
  unfold snapshot
  dsimp only
  split
  · rename_i hcopy
    rw [copyDirTree_eq_some hcopy]
    exact (at_graft_of_apart hpath).trans hmade
  · exact (at_removeAll_of_apart hpath).trans hmade

theorem at_restoreFrom_of_apart (hpath : Apart ref (d.volumePath nspace name)) :
    (d.restoreFrom disk src nspace name io).1.at_ ref = disk.at_ ref := by
  unfold restoreFrom
  split_ifs
  · rfl
  · split
    · rename_i hcopy
      rw [copyDirTree_eq_some hcopy]
      exact at_graft_of_apart hpath
    · exact at_removeAll_of_apart hpath

theorem at_step {op : DiskOp} (hdir : ¬ ref <+: d.snapDir) (hop : Apart ref (d.place op)) :
    (d.step disk op).at_ ref = disk.at_ ref := by
  cases op with
  | snapshot => exact at_snapshot_of_apart hdir hop
  | restoreFrom => exact at_restoreFrom_of_apart hop
  | write => exact at_graft_of_apart hop
  | remove => exact at_removeAll_of_apart hop

theorem at_steps (hdir : ¬ ref <+: d.snapDir) (ops : List DiskOp) (hops : ∀ op ∈ ops, Apart ref (d.place op)) :
    (ops.foldl d.step disk).at_ ref = disk.at_ ref := by
  induction ops generalizing disk with
  | nil => rfl
  | cons op _ ih =>
    rw [List.foldl_cons, ih fun o ho => hops o (List.mem_cons_of_mem op ho)]
    exact at_step hdir (hops op List.mem_cons_self)

theorem at_snapshot (hsrc : ¬ src <+: d.snapDir) (hfresh : disk.entry ref = none) (hdir : ¬ ref <+: d.snapDir)
    (h : d.snapshot disk src label stamp io = (disk', some ref)) : disk'.at_ ref = disk.at_ src := by
  have hnone : (disk.graft d.snapDir (.single .dir)).entry ref = none := by
    have hmade := congrArg (fun t => t.entry []) (at_graft_single (t := disk) (e := .dir) hdir)
    simpa [at_, hfresh] using hmade
  unfold snapshot at h
  dsimp only at h
  split at h
  · rename_i hcopy
    obtain ⟨rfl, hpath⟩ := Prod.mk.inj h
    rw [copyDirTree_eq_some hcopy, some.inj hpath, at_graft hnone]
    exact at_graft_single hsrc
  · cases h

theorem at_restoreFrom (h : d.restoreFrom disk ref nspace name io = (disk', some target)) :
    disk'.at_ target = disk.at_ ref := by
  unfold restoreFrom at h
  split_ifs at h with href
  · cases h
  · split at h
    · rename_i hcopy
      obtain ⟨rfl, hpath⟩ := Prod.mk.inj h
      rw [copyDirTree_eq_some hcopy, ← some.inj hpath]
      exact at_graft (not_not.1 (not_or.1 href).2)
    · cases h

/-- **A snapshot is restored as it was taken**, if nothing stands at its path before, and nothing
else is written or removed at, above or below its path after: for every file system, every volume,
label and second, and everything that happens in between. -/
theorem restore_snapshot (d : Driver) (disk : Disk) (src : Path) (label stamp : Bytes) (io : Bool)
    (hsrc : ¬ src <+: d.snapDir) (hdir : ¬ d.snapPath label stamp <+: d.snapDir)
    (hfresh : disk.entry (d.snapPath label stamp) = none) {disk₁ : Disk}
    {ref : Path} (hsnapshot : d.snapshot disk src label stamp io = (disk₁, some ref))
    (ops : List DiskOp) (hops : ∀ op ∈ ops, Apart (d.snapPath label stamp) (d.place op))
    {nspace name : Bytes} {io' : Bool} {disk₂ : Disk}
    {target : Path} (hrestore : d.restoreFrom (ops.foldl d.step disk₁) ref nspace name io' =
      (disk₂, some target)) :
    disk₂.at_ target = disk.at_ src := by
  obtain rfl : d.snapPath label stamp = ref := by
    unfold snapshot at hsnapshot
    dsimp only at hsnapshot
    split at hsnapshot
    · exact some.inj (Prod.mk.inj hsnapshot).2
    · cases hsnapshot
  rw [at_restoreFrom hrestore, at_steps hdir ops hops]
  exact at_snapshot hsrc hfresh hdir hsnapshot

end Driver

namespace Sample

def localDriver : Driver := ⟨lit "n1", [lit "srv"]⟩

def filled : Disk :=
  ((single .dir : Disk).graft [lit "srv", lit "d", lit "a", lit "x"] (.single (.file (lit "1")))).graft
    [lit "srv", lit "d", lit "b", lit "y"] (.single (.file (lit "2")))

def taken : Disk × Option Path := localDriver.snapshot filled [lit "srv", lit "d", lit "a"]
    (lit "s") (lit "T") true

def restored (stamp : Bytes) : Disk × Option Path :=
  localDriver.restoreFrom
    ([.snapshot [lit "srv", lit "d", lit "b"] (lit "s") stamp true].foldl localDriver.step taken.1)
    (localDriver.snapPath (lit "s") (lit "T")) (lit "d") (lit "c") true

end Sample

open Sample

namespace Driver

/-- In the same second: the file of `b` is restored too. -/
theorem restore_mixed : taken.2 = some (localDriver.snapPath (lit "s") (lit "T")) ∧ ∃ target,
    (restored (lit "T")).2 = some target ∧
      (restored (lit "T")).1.at_ target ≠ filled.at_ [lit "srv", lit "d", lit "a"] := by
  refine ⟨by decide +kernel, [lit "srv", lit "d", lit "c"], by decide +kernel, fun heq => ?_⟩
  have hentry := congrArg (fun t => (t.entry [lit "y"]).isSome) heq
  revert hentry
  decide +kernel

/-- In the next second. -/
theorem restore_separate : taken.2 = some (localDriver.snapPath (lit "s") (lit "T")) ∧ ∃ target,
    (restored (lit "U")).2 = some target ∧
      (restored (lit "U")).1.at_ target = filled.at_ [lit "srv", lit "d", lit "a"] := by
  have htaken : taken.2 = some (localDriver.snapPath (lit "s") (lit "T")) := by decide +kernel
  have hrestored : (restored (lit "U")).2 = some [lit "srv", lit "d", lit "c"] := by decide +kernel
  refine ⟨htaken, _, hrestored, restore_snapshot localDriver filled [lit "srv", lit "d",
    lit "a"] (lit "s") (lit "T") true (by decide +kernel) (by decide +kernel) (by decide +kernel)
      (Prod.ext rfl htaken) _ ?_ (Prod.ext rfl hrestored)⟩
  decide +kernel

end Driver

end Ocelot.VirtualServer
