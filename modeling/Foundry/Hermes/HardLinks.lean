import Mathlib.Algebra.GroupWithZero.Nat
import Foundry.Lib.Raise
import Foundry.Lib.Table

/-!
# The hard-link scan of a profile

`_validate_profile_hardlinks` of `allies_profile_sandbox.py`, over the tree under a profile's
directory as it stands while the scan runs.
-/

set_option autoImplicit false

namespace Foundry

namespace Sandbox

def maxProfileScanEntries : Nat := 100000

def profileManagedFiles : List String :=
  [".env", "config.yaml", "SOUL.md", ".allies-profile.json"]

/-- `st_dev` and `st_ino`. -/
abbrev Inode := Nat × Nat

/-- What `lstat` says of a name, and what `scandir` lists under it. -/
inductive ProfileEntry where
  | regular (name : String) (inode : Inode)
  | symbolicLink (name : String)
  | directory (name : String) (opens : Bool) (entries : List ProfileEntry)
  | special (name : String)
  /-- `lstat` fails. -/
  | unreadable (name : String)

structure ProfileDirectory where
  opens : Bool
  entries : List ProfileEntry

def ProfileEntry.name : ProfileEntry → String
  | .regular name _ | .symbolicLink name | .directory name _ _ | .special name
  | .unreadable name => name

def subdirectories (entries : List ProfileEntry) : List ProfileDirectory :=
  entries.filterMap fun entry =>
    match entry with
    | .directory _ opens entries => some ⟨opens, entries⟩
    | _ => none

mutual

/-- The number of entries of a tree, which the scan has before it. -/
def ProfileEntry.weight : ProfileEntry → Nat
  | .directory _ _ entries => 1 + weights entries
  | _ => 1

def weights : List ProfileEntry → Nat
  | [] => 0
  | entry :: rest => entry.weight + weights rest

end

def ProfileDirectory.weight (directory : ProfileDirectory) : Nat := 1 + weights directory.entries

theorem subdirectories_weight (entries : List ProfileEntry) :
    ((subdirectories entries).map ProfileDirectory.weight).sum ≤ weights entries := by
  induction entries with
  | nil => exact Nat.le_refl _
  | cons entry _ ih =>
    cases entry with
    | directory =>
      simp only [subdirectories, List.filterMap_cons, List.map_cons, List.sum_cons, weights]
      exact Nat.add_le_add (Nat.le_refl _) ih
    | _ => exact Nat.le_trans ih (Nat.le_add_left _ _)

/-- The volume's link counts, with the deadline and the clock at every entry. -/
structure ScanVolume where
  linkCount : Inode → Nat
  deadline : Option Int
  clock : Nat → Int

def ScanVolume.isLate (volume : ScanVolume) (visited : Nat) : Bool :=
  volume.deadline.any fun deadline => deadline < volume.clock visited

/-- `links` and `visited`. -/
structure LinkScan where
  links : Table Inode (Nat × Nat)
  visited : Nat

section Scan

variable (volume : ScanVolume)

def LinkScan.visit (scan : LinkScan) (entry : ProfileEntry) : Except String LinkScan :=
  let visited := scan.visited + 1
  if maxProfileScanEntries < visited || volume.isLate visited then
    .error "profile_link_scan_budget_exhausted"
  else
    match entry with
    | .unreadable _ => .error "profile_link_scan_failed"
    | .symbolicLink _ | .directory .. | .special _ => .ok { scan with visited := visited }
    | .regular _ inode =>
      let found := (scan.links.lookup inode).getD (0, volume.linkCount inode)
      if found.2 < found.1 + 1 then .error "profile_link_scan_changed"
      else .ok ⟨scan.links.insert inode (found.1 + 1, found.2), visited⟩

/-- The loop over the entries of one directory. -/
def LinkScan.visitAll (scan : LinkScan) : List ProfileEntry → Except String LinkScan
  | [] => .ok scan
  | entry :: rest =>
    match scan.visit volume entry with
    | .error reason => .error reason
    | .ok next => next.visitAll rest

/-- The loop over the pending directories, the last one first. -/
def scanPending (pending : List ProfileDirectory) (scan : LinkScan) : Except String LinkScan :=
  match pending with
  | [] => .ok scan
  | directory :: rest =>
    if !directory.opens then .error "profile_link_scan_failed"
    else
      match scan.visitAll volume directory.entries with
      | .error reason => .error reason
      | .ok scanned => scanPending ((subdirectories directory.entries).reverse ++ rest) scanned
termination_by (pending.map ProfileDirectory.weight).sum
decreasing_by
  have fewer := subdirectories_weight directory.entries
  simp only [List.map_append, List.map_reverse, List.sum_append, List.sum_reverse, List.map_cons,
    List.sum_cons, ProfileDirectory.weight] at fewer ⊢
  omega

def ProfileDirectory.checkManaged (home : ProfileDirectory) (filename : String) :
    Except String Unit :=
  match home.entries.find? fun entry => entry.name = filename with
  | none | some (.unreadable _) => .error "profile_link_scan_failed"
  | some (.regular _ inode) =>
    if volume.linkCount inode = 1 then .ok () else .error "profile_managed_file_alias"
  | some _ => .error "profile_managed_file_alias"

/-- `_validate_profile_hardlinks`. -/
def validateProfileHardlinks (home : ProfileDirectory) : Except String Unit := do
  profileManagedFiles.forM (home.checkManaged volume)
  let scan ← scanPending volume [home] ⟨∅, 0⟩
  if scan.links.rows.any fun row => row.2.1 ≠ row.2.2 then
    throw "profile_external_hardlink"

end Scan

end Sandbox

end Foundry
