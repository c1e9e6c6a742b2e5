import Foundry.Hermes.HardLinks

/-!
# What the hard-link scan accepts

The scan takes the entries of a tree in an order of its own, but where it stands depends only
on which entries it has taken: one entry, one directory and the whole tree follow one rule.
-/

set_option autoImplicit false

namespace Foundry

namespace Sandbox

open Raise

theorem forM_eq_ok {ε β : Type} (body : β → Except ε PUnit) (items : List β) :
    items.forM body = .ok () ↔ ∀ item ∈ items, body item = .ok () := by
  induction items with
  | nil => simp
  | cons item rest ih =>
    change (body item >>= fun _ => rest.forM body) = .ok () ↔ _
    rw [bind_eq_ok, List.forall_mem_cons, ← ih]
    constructor
    · rintro ⟨⟨⟩, first, later⟩
      exact ⟨first, later⟩
    · intro both
      exact ⟨(), both⟩

/-! ## The entries of a tree -/

mutual

/-- The entry and all that is under it. -/
def ProfileEntry.tree : ProfileEntry → List ProfileEntry
  | .directory name opens entries => .directory name opens entries :: trees entries
  | entry => [entry]

def trees : List ProfileEntry → List ProfileEntry
  | [] => []
  | entry :: rest => entry.tree ++ trees rest

end

def inodes (entries : List ProfileEntry) : List Inode :=
  entries.filterMap fun entry =>
    match entry with
    | .regular _ inode => some inode
    | _ => none

/-- `lstat` succeeds. -/
def ProfileEntry.isListed : ProfileEntry → Bool
  | .unreadable _ => false
  | _ => true

/-- And `scandir`, where it is called. -/
def ProfileEntry.isRead : ProfileEntry → Bool
  | .unreadable _ => false
  | .directory _ opens _ => opens
  | _ => true

/-- The entries of the tree come in the order of the scan. -/
theorem trees_perm (entries : List ProfileEntry) :
    (trees entries).Perm
      (entries ++ (subdirectories entries).flatMap fun directory => trees directory.entries) := by
  induction entries with
  | nil => exact .refl _
  | cons entry _ ih =>
    cases entry with
    | directory _ _ entries =>
      exact ((ih.append_left (trees entries)).trans (List.perm_append_comm_assoc ..)).cons _
    | _ => exact ih.cons _

section Taking

variable {volume : ScanVolume} {scan next : LinkScan} {taken first second : List ProfileEntry}

/-! ## Taking entries -/

/-- The scan after these entries: a file has a row from its first name on. -/
structure LinkScan.Took (volume : ScanVolume) (scan : LinkScan) (taken : List ProfileEntry) :
    Prop where
  visited : scan.visited = taken.length
  links : ∀ inode, scan.links.lookup inode = if inode ∈ inodes taken then
    some ((inodes taken).count inode, volume.linkCount inode) else none

/-- The scan refuses none of the entries for their number, their time or their names. -/
structure Fits (volume : ScanVolume) (taken : List ProfileEntry) : Prop where
  few : taken.length ≤ maxProfileScanEntries
  inTime : ∀ number, 0 < number → number ≤ taken.length → volume.isLate number = false
  names : ∀ inode, (inodes taken).count inode ≤ volume.linkCount inode

/-- What taking the entries comes to, where `fine` is what has to hold of them besides. -/
def Decides (volume : ScanVolume) (taken : List ProfileEntry) (fine : Prop) :
    Except String LinkScan → Prop
  | .ok next => next.Took volume taken ∧ Fits volume taken ∧ fine
  | .error _ => ¬(Fits volume taken ∧ fine)

theorem inodes_append : inodes (first ++ second) = inodes first ++ inodes second :=
  List.filterMap_append

theorem Fits.suffix (fits : Fits volume (first ++ second)) : Fits volume second where
  few := Nat.le_trans (by simp) fits.few
  inTime := fun number positive within =>
    fits.inTime number positive (Nat.le_trans within (by simp))
  names := by
    intro inode
    have bound := fits.names inode
    rw [inodes_append, List.count_append] at bound
    exact Nat.le_trans (Nat.le_add_left ..) bound

theorem Fits.perm (perm : first.Perm second) (fits : Fits volume first) : Fits volume second where
  few := perm.length_eq ▸ fits.few
  inTime := perm.length_eq ▸ fits.inTime
  names := fun inode => (perm.filterMap _).count_eq inode ▸ fits.names inode

theorem LinkScan.Took.perm (perm : first.Perm second) (took : scan.Took volume first) :
    scan.Took volume second where
  visited := perm.length_eq ▸ took.visited
  links := by
    have names : (inodes first).Perm (inodes second) := perm.filterMap _
    intro inode
    rw [took.links, names.count_eq]
    simp only [names.mem_iff]

namespace Decides

variable {fine both : Prop} {result : Except String LinkScan}

theorem perm (perm : first.Perm second) (decides : Decides volume first fine result) :
    Decides volume second fine result := by
  cases result with
  | ok => exact ⟨decides.1.perm perm, decides.2.1.perm perm, decides.2.2⟩
  | error => exact fun refused => decides ⟨refused.1.perm perm.symm, refused.2⟩

theorem after (isFine : fine) (later : Decides volume taken both result) :
    Decides volume taken (fine ∧ both) result := by
  cases result with
  | ok => exact ⟨later.1, later.2.1, isFine, later.2.2⟩
  | error => exact fun refused => later ⟨refused.1, refused.2.2⟩

end Decides

theorem visit_decides (took : scan.Took volume taken) (fits : Fits volume taken)
    (entry : ProfileEntry) :
    Decides volume (entry :: taken) (entry.isListed = true) (scan.visit volume entry) := by
  simp only [LinkScan.visit, took.visited]
  split
  · next exhausted =>
    rintro ⟨all, _⟩
    have few : taken.length + 1 ≤ maxProfileScanEntries := all.few
    rw [all.inTime (taken.length + 1) (Nat.succ_pos _) (Nat.le_refl _)] at exhausted
    simp only [Bool.or_false, decide_eq_true_eq] at exhausted
    omega
  · next inBudget =>
    simp only [Bool.or_eq_true, decide_eq_true_eq, not_or, Bool.not_eq_true] at inBudget
    have inTime : ∀ number, 0 < number → number ≤ taken.length + 1 →
        volume.isLate number = false := by
      intro number positive within
      rcases Nat.le_succ_iff.mp within with before | rfl
      · exact fits.inTime number positive before
      · exact inBudget.2
    have few : taken.length + 1 ≤ maxProfileScanEntries := Nat.le_of_not_lt inBudget.1
    cases entry with
    | unreadable => exact fun all => Bool.false_ne_true all.2
    | symbolicLink | directory | special =>
      exact ⟨⟨rfl, took.links⟩, ⟨few, inTime, fits.names⟩, rfl⟩
    | regular name inode =>
      have names : inodes (.regular name inode :: taken) = inode :: inodes taken := rfl
      have found : (scan.links.lookup inode).getD (0, volume.linkCount inode) =
          ((inodes taken).count inode, volume.linkCount inode) := by
        rw [took.links]
        split
        · rfl
        · next absent => rw [List.count_eq_zero.mpr absent]; rfl
      simp only [found]
      split
      · next many =>
        rintro ⟨all, _⟩
        have bound := all.names inode
        rw [names, List.count_cons_self] at bound
        exact Nat.not_le_of_lt many bound
      · next within =>
        refine ⟨⟨rfl, ?_⟩, ⟨few, inTime, ?_⟩, rfl⟩
        · intro other
          rw [names, Table.lookup_insert_eq, took.links]
          by_cases same : other = inode
          · simp [same]
          · simp [same, Ne.symm same]
        · intro other
          rw [names, List.count_cons]
          split
          · next same =>
            rw [← eq_of_beq same]
            exact Nat.le_of_not_lt within
          · exact fits.names other

/-- The entries of one directory. -/
theorem visitAll_decides (entries : List ProfileEntry) (took : scan.Took volume taken)
    (fits : Fits volume taken) :
    Decides volume (entries ++ taken) (∀ entry ∈ entries, entry.isListed = true)
      (scan.visitAll volume entries) := by
  induction entries generalizing scan taken with
  | nil => exact ⟨took, fits, by rintro _ ⟨⟩⟩
  | cons entry _ ih =>
    have one := visit_decides took fits entry
    simp only [List.forall_mem_cons, LinkScan.visitAll]
    cases visited : scan.visit volume entry with
    | error =>
      rw [visited] at one
      rintro ⟨all, isListed, _⟩
      exact one ⟨(all.perm List.perm_middle.symm).suffix, isListed⟩
    | ok =>
      rw [visited] at one
      exact (Decides.after one.2.2 (ih one.1 one.2.1)).perm List.perm_middle

/-! ## The pending directories -/

def pendingTrees (pending : List ProfileDirectory) : List ProfileEntry :=
  pending.flatMap fun directory => trees directory.entries

/-- Every pending directory opens, and all that is under it can be read. -/
def Reads (pending : List ProfileDirectory) : Prop :=
  (∀ directory ∈ pending, directory.opens = true) ∧
    ∀ entry ∈ pendingTrees pending, entry.isRead = true

theorem pendingTrees_perm (directory : ProfileDirectory) (rest : List ProfileDirectory) :
    (directory.entries ++ pendingTrees ((subdirectories directory.entries).reverse ++ rest)).Perm
      (pendingTrees (directory :: rest)) := by
  have under := (trees_perm directory.entries).append_right (pendingTrees rest)
  have turned := ((List.reverse_perm (subdirectories directory.entries)).flatMap_right
    fun directory => trees directory.entries).append_right (pendingTrees rest)
  rw [List.append_assoc] at under
  rw [pendingTrees, List.flatMap_append]
  exact (turned.append_left _).trans under.symm

theorem isRead_iff (entries : List ProfileEntry) :
    (∀ entry ∈ entries, entry.isRead = true) ↔ (∀ entry ∈ entries, entry.isListed = true) ∧
      ∀ directory ∈ subdirectories entries, directory.opens = true := by
  induction entries with
  | nil => simp [subdirectories]
  | cons entry _ ih =>
    rw [List.forall_mem_cons, List.forall_mem_cons, ih]
    cases entry <;>
      simp [ProfileEntry.isRead, ProfileEntry.isListed, subdirectories, and_left_comm]

theorem reads_cons (directory : ProfileDirectory) (rest : List ProfileDirectory) :
    Reads (directory :: rest) ↔ directory.opens = true ∧
      (∀ entry ∈ directory.entries, entry.isListed = true) ∧
        Reads ((subdirectories directory.entries).reverse ++ rest) := by
  simp only [Reads, ← (pendingTrees_perm directory rest).mem_iff,
    isRead_iff, List.forall_mem_cons, List.mem_append, List.mem_reverse, or_imp, forall_and]
  tauto

theorem scanPending_decides (pending : List ProfileDirectory) (took : scan.Took volume taken)
    (fits : Fits volume taken) :
    Decides volume (pendingTrees pending ++ taken) (Reads pending)
      (scanPending volume pending scan) := by
  induction pending, scan using scanPending.induct volume generalizing taken with
  | case1 =>
    rw [scanPending]
    exact ⟨took, fits, by rintro _ ⟨⟩, by rintro _ ⟨⟩⟩
  | case2 _ directory _ closed =>
    rw [scanPending, if_pos closed]
    rintro ⟨_, reads⟩
    rw [reads.1 directory (List.mem_cons_self ..)] at closed
    cases closed
  | case3 _ directory rest opens _ failed =>
    have one := visitAll_decides directory.entries took fits
    rw [failed] at one
    rw [scanPending, if_neg opens, failed]
    rintro ⟨all, reads⟩
    have moved := (pendingTrees_perm directory rest).symm.trans List.perm_append_comm
    have within := all.perm (moved.append_right taken)
    rw [List.append_assoc] at within
    exact one ⟨within.suffix, ((reads_cons directory rest).mp reads).2.1⟩
  | case4 _ directory rest opens _ visited ih =>
    have one := visitAll_decides directory.entries took fits
    rw [visited] at one
    have isOpen : directory.opens = true := by simpa using opens
    have later := (ih one.1 one.2.1).perm ((List.perm_append_comm_assoc ..).trans
      ((List.append_assoc .. ▸ (pendingTrees_perm directory rest).append_right taken)))
    rw [scanPending, if_neg opens, visited, reads_cons]
    exact (later.after one.2.2).after isOpen

/-! ## The scan -/

/-- The managed files are there, regular, and have one link. -/
def ProfileDirectory.IsManaged (volume : ScanVolume) (home : ProfileDirectory) : Prop :=
  ∀ filename ∈ profileManagedFiles, ∃ inode,
    (home.entries.find? fun entry => entry.name = filename) = some (.regular filename inode) ∧
      volume.linkCount inode = 1

theorem checkManaged_eq_ok_iff (home : ProfileDirectory) (filename : String) :
    home.checkManaged volume filename = .ok () ↔ ∃ inode,
      (home.entries.find? fun entry => entry.name = filename) = some (.regular filename inode) ∧
        volume.linkCount inode = 1 := by
  unfold ProfileDirectory.checkManaged
  cases found : home.entries.find? fun entry => entry.name = filename with
  | none => simp
  | some entry =>
    have named : entry.name = filename := by simpa using List.find?_some found
    cases entry with
    | regular name =>
      obtain rfl : name = filename := named
      simp only [Option.some.injEq, ProfileEntry.regular.injEq, true_and, exists_eq_left']
      split <;> simp [*]
    | _ => simp

/-- The comparison after the scan finds every name of every file. -/
theorem rows_exact_iff (took : scan.Took volume taken) :
    (scan.links.rows.any fun row => row.2.1 ≠ row.2.2) = false ↔
      ∀ inode ∈ inodes taken, (inodes taken).count inode = volume.linkCount inode := by
  simp only [List.any_eq_false, Prod.forall, Table.mem_rows, took.links]
  simp

end Taking

/-- The scan accepts a tree exactly when it fits the budget, is read in time, and every file has
all its names in it. -/
theorem hardlink_scan_is_exact (volume : ScanVolume) (home : ProfileDirectory) :
    validateProfileHardlinks volume home = .ok () ↔
      home.IsManaged volume ∧ home.opens = true ∧
        (∀ entry ∈ trees home.entries, entry.isRead = true) ∧
        (trees home.entries).length ≤ maxProfileScanEntries ∧
        (∀ number, 0 < number → number ≤ (trees home.entries).length →
          volume.isLate number = false) ∧
        ∀ inode ∈ inodes (trees home.entries),
          (inodes (trees home.entries)).count inode = volume.linkCount inode := by
  have managed : profileManagedFiles.forM (home.checkManaged volume) = .ok () ↔
      home.IsManaged volume := by
    rw [forM_eq_ok]
    exact forall₂_congr fun filename _ => checkManaged_eq_ok_iff home filename
  have decides := scanPending_decides [home]
    (⟨rfl, fun _ => rfl⟩ : LinkScan.Took volume ⟨∅, 0⟩ [])
    ⟨Nat.zero_le _, fun _ positive none => absurd none (Nat.not_le_of_lt positive), fun _ => Nat.zero_le _⟩
  have under : pendingTrees [home] ++ [] = trees home.entries := by simp [pendingTrees]
  simp only [validateProfileHardlinks, bind_eq_ok, managed]
  rw [under] at decides
  cases scanned : scanPending volume [home] ⟨∅, 0⟩ with
  | error =>
    rw [scanned] at decides
    refine iff_of_false (by rintro ⟨_, _, _, ⟨⟩, _⟩) ?_
    rintro ⟨_, opens, read, few, inTime, same⟩
    refine decides ⟨⟨few, inTime, ?_⟩, List.forall_mem_singleton.mpr opens, ?_⟩
    · intro inode
      by_cases member : inode ∈ inodes (trees home.entries)
      · exact Nat.le_of_eq (same inode member)
      · rw [List.count_eq_zero.mpr member]
        exact Nat.zero_le _
    · simpa [pendingTrees] using read
  | ok scan =>
    rw [scanned] at decides
    obtain ⟨took, fits, reads⟩ := decides
    have read : ∀ entry ∈ trees home.entries, entry.isRead = true := by
      simpa [pendingTrees] using reads.2
    rw [← rows_exact_iff took]
    constructor
    · rintro ⟨_, isManaged, _, ⟨⟩, accepted⟩
      refine ⟨isManaged, reads.1 home (List.mem_singleton_self _), read, fits.few, fits.inTime, ?_⟩
      by_contra some
      rw [if_pos (by simpa using some)] at accepted
      cases accepted
    · rintro ⟨isManaged, _, _, _, _, none⟩
      refine ⟨(), isManaged, scan, rfl, ?_⟩
      rw [none]
      rfl

/-- The clock is past the deadline from the start. -/
def lateVolume : ScanVolume where
  linkCount := fun _ => 1
  deadline := some 5
  clock := fun _ => 6

def plainHome : ProfileDirectory where
  opens := true
  entries := [.regular ".env" (0, 1), .regular "config.yaml" (0, 2), .regular "SOUL.md" (0, 3),
    .regular ".allies-profile.json" (0, 4)]

theorem late_scan_refuses_exact_home :
    validateProfileHardlinks lateVolume plainHome = .error "profile_link_scan_budget_exhausted" ∧
      (∀ filename ∈ profileManagedFiles, plainHome.checkManaged lateVolume filename = .ok ()) ∧
      (trees plainHome.entries).length ≤ maxProfileScanEntries ∧
      ∀ inode ∈ inodes (trees plainHome.entries),
        (inodes (trees plainHome.entries)).count inode = lateVolume.linkCount inode := by
  refine ⟨?_, by decide, by decide, by decide⟩
  rw [validateProfileHardlinks, scanPending]
  rfl

end Sandbox

end Foundry
