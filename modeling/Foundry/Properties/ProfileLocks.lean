import Foundry.Volume.Locks

/-!
# Mutual exclusion of the profile lock

A waiter that finds a stale lock file unlinks whatever stands under the name by then.  As long
as every such unlink hits the file the waiter judged, or one that nobody uses, the file under
the name belongs to the one lock object in use, and only its holder releases it.
-/

set_option autoImplicit false

namespace Foundry

variable {volume next : LockVolume}

def LockPhase.judged : LockPhase → Option LockFile
  | .inspected _ judged | .doubted judged | .condemned judged => judged
  | _ => none

def LockPhase.condemns : LockPhase → Option LockFile
  | .doubted judged | .condemned judged => judged
  | _ => none

def LockPhase.runs : LockPhase → Bool
  | .left | .crashed => false
  | _ => true

variable {phase : LockPhase}

theorem LockPhase.runs_of_keeps (keeps : phase.keeps = true) :
    phase.runs = true := by
  cases phase <;> first | rfl | cases keeps

variable {file : LockFile}

theorem LockFile.metadata_of_readable {metadata : LockMetadata}
    (readable : file.readable = some metadata) : file.metadata = some metadata :=
  (Option.filter_eq_some_iff.mp readable).1

def LockVolume.Stamped (volume : LockVolume) (file : LockFile) : Prop :=
  ∀ metadata, file.metadata = some metadata → metadata.nonce = file.creator ∧
    ∃ object, volume.objects.lookup file.creator = some object ∧ object.pid = metadata.pid

def LockVolume.Ended (volume : LockVolume) (nonce : LockNonce) : Prop :=
  ∃ object, volume.objects.lookup nonce = some object ∧ object.phase.runs = false

structure LockVolume.Sound (volume : LockVolume) : Prop where
  live : ∀ nonce object, volume.objects.lookup nonce = some object →
    object.phase.runs = true → object.pid ∈ volume.processes
  marked : ∀ file, volume.marker = some file → volume.Stamped file
  judged : ∀ nonce object file, volume.objects.lookup nonce = some object →
    object.phase.judged = some file → volume.Stamped file
  dead : ∀ nonce object file metadata, volume.objects.lookup nonce = some object →
    object.phase.condemns = some file → file.readable = some metadata →
    volume.Ended file.creator
  kept : ∀ nonce object, volume.objects.lookup nonce = some object →
    object.phase.keeps = true → ∃ file, volume.marker = some file ∧ file.creator = nonce

theorem LockVolume.fresh_sound : LockVolume.fresh.Sound := by
  constructor <;> intro nonce <;> simp [LockVolume.fresh]

variable {nonce : LockNonce}

theorem LockVolume.Ended.not_inUse (ended : volume.Ended nonce) :
    ¬ volume.InUse nonce := by
  rintro ⟨_, found, keeps⟩
  obtain ⟨_, stored, stopped⟩ := ended
  cases stored.symm.trans found
  rw [LockPhase.runs_of_keeps keeps] at stopped
  cases stopped

/-! ## One move -/

structure LockVolume.Fair (volume : LockVolume) (nonce : LockNonce) (move : LockMove) : Prop where
  marked : ∀ file, move.1 = some file → volume.Stamped file
  judged : ∀ file, move.2.judged = some file → volume.Stamped file
  dead : ∀ file metadata, move.2.condemns = some file → file.readable = some metadata →
    volume.Ended file.creator
  own : move.2.keeps = true → ∃ file, move.1 = some file ∧ file.creator = nonce
  others : ∀ other, other ≠ nonce → volume.InUse other →
    ∃ file, move.1 = some file ∧ file.creator = other

variable {object : LockObject}

theorem LockVolume.Stamped.put
    (stamped : volume.Stamped file) (found : volume.objects.lookup nonce = some object)
    (move : LockMove) : (volume.put nonce object move).Stamped file := by
  intro metadata written
  obtain ⟨same, owner, stored, pid⟩ := stamped metadata written
  refine ⟨same, ?_⟩
  rw [LockVolume.lookup_put]
  split
  · next isMover =>
    rw [isMover] at stored
    cases found.symm.trans stored
    exact ⟨_, rfl, pid⟩
  · exact ⟨owner, stored, pid⟩

theorem LockVolume.Ended.put {other : LockNonce}
    (ended : volume.Ended other) (found : volume.objects.lookup nonce = some object)
    (runs : object.phase.runs = true) (move : LockMove) :
    (volume.put nonce object move).Ended other := by
  obtain ⟨owner, stored, stopped⟩ := ended
  have different : other ≠ nonce := by
    rintro rfl
    cases found.symm.trans stored
    rw [runs] at stopped
    cases stopped
  refine ⟨owner, ?_, stopped⟩
  rw [LockVolume.lookup_put, if_neg different]
  exact stored

variable {move : LockMove}

theorem LockVolume.Sound.put (sound : volume.Sound)
    (found : volume.objects.lookup nonce = some object) (runs : object.phase.runs = true) (fair : volume.Fair nonce move) : (volume.put nonce object move).Sound where
  live := by
    intro other stored lookup running
    rw [LockVolume.lookup_put] at lookup
    rw [LockVolume.put_processes]
    split at lookup
    · cases lookup
      exact sound.live nonce object found runs
    · exact sound.live other stored lookup running
  marked := fun file present => (fair.marked file present).put found move
  judged := by
    intro other stored file lookup goesBy
    rw [LockVolume.lookup_put] at lookup
    split at lookup
    · cases lookup
      exact (fair.judged file goesBy).put found move
    · exact (sound.judged other stored file lookup goesBy).put found move
  dead := by
    intro other stored file metadata lookup condemned readable
    rw [LockVolume.lookup_put] at lookup
    split at lookup
    · cases lookup
      exact (fair.dead file metadata condemned readable).put found runs move
    · exact (sound.dead other stored file metadata lookup condemned readable).put found runs move
  kept := by
    intro other stored lookup keeps
    rw [LockVolume.lookup_put] at lookup
    split at lookup
    · next isMover =>
      cases lookup
      rw [isMover]
      exact fair.own keeps
    · next different => exact fair.others other different ⟨stored, lookup, keeps⟩

section

variable (sound : volume.Sound) (nonce : LockNonce) (phase : LockPhase)

include sound

theorem LockVolume.Sound.quiet (goesBy : ∀ file, phase.judged = some file → volume.Stamped file)
    (finds : ∀ file metadata, phase.condemns = some file → file.readable = some metadata →
      volume.Ended file.creator)
    (own : phase.keeps = true → ∃ file, volume.marker = some file ∧ file.creator = nonce) :
    volume.Fair nonce (volume.marker, phase) where
  marked := sound.marked
  judged := goesBy
  dead := finds
  own := own
  others := by
    rintro other - ⟨object, found, keeps⟩
    exact sound.kept other object found keeps

section

variable (judgesNone : phase.judged = none) (condemnsNone : phase.condemns = none)
  (keepsNone : phase.keeps = false)

include judgesNone condemnsNone keepsNone

theorem LockVolume.Sound.idle : volume.Fair nonce (volume.marker, phase) := by
  refine sound.quiet nonce phase ?_ ?_ ?_
  · intro file goesBy
    rw [judgesNone] at goesBy
    cases goesBy
  · intro file metadata finds
    rw [condemnsNone] at finds
    cases finds
  · intro keeps
    rw [keepsNone] at keeps
    cases keeps

theorem LockVolume.Sound.removal
    (unused : ∀ file, volume.marker = some file → file.creator ≠ nonce →
      ¬ volume.InUse file.creator) : volume.Fair nonce (none, phase) where
  marked := by
    rintro _ ⟨⟩
  judged := by
    intro file goesBy
    rw [judgesNone] at goesBy
    cases goesBy
  dead := by
    intro file metadata finds
    rw [condemnsNone] at finds
    cases finds
  own := by
    intro keeps
    rw [keepsNone] at keeps
    cases keeps
  others := by
    intro other different used
    obtain ⟨object, found, keeps⟩ := used
    obtain ⟨file, present, rfl⟩ := sound.kept other object found keeps
    exact absurd ⟨object, found, keeps⟩ (unused file present different)

end

end

/-! ## Every call keeps the invariant -/

/-- The unlink of a stale lock hits the file whose metadata the waiter read, or a file that no
live object has made and still keeps. -/
def LockVolume.spares (volume : LockVolume) : LockCall → Bool
  | .advance nonce =>
    match volume.objects.lookup nonce, volume.marker with
    | some ⟨_, .condemned judged⟩, some file =>
      (judged.any fun read => read.creator == file.creator && read.readable.isSome) ||
        !(volume.objects.lookup file.creator).any fun owner => owner.phase.keeps
    | _, _ => true
  | _ => true

theorem LockVolume.unlink_of_spares
    {judged : Option LockFile} (spares : volume.spares (.advance nonce) = true)
    (found : volume.objects.lookup nonce = some object) (phase : object.phase = .condemned judged)
    (present : volume.marker = some file) :
    (∃ read metadata, judged = some read ∧ read.creator = file.creator ∧
      read.readable = some metadata) ∨ ¬ volume.InUse file.creator := by
  obtain ⟨_, _⟩ := object
  cases phase
  simp only [LockVolume.spares, found, present, Bool.or_eq_true] at spares
  rcases spares with isJudged | unused
  · obtain ⟨read, isRead, same⟩ := (Option.any_eq_true _ _).mp isJudged
    rw [Bool.and_eq_true, beq_iff_eq, Option.isSome_iff_exists] at same
    obtain ⟨creator, metadata, readable⟩ := same
    exact .inl ⟨read, metadata, isRead, creator, readable⟩
  · refine .inr ?_
    rintro ⟨_, stored, keeps⟩
    rw [stored, Option.any_some, keeps] at unused
    cases unused

theorem LockVolume.Sound.advance_fair (sound : volume.Sound) (staleLockSeconds : Nat)
    (found : volume.objects.lookup nonce = some object)
    (spares : volume.spares (.advance nonce) = true)
    (moves : volume.advance staleLockSeconds nonce object.pid object.phase = some move) :
    volume.Fair nonce move := by
  have kept := sound.kept nonce object found
  have judged := sound.judged nonce object
  have dead := sound.dead nonce object
  cases phase : object.phase with
  | opening =>
    rw [phase, LockVolume.advance] at moves
    split at moves
    · next absent =>
      cases moves
      refine ⟨?_, by rintro file ⟨⟩, by rintro file metadata ⟨⟩, ?_, ?_⟩
      · rintro _ ⟨⟩ _ ⟨⟩
      · intro
        exact ⟨_, rfl, rfl⟩
      · rintro other - ⟨stored, lookup, keeps⟩
        obtain ⟨_, present, -⟩ := sound.kept other stored lookup keeps
        rw [absent] at present
        cases present
    · next present =>
      cases moves
      rw [← present]
      exact sound.idle nonce .refused rfl rfl rfl
  | writing =>
    rw [phase] at moves kept
    cases moves
    obtain ⟨own, present, rfl⟩ := kept rfl
    rw [present]
    have stamps : LockFile.stamp own.creator object.pid volume.now own =
        { own with metadata := some ⟨object.pid, own.creator⟩, mtime := volume.now } :=
      if_pos rfl
    refine ⟨?_, by rintro file ⟨⟩, by rintro file metadata ⟨⟩, ?_, ?_⟩
    · rintro _ written _ holds
      simp only [Option.map_some, stamps, Option.some.injEq] at written
      subst written
      cases holds
      exact ⟨rfl, object, found, rfl⟩
    · intro
      exact ⟨_, rfl, by rw [stamps]⟩
    · rintro other different ⟨stored, lookup, keeps⟩
      obtain ⟨_, isPresent, rfl⟩ := sound.kept other stored lookup keeps
      cases present.symm.trans isPresent
      exact absurd rfl different
  | syncing =>
    rw [phase] at moves kept
    cases moves
    exact sound.quiet nonce .holding (by rintro file ⟨⟩) (by rintro file metadata ⟨⟩)
      fun _ => kept rfl
  | holding =>
    rw [phase] at moves
    cases moves
    exact sound.idle nonce .releasing rfl rfl rfl
  | refused =>
    rw [phase, LockVolume.advance] at moves
    split at moves
    · next absent =>
      cases moves
      rw [← absent]
      exact sound.idle nonce .waiting rfl rfl rfl
    · next file present =>
      cases moves
      rw [← present]
      exact sound.idle nonce (.dated file.mtime) rfl rfl rfl
  | dated =>
    rw [phase] at moves
    cases moves
    exact sound.idle nonce (.measured _) rfl rfl rfl
  | measured aged =>
    rw [phase] at moves
    cases moves
    exact sound.quiet nonce (.inspected aged volume.marker) sound.marked
      (by rintro file metadata ⟨⟩) (by rintro ⟨⟩)
  | inspected _ read =>
    rw [phase, LockVolume.advance] at moves
    split at moves
    · next doubts =>
      cases moves
      refine sound.quiet nonce (.doubted read) ?_ ?_ (by rintro ⟨⟩)
      · intro file goesBy
        exact judged file found (by rw [phase]; exact goesBy)
      · intro file metadata condemned readable
        have isRead : read = some file := condemned
        rw [isRead] at doubts
        simp only [Option.bind_some, readable, Option.any_some, Bool.and_eq_true,
          Bool.not_eq_true', decide_eq_false_iff_not] at doubts
        have stamped : volume.Stamped file :=
          judged file found (by rw [phase]; exact isRead)
        obtain ⟨-, owner, stored, pid⟩ :=
          stamped metadata (LockFile.metadata_of_readable readable)
        refine ⟨owner, stored, ?_⟩
        cases runs : owner.phase.runs with
        | false => rfl
        | true => exact absurd (pid ▸ sound.live _ owner stored runs) doubts.2
    · cases moves
      exact sound.idle nonce .waiting rfl rfl rfl
  | doubted read =>
    rw [phase, LockVolume.advance] at moves
    split at moves
    · cases moves
      refine sound.quiet nonce (.condemned read) ?_ ?_ (by rintro ⟨⟩)
      · intro file goesBy
        exact judged file found (by rw [phase]; exact goesBy)
      · intro file metadata condemned
        exact dead file metadata found (by rw [phase]; exact condemned)
    · cases moves
      exact sound.idle nonce .waiting rfl rfl rfl
  | condemned =>
    rw [phase] at moves
    cases moves
    refine sound.removal nonce .waiting rfl rfl rfl ?_
    intro file present _
    rcases LockVolume.unlink_of_spares spares found phase present with
      ⟨same, metadata, isRead, creator, readable⟩ | unused
    · have ended := dead same metadata found (by rw [phase]; exact isRead) readable
      rw [creator] at ended
      exact ended.not_inUse
    · exact unused
  | waiting =>
    rw [phase] at moves
    cases moves
    exact sound.idle nonce .opening rfl rfl rfl
  | releasing =>
    rw [phase, LockVolume.advance] at moves
    split at moves
    · next own =>
      cases moves
      refine sound.quiet nonce .dropping (by rintro file ⟨⟩) (by rintro file metadata ⟨⟩) ?_
      intro
      obtain ⟨file, present, readable⟩ := Option.bind_eq_some_iff.mp own
      refine ⟨file, present, ?_⟩
      exact ((sound.marked file present) _ (LockFile.metadata_of_readable readable)).1.symm
    · cases moves
      exact sound.idle nonce .left rfl rfl rfl
  | dropping =>
    rw [phase] at moves kept
    cases moves
    refine sound.removal nonce .left rfl rfl rfl ?_
    intro file present different
    obtain ⟨_, isPresent, same⟩ := kept rfl
    cases present.symm.trans isPresent
    exact absurd same different
  | left | crashed =>
    rw [phase] at moves
    cases moves

section

variable (sound : volume.Sound) {nonce : LockNonce} {object : LockObject} {move : LockMove}

include sound

theorem LockVolume.Sound.balk_fair (moves : volume.balk object.phase = some move) :
    volume.Fair nonce move := by
  cases phase : object.phase <;> rw [phase] at moves <;> cases moves
  case measured aged =>
      exact sound.quiet nonce (.inspected aged none) (by rintro file ⟨⟩)
        (by rintro file metadata ⟨⟩) (by rintro ⟨⟩)
  all_goals exact sound.idle nonce _ rfl rfl rfl

theorem LockVolume.Sound.abandon_fair (moves : volume.abandon object.phase = some move) :
    volume.Fair nonce move := by
  have released : move = (volume.marker, .releasing) := by
    cases phase : object.phase <;> rw [phase] at moves <;> cases moves <;> rfl
  rw [released]
  exact sound.idle nonce .releasing rfl rfl rfl

end

theorem LockVolume.runs_of_advance {staleLockSeconds : Nat} {pid : Pid}
    (moves : volume.advance staleLockSeconds nonce pid phase = some move) :
    phase.runs = true := by
  cases phase <;> first | rfl | cases moves

theorem LockVolume.runs_of_balk (moves : volume.balk phase = some move) : phase.runs = true := by
  cases phase <;> first | rfl | cases moves

theorem LockVolume.runs_of_abandon
    (moves : volume.abandon phase = some move) : phase.runs = true := by
  cases phase <;> first | rfl | cases moves

@[simp] theorem LockObject.crash_pid (pid : Pid) (object : LockObject) :
    (object.crash pid).pid = object.pid := by
  unfold crash
  split <;> rfl

theorem LockObject.crash_phase (pid : Pid) (object : LockObject) :
    (object.crash pid).phase = object.phase ∧ (object.pid = pid → object.phase = .left) ∨
      (object.crash pid).phase = .crashed := by
  unfold crash
  split
  · exact .inr rfl
  · next stays =>
    refine .inl ⟨rfl, ?_⟩
    intro same
    by_contra other
    exact stays ⟨same, other⟩

theorem LockVolume.Sound.crash (sound : volume.Sound) (pid : Pid) :
    LockVolume.Sound { volume with
      processes := volume.processes.filter (· ≠ pid)
      objects := volume.objects.updateAll fun _ object => object.crash pid } := by
  have stamped : ∀ file, volume.Stamped file → LockVolume.Stamped { volume with
      processes := volume.processes.filter (· ≠ pid)
      objects := volume.objects.updateAll fun _ object => object.crash pid } file := by
    intro file holds metadata written
    obtain ⟨same, object, found, named⟩ := holds metadata written
    refine ⟨same, object.crash pid, ?_, ?_⟩
    · rw [Table.lookup_updateAll, found, Option.map_some]
    · rw [LockObject.crash_pid, named]
  constructor
  · intro nonce object found runs
    rw [Table.lookup_updateAll, Option.map_eq_some_iff] at found
    obtain ⟨before, stored, rfl⟩ := found
    rcases before.crash_phase pid with ⟨same, spared⟩ | gone
    · rw [same] at runs
      rw [LockObject.crash_pid, List.mem_filter]
      refine ⟨sound.live nonce before stored runs, ?_⟩
      rw [decide_eq_true_eq]
      intro isCrashed
      rw [spared isCrashed] at runs
      cases runs
    · rw [gone] at runs
      cases runs
  · intro file present
    exact stamped file (sound.marked file present)
  · intro nonce object file found goesBy
    rw [Table.lookup_updateAll, Option.map_eq_some_iff] at found
    obtain ⟨before, stored, rfl⟩ := found
    rcases before.crash_phase pid with ⟨same, -⟩ | gone
    · rw [same] at goesBy
      exact stamped file (sound.judged nonce before file stored goesBy)
    · rw [gone] at goesBy
      cases goesBy
  · intro nonce object file metadata found condemned readable
    rw [Table.lookup_updateAll, Option.map_eq_some_iff] at found
    obtain ⟨before, stored, rfl⟩ := found
    rcases before.crash_phase pid with ⟨same, -⟩ | gone
    · rw [same] at condemned
      obtain ⟨owner, lookup, stopped⟩ := sound.dead nonce before file metadata stored condemned
        readable
      refine ⟨owner.crash pid, ?_, ?_⟩
      · rw [Table.lookup_updateAll, lookup, Option.map_some]
      · rcases owner.crash_phase pid with ⟨unmoved, -⟩ | crashed
        · rw [unmoved]
          exact stopped
        · rw [crashed]
          rfl
    · rw [gone] at condemned
      cases condemned
  · intro nonce object found keeps
    rw [Table.lookup_updateAll, Option.map_eq_some_iff] at found
    obtain ⟨before, stored, rfl⟩ := found
    rcases before.crash_phase pid with ⟨same, -⟩ | gone
    · rw [same] at keeps
      exact sound.kept nonce before stored keeps
    · rw [gone] at keeps
      cases keeps

theorem LockVolume.Sound.construct (sound : volume.Sound) (pid : Pid) (nonce : LockNonce)
    (isLive : pid ∈ volume.processes) (isNew : volume.objects.lookup nonce = none) :
    LockVolume.Sound { volume with objects := volume.objects.insert nonce ⟨pid, .opening⟩ } := by
  have keeps : ∀ other object, volume.objects.lookup other = some object →
      (volume.objects.insert nonce ⟨pid, .opening⟩).lookup other = some object := by
    intro other object found
    rw [Table.lookup_insert_eq, if_neg, found]
    rintro rfl
    rw [isNew] at found
    cases found
  have stamped : ∀ file, volume.Stamped file → LockVolume.Stamped
      { volume with objects := volume.objects.insert nonce ⟨pid, .opening⟩ } file := by
    intro file holds metadata written
    obtain ⟨same, object, found, named⟩ := holds metadata written
    exact ⟨same, object, keeps _ object found, named⟩
  constructor
  · intro other object found runs
    obtain ⟨_, rfl⟩ | ⟨_, found⟩ := Table.cases_insert found
    · exact isLive
    · exact sound.live other object found runs
  · intro file present
    exact stamped file (sound.marked file present)
  · intro other object file found goesBy
    obtain ⟨_, rfl⟩ | ⟨_, found⟩ := Table.cases_insert found
    · cases goesBy
    · exact stamped file (sound.judged other object file found goesBy)
  · intro other object file metadata found condemned readable
    obtain ⟨_, rfl⟩ | ⟨_, found⟩ := Table.cases_insert found
    · cases condemned
    · obtain ⟨owner, lookup, stopped⟩ := sound.dead other object file metadata found condemned
        readable
      exact ⟨owner, keeps _ owner lookup, stopped⟩
  · intro other object found kept
    obtain ⟨_, rfl⟩ | ⟨_, found⟩ := Table.cases_insert found
    · cases kept
    · exact sound.kept other object found kept

theorem LockVolume.Sound.apply (staleLockSeconds : Nat) (call : LockCall) (sound : volume.Sound)
    (spares : volume.spares call = true)
    (success : LockVolume.apply staleLockSeconds call volume = .ok ((), next)) : next.Sound := by
  cases call with
  | spawn pid =>
    cases success
    refine ⟨?_, sound.marked, sound.judged, sound.dead, sound.kept⟩
    intro nonce object found runs
    exact List.mem_cons_of_mem pid (sound.live nonce object found runs)
  | crash pid =>
    cases success
    exact sound.crash pid
  | clock =>
    cases success
    exact ⟨sound.live, sound.marked, sound.judged, sound.dead, sound.kept⟩
  | construct pid nonce =>
    rw [LockVolume.apply] at success
    split at success
    · cases success
    · next isLive =>
      split at success
      · cases success
      · next isNew =>
        cases success
        exact sound.construct pid nonce (not_not.mp isLive) (by simpa using isNew)
  | advance nonce =>
    obtain ⟨_, _, found, moves, rfl⟩ :=
      (LockVolume.moving_eq_ok volume next nonce _ ()).mp success
    exact sound.put found (LockVolume.runs_of_advance moves)
      (sound.advance_fair staleLockSeconds found spares moves)
  | balk nonce =>
    obtain ⟨_, _, found, moves, rfl⟩ :=
      (LockVolume.moving_eq_ok volume next nonce _ ()).mp success
    exact sound.put found (LockVolume.runs_of_balk moves) (sound.balk_fair moves)
  | abandon nonce =>
    obtain ⟨_, _, found, moves, rfl⟩ :=
      (LockVolume.moving_eq_ok volume next nonce _ ()).mp success
    exact sound.put found (LockVolume.runs_of_abandon moves) (sound.abandon_fair moves)

/-! ## Exclusion -/

def LockVolume.Exclusive (volume : LockVolume) : Prop :=
  ∀ first second, volume.Holds first → volume.Holds second → first = second

/-- A release that is about to unlink the name finds its own file there. -/
def LockVolume.ReleasesOwn (volume : LockVolume) : Prop :=
  ∀ nonce object file, volume.objects.lookup nonce = some object → object.phase = .dropping →
    volume.marker = some file → file.creator = nonce

theorem LockVolume.Sound.marker_of_holds (sound : volume.Sound)
    (holds : volume.Holds nonce) : ∃ file, volume.marker = some file ∧ file.creator = nonce := by
  obtain ⟨object, found, phase⟩ := Option.map_eq_some_iff.mp holds
  exact sound.kept nonce object found (by rw [phase]; rfl)

theorem LockVolume.Sound.exclusive (sound : volume.Sound) : volume.Exclusive := by
  intro first second holdsFirst holdsSecond
  obtain ⟨_, present, rfl⟩ := sound.marker_of_holds holdsFirst
  obtain ⟨_, isPresent, rfl⟩ := sound.marker_of_holds holdsSecond
  cases present.symm.trans isPresent
  rfl

theorem LockVolume.Sound.releasesOwn (sound : volume.Sound) : volume.ReleasesOwn := by
  intro nonce object file found phase present
  obtain ⟨_, isPresent, same⟩ := sound.kept nonce object found (by rw [phase]; rfl)
  cases present.symm.trans isPresent
  exact same

/-! ## Every run -/

theorem profile_lock_exclusion (staleLockSeconds : Nat) (calls : List LockCall)
    (spared : Run.Meets (LockVolume.apply staleLockSeconds)
      (fun volume call => volume.spares call = true) .fresh calls) :
    (Run.run (LockVolume.apply staleLockSeconds) .fresh calls).Exclusive ∧
      (Run.run (LockVolume.apply staleLockSeconds) .fresh calls).ReleasesOwn := by
  have sound : (Run.run (LockVolume.apply staleLockSeconds) .fresh calls).Sound := by
    refine Run.invariant_where _ LockVolume.Sound ?_ .fresh calls LockVolume.fresh_sound spared
    intro volume call reply next spares sound success
    exact sound.apply staleLockSeconds call spares success
  exact ⟨sound.exclusive, sound.releasesOwn⟩

def abandonedLock : List LockCall :=
  [.spawn 1, .construct 1 10, .advance 10, .advance 10, .advance 10, .crash 1, .clock 1000]

/-- A waiter goes from its refused create to the unlink it has decided on. -/
def condemning (nonce : LockNonce) : List LockCall :=
  List.replicate 6 (.advance nonce)

/-- A waiter unlinks, creates the file, writes it and enters. -/
def stealing (nonce : LockNonce) : List LockCall :=
  List.replicate 5 (.advance nonce)

theorem abandoned_lock_is_taken_over :
    (Run.run (LockVolume.apply 60) .fresh (abandonedLock ++ [.spawn 2, .construct 2 20] ++
      condemning 20 ++ stealing 20)).Exclusive ∧
    (Run.run (LockVolume.apply 60) .fresh (abandonedLock ++ [.spawn 2, .construct 2 20] ++
      condemning 20 ++ stealing 20)).ReleasesOwn :=
  profile_lock_exclusion 60 _ (by decide +kernel)

theorem abandoned_lock_is_taken_twice :
    ¬ ∀ (staleLockSeconds : Nat) (calls : List LockCall),
      (Run.run (LockVolume.apply staleLockSeconds) .fresh calls).Exclusive ∧
        (Run.run (LockVolume.apply staleLockSeconds) .fresh calls).ReleasesOwn := by
  intro always
  have exclusive := (always 60 (abandonedLock ++
    [.spawn 2, .construct 2 20, .spawn 3, .construct 3 30] ++ condemning 20 ++ condemning 30 ++
    stealing 20 ++ stealing 30)).1
  have same : 20 = 30 := exclusive 20 30 (by decide +kernel) (by decide +kernel)
  omega

end Foundry
