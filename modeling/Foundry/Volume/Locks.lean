import Foundry.Lib.Run
import Foundry.Lib.Table

/-!
# The lock file of a profile

`_ProfileLock` of `profile_store.py`.  A lock object works through its calls to the file
system one at a time, and the calls of different objects interleave freely: other processes
run, crash and start between any two of them.  The state is the file under the lock's name,
the clock, the live processes, and where each lock object stands in its code.
-/

set_option autoImplicit false

namespace Foundry

/-- `self.owner`, the 24 hexadecimal digits of `secrets.token_hex(12)`. -/
abbrev LockNonce := Nat

abbrev Pid := Nat

structure LockMetadata where
  pid : Pid
  nonce : LockNonce
deriving DecidableEq, Repr

/-- A lock file.  It is empty from its exclusive create to its one write.  `creator` is the
lock object whose create made it, and tells one file under the name from the next. -/
structure LockFile where
  creator : LockNonce
  metadata : Option LockMetadata
  mtime : Nat
deriving DecidableEq, Repr

/-- `_read_lock_metadata` of the opened file. -/
def LockFile.readable (file : LockFile) : Option LockMetadata :=
  file.metadata.filter fun metadata => 0 < metadata.pid && metadata.pid ≤ 0xFFFFFFFF

inductive LockPhase where
  /-- `os.open` with `O_CREAT | O_EXCL`. -/
  | opening
  /-- `os.write` to the descriptor of its new file. -/
  | writing
  /-- `os.fsync`, `os.close` and `os.chmod`. -/
  | syncing
  /-- The body of the `with` statement. -/
  | holding
  /-- `_lstat` of the file that was in the way. -/
  | refused
  /-- `time.time()`, to be compared with the file's `mtime`. -/
  | dated (mtime : Nat)
  /-- `_read_lock_metadata`. -/
  | measured (aged : Bool)
  /-- `_process_is_alive` of the process that the file names. -/
  | inspected (aged : Bool) (judged : Option LockFile)
  /-- `_is_regular_file`. -/
  | doubted (judged : Option LockFile)
  /-- `unlink` of the name. -/
  | condemned (judged : Option LockFile)
  /-- The deadline, then the loop again. -/
  | waiting
  /-- `_read_lock_metadata` of `release`. -/
  | releasing
  /-- `unlink` of `release`. -/
  | dropping
  | left
  | crashed
deriving DecidableEq, Repr

structure LockObject where
  pid : Pid
  phase : LockPhase
deriving DecidableEq, Repr

structure LockVolume where
  marker : Option LockFile
  now : Nat
  processes : List Pid
  objects : Table LockNonce LockObject

def LockVolume.fresh : LockVolume where
  marker := none
  now := 0
  processes := []
  objects := ∅

/-- `os.write` goes to the file the descriptor was opened on, which the name may have left. -/
def LockFile.stamp (nonce : LockNonce) (pid : Pid) (now : Nat) (file : LockFile) : LockFile :=
  if file.creator = nonce then { file with metadata := some ⟨pid, nonce⟩, mtime := now } else file

/-- What a call leaves under the name, and what its object does next. -/
abbrev LockMove := Option LockFile × LockPhase

def LockVolume.advance (staleLockSeconds : Nat) (volume : LockVolume) (nonce : LockNonce)
    (pid : Pid) : LockPhase → Option LockMove
  | .opening =>
    match volume.marker with
    | none => some (some ⟨nonce, none, volume.now⟩, .writing)
    | some file => some (some file, .refused)
  | .writing => some (volume.marker.map (LockFile.stamp nonce pid volume.now), .syncing)
  | .syncing => some (volume.marker, .holding)
  | .holding => some (volume.marker, .releasing)
  | .refused =>
    match volume.marker with
    | none => some (none, .waiting)
    | some file => some (some file, .dated file.mtime)
  | .dated mtime =>
    some (volume.marker, .measured (decide (staleLockSeconds < volume.now - mtime)))
  | .measured aged => some (volume.marker, .inspected aged volume.marker)
  | .inspected aged judged =>
    let ownerIsAlive := (judged.bind LockFile.readable).any fun metadata =>
      decide (metadata.pid ∈ volume.processes)
    if aged && !ownerIsAlive then some (volume.marker, .doubted judged)
    else some (volume.marker, .waiting)
  | .doubted judged =>
    if volume.marker.isSome then some (volume.marker, .condemned judged)
    else some (volume.marker, .waiting)
  | .condemned _ => some (none, .waiting)
  | .waiting => some (volume.marker, .opening)
  | .releasing =>
    if volume.marker.bind LockFile.readable = some ⟨pid, nonce⟩ then
      some (volume.marker, .dropping)
    else some (volume.marker, .left)
  | .dropping => some (none, .left)
  | .left | .crashed => none

/-- The next call fails with an `OSError` that the code catches and steps over. -/
def LockVolume.balk (volume : LockVolume) : LockPhase → Option LockMove
  | .measured aged => some (volume.marker, .inspected aged none)
  | .condemned _ => some (volume.marker, .waiting)
  | .releasing | .dropping => some (volume.marker, .left)
  | _ => none

/-- The next call raises out of `_acquire_file` or out of the body: the deadline has passed,
or an `OSError` is not caught.  The `finally` clause releases the lock. -/
def LockVolume.abandon (volume : LockVolume) : LockPhase → Option LockMove
  | .releasing | .dropping | .left | .crashed => none
  | _ => some (volume.marker, .releasing)

def LockVolume.put (volume : LockVolume) (nonce : LockNonce) (object : LockObject)
    (move : LockMove) : LockVolume :=
  { volume with
    marker := move.1
    objects := volume.objects.insert nonce { object with phase := move.2 } }

/-- A crash ends every lock object of the process where it stands. -/
def LockObject.crash (pid : Pid) (object : LockObject) : LockObject :=
  if object.pid = pid ∧ object.phase ≠ .left then { object with phase := .crashed } else object

inductive LockCall where
  | spawn (pid : Pid)
  | crash (pid : Pid)
  | clock (now : Nat)
  | construct (pid : Pid) (nonce : LockNonce)
  | advance (nonce : LockNonce)
  | balk (nonce : LockNonce)
  | abandon (nonce : LockNonce)
deriving DecidableEq, Repr

inductive LockCallError where
  | noProcess
  | nonceInUse
  | noCall
deriving DecidableEq, Repr

def LockVolume.moving (volume : LockVolume) (nonce : LockNonce)
    (move : LockObject → Option LockMove) : Except LockCallError (Unit × LockVolume) :=
  match volume.objects.lookup nonce with
  | none => .error .noCall
  | some object =>
    match move object with
    | none => .error .noCall
    | some moved => .ok ((), volume.put nonce object moved)

def LockVolume.apply (staleLockSeconds : Nat) :
    LockCall → LockVolume → Except LockCallError (Unit × LockVolume)
  | .spawn pid, volume => .ok ((), { volume with processes := pid :: volume.processes })
  | .crash pid, volume =>
    .ok ((), { volume with
      processes := volume.processes.filter (· ≠ pid)
      objects := volume.objects.updateAll fun _ object => object.crash pid })
  | .clock now, volume => .ok ((), { volume with now })
  | .construct pid nonce, volume =>
    if pid ∉ volume.processes then .error .noProcess
    else if (volume.objects.lookup nonce).isSome then .error .nonceInUse
    else .ok ((), { volume with objects := volume.objects.insert nonce ⟨pid, .opening⟩ })
  | .advance nonce, volume =>
    volume.moving nonce fun object =>
      volume.advance staleLockSeconds nonce object.pid object.phase
  | .balk nonce, volume => volume.moving nonce fun object => volume.balk object.phase
  | .abandon nonce, volume => volume.moving nonce fun object => volume.abandon object.phase

/-! ## Who has the lock -/

/-- A live process is inside the body of the lock object's `with` statement. -/
def LockVolume.Holds (volume : LockVolume) (nonce : LockNonce) : Prop :=
  (volume.objects.lookup nonce).map LockObject.phase = some .holding

instance (volume : LockVolume) (nonce : LockNonce) : Decidable (volume.Holds nonce) :=
  inferInstanceAs (Decidable (_ = _))

/-- The object has made the lock file and has not yet given it up. -/
def LockPhase.keeps : LockPhase → Bool
  | .writing | .syncing | .holding | .dropping => true
  | _ => false

def LockVolume.InUse (volume : LockVolume) (nonce : LockNonce) : Prop :=
  ∃ object, volume.objects.lookup nonce = some object ∧ object.phase.keeps = true

/-! ## Calls as moves -/

theorem LockVolume.moving_eq_ok (volume next : LockVolume) (nonce : LockNonce)
    (move : LockObject → Option LockMove) (reply : Unit) :
    volume.moving nonce move = .ok (reply, next) ↔
      ∃ object moved, volume.objects.lookup nonce = some object ∧ move object = some moved ∧
        next = volume.put nonce object moved := by
  unfold moving
  cases found : volume.objects.lookup nonce with
  | none => simp
  | some object =>
    cases result : move object with
    | none => simp [result]
    | some moved =>
      simp only [result, Except.ok.injEq, Prod.mk.injEq, true_and]
      constructor
      · rintro rfl
        exact ⟨object, moved, rfl, result, rfl⟩
      · rintro ⟨_, _, same, moves, rfl⟩
        cases same
        cases result.symm.trans moves
        rfl

@[simp] theorem LockVolume.put_marker (volume : LockVolume) (nonce : LockNonce)
    (object : LockObject) (move : LockMove) : (volume.put nonce object move).marker = move.1 := rfl

@[simp] theorem LockVolume.put_processes (volume : LockVolume) (nonce : LockNonce)
    (object : LockObject) (move : LockMove) :
    (volume.put nonce object move).processes = volume.processes := rfl

theorem LockVolume.lookup_put (volume : LockVolume) (nonce other : LockNonce)
    (object : LockObject) (move : LockMove) :
    (volume.put nonce object move).objects.lookup other =
      if other = nonce then some ⟨object.pid, move.2⟩ else volume.objects.lookup other :=
  Table.lookup_insert_eq volume.objects nonce other _

end Foundry
