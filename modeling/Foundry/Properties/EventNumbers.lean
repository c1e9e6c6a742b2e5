import Foundry.Evolution.Posts
import Foundry.Properties.Events

/-!
# The numbers of a claim's events

The worker numbers the events of an attempt, and any of its requests may be refused, lose
its response or arrive late.
-/

set_option autoImplicit false

namespace Foundry

variable {D : Type}

/-! ## The attempt -/

/-- The events are numbered from 1 without a gap, and a terminal one is the last. -/
structure Attempt.InOrder (attempt : Attempt D) : Prop where
  numbered : Log.Numbered ExecutionEvent.sequence attempt.events
  finality : attempt.Finality

/-- The last event is a failure that left out the number before it. -/
structure Attempt.Skipped (attempt : Attempt D) : Prop where
  finality : attempt.Finality
  skips : ∃ before event, attempt.events = before ++ [event] ∧
    Log.Numbered ExecutionEvent.sequence before ∧
    event.sequence = before.length + 2 ∧ event.eventType = .failed

/-- What is in order stays in order, and nothing follows a skipped number. -/
structure Attempt.Follows (attempt later : Attempt D) : Prop where
  inOrder : attempt.InOrder → later.InOrder ∧ attempt.events.length ≤ later.events.length
  skipped : attempt.Skipped → later.Skipped

theorem Attempt.Follows.refl (attempt : Attempt D) : attempt.Follows attempt :=
  ⟨fun inOrder => ⟨inOrder, Nat.le_refl _⟩, fun skipped => skipped⟩

theorem Attempt.Follows.trans {first second third : Attempt D} (earlier : first.Follows second)
    (later : second.Follows third) : first.Follows third := by
  refine ⟨?_, fun skipped => later.skipped (earlier.skipped skipped)⟩
  intro inOrder
  obtain ⟨middle, before⟩ := earlier.inOrder inOrder
  obtain ⟨last, after⟩ := later.inOrder middle
  exact ⟨last, Nat.le_trans before after⟩

variable {attempt : Attempt D}

theorem Attempt.InOrder.latestSequence (inOrder : attempt.InOrder) :
    attempt.latestSequence = attempt.events.length :=
  inOrder.numbered.foldr_max

variable {later : Attempt D}

theorem Attempt.InOrder.stores {sequence : Nat}
    {event : ExecutionEvent D} (inOrder : attempt.InOrder)
    (stores : attempt.Stores sequence later event)
    (reached : sequence ≤ attempt.events.length + 1) :
    later.InOrder ∧ later.events.length = sequence := by
  have above := stores.above
  rw [inOrder.latestSequence] at above
  have next : event.sequence = attempt.events.length + 1 := by
    rw [stores.number]
    omega
  refine ⟨⟨?_, ?_⟩, ?_⟩
  · rw [stores.grown]
    exact inOrder.numbered.snoc next
  · exact (inOrder.finality.snoc event stores.grown stores.isOpen stores.closes stores.reserved).1
  · rw [stores.grown, List.length_append, List.length_singleton]
    omega

theorem Attempt.Finality.keeps (finality : attempt.Finality)
    (keeps : attempt.Keeps later) : later.Finality := by
  refine ⟨?_, ?_, ?_⟩
  · rw [keeps.events]
    exact finality.sealed
  · intro event member ending
    rw [keeps.events] at member
    exact keeps.closed (finality.closed event member ending)
  · intro event member last
    rw [keeps.events] at member
    exact finality.reserved event member last

theorem Attempt.InOrder.keeps (inOrder : attempt.InOrder)
    (keeps : attempt.Keeps later) : later.InOrder :=
  ⟨keeps.events ▸ inOrder.numbered, inOrder.finality.keeps keeps⟩

theorem Attempt.Skipped.keeps (skipped : attempt.Skipped)
    (keeps : attempt.Keeps later) : later.Skipped :=
  ⟨skipped.finality.keeps keeps, keeps.events ▸ skipped.skips⟩

theorem Attempt.Skipped.closed (skipped : attempt.Skipped) :
    attempt.status.isOpen = false := by
  obtain ⟨before, event, grown, _, _, kind⟩ := skipped.skips
  refine skipped.finality.closed event ?_ ?_
  · rw [grown]
    exact List.mem_append_right _ (List.mem_singleton_self _)
  · rw [ExecutionEvent.isEnding, kind]
    rfl

section

variable {attempt later : Attempt D} {sequence : Nat}

theorem Attempt.InOrder.posted
    (inOrder : attempt.InOrder) (posted : attempt.Posted sequence later)
    (reached : sequence ≤ attempt.events.length + 1) :
    later.InOrder ∧ attempt.events.length ≤ later.events.length ∧
      sequence ≤ later.events.length := by
  rcases posted with ⟨keeps, event, member, number⟩ | ⟨event, stores⟩
  · have bounds := inOrder.numbered.mem member
    have same := congrArg List.length keeps.events
    exact ⟨inOrder.keeps keeps, by omega, by omega⟩
  · obtain ⟨ordered, length⟩ := inOrder.stores stores reached
    have grown := congrArg List.length stores.grown
    rw [List.length_append, List.length_singleton] at grown
    exact ⟨ordered, by omega, by omega⟩

variable {kind : EventType}

theorem Attempt.InOrder.ended
    (inOrder : attempt.InOrder) (ended : attempt.Ended sequence kind later)
    (reached : sequence ≤ attempt.events.length + 1) :
    later.InOrder ∧ attempt.events.length ≤ later.events.length := by
  rcases ended with keeps | ⟨event, stores, _⟩
  · have same := congrArg List.length keeps.events
    exact ⟨inOrder.keeps keeps, by omega⟩
  · obtain ⟨ordered, length⟩ := inOrder.stores stores reached
    have grown := congrArg List.length stores.grown
    rw [List.length_append, List.length_singleton] at grown
    exact ⟨ordered, by omega⟩

theorem Attempt.InOrder.reported
    (inOrder : attempt.InOrder) (ended : attempt.Ended sequence .failed later)
    (reached : sequence ≤ attempt.events.length + 2) :
    (later.InOrder ∧ attempt.events.length ≤ later.events.length) ∨ later.Skipped := by
  by_cases next : sequence ≤ attempt.events.length + 1
  · exact .inl (inOrder.ended ended next)
  · rcases ended with keeps | ⟨event, stores, kind⟩
    · have same := congrArg List.length keeps.events
      exact .inl ⟨inOrder.keeps keeps, by omega⟩
    · refine .inr ⟨?_, attempt.events, event, stores.grown, inOrder.numbered, ?_, kind⟩
      · exact (inOrder.finality.snoc event stores.grown stores.isOpen stores.closes
          stores.reserved).1
      · rw [stores.number]
        omega

theorem Attempt.Skipped.posted
    (skipped : attempt.Skipped) (posted : attempt.Posted sequence later) : later.Skipped := by
  rcases posted with ⟨keeps, _⟩ | ⟨event, stores⟩
  · exact skipped.keeps keeps
  · have isOpen := stores.isOpen
    rw [skipped.closed] at isOpen
    cases isOpen

theorem Attempt.Skipped.ended
    (skipped : attempt.Skipped) (ended : attempt.Ended sequence kind later) : later.Skipped := by
  rcases ended with keeps | ⟨event, stores, _⟩
  · exact skipped.keeps keeps
  · have isOpen := stores.isOpen
    rw [skipped.closed] at isOpen
    cases isOpen

end

section Calls

variable [DecidableEq D] {env : Env D} {call : Call D} {db : Db D} {id : Uuid}
  {execution : Execution D}

theorem Move.follows {number : Nat} {status : ExecutionStatus}
    {routine : Option RoutineExecution}
    (move : Move env call db id execution number attempt later status routine)
    (ordinary : execution.routine = none) (silent : call.operation.posts = none) :
    attempt.Follows later := by
  have closes : attempt.status.isOpen = false → later.status.isOpen = false :=
    fun closed => move.stays_not_open ordinary closed
  have still : later.events = attempt.events → attempt.Follows later := by
    intro same
    refine ⟨fun inOrder => ⟨inOrder.keeps ⟨same, closes⟩, by rw [same]⟩, ?_⟩
    exact fun skipped => skipped.keeps ⟨same, closes⟩
  cases move with
  | append _ _ service | finish _ _ _ _ _ _ service =>
    cases operation : call.operation <;> rw [operation] at service silent <;>
      simp [Operation.service, Operation.posts] at service silent
  | retire _ _ _ failure _ _ _ _ isOpen _ appends =>
    rcases failure with _ | _ | event
    · exact still rfl
    · exact still rfl
    · have expiry := appends event rfl
      refine ⟨?_, ?_⟩
      · intro inOrder
        have next := expiry.next
        rw [inOrder.latestSequence] at next
        refine inOrder.ended (.inr ⟨event, ⟨rfl, rfl, expiry.toNewEvent.later, isOpen, ?_, ?_⟩,
          expiry.kind⟩) (Nat.le_of_eq next)
        · intro _
          rfl
        · intro _
          rw [expiry.kind]
          rfl
      · intro skipped
        rw [skipped.closed] at isOpen
        cases isOpen
  | requestApproval _ _ _ _ _ current | retireRoutine _ _ _ _ _ _ current
  | stopRoutine _ _ _ _ _ _ _ _ _ _ _ current | record _ _ _ _ _ current
  | recordSealed _ _ _ _ _ _ _ _ current | endWait _ _ _ _ _ _ current
  | cleanupRoutine _ _ _ _ _ _ current => exact absurd ordinary (routine_ne_none current)
  | renew | mutate | bindSession | bindRoutineSession | stop | sealReplay | approve | fence
  | requeue | requeueRoutine | close | cleanup | resume | abandon => exact still rfl

theorem Change.follows {next : Execution D} (change : Change env call db id execution next)
    (silent : call.operation.posts = none) (ordinary : execution.routine = none) :
    next.routine = none ∧ execution.AttemptsContinue Attempt.Follows next := by
  refine ⟨change.routine_eq_none_iff.mpr ordinary, ?_⟩
  refine change.attemptsContinue _ Attempt.Follows.refl (fun attempt profile => ?_) ?_
  · have keeps : attempt.Keeps (attempt.stopLease profile) := ⟨rfl, fun closed => closed⟩
    exact ⟨fun inOrder => ⟨inOrder.keeps keeps, Nat.le_refl _⟩,
      fun skipped => skipped.keeps keeps⟩
  · intro number attempt later status routine found move
    exact move.follows ordinary silent

variable (env)

theorem step_drawn (call : Call D) (db : Db D) (key : Nat) (numbered : db.population.Numbered)
    (drawn : key < db.supply) :
    (step env db call).population.Numbered ∧ key < (step env db call).supply := by
  rcases Run.step_cases (apply env) db call with ⟨answer, next, success, same⟩ | same
  · have evolves := (apply_evolution env call db next answer success).units
    rw [step, same]
    exact ⟨evolves.numbered numbered, Nat.lt_of_lt_of_le drawn evolves.supply⟩
  · rw [step, same]
    exact ⟨numbered, drawn⟩

theorem run_drawn (calls : List (Call D)) (db : Db D) (key : Nat)
    (numbered : db.population.Numbered) (drawn : key < db.supply) :
    (run env db calls).population.Numbered ∧ key < (run env db calls).supply := by
  induction calls generalizing db with
  | nil => exact ⟨numbered, drawn⟩
  | cons call _ ih =>
    obtain ⟨kept, still⟩ := step_drawn env call db key numbered drawn
    exact ih (step env db call) kept still

theorem step_attemptIs (call : Call D) (db : Db D) (target : AttemptId)
    (Good : Attempt D → Prop)
    (closed : ∀ attempt later, Good attempt → attempt.Follows later → Good later)
    (drawn : target.execution < db.supply) (good : db.AttemptIs target Good) (other : call.operation.posts ≠ some target) :
    (step env db call).AttemptIs target Good := by
  rcases Run.step_cases (apply env) db call with ⟨answer, next, success, same⟩ | same
  · rw [step, same]
    cases posts : call.operation.posts with
    | none =>
      intro later isLater
      obtain ⟨former, found, follows⟩ :=
        (apply_evolution env call db next answer success).units.relates (fun _ _ => True)
          (fun _ former later => former.routine = none →
            later.routine = none ∧ former.AttemptsContinue Attempt.Follows later)
          (fun _ execution ordinary => ⟨ordinary, .refl Attempt.Follows.refl execution⟩)
          (fun earlier later ordinary => by
            obtain ⟨middle, before⟩ := earlier ordinary
            obtain ⟨last, after⟩ := later middle
            exact ⟨last, .trans (fun first second => first.trans second) before after⟩)
          (fun _ execution next _ change => ⟨trivial, change.follows posts⟩)
          (fun _ _ _ => trivial) target.execution later drawn isLater
      obtain ⟨ordinary, attempt, isAttempt, holds⟩ := good former found
      obtain ⟨stays, continues⟩ := follows ordinary
      obtain ⟨last, isLast, after⟩ := continues target.number attempt isAttempt
      exact ⟨stays, last, isLast, closed attempt last holds after⟩
    | some posted =>
      rw [posts] at other
      have different : target ≠ posted := by
        rintro rfl
        exact other rfl
      obtain ⟨now, operation⟩ := call
      cases operation <;> simp only [Operation.posts, Option.some.injEq, reduceCtorEq] at posts
      all_goals
        subst posts
        simp only [apply, reply_eq_ok] at success
        obtain ⟨value, success, _⟩ := success
      case appendRuntimeEvent =>
        exact (appendRuntimeEvent_posted env now _ _ _ db next _ value success).attemptIs_of_ne
          good different
      case completeAttempt =>
        exact (completeAttempt_posted env now _ _ _ db next _ _ value success).attemptIs_of_ne
          good different
      case failAttempt =>
        exact (failAttempt_posted env now _ _ _ db next _ _ value success).attemptIs_of_ne
          good different
  · rw [step, same]
    exact good

end Calls

/-! ## The numbers sent -/

/-- A completion and the report of its refusal, both in the reserved slot. -/
def Post.ReplacedBy (completion report : Post) : Prop :=
  ∃ content code, completion = .complete maxTerminalSequence content ∧
    report = .fail maxTerminalSequence code

def Post.Agrees (first second : Post) : Prop :=
  first.sequence = second.sequence →
    first = second ∨ first.ReplacedBy second ∨ second.ReplacedBy first

/-- Nothing was reported yet, and the numbers are at most the last one. -/
structure ClaimRun.Counts (run : ClaimRun) (sent : List Post) (limit : Nat) : Prop where
  below : ∀ post ∈ sent, post.sequence ≤ run.sequence
  events : ∀ post ∈ sent, (∃ sequence payload, post = .event sequence payload) ∨
    ∃ sequence completion, post = .complete sequence completion
  limited : run.sequence ≤ limit

def ClaimRun.Stands (run : ClaimRun) (sent : List Post) : Prop :=
  match run.point with
  | .preparing => run.Counts sent 0
  | .streaming | .stopping _ .body => run.Counts sent maxRuntimeEventSequence
  | .awaiting (.event sequence payload) _ =>
    Post.event sequence payload ∈ sent ∧ sequence = run.sequence ∧
      run.Counts sent maxRuntimeEventSequence
  | .awaiting (.complete sequence completion) _ =>
    Post.complete sequence completion ∈ sent ∧ sequence = run.sequence ∧
      run.Counts sent maxTerminalSequence
  | .awaiting post _ => post ∈ sent
  | .stopping _ .guarded | .stopping _ .handler | .returned => True

structure ClaimRun.Sends (run : ClaimRun) (sent : List Post) : Prop where
  agree : ∀ first ∈ sent, ∀ second ∈ sent, first.Agrees second
  stands : run.Stands sent

theorem Post.Agrees.refl (post : Post) : post.Agrees post := fun _ => .inl rfl

theorem Post.Agrees.symm {first second : Post} (agrees : first.Agrees second) :
    second.Agrees first := by
  intro same
  rcases agrees same.symm with rfl | replaced | replaces
  · exact .inl rfl
  · exact .inr (.inr replaced)
  · exact .inr (.inl replaces)

variable {post : Post}

theorem agree_snoc {sent : List Post}
    (agree : ∀ first ∈ sent, ∀ second ∈ sent, first.Agrees second)
    (fits : ∀ earlier ∈ sent, earlier.Agrees post) :
    ∀ first ∈ sent ++ [post], ∀ second ∈ sent ++ [post], first.Agrees second := by
  intro first isFirst second isSecond
  rw [List.mem_append, List.mem_singleton] at isFirst isSecond
  rcases isFirst with old | rfl <;> rcases isSecond with old' | rfl
  · exact agree first old second old'
  · exact fits first old
  · exact (fits second old').symm
  · exact .refl _

variable {resent : Bool}

namespace ClaimRun

variable {run next : ClaimRun} {sent : List Post}

variable {limit : Nat}

theorem Counts.agrees (counts : run.Counts sent limit) (post : Post)
    (above : run.sequence < post.sequence) : ∀ earlier ∈ sent, earlier.Agrees post := by
  intro earlier member same
  have below := counts.below earlier member
  omega

theorem Counts.snoc {bound : Nat} (counts : run.Counts sent limit) (post : Post)
    (kind : (∃ sequence payload, post = .event sequence payload) ∨
      ∃ sequence completion, post = .complete sequence completion)
    (number : post.sequence = run.sequence + 1) (limited : next.sequence ≤ bound)
    (same : next.sequence = run.sequence + 1) : next.Counts (sent ++ [post]) bound := by
  refine ⟨?_, ?_, limited⟩
  · intro earlier member
    rw [List.mem_append, List.mem_singleton] at member
    rcases member with old | rfl
    · have below := counts.below earlier old
      omega
    · omega
  · intro earlier member
    rw [List.mem_append, List.mem_singleton] at member
    rcases member with old | rfl
    · exact counts.events earlier old
    · exact kind

theorem Sends.quiet (sends : run.Sends sent) (silent : run.newPost next = [])
    (stands : next.Stands sent) : next.Sends (sent ++ run.newPost next) := by
  rw [silent, List.append_nil]
  exact ⟨sends.agree, stands⟩

theorem Sends.posts (sends : run.Sends sent) (post : Post) (new : run.newPost next = [post])
    (fits : ∀ earlier ∈ sent, earlier.Agrees post) (stands : next.Stands (sent ++ [post])) :
    next.Sends (sent ++ run.newPost next) := by
  rw [new]
  exact ⟨agree_snoc sends.agree fits, stands⟩

theorem newPost_of_awaiting
    (point : next.point = .awaiting post resent) (other : run.point ≠ .awaiting post resent) :
    run.newPost next = [post] := by
  simp only [newPost, point, other, if_false]

theorem Sends.fallback (sends : run.Sends sent) (error : ClaimError)
    (elsewhere : ∀ sequence code resent, run.point ≠ .awaiting (.fail sequence code) resent)
    (counts : run.Counts sent maxTerminalSequence)
    (reserved : run.sequence = maxTerminalSequence → ∀ earlier ∈ sent,
      earlier.sequence = maxTerminalSequence → ∃ content,
        earlier = .complete maxTerminalSequence content) :
    (run.fallback error).Sends (sent ++ run.newPost (run.fallback error)) := by
  unfold ClaimRun.fallback
  split
  · exact sends.quiet rfl trivial
  · refine sends.posts (.fail (min (max (run.sequence + 1) 1) maxTerminalSequence) error.code)
      (newPost_of_awaiting rfl (elsewhere _ _ _)) ?_ ?_
    · intro earlier member same
      have below := counts.below earlier member
      have limited := counts.limited
      have positive : max (run.sequence + 1) 1 = run.sequence + 1 := Nat.max_eq_left (by omega)
      rw [positive] at same
      change earlier.sequence = min (run.sequence + 1) maxTerminalSequence at same
      by_cases full : run.sequence = maxTerminalSequence
      · have taken : min (run.sequence + 1) maxTerminalSequence = maxTerminalSequence :=
          Nat.min_eq_right (by omega)
        obtain ⟨content, rfl⟩ := reserved full earlier member (same.trans taken)
        rw [positive, taken]
        exact .inr (.inl ⟨content, error.code, rfl, rfl⟩)
      · have free : min (run.sequence + 1) maxTerminalSequence = run.sequence + 1 :=
          Nat.min_eq_left (by omega)
        omega
    · exact List.mem_append_right _ (List.mem_singleton_self _)

theorem Counts.mono {bound : Nat} (counts : run.Counts sent limit) (below : limit ≤ bound) :
    run.Counts sent bound :=
  ⟨counts.below, counts.events, Nat.le_trans counts.limited below⟩

theorem Counts.of_sequence (counts : run.Counts sent limit)
    (same : next.sequence = run.sequence) : next.Counts sent limit := by
  refine ⟨?_, counts.events, ?_⟩
  · rw [same]
    exact counts.below
  · rw [same]
    exact counts.limited

theorem Counts.again (counts : run.Counts sent limit)
    (member : post ∈ sent) (same : next.sequence = run.sequence) :
    next.Counts (sent ++ [post]) limit := by
  have known : ∀ earlier ∈ sent ++ [post], earlier ∈ sent := by
    intro earlier listed
    rw [List.mem_append, List.mem_singleton] at listed
    rcases listed with old | rfl
    · exact old
    · exact member
  refine ⟨?_, fun earlier listed => counts.events earlier (known earlier listed), ?_⟩
  · rw [same]
    exact fun earlier listed => counts.below earlier (known earlier listed)
  · rw [same]
    exact counts.limited

theorem Counts.unreserved (counts : run.Counts sent maxRuntimeEventSequence) :
    run.sequence = maxTerminalSequence → ∀ earlier ∈ sent,
      earlier.sequence = maxTerminalSequence → ∃ content,
        earlier = .complete maxTerminalSequence content := by
  intro full
  have limited := counts.limited
  rw [full] at limited
  exact absurd limited (by decide)

theorem Counts.reserved (counts : run.Counts sent maxTerminalSequence)
    (agree : ∀ first ∈ sent, ∀ second ∈ sent, first.Agrees second) {content : Completion}
    (member : Post.complete run.sequence content ∈ sent) :
    run.sequence = maxTerminalSequence → ∀ earlier ∈ sent,
      earlier.sequence = maxTerminalSequence → ∃ content,
        earlier = .complete maxTerminalSequence content := by
  intro full earlier listed number
  rw [full] at member
  rcases agree earlier listed _ member number with rfl | ⟨other, code, rfl, _⟩ | replaced
  · exact ⟨content, rfl⟩
  · exact ⟨other, rfl⟩
  · obtain ⟨_, code, _, rfl⟩ := replaced
    rcases counts.events _ listed with ⟨_, _, impossible⟩ | ⟨_, _, impossible⟩ <;> cases impossible

theorem Sends.answered (sends : run.Sends sent) (post : Post) (resent : Bool)
    (point : run.point = .awaiting post resent) (answer : Except FoundryError Unit) :
    (run.answered post resent answer).Sends
      (sent ++ run.newPost (run.answered post resent answer)) := by
  have stands := sends.stands
  rw [ClaimRun.Stands, point] at stands
  cases answer with
  | ok =>
    cases post with
    | event => exact sends.quiet rfl (stands.2.2.of_sequence rfl)
    | complete | fail | exhausted => exact sends.quiet rfl trivial
  | error =>
    simp only [ClaimRun.answered]
    split
    · next replay =>
      have again : run.point ≠ .awaiting post true := by
        rw [point, replay.2]
        simp
      have listed : post ∈ sent := by
        cases post with
        | event | complete => exact stands.1
        | fail | exhausted => exact stands
      refine sends.posts post (newPost_of_awaiting rfl again) ?_ ?_
      · exact fun earlier member => sends.agree earlier member post listed
      · cases post with
        | event | complete =>
          exact ⟨List.mem_append_left _ stands.1, stands.2.1, stands.2.2.again stands.1 rfl⟩
        | fail | exhausted => exact List.mem_append_left _ stands
    · cases post with
      | event =>
        simp only [ClaimRun.refused]
        split_ifs
        · exact sends.quiet rfl (stands.2.2.of_sequence rfl)
        · exact sends.quiet rfl trivial
        · refine sends.fallback _ ?_ (stands.2.2.mono (by decide)) stands.2.2.unreserved
          rw [point]
          simp
      | complete =>
        simp only [ClaimRun.refused]
        split_ifs
        · exact sends.quiet rfl trivial
        · obtain ⟨listed, rfl, counts⟩ := stands
          refine sends.fallback _ ?_ counts (counts.reserved sends.agree listed)
          rw [point]
          simp
      | fail =>
        simp only [ClaimRun.refused]
        split_ifs <;> exact sends.quiet rfl trivial
      | exhausted => exact sends.quiet rfl trivial

theorem Stands.lose (stands : run.Stands sent) : run.lose.Stands sent := by
  obtain ⟨point, sequence, lost⟩ := run
  cases point with
  | preparing | streaming => exact Counts.of_sequence stands rfl
  | returned => trivial
  | awaiting post =>
    cases post with
    | event | complete => exact ⟨stands.1, stands.2.1, stands.2.2.of_sequence rfl⟩
    | fail | exhausted => exact stands
  | stopping _ site =>
    cases site with
    | body => exact Counts.of_sequence stands rfl
    | guarded | handler => trivial

theorem Sends.lose (sends : run.Sends sent) :
    run.lose.Sends (sent ++ run.newPost run.lose) := by
  refine sends.quiet ?_ (Stands.lose sends.stands)
  simp only [newPost, ClaimRun.lose]
  split
  · next post resent point => simp [point]
  · rfl

theorem Sends.cancel (sends : run.Sends sent) :
    run.cancel.Sends (sent ++ run.newPost run.cancel) := by
  unfold ClaimRun.cancel
  split <;> exact sends.quiet rfl trivial

theorem Sends.stopAnswered (sends : run.Sends sent) (reason : String) (site : StopSite)
    (point : run.point = .stopping reason site) (answer : Except FoundryError Unit) :
    (run.stopAnswered site answer).Sends
      (sent ++ run.newPost (run.stopAnswered site answer)) := by
  cases answer with
  | ok => exact sends.quiet rfl trivial
  | error =>
    simp only [ClaimRun.stopAnswered]
    split
    · next body =>
      have counts := sends.stands
      rw [ClaimRun.Stands, point, body] at counts
      refine sends.fallback _ ?_ (counts.mono (by decide)) counts.unreserved
      rw [point]
      simp
    · exact sends.quiet rfl trivial

theorem Sends.resume (sends : run.Sends sent) (input : ClaimInput)
    (resumes : run.resume input = some next) : next.Sends (sent ++ run.newPost next) := by
  have stands := sends.stands
  have newNumber : ∀ (limit : Nat) (post : Nat → Post), run.point = .preparing ∨
      run.point = .streaming → run.Counts sent limit → (∀ n, (post n).sequence = n) →
      (run.sendNext post).Stands (sent ++ [post (run.sequence + 1)]) →
      (run.sendNext post).Sends (sent ++ run.newPost (run.sendNext post)) := by
    intro limit post place counts numbers stands
    refine sends.posts (post (run.sequence + 1)) (newPost_of_awaiting rfl ?_)
      (counts.agrees _ ?_) stands
    · rcases place with point | point <;> rw [point] <;> simp
    · rw [numbers]
      exact Nat.lt_succ_self _
  have fallback : ∀ error, run.point = .preparing ∨ run.point = .streaming →
      run.Counts sent maxRuntimeEventSequence →
      (run.fallback error).Sends (sent ++ run.newPost (run.fallback error)) := by
    intro error place counts
    refine sends.fallback error ?_ (counts.mono (by decide)) counts.unreserved
    rcases place with point | point <;> rw [point] <;> simp
  cases point : run.point with
  | returned => cases input <;> simp [ClaimRun.resume, point] at resumes
  | preparing =>
    rw [ClaimRun.Stands, point] at stands
    cases input <;>
      simp only [ClaimRun.resume, point, Option.some.injEq, reduceCtorEq] at resumes <;>
      subst resumes
    case leaseLost => exact sends.lose
    case cancelled => exact sends.cancel
    case bootstrapLost => exact sends.quiet rfl trivial
    case raised error => exact fallback error (.inl point) (stands.mono (Nat.zero_le _))
    case dispatch =>
      refine newNumber _ _ (.inl point) stands (fun _ => rfl) ⟨?_, rfl, ?_⟩
      · exact List.mem_append_right _ (List.mem_singleton_self _)
      · refine stands.snoc _ (.inl ⟨_, _, rfl⟩) rfl ?_ rfl
        have limited := stands.limited
        exact Nat.le_trans (Nat.succ_le_succ limited) (by decide)
  | streaming =>
    rw [ClaimRun.Stands, point] at stands
    cases input <;>
      simp only [ClaimRun.resume, point, Option.some.injEq, reduceCtorEq, Option.ite_none_left_eq_some,
        Option.ite_none_right_eq_some] at resumes
    case leaseLost =>
      subst resumes
      exact sends.lose
    case cancelled =>
      subst resumes
      exact sends.cancel
    case raised error =>
      subst resumes
      exact fallback error (.inr point) stands
    case bindingRepair =>
      subst resumes
      exact sends.quiet rfl (stands.of_sequence rfl)
    case leftStream =>
      obtain ⟨_, rfl⟩ := resumes
      exact sends.quiet rfl (stands.of_sequence rfl)
    case finished completion =>
      obtain ⟨_, rfl⟩ := resumes
      refine newNumber _ _ (.inr point) stands (fun _ => rfl) ⟨?_, rfl, ?_⟩
      · exact List.mem_append_right _ (List.mem_singleton_self _)
      · refine stands.snoc _ (.inr ⟨_, _, rfl⟩) rfl ?_ rfl
        have limited := stands.limited
        exact Nat.succ_le_succ limited
    case streamed payload =>
      obtain ⟨_, resumes⟩ := resumes
      split at resumes
      · next exhausted =>
        obtain rfl := Option.some.inj resumes
        refine sends.posts .exhausted (newPost_of_awaiting rfl ?_) (stands.agrees _ ?_) ?_
        · rw [point]
          simp
        · exact Nat.lt_of_le_of_lt stands.limited (by decide)
        · exact List.mem_append_right _ (List.mem_singleton_self _)
      · next free =>
        obtain rfl := Option.some.inj resumes
        refine newNumber _ _ (.inr point) stands (fun _ => rfl) ⟨?_, rfl, ?_⟩
        · exact List.mem_append_right _ (List.mem_singleton_self _)
        · refine stands.snoc _ (.inl ⟨_, _, rfl⟩) rfl ?_ rfl
          exact Nat.lt_of_not_le free
  | awaiting post resent =>
    cases input <;>
      simp only [ClaimRun.resume, point, Option.some.injEq, reduceCtorEq] at resumes <;>
      subst resumes
    case leaseLost => exact sends.lose
    case cancelled => exact sends.cancel
    case answered answer => exact sends.answered post resent point answer
  | stopping reason site =>
    cases input <;>
      simp only [ClaimRun.resume, point, Option.some.injEq, reduceCtorEq] at resumes <;>
      subst resumes
    case leaseLost => exact sends.lose
    case cancelled => exact sends.cancel
    case answered answer => exact sends.stopAnswered reason site point answer

end ClaimRun

/-! ## The run against the services -/

def ClaimRun.canReport (run : ClaimRun) : Bool :=
  match run.point with
  | .preparing | .streaming | .stopping _ .body => true
  | .awaiting (.event _ _) _ | .awaiting (.complete _ _) _ => true
  | _ => false

def Post.lead (post : Post) : Nat := if post.isReport then 2 else 1

/-- Each number comes after stored ones, a report's after one that may not be, and in the
stream every number is stored. -/
structure ClaimRun.Covers (run : ClaimRun) (sent : List Post) (stored : Nat) : Prop where
  reached : ∀ post ∈ sent, post.sequence ≤ stored + post.lead
  reports : run.canReport = true → run.sequence ≤ stored + 1
  streams : run.point = .streaming → run.sequence ≤ stored

namespace ClaimRun.Covers

variable {run next : ClaimRun} {sent : List Post} {stored later : Nat}

section

variable (covers : run.Covers sent stored)

include covers

theorem mono (grown : stored ≤ later) :
    run.Covers sent later := by
  refine ⟨?_, ?_, ?_⟩
  · intro post member
    exact Nat.le_trans (covers.reached post member) (Nat.add_le_add_right grown _)
  · intro can
    exact Nat.le_trans (covers.reports can) (Nat.succ_le_succ grown)
  · intro streaming
    exact Nat.le_trans (covers.streams streaming) grown

theorem goes
    (reached : ∀ post ∈ run.newPost next, post.sequence ≤ stored + post.lead)
    (reports : next.canReport = true → next.sequence ≤ stored + 1)
    (streams : next.point = .streaming → next.sequence ≤ stored) :
    next.Covers (sent ++ run.newPost next) stored := by
  refine ⟨?_, reports, streams⟩
  intro post member
  rcases List.mem_append.mp member with old | new
  · exact covers.reached post old
  · exact reached post new

theorem send (start : ClaimRun) (post : Post)
    (number : post.sequence ≤ stored + post.lead)
    (reports : (start.send post).canReport = true → start.sequence ≤ stored + 1) :
    (start.send post).Covers (sent ++ run.newPost (start.send post)) stored := by
  refine covers.goes ?_ reports ?_
  · intro other member
    simp only [ClaimRun.newPost, ClaimRun.send] at member
    split at member
    · simp at member
    · rw [List.mem_singleton.mp member]
      exact number
  · simp [ClaimRun.send]

theorem stop (start : ClaimRun) (reason : String)
    (site : StopSite) (reports : site = .body → start.sequence ≤ stored + 1) :
    (start.stop reason site).Covers (sent ++ run.newPost (start.stop reason site)) stored := by
  refine covers.goes ?_ ?_ ?_
  · simp [ClaimRun.newPost, ClaimRun.stop]
  · intro can
    refine reports ?_
    cases site <;> simp_all [ClaimRun.canReport, ClaimRun.stop]
  · simp [ClaimRun.stop]

theorem leave :
    run.leave.Covers (sent ++ run.newPost run.leave) stored := by
  refine covers.goes ?_ ?_ ?_
  · simp [ClaimRun.newPost, ClaimRun.leave]
  · simp [ClaimRun.canReport, ClaimRun.leave]
  · simp [ClaimRun.leave]

theorem fallback (can : run.canReport = true)
    (error : ClaimError) :
    (run.fallback error).Covers (sent ++ run.newPost (run.fallback error)) stored := by
  have reached := covers.reports can
  unfold ClaimRun.fallback
  split
  · exact covers.stop _ _ _ (by simp)
  · refine covers.send _ _ ?_ ?_
    · have next : min (max (run.sequence + 1) 1) maxTerminalSequence ≤ run.sequence + 1 :=
        Nat.le_trans (Nat.min_le_left _ _) (Nat.le_of_eq (Nat.max_eq_left (by omega)))
      exact Nat.le_trans next (Nat.succ_le_succ reached)
    · simp [ClaimRun.canReport, ClaimRun.send]

theorem error
    (listed : post ∈ sent) (point : run.point = .awaiting post resent) (error : FoundryError) :
    (run.answered post resent (.error error)).Covers
      (sent ++ run.newPost (run.answered post resent (.error error))) stored := by
  simp only [ClaimRun.answered]
  split
  · refine covers.goes ?_ ?_ ?_
    · intro other member
      simp only [ClaimRun.newPost] at member
      split at member
      · simp at member
      · rw [List.mem_singleton.mp member]
        exact covers.reached post listed
    · intro can
      refine covers.reports ?_
      cases post <;> simp_all [ClaimRun.canReport]
    · simp
  · cases post with
    | event =>
      have can : run.canReport = true := by simp [ClaimRun.canReport, point]
      simp only [ClaimRun.refused]
      split_ifs
      · exact covers.stop _ _ _ fun _ => covers.reports can
      · exact covers.stop _ _ _ (by simp)
      · exact covers.fallback can _
    | complete =>
      have can : run.canReport = true := by simp [ClaimRun.canReport, point]
      simp only [ClaimRun.refused]
      split_ifs
      · exact covers.stop _ _ _ (by simp)
      · exact covers.fallback can _
    | fail =>
      simp only [ClaimRun.refused]
      split_ifs
      · exact covers.stop _ _ _ (by simp)
      · exact covers.leave
    | exhausted => exact covers.leave

theorem proceeds (stands : run.Stands sent)
    (input : ClaimInput) (resumes : run.resume input = some next)
    (notAnswer : ∀ post resent answer, run.point = .awaiting post resent →
      input ≠ .answered answer) :
    next.Covers (sent ++ run.newPost next) stored := by
  have lose : run.lose.Covers (sent ++ run.newPost run.lose) stored := by
    refine covers.goes ?_ covers.reports covers.streams
    simp only [ClaimRun.newPost, ClaimRun.lose]
    split
    · next point => simp [point]
    · simp
  have cancel : run.cancel.Covers (sent ++ run.newPost run.cancel) stored := by
    unfold ClaimRun.cancel
    split
    · exact covers.leave
    · exact covers.leave
    · exact covers.stop _ _ _ (by simp)
  cases point : run.point with
  | returned => cases input <;> simp [ClaimRun.resume, point] at resumes
  | preparing =>
    rw [ClaimRun.Stands, point] at stands
    have first := stands.limited
    cases input <;>
      simp only [ClaimRun.resume, point, Option.some.injEq, reduceCtorEq] at resumes <;>
      subst resumes
    case leaseLost => exact lose
    case cancelled => exact cancel
    case bootstrapLost => exact covers.stop _ _ _ (by simp)
    case raised error => exact covers.fallback (by simp [ClaimRun.canReport, point]) error
    case dispatch =>
      have one : run.sequence + 1 ≤ stored + 1 := by omega
      exact covers.send _ _ one fun _ => one
  | streaming =>
    have reached := covers.streams point
    have next : run.sequence + 1 ≤ stored + 1 := Nat.succ_le_succ reached
    have can : run.canReport = true := by simp [ClaimRun.canReport, point]
    cases input <;>
      simp only [ClaimRun.resume, point, Option.some.injEq, reduceCtorEq,
        Option.ite_none_left_eq_some, Option.ite_none_right_eq_some] at resumes
    case leaseLost =>
      subst resumes
      exact lose
    case cancelled =>
      subst resumes
      exact cancel
    case raised error =>
      subst resumes
      exact covers.fallback can error
    case bindingRepair =>
      subst resumes
      exact covers.stop _ _ _ fun _ => covers.reports can
    case leftStream =>
      obtain ⟨_, rfl⟩ := resumes
      exact covers.stop _ _ _ fun _ => covers.reports can
    case finished completion =>
      obtain ⟨_, rfl⟩ := resumes
      exact covers.send _ _ next fun _ => next
    case streamed payload =>
      obtain ⟨_, resumes⟩ := resumes
      split at resumes
      · next exhausted =>
        obtain rfl := Option.some.inj resumes
        exact covers.send _ _ (Nat.succ_le_succ (Nat.le_trans exhausted reached))
          fun _ => covers.reports can
      · obtain rfl := Option.some.inj resumes
        exact covers.send _ _ next fun _ => next
  | awaiting post resent =>
    cases input <;>
      simp only [ClaimRun.resume, point, Option.some.injEq, reduceCtorEq] at resumes <;>
      subst resumes
    case leaseLost => exact lose
    case cancelled => exact cancel
    case answered answer => exact absurd rfl (notAnswer post resent answer point)
  | stopping =>
    cases input <;>
      simp only [ClaimRun.resume, point, Option.some.injEq, reduceCtorEq] at resumes <;>
      subst resumes
    case leaseLost => exact lose
    case cancelled => exact cancel
    case answered answer =>
      cases answer with
      | ok => exact covers.leave
      | error =>
        simp only [ClaimRun.stopAnswered]
        split
        · next body =>
          exact covers.fallback (by simp [ClaimRun.canReport, point, body]) _
        · exact covers.leave

end

end ClaimRun.Covers

namespace ClaimWorld

variable [DecidableEq D] {env : Env D} {grant : ClaimGrant} {world : ClaimWorld D} {next : Db D}

/-- The attempt is in order as far as the run may still go on, or it skipped a number. -/
def Attends (world : ClaimWorld D) (attempt : Attempt D) : Prop :=
  (attempt.InOrder ∧ world.run.Covers world.sent attempt.events.length) ∨ attempt.Skipped

structure Ordered (grant : ClaimGrant) (world : ClaimWorld D) : Prop where
  numbered : world.db.population.Numbered
  drawn : grant.attempt.execution < world.db.supply
  sends : world.run.Sends world.sent
  attempt : world.db.AttemptIs grant.attempt world.Attends

omit [DecidableEq D] in
theorem awaited_mem (sends : world.run.Sends world.sent)
    (point : world.run.point = .awaiting post resent) : post ∈ world.sent := by
  have stands := sends.stands
  rw [ClaimRun.Stands, point] at stands
  cases post with
  | event | complete => exact stands.1
  | fail | exhausted => exact stands

omit [DecidableEq D] in
theorem Ordered.goes (ordered : world.Ordered grant) {run : ClaimRun}
    (sends : run.Sends (world.sent ++ world.run.newPost run))
    (covers : ∀ stored, world.run.Covers world.sent stored →
      run.Covers (world.sent ++ world.run.newPost run) stored) :
    (world.goes run).Ordered grant := by
  refine ⟨ordered.numbered, ordered.drawn, sends, ?_⟩
  intro execution stored
  obtain ⟨ordinary, attempt, found, attends⟩ := ordered.attempt execution stored
  refine ⟨ordinary, attempt, found, ?_⟩
  rcases attends with ⟨inOrder, covered⟩ | skipped
  · exact .inl ⟨inOrder, covers _ covered⟩
  · exact .inr skipped

theorem Ordered.handled (ordered : world.Ordered grant) {now : Instant}
    (listed : post ∈ world.sent) (success : post.handle env now grant world.db = .ok next) :
    next.population.Numbered ∧ grant.attempt.execution < next.supply ∧
      next.AttemptIs grant.attempt fun later =>
        (later.InOrder ∧ world.run.Covers world.sent later.events.length ∧
          ∀ sequence payload, post = .event sequence payload →
            sequence ≤ later.events.length) ∨ later.Skipped := by
  obtain ⟨calls, runs⟩ := Post.handle_runs env now grant post world.db next success
  obtain ⟨numbered, drawn⟩ := run_drawn env calls world.db grant.attempt.execution
    ordered.numbered ordered.drawn
  rw [runs] at numbered drawn
  refine ⟨numbered, drawn, ?_⟩
  have write := Post.handle_posted env now grant post world.db next
    (fun execution stored => (ordered.attempt execution stored).1) success
  refine write.attemptIs ordered.attempt ?_
  rintro attempt later (⟨inOrder, covers⟩ | skipped) wrote
  · have reached := covers.reached post listed
    cases post with
    | event =>
      obtain ⟨stays, grown, stored⟩ := inOrder.posted wrote reached
      refine .inl ⟨stays, covers.mono grown, ?_⟩
      rintro _ _ ⟨⟩
      exact stored
    | complete | exhausted =>
      obtain ⟨stays, grown⟩ := inOrder.ended wrote reached
      refine .inl ⟨stays, covers.mono grown, ?_⟩
      rintro _ _ ⟨⟩
    | fail =>
      rcases inOrder.reported wrote reached with ⟨stays, grown⟩ | skipped
      · refine .inl ⟨stays, covers.mono grown, ?_⟩
        rintro _ _ ⟨⟩
      · exact .inr skipped
  · cases post with
    | event => exact .inr (skipped.posted wrote)
    | complete | fail | exhausted => exact .inr (skipped.ended wrote)

theorem Ordered.step (ordered : world.Ordered grant) (happening : ClaimHappening D)
    {after : ClaimWorld D} (steps : world.step env grant happening = some after) :
    after.Ordered grant := by
  cases happening with
  | elsewhere call =>
    simp only [ClaimWorld.step, Option.ite_none_left_eq_some, Option.some.injEq] at steps
    obtain ⟨other, rfl⟩ := steps
    obtain ⟨numbered, drawn⟩ := step_drawn env call world.db grant.attempt.execution
      ordered.numbered ordered.drawn
    refine ⟨numbered, drawn, ordered.sends, ?_⟩
    refine step_attemptIs env call world.db grant.attempt _ ?_ ordered.drawn ordered.attempt other
    rintro attempt later (⟨inOrder, covers⟩ | skipped) follows
    · obtain ⟨stays, grown⟩ := follows.inOrder inOrder
      exact .inl ⟨stays, covers.mono grown⟩
    · exact .inr (follows.skipped skipped)
  | proceeds input =>
    have resumed : ∃ next, world.run.resume input = some next ∧ world.goes next = after ∧
        ∀ post resent answer, world.run.point = .awaiting post resent →
          input ≠ .answered answer := by
      simp only [ClaimWorld.step] at steps
      split at steps
      · cases steps
      · next notAnswer =>
        obtain ⟨next, resumes, goes⟩ := Option.map_eq_some_iff.mp steps
        exact ⟨next, resumes, goes, fun post resent answer point same =>
          notAnswer post resent answer point same⟩
    obtain ⟨next, resumes, rfl, notAnswer⟩ := resumed
    exact ordered.goes (ordered.sends.resume input resumes) fun stored covers =>
      covers.proceeds ordered.sends.stands input resumes notAnswer
  | arrives =>
    simp only [ClaimWorld.step, Option.ite_none_right_eq_some] at steps
    obtain ⟨listed, steps⟩ := steps
    split at steps
    · next next success =>
      obtain rfl := Option.some.inj steps
      obtain ⟨numbered, drawn, attempt⟩ := ordered.handled listed success
      refine ⟨numbered, drawn, ordered.sends, ?_⟩
      intro execution stored
      obtain ⟨ordinary, later, found, ⟨inOrder, covers, _⟩ | skipped⟩ := attempt execution stored
      · exact ⟨ordinary, later, found, .inl ⟨inOrder, covers⟩⟩
      · exact ⟨ordinary, later, found, .inr skipped⟩
    · obtain rfl := Option.some.inj steps
      exact ordered
  | answers =>
    simp only [ClaimWorld.step] at steps
    split at steps
    · next post resent point =>
      have listed := awaited_mem ordered.sends point
      split at steps
      · next next success =>
        obtain rfl := Option.some.inj steps
        obtain ⟨numbered, drawn, attempt⟩ := ordered.handled listed success
        refine ⟨numbered, drawn, ordered.sends.answered post resent point (.ok ()), ?_⟩
        intro execution stored
        obtain ⟨ordinary, later, found, ⟨inOrder, covers, reached⟩ | skipped⟩ :=
          attempt execution stored
        · refine ⟨ordinary, later, found, .inl ⟨inOrder, ?_⟩⟩
          have stands := ordered.sends.stands
          rw [ClaimRun.Stands, point] at stands
          cases post with
          | event sequence payload =>
            have isStored : world.run.sequence ≤ later.events.length := by
              rw [← stands.2.1]
              exact reached sequence payload rfl
            refine covers.goes ?_ (fun _ => Nat.le_succ_of_le isStored) fun _ => isStored
            intro other sent
            cases (sent : other ∈ [])
          | complete | fail | exhausted => exact covers.leave
        · exact ⟨ordinary, later, found, .inr skipped⟩
      · next error raised =>
        obtain rfl := Option.some.inj steps
        exact ordered.goes (ordered.sends.answered post resent point _)
          fun stored covers => covers.error listed point _
    · cases steps
  | refuses =>
    simp only [ClaimWorld.step] at steps
    split at steps
    · next post resent point =>
      obtain rfl := Option.some.inj steps
      exact ordered.goes (ordered.sends.answered post resent point _)
        fun stored covers => covers.error (awaited_mem ordered.sends point) point _
    · cases steps

theorem Ordered.after (ordered : world.Ordered grant) (happenings : List (ClaimHappening D)) :
    (world.after env grant happenings).Ordered grant := by
  refine Run.invariant (Ordered grant) ?_ world happenings ordered
  intro start happening value last holds applied
  simp only [ClaimWorld.apply] at applied
  split at applied
  · next next steps =>
    simp only [Except.ok.injEq, Prod.mk.injEq, true_and] at applied
    subst applied
    exact holds.step happening steps
  · cases applied

omit [DecidableEq D] in
theorem Ordered.begun (db : Db D) (execution : Execution D) (attempt : Attempt D)
    (numbered : db.population.Numbered)
    (found : db.attempt? grant.attempt = some (execution, attempt))
    (ordinary : execution.routine = none) (unposted : attempt.events = []) :
    (ClaimWorld.begun db).Ordered grant := by
  obtain ⟨stored, held⟩ := (Db.attempt?_eq_some _ _ _ _).mp found
  have empty : ∀ post, post ∉ (ClaimWorld.begun db).sent := fun post => List.not_mem_nil
  refine ⟨numbered, numbered grant.attempt.execution execution stored, ⟨?_, ?_⟩, ?_⟩
  · intro first listed
    exact absurd listed (empty first)
  · exact ⟨fun post listed => absurd listed (empty post),
      fun post listed => absurd listed (empty post), Nat.le_refl _⟩
  · intro owner isOwner
    have same : owner = execution := Option.some.inj (isOwner.symm.trans stored)
    subst same
    refine ⟨ordinary, attempt, held, .inl ⟨⟨?_, ?_, ?_, ?_⟩, ?_, ?_, ?_⟩⟩
    · rw [unposted]
      exact .nil
    · rw [unposted]
      intro event member
      cases member
    · intro event member
      rw [unposted] at member
      cases member
    · intro event member
      rw [unposted] at member
      cases member
    · intro post listed
      exact absurd listed (empty post)
    · intro _
      exact Nat.zero_le _
    · intro _
      exact Nat.zero_le _

end ClaimWorld

theorem worker_event_numbers
    [DecidableEq D] (env : Env D) (grant : ClaimGrant) (calls : List (Call D))
    (execution : Execution D) (attempt : Attempt D)
    (found : (run env Db.empty calls).attempt? grant.attempt = some (execution, attempt))
    (ordinary : execution.routine = none) (unposted : attempt.events = [])
    (happenings : List (ClaimHappening D)) :
    let world := (ClaimWorld.begun (run env Db.empty calls)).after env grant happenings
    (∀ owner stored, world.db.attempt? grant.attempt = some (owner, stored) →
      (Log.Numbered ExecutionEvent.sequence stored.events ∨
        ∃ before failure, stored.events = before ++ [failure] ∧
          Log.Numbered ExecutionEvent.sequence before ∧
          failure.sequence = before.length + 2 ∧ failure.eventType = .failed) ∧
      ∀ event ∈ stored.events, event.isEnding = true →
        stored.events.getLast? = some event) ∧
    ∀ first ∈ world.sent, ∀ second ∈ world.sent, first.Agrees second := by
  intro world
  have numbered : (run env Db.empty calls).population.Numbered :=
    (finalityRule env).run_numbered calls
      (runMeets_of_forall env _ (fun _ _ _ _ => trivial) _ _)
  have ordered : world.Ordered grant :=
    (ClaimWorld.Ordered.begun _ execution attempt numbered found ordinary unposted).after happenings
  refine ⟨?_, ordered.sends.agree⟩
  intro owner stored present
  obtain ⟨isOwner, isStored⟩ := (Db.attempt?_eq_some _ _ _ _).mp present
  obtain ⟨_, held, isHeld, attends⟩ := ordered.attempt owner isOwner
  have same : stored = held := Option.some.inj (isStored.symm.trans isHeld)
  subst same
  rcases attends with ⟨inOrder, _⟩ | skipped
  · exact ⟨.inl inOrder.numbered, fun event member ending =>
      inOrder.finality.sealed.getLast?_eq member ending⟩
  · exact ⟨.inr skipped.skips, fun event member ending =>
      skipped.finality.sealed.getLast?_eq member ending⟩

/-! ## A refused event -/

/-- The grant of `ordinaryWork`. -/
def ordinaryGrant : ClaimGrant where
  context := ⟨0, 1⟩
  attempt := ⟨7, 1⟩
  leaseToken := leaseToken
  streamId := "attempt-7-1"
  eventId := fun sequence => 100 + sequence

/-- The first text of the stream is refused, and the failure is reported after it. -/
def refusedText : List (ClaimHappening PlainDigest) :=
  [.proceeds .dispatch, .answers 0, .proceeds (.streamed (.messageDelta "text")),
    .refuses ⟨.serviceUnavailable, 503, "SERVICE_UNAVAILABLE"⟩, .answers 0]

def claimedWork : Db PlainDigest := run Env.plain Db.empty (bringUp ++ ordinaryWork)

def workedAttempt (happenings : List (ClaimHappening PlainDigest)) :
    Option (Execution PlainDigest × Attempt PlainDigest) :=
  ((ClaimWorld.begun claimedWork).after Env.plain ordinaryGrant happenings).db.attempt?
    ordinaryGrant.attempt

theorem claimedWork_unposted :
    ∃ execution attempt, claimedWork.attempt? ordinaryGrant.attempt = some (execution, attempt) ∧
      execution.routine = none ∧ attempt.events = [] := by
  have before : (claimedWork.attempt? ordinaryGrant.attempt).any (fun found =>
      decide (found.1.routine = none ∧ found.2.events = [])) = true := by decide
  obtain ⟨⟨execution, attempt⟩, found, holds⟩ := (Option.any_eq_true _ _).mp before
  exact ⟨execution, attempt, found, of_decide_eq_true holds⟩

theorem refused_text_leaves_a_gap :
    ∃ execution attempt owner stored,
      claimedWork.attempt? ordinaryGrant.attempt = some (execution, attempt) ∧
      execution.routine = none ∧ attempt.events = [] ∧
      workedAttempt refusedText = some (owner, stored) ∧
      ¬ Log.Numbered ExecutionEvent.sequence stored.events := by
  obtain ⟨execution, attempt, found, ordinary, unposted⟩ := claimedWork_unposted
  have after : (workedAttempt refusedText).any (fun found => decide
      (found.2.events.map ExecutionEvent.sequence = [1, 3])) = true := by decide
  obtain ⟨⟨owner, stored⟩, present, numbers⟩ := (Option.any_eq_true _ _).mp after
  have sequences := of_decide_eq_true numbers
  refine ⟨execution, attempt, owner, stored, found, ordinary, unposted, present, ?_⟩
  intro numbered
  have length : stored.events.length = 2 := by
    have counted := congrArg List.length sequences
    simpa using counted
  rw [Log.Numbered, sequences, length] at numbered
  revert numbered
  decide

theorem refused_text_skips_one :
    ∃ owner stored, workedAttempt refusedText = some (owner, stored) ∧
      ∃ before failure, stored.events = before ++ [failure] ∧
        Log.Numbered ExecutionEvent.sequence before ∧
        failure.sequence = before.length + 2 ∧ failure.eventType = .failed := by
  obtain ⟨execution, attempt, found, ordinary, unposted⟩ := claimedWork_unposted
  have after : (workedAttempt refusedText).any (fun found => decide
      (found.2.events.map ExecutionEvent.sequence ≠
        List.range' 1 found.2.events.length)) = true := by decide
  obtain ⟨⟨owner, stored⟩, present, unnumbered⟩ := (Option.any_eq_true _ _).mp after
  rcases ((worker_event_numbers Env.plain ordinaryGrant (bringUp ++ ordinaryWork) execution attempt
    found ordinary unposted refusedText).1 owner stored present).1 with numbered | skipped
  · have gap := of_decide_eq_true unnumbered
    rw [Log.Numbered] at numbered
    exact absurd numbered gap
  · exact ⟨owner, stored, present, skipped⟩

end Foundry
