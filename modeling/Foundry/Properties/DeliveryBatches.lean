import Foundry.Properties.DeliveryReports

/-!
# Batches that resolve their claims

The filter of the publish loop passes codes that the row refuses.  A batch gets through exactly
where no such code has to be stored.
-/

set_option autoImplicit false

namespace Foundry

open Raise

variable {D : Type}

/-! ## What a row accepts -/

theorem save_isOk_iff (previous row : ExecutionEventDelivery) :
    Succeeds (previous.save row) ↔
      (previous.fingerprint = row.fingerprint ∧
        (previous.envelopeBytes = row.envelopeBytes ∨
          (row.state.isTerminal = true ∧ row.envelopeBytes = none) ∨
          previous.state = .exhausted ∧ row.state = .pending ∧ previous.envelopeBytes = none ∧
            row.envelopeBytes.isSome = true ∧ previous.repairCycle < row.repairCycle)) ∧
      ((row.state.isTerminal = true ∧ row.envelopeBytes = none) ∨
        row.envelopeBytes.isSome = true) ∧
      row.deliveryAttempts ≤ maxDeliveryAttempts ∧
      (row.safeErrorCode = "" ∨ isSafeCode row.safeErrorCode = true) := by
  simp [Succeeds, ExecutionEventDelivery.save]

/-- A row that is kept with its envelope, or ended without it, is refused for its code only. -/
structure ExecutionEventDelivery.Continues (row next : ExecutionEventDelivery) : Prop where
  fingerprint : next.fingerprint = row.fingerprint
  attempts : next.deliveryAttempts ≤ row.deliveryAttempts
  bytes : (next.state.isTerminal = true ∧ next.envelopeBytes = none) ∨
    next.envelopeBytes = row.envelopeBytes

variable {row : ExecutionEventDelivery}

theorem ExecutionEventDelivery.Continues.save_iff {next : ExecutionEventDelivery}
    (continues : row.Continues next) (sound : row.Sound) (held : row.state = .delivering) :
    Succeeds (row.save next) ↔ next.safeErrorCode = "" ∨ isSafeCode next.safeErrorCode = true := by
  have isSome : row.envelopeBytes.isSome = true := sound.bytes.mpr (by rw [held]; rfl)
  rw [save_isOk_iff]
  constructor
  · rintro ⟨_, _, _, code⟩
    exact code
  · intro code
    refine ⟨⟨continues.fingerprint.symm, ?_⟩, ?_, continues.attempts.trans sound.attempts, code⟩
    · rcases continues.bytes with erased | same
      · exact .inr (.inl erased)
      · exact .inl same.symm
    · rcases continues.bytes with erased | same
      · exact .inl erased
      · rw [same]
        exact .inr isSome

/-! ## What a report stores -/

variable {code : String}

section Reports

variable {env : Env D} {now : Instant} {id : DeliveryId} {db : Db D}
  {row : ExecutionEventDelivery}

/-- The row takes a failure with this code: as it is, unless its last attempt is spent and it is
parked with a code of its own. -/
def ExecutionEventDelivery.StoresFailure (env : Env D) (id : DeliveryId)
    (row : ExecutionEventDelivery) (terminal : Bool) (code : String) (db : Db D) : Prop :=
  if terminal = false ∧ maxDeliveryAttempts ≤ row.deliveryAttempts then
    match rebuildDeliveryEnvelope env id row db with
    | .error error => error.kind.isConflict = true ∨ error.kind = .validation
    | .ok _ => maxAutomaticRepairCycles ≤ row.repairCycle ∨ isSafeCode code = true
  else isSafeCode code = true

theorem rebuilt_eq {encoded : Json} (sound : row.Sound) (held : row.state = .delivering)
    (rebuilt : rebuildDeliveryEnvelope env id row db = .ok encoded) :
    row.envelopeBytes = some encoded := by
  have isSome : row.envelopeBytes.isSome = true := sound.bytes.mpr (by rw [held]; rfl)
  obtain ⟨_, stored⟩ := Option.isSome_iff_exists.mp isSome
  simp only [rebuildDeliveryEnvelope, bind_eq_ok, require_eq_ok, pure_eq_ok] at rebuilt
  obtain ⟨_, _, _, _, _, _, _, _, _, _, _, same, rfl⟩ := rebuilt
  rw [stored] at same ⊢
  simpa using same

theorem repair_stored_iff (sound : row.Sound) (held : row.state = .delivering)
    (nonempty : code ≠ "") (filtered : env.isSafeErrorCode code = true) :
    Succeeds (do
      let repaired ← transitionToRepair env now id (row.failed code) code db
      row.save repaired) ↔
      match rebuildDeliveryEnvelope env id row db with
      | .error error => error.kind.isConflict = true ∨ error.kind = .validation
      | .ok _ => maxAutomaticRepairCycles ≤ row.repairCycle ∨ isSafeCode code = true := by
  have same : rebuildDeliveryEnvelope env id (row.failed code) db =
      rebuildDeliveryEnvelope env id row db := rfl
  have parks (text : String) (isSafe : isSafeCode text = true) :
      Succeeds (row.save ((row.failed code).parkExhausted text)) := by
    have continues : row.Continues ((row.failed code).parkExhausted text) :=
      ⟨rfl, Nat.le_refl _, .inl ⟨rfl, rfl⟩⟩
    exact (continues.save_iff sound held).mpr (.inr isSafe)
  unfold transitionToRepair
  rw [same]
  cases rebuilt : rebuildDeliveryEnvelope env id row db with
  | error error =>
    dsimp only
    by_cases expected : error.kind.isConflict = true ∨ error.kind = .validation
    · rw [if_pos expected]
      exact iff_of_true (parks _ (by decide)) expected
    · rw [if_neg expected]
      refine iff_of_false ?_ expected
      rintro ⟨_, raised⟩
      cases raised
  | ok encoded =>
    dsimp only
    by_cases spent : maxAutomaticRepairCycles ≤ row.repairCycle
    · have spent' : maxAutomaticRepairCycles ≤ (row.failed code).repairCycle := spent
      rw [if_pos spent']
      exact iff_of_true (parks _ (by decide)) (.inl spent)
    · have spent' : ¬ maxAutomaticRepairCycles ≤ (row.failed code).repairCycle := spent
      have kept : ¬ (code = "" ∨ env.isSafeErrorCode code = false) := by
        rw [filtered]
        simpa using nonempty
      rw [if_neg spent', if_neg kept]
      have continues : row.Continues ((row.failed code).repaired encoded
          (now + seconds repairDelaySeconds) code) :=
        ⟨rfl, Nat.zero_le _, .inr (rebuilt_eq sound held rebuilt).symm⟩
      have stored := continues.save_iff sound held
      constructor
      · intro saves
        rcases stored.mp saves with empty | isSafe
        · exact absurd empty nonempty
        · exact .inr isSafe
      · rintro (spent' | isSafe)
        · exact absurd spent' spent
        · exact stored.mpr (.inr isSafe)

theorem failure_stored_iff {result : DeliveryResult} (sound : row.Sound)
    (held : row.state = .delivering) (failed : result.success = false)
    (nonempty : result.safeErrorCode ≠ "")
    (filtered : env.isSafeErrorCode result.safeErrorCode = true) :
    Succeeds (do
      let reported ← reportedDelivery env now id row result db
      row.save reported) ↔ row.StoresFailure env id result.terminal result.safeErrorCode db := by
  have passes : require (result.safeErrorCode = "" ∨
      env.isSafeErrorCode result.safeErrorCode = true)
      (validationError "delivery error code is invalid") = .ok () :=
    require_of _ _ (.inr filtered)
  unfold reportedDelivery ExecutionEventDelivery.StoresFailure
  rw [failed, passes]
  simp only [Bool.false_eq_true, if_false, ok_bind, if_neg nonempty]
  have coded {next : ExecutionEventDelivery} (continues : row.Continues next)
      (code : next.safeErrorCode = result.safeErrorCode) :
      Succeeds (row.save next) ↔ isSafeCode result.safeErrorCode = true := by
    rw [continues.save_iff sound held, code]
    exact or_iff_right nonempty
  cases terminal : result.terminal with
  | true =>
    simp only [if_true, Bool.true_eq_false, false_and, if_false]
    exact coded ⟨rfl, Nat.le_refl _, .inl ⟨rfl, rfl⟩⟩ rfl
  | false =>
    simp only [Bool.false_eq_true, if_false, true_and]
    by_cases final : maxDeliveryAttempts ≤ row.deliveryAttempts
    · have final' : maxDeliveryAttempts ≤ (row.failed result.safeErrorCode).deliveryAttempts :=
        final
      rw [if_pos final, if_pos final']
      exact repair_stored_iff sound held nonempty filtered
    · have final' : ¬ maxDeliveryAttempts ≤ (row.failed result.safeErrorCode).deliveryAttempts :=
        final
      rw [if_neg final, if_neg final']
      exact coded ⟨rfl, Nat.le_refl _, .inr rfl⟩ rfl

end Reports

/-! ## Codes -/

variable {letter : Char}

theorem ascii_of_isLower (lower : letter.isLower = true) :
    letter.toNat < 128 := by
  change (decide (97 ≤ letter.val) && decide (letter.val ≤ 122)) = true at lower
  simp only [Bool.and_eq_true, decide_eq_true_eq] at lower
  have bound : letter.toNat ≤ 122 := lower.2
  omega

theorem ascii_of_isDigit (digit : letter.isDigit = true) :
    letter.toNat < 128 := by
  change (decide (48 ≤ letter.val) && decide (letter.val ≤ 57)) = true at digit
  simp only [Bool.and_eq_true, decide_eq_true_eq] at digit
  have bound : letter.toNat ≤ 57 := digit.2
  omega

namespace CharClasses

variable (classes : CharClasses) {letter : Char}

theorem isLower_of_isLower (lower : letter.isLower = true) : classes.isLower letter = true := by
  rw [classes.lower_ascii letter (ascii_of_isLower lower)]
  exact lower

theorem isAlnum_of_isLower (lower : letter.isLower = true) : classes.isAlnum letter = true := by
  rw [classes.alnum_ascii letter (ascii_of_isLower lower)]
  change (letter.isUpper || letter.isLower || letter.isDigit) = true
  simp [lower]

theorem isAlnum_of_isDigit (digit : letter.isDigit = true) : classes.isAlnum letter = true := by
  rw [classes.alnum_ascii letter (ascii_of_isDigit digit)]
  change (letter.isAlpha || letter.isDigit) = true
  simp [digit]

end CharClasses

theorem isFilteredCode_of_isSafeCode (classes : CharClasses)
    (isSafe : isSafeCode code = true) : isFilteredCode classes code = true := by
  unfold isSafeCode at isSafe
  unfold isFilteredCode
  cases letters : code.toList with
  | nil =>
    rw [letters] at isSafe
    cases isSafe
  | cons =>
    rw [letters] at isSafe
    simp only [Bool.and_eq_true, decide_eq_true_eq, List.all_eq_true, Bool.or_eq_true] at isSafe
    obtain ⟨⟨lower, short⟩, others⟩ := isSafe
    simp only [Bool.and_eq_true, decide_eq_true_eq, List.all_eq_true, Bool.or_eq_true]
    refine ⟨⟨short, classes.isLower_of_isLower lower⟩, ?_⟩
    intro letter member
    rcases List.mem_cons.mp member with rfl | member
    · exact .inl (.inl (classes.isAlnum_of_isLower lower))
    · rcases others letter member with ((lower | digit) | line) | dash
      · exact .inl (.inl (classes.isAlnum_of_isLower lower))
      · exact .inl (.inl (classes.isAlnum_of_isDigit digit))
      · exact .inl (.inr line)
      · exact .inr dash

def isCodeLetter (letter : Char) : Bool :=
  letter.isLower || letter.isDigit || letter = '_' || letter = '-'

theorem ascii_of_isCodeLetter (isLetter : isCodeLetter letter = true) :
    letter.toNat < 128 := by
  simp only [isCodeLetter, Bool.or_eq_true, decide_eq_true_eq] at isLetter
  rcases isLetter with ((lower | digit) | rfl) | rfl
  · exact ascii_of_isLower lower
  · exact ascii_of_isDigit digit
  · decide
  · decide

theorem isSafeCode_iff_of_isFilteredCode (classes : CharClasses)
    (filtered : isFilteredCode classes code = true) :
    isSafeCode code = true ↔ ∀ letter ∈ code.toList, isCodeLetter letter = true := by
  unfold isFilteredCode at filtered
  unfold isSafeCode
  cases letters : code.toList with
  | nil =>
    rw [letters] at filtered
    cases filtered
  | cons first =>
    rw [letters] at filtered
    simp only [Bool.and_eq_true, decide_eq_true_eq] at filtered
    obtain ⟨⟨short, lower⟩, _⟩ := filtered
    simp only [Bool.and_eq_true, decide_eq_true_eq, List.all_eq_true]
    constructor
    · rintro ⟨⟨asciiLower, _⟩, others⟩ letter member
      rcases List.mem_cons.mp member with rfl | member
      · simp [isCodeLetter, asciiLower]
      · exact others letter member
    · intro isLetters
      have isLetter := isLetters first (List.mem_cons_self ..)
      rw [classes.lower_ascii first (ascii_of_isCodeLetter isLetter)] at lower
      refine ⟨⟨lower, short⟩, ?_⟩
      intro letter member
      exact isLetters letter (List.mem_cons_of_mem _ member)

section

variable (env : Env D) (classes : CharClasses)

include env classes

theorem safeResponseCode_filtered (body : CloudBody) :
    safeResponseCode (env.filteringCodes classes) body = "" ∨
      isFilteredCode classes (safeResponseCode (env.filteringCodes classes) body) = true := by
  unfold safeResponseCode
  split
  · dsimp only
    split
    · next code _ =>
      cases passes : isFilteredCode classes code with
      | true =>
        have kept : (env.filteringCodes classes).isSafeErrorCode code = true := passes
        rw [if_pos kept]
        exact .inr passes
      | false =>
        have dropped : (env.filteringCodes classes).isSafeErrorCode code = false := passes
        rw [dropped]
        exact .inl rfl
    · exact .inl rfl
  · exact .inl rfl

theorem answer_code (outcome : PostOutcome) (eventId : Uuid) :
    (outcome.answer (env.filteringCodes classes) eventId).2 = "" ∨
      isFilteredCode classes (outcome.answer (env.filteringCodes classes) eventId).2 = true := by
  have own (code : String) (isSafe : isSafeCode code = true) :
      code = "" ∨ isFilteredCode classes code = true :=
    .inr (isFilteredCode_of_isSafeCode classes isSafe)
  cases outcome with
  | disabled => exact own "delivery_disabled" (by decide)
  | envelopeInvalid => exact own "delivery_envelope_invalid" (by decide)
  | notConfigured => exact own "delivery_not_configured" (by decide)
  | unavailable => exact own "delivery_unavailable" (by decide)
  | response _ body =>
    simp only [PostOutcome.answer]
    split
    · exact own "delivery_response_too_large" (by decide)
    · split
      · split
        · exact own "delivery_receipt_invalid" (by decide)
        · split
          · exact own "delivery_receipt_mismatch" (by decide)
          · exact .inl rfl
      · exact safeResponseCode_filtered env classes body
  | failure _ body =>
    simp only [PostOutcome.answer]
    split
    · exact own "delivery_response_too_large" (by decide)
    · exact safeResponseCode_filtered env classes body

theorem failureResult_code (outcome : PostOutcome) (eventId : Uuid) (jitter : Nat) :
    let answer := outcome.answer (env.filteringCodes classes) eventId
    let result := failureResult answer.1 answer.2 jitter
    result.safeErrorCode ≠ "" ∧
      (env.filteringCodes classes).isSafeErrorCode result.safeErrorCode = true := by
  intro answer result
  change (failureResult answer.1 answer.2 jitter).safeErrorCode ≠ "" ∧
    isFilteredCode classes (failureResult answer.1 answer.2 jitter).safeErrorCode = true
  unfold failureResult
  dsimp only
  by_cases empty : answer.2 = ""
  · rw [if_neg (not_not.mpr empty)]
    split
    · exact ⟨by decide, isFilteredCode_of_isSafeCode classes (by decide)⟩
    · exact ⟨by decide, isFilteredCode_of_isSafeCode classes (by decide)⟩
  · rw [if_pos empty]
    exact ⟨empty, (answer_code env classes outcome eventId).resolve_left empty⟩

end

/-! ## What an answer needs -/

/-- A failure of the claim can be recorded: its row is there, and takes the code unless the claim is
stale. -/
def EventDeliveryClaim.TakesFailure (env : Env D) (claim : EventDeliveryClaim) (status : Nat)
    (code : String) (db : Db D) : Prop :=
  ∃ row, db.deliveries.lookup claim.delivery = some row ∧
    (row.isClaimedBy claim.attempt claim.repairCycle = true →
      row.StoresFailure env claim.delivery (isRejection status code)
        (failureResult status code 0).safeErrorCode db)

def EventDeliveryClaim.WaitsForGap (now : Instant) (claim : EventDeliveryClaim) (db : Db D) :
    Prop :=
  ∃ row, db.deliveries.lookup claim.delivery = some row ∧
    row.isClaimedBy claim.attempt claim.repairCycle = true ∧
    now ≤ row.sequenceGapSince.getD now + seconds sequenceGapPatienceSeconds

def PublishTurn.IsRecordable [DecidableEq D] (env : Env D) (turn : PublishTurn D)
    (claim : EventDeliveryClaim) (db : Db D) : Prop :=
  let answer := turn.outcome.answer env claim.delivery.2
  let answered := run env db turn.meanwhile
  if answer.1 = 202 then (answered.deliveries.lookup claim.delivery).isSome = true
  else if answer.1 = 409 ∧ answer.2 = "sequence_gap" then
    claim.WaitsForGap turn.deferredAt answered ∨
      claim.TakesFailure env answer.1 answer.2 (run env answered turn.afterDeferral)
  else claim.TakesFailure env answer.1 answer.2 answered

/-- Every turn of the batch, in the state it is reached in, has an answer that can be recorded. -/
def AreRecordable [DecidableEq D] (env : Env D) (turns : EventDeliveryClaim → PublishTurn D) :
    List EventDeliveryClaim → PublishState D → Prop
  | [], _ => True
  | claim :: rest, state =>
    (turns claim).IsRecordable env claim state.db ∧
      ∀ next, publishClaim env turns state claim = .ok next → AreRecordable env turns rest next

def Db.DeliveriesSound (db : Db D) : Prop :=
  ∀ id row, db.deliveries.lookup id = some row → row.Sound

section Marks

variable {env : Env D} {now : Instant} {claim : EventDeliveryClaim} {db : Db D}

theorem isClaimedBy_delivering {attempt repairCycle : Nat}
    (current : row.isClaimedBy attempt repairCycle = true) : row.state = .delivering := by
  simp only [ExecutionEventDelivery.isClaimedBy, decide_eq_true_eq] at current
  exact current.1

theorem mark_succeeds_iff (result : DeliveryResult) :
    Succeeds (markEventDelivery env now claim.delivery claim.attempt claim.repairCycle result db) ↔
      ∃ row, db.deliveries.lookup claim.delivery = some row ∧
        (row.isClaimedBy claim.attempt claim.repairCycle = true →
          Succeeds (do
            let reported ← reportedDelivery env now claim.delivery row result db
            row.save reported)) := by
  unfold markEventDelivery
  cases stored : db.deliveries.lookup claim.delivery with
  | none => simp [Succeeds]
  | some row =>
    simp only [orRaise_some, ok_bind, Option.some.injEq, exists_eq_left']
    cases current : row.isClaimedBy claim.attempt claim.repairCycle with
    | false => simp [Succeeds]
    | true =>
      simp only [Bool.true_eq_false, if_false, true_imp_iff]
      cases reportedDelivery env now claim.delivery row result db with
      | error => simp [Succeeds]
      | ok reported =>
        simp only [ok_bind]
        cases row.save reported with
        | error | ok => simp [Succeeds]

theorem delivered_mark_succeeds_iff (sound : db.DeliveriesSound) (jitter : Nat) :
    Succeeds (markEventDelivery env now claim.delivery claim.attempt claim.repairCycle
      ⟨true, "", false, jitter⟩ db) ↔
      (db.deliveries.lookup claim.delivery).isSome = true := by
  rw [mark_succeeds_iff, Option.isSome_iff_exists]
  constructor
  · rintro ⟨row, stored, _⟩
    exact ⟨row, stored⟩
  · rintro ⟨row, stored⟩
    refine ⟨row, stored, fun current => ?_⟩
    have continues : row.Continues (row.delivered now) :=
      ⟨rfl, Nat.le_refl _, .inl ⟨rfl, rfl⟩⟩
    exact (continues.save_iff (sound _ row stored) (isClaimedBy_delivering current)).mpr (.inl rfl)

theorem deferForSequenceGap_succeeds (sound : db.DeliveriesSound) :
    ∃ deferred next, deferForSequenceGap now claim db = .ok (deferred, next) ∧
      (deferred = true ↔ claim.WaitsForGap now db) ∧ (deferred = false → next = db) := by
  have refused (stale : ∀ row, db.deliveries.lookup claim.delivery = some row →
      row.isClaimedBy claim.attempt claim.repairCycle = true →
      ¬ now ≤ row.sequenceGapSince.getD now + seconds sequenceGapPatienceSeconds) :
      (false = true ↔ claim.WaitsForGap now db) ∧ (false = false → db = db) := by
    refine ⟨iff_of_false (by simp) ?_, fun _ => rfl⟩
    rintro ⟨row, stored, current, patient⟩
    exact stale row stored current patient
  unfold deferForSequenceGap
  cases stored : db.deliveries.lookup claim.delivery with
  | none => exact ⟨false, db, rfl, refused (by simp [stored])⟩
  | some row =>
    cases current : row.isClaimedBy claim.attempt claim.repairCycle with
    | false =>
      refine ⟨false, db, by simp [Option.filter, current], refused ?_⟩
      intro other found isCurrent
      rw [stored, Option.some.injEq] at found
      rw [← found, current] at isCurrent
      cases isCurrent
    | true =>
      simp only [Option.filter, current, if_true]
      by_cases late : row.sequenceGapSince.getD now + seconds sequenceGapPatienceSeconds < now
      · rw [if_pos late]
        refine ⟨false, db, rfl, refused ?_⟩
        intro other found _
        rw [stored, Option.some.injEq] at found
        rw [← found]
        exact Nat.not_le.mpr late
      · rw [if_neg late]
        have held := isClaimedBy_delivering current
        have attempts : claim.attempt - 1 ≤ row.deliveryAttempts := by
          simp only [ExecutionEventDelivery.isClaimedBy, decide_eq_true_eq] at current
          omega
        have continues : row.Continues (row.deferred now claim.attempt) :=
          ⟨rfl, attempts, .inr rfl⟩
        have isSafe : isSafeCode "sequence_gap" = true := by decide
        obtain ⟨_, saves⟩ :=
          (continues.save_iff (sound _ row stored) held).mpr (.inr isSafe)
        rw [saves]
        refine ⟨true, _, rfl,
          iff_of_true rfl ⟨row, stored, current, Nat.not_lt.mp late⟩, ?_⟩
        intro isFalse
        cases isFalse

end Marks

/-! ## Batches -/

section Batches

variable {env : Env D} {classes : CharClasses} {claim : EventDeliveryClaim} {turn : PublishTurn D}

variable {state : PublishState D} {status : Nat}

theorem recordFailure_succeeds_iff (sound : state.db.DeliveriesSound)
    (coded : (failureResult status code turn.jitter).safeErrorCode ≠ "" ∧
      env.isSafeErrorCode (failureResult status code turn.jitter).safeErrorCode = true) :
    Succeeds (recordFailure env claim turn status code state) ↔
      claim.TakesFailure env status code state.db := by
  have marks := @mark_succeeds_iff D env turn.markedAt claim state.db
    (failureResult status code turn.jitter)
  have recorded : Succeeds (recordFailure env claim turn status code state) ↔
      Succeeds (markEventDelivery env turn.markedAt claim.delivery claim.attempt
        claim.repairCycle (failureResult status code turn.jitter) state.db) := by
    unfold recordFailure
    cases markEventDelivery env turn.markedAt claim.delivery claim.attempt claim.repairCycle
      (failureResult status code turn.jitter) state.db with
    | error raised => simp [Succeeds]
    | ok answer =>
      obtain ⟨marked, _⟩ := answer
      cases marked with
      | none => simp [Succeeds]
      | some => simp [Succeeds]
  rw [recorded, marks]
  refine exists_congr fun row => and_congr_right fun stored => ?_
  refine forall_congr' fun current => ?_
  exact failure_stored_iff (sound _ row stored) (isClaimedBy_delivering current) rfl
    coded.1 coded.2

variable [DecidableEq D]

variable {db : Db D}

theorem sound_of_reachable (reachable : Reachable env db) : db.DeliveriesSound := by
  obtain ⟨calls, rfl⟩ := reachable
  exact run_deliveriesSound env calls

theorem reachable_run (reachable : Reachable env db) (calls : List (Call D)) :
    Reachable env (run env db calls) := by
  obtain ⟨before, rfl⟩ := reachable
  exact ⟨before ++ calls, Run.run_append ..⟩

theorem reachable_reply {α : Type} {next : Db D} {wrap : α → Reply D}
    {body : Except RuntimeError (α × Db D)} {answer : α} (reachable : Reachable env db)
    (call : Call D) (applies : apply env call db = reply wrap body)
    (success : body = .ok (answer, next)) : Reachable env next := by
  obtain ⟨before, rfl⟩ := reachable
  refine ⟨before ++ [call], Run.run_snoc_of_ok _ _ before call (wrap answer) ?_⟩
  change apply env call (run env Db.empty before) = .ok (wrap answer, next)
  rw [applies, success]
  rfl

theorem recordDelivered_succeeds_iff (sound : state.db.DeliveriesSound) :
    Succeeds (recordDelivered env claim turn state) ↔
      (state.db.deliveries.lookup claim.delivery).isSome = true := by
  rw [← @delivered_mark_succeeds_iff D env turn.markedAt claim state.db sound turn.jitter]
  unfold recordDelivered
  cases markEventDelivery env turn.markedAt claim.delivery claim.attempt claim.repairCycle
    ⟨true, "", false, turn.jitter⟩ state.db with
  | error raised => simp [Succeeds]
  | ok answer =>
    obtain ⟨marked, _⟩ := answer
    cases marked with
    | none => simp [Succeeds]
    | some => simp [Succeeds, wakeAttemptSuccessors]

theorem publishClaim_succeeds_iff {turns : EventDeliveryClaim → PublishTurn D} (reachable : Reachable (env.filteringCodes classes) state.db) :
    Succeeds (publishClaim (env.filteringCodes classes) turns state claim) ↔
      (turns claim).IsRecordable (env.filteringCodes classes) claim state.db := by
  have answered : Reachable (env.filteringCodes classes)
      (run (env.filteringCodes classes) state.db (turns claim).meanwhile) :=
    reachable_run reachable _
  have coded := failureResult_code env classes (turns claim).outcome claim.delivery.2
    (turns claim).jitter
  unfold publishClaim recordAnswer PublishTurn.IsRecordable
  dsimp only
  by_cases accepted :
      ((turns claim).outcome.answer (env.filteringCodes classes) claim.delivery.2).1 = 202
  · rw [if_pos accepted, if_pos accepted]
    exact recordDelivered_succeeds_iff (sound_of_reachable answered)
  · rw [if_neg accepted, if_neg accepted]
    split
    · obtain ⟨deferred, _, defers, waits, _⟩ := @deferForSequenceGap_succeeds D
        (turns claim).deferredAt claim _ (sound_of_reachable answered)
      change Succeeds (deferForSequenceGap (turns claim).deferredAt claim
        (run (env.filteringCodes classes) state.db (turns claim).meanwhile) >>= _) ↔ _
      rw [defers, ok_bind]
      cases deferred with
      | true => exact iff_of_true ⟨_, rfl⟩ (.inl (waits.mp rfl))
      | false =>
        have later : Reachable (env.filteringCodes classes)
            ((state.interleave (env.filteringCodes classes) (turns claim).meanwhile).interleave
              (env.filteringCodes classes) (turns claim).afterDeferral).db :=
          reachable_run answered _
        simp only [Bool.false_eq_true, false_iff, if_false] at waits ⊢
        rw [or_iff_right waits]
        exact recordFailure_succeeds_iff (sound_of_reachable later) coded
    · exact recordFailure_succeeds_iff (sound_of_reachable answered) coded

variable {next : PublishState D}

theorem reachable_recordFailure (reachable : Reachable env state.db)
    (recorded : recordFailure env claim turn status code state = .ok next) :
    Reachable env next.db := by
  simp only [recordFailure, bind_eq_ok] at recorded
  obtain ⟨⟨marked, db⟩, marks, recorded⟩ := recorded
  have after : Reachable env db := reachable_reply reachable
    ⟨turn.markedAt, .markEventDelivery claim.delivery claim.attempt claim.repairCycle
      (failureResult status code turn.jitter)⟩ rfl marks
  cases marked with
  | none | some =>
    cases recorded
    exact after

theorem reachable_recordDelivered (reachable : Reachable env state.db)
    (recorded : recordDelivered env claim turn state = .ok next) : Reachable env next.db := by
  simp only [recordDelivered, bind_eq_ok] at recorded
  obtain ⟨⟨marked, db⟩, marks, recorded⟩ := recorded
  have after : Reachable env db := reachable_reply reachable
    ⟨turn.markedAt, .markEventDelivery claim.delivery claim.attempt claim.repairCycle
      ⟨true, "", false, turn.jitter⟩⟩ rfl marks
  cases marked with
  | none =>
    cases recorded
    exact after
  | some =>
    simp only [bind_eq_ok] at recorded
    obtain ⟨⟨_, _⟩, wakes, recorded⟩ := recorded
    cases recorded
    have applies : apply env ⟨turn.wokenAt, .wakeAttemptSuccessors claim.delivery⟩
        (run env db turn.afterMark) = reply (fun _ => .done)
          (wakeAttemptSuccessors turn.wokenAt claim.delivery (run env db turn.afterMark)) := rfl
    exact reachable_reply (reachable_run after turn.afterMark) _ applies wakes

section

variable {turns : EventDeliveryClaim → PublishTurn D}

theorem reachable_publishClaim (reachable : Reachable env state.db)
    (published : publishClaim env turns state claim = .ok next) : Reachable env next.db := by
  have answered := reachable_run reachable (turns claim).meanwhile
  unfold publishClaim recordAnswer at published
  dsimp only at published
  split at published
  · exact reachable_recordDelivered answered published
  · split at published
    · simp only [bind_eq_ok] at published
      obtain ⟨⟨deferred, _⟩, defers, published⟩ := published
      cases deferred with
      | true =>
        cases published
        exact reachable_reply answered ⟨(turns claim).deferredAt, .deferForSequenceGap claim⟩
          rfl defers
      | false => exact reachable_recordFailure (reachable_run answered _) published
    · exact reachable_recordFailure answered published

theorem batch_succeeds_iff (claims : List EventDeliveryClaim)
    (reachable : Reachable (env.filteringCodes classes) state.db) :
    Succeeds (claims.foldlM (publishClaim (env.filteringCodes classes) turns) state) ↔
      AreRecordable (env.filteringCodes classes) turns claims state := by
  induction claims generalizing state with
  | nil => exact iff_of_true ⟨state, rfl⟩ trivial
  | cons claim _ ih =>
    have head : Succeeds (publishClaim (env.filteringCodes classes) turns state claim) ↔
        (turns claim).IsRecordable (env.filteringCodes classes) claim state.db :=
      publishClaim_succeeds_iff reachable
    rw [List.foldlM_cons, AreRecordable, ← head]
    cases published : publishClaim (env.filteringCodes classes) turns state claim with
    | error => simp [Succeeds]
    | ok =>
      rw [ok_bind, ih (reachable_publishClaim reachable published)]
      simp [Succeeds]

end

/-- A claimed batch gets through with every claim settled exactly where each of its answers can be
recorded. -/
theorem batches_resolve_iff_answers_are_recordable (env : Env D) (classes : CharClasses)
    (now : Instant) (limit : Nat) (turns : EventDeliveryClaim → PublishTurn D) (db claimed : Db D)
    (claims : List EventDeliveryClaim) (reachable : Reachable (env.filteringCodes classes) db)
    (batch : claimEventDeliveries (env.filteringCodes classes) now limit db =
      .ok (claims, claimed)) :
    ((∃ state, publishClaims (env.filteringCodes classes) turns claims claimed = .ok state ∧
        state.records.map DeliveryRecord.claim = claims ∧
        ∀ record ∈ state.records, record.isSettled = true) ↔
      AreRecordable (env.filteringCodes classes) turns claims
        ⟨claimed, .empty claims.length, []⟩) ∧
    (∀ code, isFilteredCode classes code = true →
      (isSafeCode code = true ↔ ∀ letter ∈ code.toList, isCodeLetter letter = true)) := by
  have applies : apply (env.filteringCodes classes) ⟨now, .claimEventDeliveries limit⟩ db =
      reply .deliveryClaims (claimEventDeliveries (env.filteringCodes classes) now limit db) := rfl
  have after : Reachable (env.filteringCodes classes)
      (⟨claimed, .empty claims.length, []⟩ : PublishState D).db :=
    reachable_reply reachable _ applies batch
  refine ⟨?_, fun code filtered => isSafeCode_iff_of_isFilteredCode classes filtered⟩
  rw [← batch_succeeds_iff claims after]
  constructor
  · rintro ⟨state, published, _⟩
    exact ⟨state, published⟩
  · rintro ⟨state, published⟩
    obtain ⟨listed, _, counts⟩ := publishClaims_records published (.empty _)
    exact ⟨state, published, listed, counts.settled⟩

end Batches

/-! ## Runs -/

def asciiClasses : CharClasses where
  isLower := Char.isLower
  isAlnum := Char.isAlphanum
  lower_ascii _ _ := rfl
  alnum_ascii _ _ := rfl

def refusedTurn (code : String) : PublishTurn PlainDigest where
  outcome := .failure 422 (.json (.obj [("code", .str code)]))
  meanwhile := []
  deferredAt := 0
  afterDeferral := []
  markedAt := seconds 1
  jitter := 0
  afterMark := []
  wokenAt := seconds 1

def refusedBatch (code : String) : Except RuntimeError (PublishState PlainDigest) :=
  publishPendingEventDeliveries (Env.publishing.filteringCodes asciiClasses) true 0 20
    (fun _ => refusedTurn code)
    (run (Env.publishing.filteringCodes asciiClasses) Db.empty dispatchedEvent)

theorem refused_batch_is_recordable :
    ∃ claims claimed, claims.length = 1 ∧
      claimEventDeliveries (Env.publishing.filteringCodes asciiClasses) 0 20
        (run (Env.publishing.filteringCodes asciiClasses) Db.empty dispatchedEvent) =
        .ok (claims, claimed) ∧
      AreRecordable (Env.publishing.filteringCodes asciiClasses) (fun _ => refusedTurn "bad_request")
        claims ⟨claimed, .empty claims.length, []⟩ := by
  have reported : (refusedBatch "bad_request").toOption.map
      (fun state => state.records.length) = some 1 := by
    decide +kernel
  cases published : refusedBatch "bad_request" with
  | error =>
    rw [published] at reported
    cases reported
  | ok state =>
    rw [published] at reported
    unfold refusedBatch publishPendingEventDeliveries at published
    simp only [if_true, bind_eq_ok] at published
    obtain ⟨⟨claims, claimed⟩, batch, published⟩ := published
    obtain ⟨listed, _, counts⟩ := publishClaims_records published (.empty _)
    have listed : state.records.map DeliveryRecord.claim = claims := listed
    refine ⟨claims, claimed, ?_, batch, ?_⟩
    · rw [← listed, List.length_map]
      exact Option.some.inj reported
    · exact (batches_resolve_iff_answers_are_recordable Env.publishing asciiClasses 0 20
        (fun _ => refusedTurn "bad_request") _ claimed claims ⟨dispatchedEvent, rfl⟩ batch).1.mp
        ⟨state, published, listed, counts.settled⟩

/-- The filter passes a code with an upper-case letter, and recording it raises. -/
theorem filtered_code_aborts_the_batch :
    isFilteredCode asciiClasses "badRequest" = true ∧ isSafeCode "badRequest" = false ∧
      (claimEventDeliveries (Env.publishing.filteringCodes asciiClasses) 0 20
        (run (Env.publishing.filteringCodes asciiClasses) Db.empty dispatchedEvent)).toOption.map
        (fun batch => batch.1.length) = some 1 ∧
      (refusedBatch "badRequest").toOption.isNone = true := by
  decide +kernel

end Foundry
