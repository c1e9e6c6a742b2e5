import Foundry.Worker.RoutineReports
import Foundry.Properties.Fingerprints

/-!
# Routine reports that the tool accepts

The tool checks every part of a report, and its two readers check the same parts with the same
bounds.  Only the limits on a report as a whole are left: on the text the call was made in, on
its escaped size, and on the size of the envelope after normalization.
-/

set_option autoImplicit false

namespace Foundry

open Raise

/-! ## Sizes -/

namespace Json

/-- A member with its colon, and the comma or the brace after it. -/
def memberSize (member : String × Json) : Nat := (quoted member.1).length + member.2.size + 2

theorem length_spellMembers (first : String × Json) (rest : List (String × Json)) :
    (spellMembers (first :: rest)).length + 1 = ((first :: rest).map memberSize).sum := by
  induction rest generalizing first with
  | nil =>
    simp [spellMembers, memberSize, size]
    omega
  | cons second rest ih =>
    have later := ih second
    simp only [spellMembers, List.map_cons, List.sum_cons, List.length_append, List.length_cons,
      memberSize, size] at later ⊢
    omega

theorem size_obj (members : List (String × Json)) (some : members ≠ []) :
    (Json.obj members).size = 1 + (members.map memberSize).sum := by
  obtain ⟨_, _, rfl⟩ := List.exists_cons_of_ne_nil some
  rw [← length_spellMembers]
  simp only [size, spell, List.length_cons, List.length_append, List.length_nil]
  omega

end Json

section Canonical

variable {nfc : String → String}

/-- The length of the canonical text is the sum over the members, in any order. -/
theorem canonicalLength_obj {members values : List (String × Json)} (some : members ≠ [])
    (normalizes : List.Forall₂ (Normalizes nfc) members values)
    (distinct : (values.map Prod.fst).Nodup) :
    canonicalLength nfc (.obj members) = .ok (1 + (values.map Json.memberSize).sum) := by
  have listed := (normalizeMembers_eq_ok members values []).mpr
    ⟨normalizes, distinct, by rintro _ _ ⟨⟩⟩
  have sorted := List.perm_insertionSort memberOrder values
  have nonempty : values.insertionSort memberOrder ≠ [] := by
    intro none
    rw [none, List.nil_perm] at sorted
    rw [sorted, List.forall₂_nil_right_iff] at normalizes
    exact some normalizes
  simp only [canonicalLength, normalizeJson, listed, ok_bind, bind_eq_ok, pure_eq_ok]
  refine ⟨_, rfl, ?_⟩
  rw [Json.size_obj _ nonempty, (sorted.map _).sum_nat]

theorem canonicalLength_append {first second : List (String × Json)} (some : first ≠ [])
    (other : second ≠ []) (unambiguous : (Json.obj (first ++ second)).isUnambiguous nfc = true) :
    ∃ whole left right, canonicalLength nfc (.obj (first ++ second)) = .ok whole ∧
      canonicalLength nfc (.obj first) = .ok left ∧
      canonicalLength nfc (.obj second) = .ok right ∧ whole + 1 = left + right := by
  obtain ⟨_, normalized⟩ := normalized_of_unambiguous _ unambiguous
  obtain ⟨values, normalizes, distinct, _⟩ := normalizeJson_obj normalized
  have one := List.forall₂_take first.length normalizes
  have two := List.forall₂_drop first.length normalizes
  rw [List.take_left] at one
  rw [List.drop_left] at two
  refine ⟨_, _, _, canonicalLength_obj (by simp [some]) normalizes distinct,
    canonicalLength_obj some one (distinct.sublist ((List.take_sublist ..).map _)),
    canonicalLength_obj other two (distinct.sublist ((List.drop_sublist ..).map _)), ?_⟩
  conv_lhs => rw [← List.take_append_drop first.length values]
  rw [List.map_append, List.sum_append]
  omega

end Canonical

/-! ## References -/

theorem length_le_utf8ByteSize (text : String) : text.length ≤ text.utf8ByteSize := by
  induction text using String.push_induction with
  | empty => exact Nat.le_refl _
  | push text letter ih =>
    rw [String.length_push, String.utf8ByteSize_push]
    exact Nat.add_le_add ih letter.utf8Size_pos

theorem length_pos_of_utf8ByteSize {text : String} (some : 1 ≤ text.utf8ByteSize) :
    1 ≤ text.length := by
  by_contra none
  have empty : text = "" := String.length_eq_zero_iff.mp (by omega)
  rw [empty] at some
  exact absurd some (by decide)

variable {reference : RoutineReference}

theorem RoutineReference.isContract_of_bounded
    (bounded : reference.isBounded = true) : reference.isContract = true := by
  simp only [isBounded, decide_eq_true_eq] at bounded
  obtain ⟨label, shortLabel, _, url, shortUrl, _, http⟩ := bounded
  simp only [isContract, decide_eq_true_eq]
  exact ⟨length_pos_of_utf8ByteSize label, Nat.le_trans (length_le_utf8ByteSize _) shortLabel,
    length_pos_of_utf8ByteSize url, Nat.le_trans (length_le_utf8ByteSize _) shortUrl, http,
    shortLabel, shortUrl⟩

theorem routineReference?_toJson (bounded : reference.isBounded = true) :
    routineReference? reference.toJson = some reference := by
  have exactly : reference.toJson.hasExactly ["label", "url"] = true := by
    simp [RoutineReference.toJson, Json.hasExactly, Json.keys]
  have read : routineReference? reference.toJson =
      if reference.toJson.hasExactly ["label", "url"] then
        (if reference.isBounded then some reference else none) else none := rfl
  rw [read, if_pos exactly, if_pos bounded]

theorem isBounded_of_routineReference? {value : Json}
    (read : routineReference? value = some reference) : reference.isBounded = true := by
  simp only [routineReference?] at read
  split at read
  · split at read
    · split at read
      · split at read
        · next bounded =>
          cases read
          exact bounded
        · cases read
      · cases read
    · cases read
  · cases read

variable {references : List RoutineReference}

theorem mapM_routineReference? {items : List Json}
    (read : items.mapM routineReference? = some references) :
    references.length = items.length ∧
      ∀ reference ∈ references, reference.isBounded = true := by
  induction items generalizing references with
  | nil =>
    cases read
    exact ⟨rfl, by rintro _ ⟨⟩⟩
  | cons item rest ih =>
    simp only [List.mapM_cons, Option.bind_eq_bind, Option.bind_eq_some_iff, Option.pure_def,
      Option.some.injEq] at read
    obtain ⟨_, one, _, later, rfl⟩ := read
    obtain ⟨length, bounded⟩ := ih later
    exact ⟨congrArg (· + 1) length,
      List.forall_mem_cons.mpr ⟨isBounded_of_routineReference? one, bounded⟩⟩

theorem routineReferences?_spec {value : Option Json}
    (read : routineReferences? value = some references) :
    references.length ≤ maxRoutineReferenceCount ∧
      ∀ reference ∈ references, reference.isBounded = true := by
  simp only [routineReferences?] at read
  split at read
  · split at read
    · next few =>
      obtain ⟨length, bounded⟩ := mapM_routineReference? read
      exact ⟨length ▸ few, bounded⟩
    · cases read
  · cases read

theorem routineReferences?_toJson (few : references.length ≤ maxRoutineReferenceCount)
    (bounded : ∀ reference ∈ references, reference.isBounded = true) :
    routineReferences? (some (.arr (references.map RoutineReference.toJson))) =
      some references := by
  have read : (references.map RoutineReference.toJson).mapM routineReference? =
      some references := by
    induction references with
    | nil => rfl
    | cons first rest ih =>
      have later := ih (Nat.le_of_succ_le few) fun other member =>
        bounded other (List.mem_cons_of_mem first member)
      rw [List.map_cons, List.mapM_cons, later,
        routineReference?_toJson (bounded first List.mem_cons_self)]
      rfl
  simp only [routineReferences?, List.length_map, if_pos few, read]

/-! ## The envelope -/

/-- NFC leaves ASCII as it is. -/
def KeepsAscii (nfc : String → String) : Prop :=
  ∀ text : String, (text.toList.all fun letter => letter.toNat < 128) = true → nfc text = text

section Contract

variable {nfc : String → String}

theorem isUnambiguous_obj (ascii : KeepsAscii nfc) (members : List (String × Json))
    (names : (members.map Prod.fst).Nodup ∧ ∀ name ∈ members.map Prod.fst,
      (name.toList.all fun letter => letter.toNat < 128) = true)
    (values : ∀ member ∈ members, member.2.isUnambiguous nfc = true) :
    (Json.obj members).isUnambiguous nfc = true := by
  have same : (members.map fun member => nfc member.1) = members.map Prod.fst :=
    List.map_congr_left fun member listed =>
      ascii member.1 (names.2 member.1 (List.mem_map_of_mem listed))
  rw [Json.isUnambiguous, Json.membersUnambiguous_eq, Bool.and_eq_true, List.all_eq_true,
    decide_eq_true_eq, same]
  exact ⟨names.1, values⟩

theorem envelope_isUnambiguous (ascii : KeepsAscii nfc) (uuidText : Uuid → String)
    (run : RoutineResultRun) (report : RoutineReport) :
    (run.envelope uuidText report).isUnambiguous nfc = true := by
  have scope : (run.scope.toJson uuidText).isUnambiguous nfc = true := by
    refine isUnambiguous_obj ascii _ ?_ ?_
    · simp only [List.map_cons, List.map_nil]
      decide +kernel
    · simp [Json.isUnambiguous]
  have reference : ∀ reference : RoutineReference,
      reference.toJson.isUnambiguous nfc = true := by
    intro reference
    refine isUnambiguous_obj ascii _ ?_ ?_
    · simp only [List.map_cons, List.map_nil]
      decide +kernel
    · simp [Json.isUnambiguous]
  refine isUnambiguous_obj ascii _ ?_ ?_
  · simp only [RoutineResultRun.members, List.cons_append, List.nil_append, List.map_cons,
      List.map_nil]
    decide +kernel
  · simp [RoutineResultRun.members, Json.isUnambiguous, Json.itemsUnambiguous_eq, scope,
      reference]

/-- The canonical text of the report's members and that of the others fit together. -/
def RoutineResultRun.Fits (nfc : String → String) (uuidText : Uuid → String)
    (run : RoutineResultRun) (report : RoutineReport) : Prop :=
  ∃ others own, canonicalLength nfc (.obj (run.members uuidText report.outcome)) = .ok others ∧
    canonicalLength nfc (routineVariablePayload report.text report.references) = .ok own ∧
    others + own ≤ maxRoutineEventBytes + 1

/-- The bounds that the tool checks, part by part. -/
structure RoutineReport.IsBounded (report : RoutineReport) : Prop where
  text : isBoundedRoutineText report.text = true
  few : report.references.length ≤ maxRoutineReferenceCount
  references : ∀ reference ∈ report.references, reference.isBounded = true

variable {report : RoutineReport}

theorem validateRoutineResult_spec {args : Json}
    (accepted : validateRoutineResult args = some report) :
    report.IsBounded ∧ ∀ shown, routineResultValue args = .ok shown ↔
      shown = report ∧ fitsRoutineEnvelope report.text report.references = true := by
  simp only [validateRoutineResult] at accepted
  split at accepted
  · next exactly =>
    split at accepted
    · next name text isName isText =>
      simp only [Option.bind_eq_some_iff, Option.ite_none_right_eq_some,
        Option.map_eq_some_iff] at accepted
      obtain ⟨outcome, isOutcome, bounded, references, isReferences, rfl⟩ := accepted
      obtain ⟨few, each⟩ := routineReferences?_spec isReferences
      refine ⟨⟨bounded, few, each⟩, fun shown => ?_⟩
      have named : name ∈ ["changed", "unchanged", "failed"] := by
        simp only [routineOutcome?] at isOutcome
        split at isOutcome <;> simp_all
      simp only [routineResultValue, exactly, isName, isText, memberOf, bounded, isReferences,
        bind_eq_ok, require_eq_ok, orRaise_eq_ok, pure_eq_ok, named, true_and]
      constructor
      · rintro ⟨_, _, ⟨_, rfl⟩, _, isOther, _, _, same, _, fits, rfl⟩
        cases isOutcome.symm.trans isOther
        cases same
        exact ⟨rfl, fits⟩
      · rintro ⟨rfl, fits⟩
        exact ⟨(), name, ⟨(), rfl⟩, outcome, isOutcome, (), references, rfl, (), fits, rfl⟩
    · cases accepted
  · cases accepted

theorem RoutineReport.IsBounded.isSent_iff (bounded : report.IsBounded) :
    report.isSent = true ↔ fitsRoutineEnvelope report.text report.references = true := by
  have text := bounded.text
  simp only [isBoundedRoutineText, decide_eq_true_eq] at text
  simp only [RoutineReport.isSent, routineReferences?_toJson bounded.few bounded.references,
    decide_eq_true_eq, Option.any_some]
  exact ⟨fun sent => sent.2.2, fun fits => ⟨text.1, text.2.1, fits⟩⟩

theorem RoutineReport.IsBounded.accepts_iff (bounded : report.IsBounded)
    (wire : Wire) (ascii : KeepsAscii wire.nfc) (run : RoutineResultRun)
    (valid : run.isValid = true) :
    run.accepts wire report = true ↔ run.Fits wire.nfc wire.uuidText report := by
  obtain ⟨whole, others, own, isWhole, isOthers, isOwn, _⟩ := canonicalLength_append
    (by simp [RoutineResultRun.members]) (by simp)
    (envelope_isUnambiguous ascii wire.uuidText run report)
  have text := bounded.text
  simp only [isBoundedRoutineText, decide_eq_true_eq] at text
  have someText : 1 ≤ report.text.length := by
    by_contra none
    exact text.1 (String.length_eq_zero_iff.mp (by omega))
  have each : ∀ reference ∈ report.references, reference.isContract = true :=
    fun reference member => RoutineReference.isContract_of_bounded (bounded.references reference member)
  have envelope : canonicalLength wire.nfc (run.envelope wire.uuidText report) = .ok whole :=
    isWhole
  simp only [RoutineResultRun.accepts, decide_eq_true_eq, envelope, valid, someText, bounded.few,
    text.2.1, true_and, Except.toOption, Option.any_some]
  constructor
  · rintro ⟨_, _⟩
    exact ⟨others, own, isOthers, isOwn, by omega⟩
  · rintro ⟨_, _, isLeft, isRight, _⟩
    cases isOthers.symm.trans isLeft
    cases isOwn.symm.trans isRight
    exact ⟨each, by omega⟩

end Contract

/-! ## From the tool to the contract -/

section Reports

variable (lib : PyLibrary) (wire : Wire) (messages : List Json) (callId arguments : String)

/-- The call is read in the transcript, its report is sent, and Foundry takes it. -/
def RoutineResultRun.Takes (run : RoutineResultRun) : Prop :=
  ∃ args report, routineResultCall lib messages (routineToolCall callId arguments) =
      .ok (some (callId, args)) ∧
    routineResultValue args = .ok report ∧ report.isSent = true ∧ run.accepts wire report = true

/-- A report that the tool accepted is taken exactly when the limits on the whole hold. -/
theorem accepted_report_is_taken_iff (ascii : KeepsAscii wire.nfc) (empty : lib.loads "" = none)
    (identity : isIdentity callId = true) (args : Json) (loads : lib.loads arguments = some args)
    (report : RoutineReport) (accepted : validateRoutineResult args = some report)
    (run : RoutineResultRun) (valid : run.isValid = true) :
    run.Takes lib wire messages callId arguments ↔
      arguments.utf8ByteSize ≤ maxRoutineArgumentBytes ∧
        fitsRoutineEnvelope report.text report.references = true ∧
        run.Fits wire.nfc wire.uuidText report := by
  obtain ⟨bounded, value⟩ := validateRoutineResult_spec accepted
  have written : arguments ≠ "" := by
    rintro rfl
    rw [empty] at loads
    cases loads
  have call : ∀ shown, routineResultCall lib messages (routineToolCall callId arguments) =
      .ok (some (callId, shown)) ↔
        arguments.utf8ByteSize ≤ maxRoutineArgumentBytes ∧ args = shown := by
    intro shown
    simp [routineResultCall, routineToolCall, Json.get?, resultCallText, routineCallId, identity,
      written, loads, bind_eq_ok]
  constructor
  · rintro ⟨shown, other, isCall, isReport, _, takes⟩
    obtain ⟨short, rfl⟩ := (call shown).mp isCall
    obtain ⟨rfl, fits⟩ := (value other).mp isReport
    exact ⟨short, fits, (bounded.accepts_iff wire ascii run valid).mp takes⟩
  · rintro ⟨short, fits, within⟩
    exact ⟨args, report, (call args).mpr ⟨short, rfl⟩, (value report).mpr ⟨rfl, fits⟩,
      bounded.isSent_iff.mpr fits, (bounded.accepts_iff wire ascii run valid).mpr within⟩

end Reports

/-- Escaped, it is six times as long. -/
def controlText (count : Nat) : String := String.ofList (List.replicate count (Char.ofNat 1))

section

variable (count : Nat)

theorem utf8ByteSize_controlText : (controlText count).utf8ByteSize = count := by
  induction count with
  | zero => rfl
  | succ count ih =>
    rw [controlText, List.replicate_succ, String.ofList_cons, String.utf8ByteSize_append,
      String.utf8ByteSize_singleton]
    exact (congrArg (_ + ·) ih).trans (Nat.add_comm 1 count)

theorem controlText_isBounded (some : 0 < count) (short : count ≤ 16384) :
    isBoundedRoutineText (controlText count) = true := by
  have nonempty : controlText count ≠ "" := by
    intro none
    have size := utf8ByteSize_controlText count
    rw [none] at size
    exact absurd size (Nat.ne_of_lt some)
  have plain : hasNul (controlText count) = false := by
    simp [hasNul, controlText, List.mem_replicate]
  simp only [isBoundedRoutineText, utf8ByteSize_controlText, decide_eq_true_eq]
  exact ⟨nonempty, short, plain⟩

theorem controlText_size :
    (Json.str (controlText count)).size = 6 * count + 2 := by
  simp only [Json.size, Json.spell, Json.quoted, controlText, String.toList_ofList,
    List.length_cons, List.length_append, List.length_nil, List.length_flatMap,
    List.map_replicate, List.sum_replicate_nat]
  rw [Nat.mul_comm]
  rfl

theorem controlText_fits (fits : fitsRoutineEnvelope (controlText count) [] = true) :
    count ≤ 10235 := by
  have references : (Json.quoted "references").length + (Json.arr []).size = 14 := by decide
  have text : (Json.quoted "text").length = 6 := by decide
  have whole := of_decide_eq_true fits
  rw [routineVariablePayload, Json.size_obj _ (by simp)] at whole
  simp only [List.map_cons, List.map_nil, List.sum_cons, List.sum_nil, Json.memberSize,
    controlText_size, references, text, maxRoutineFixedBytes, maxRoutineEventBytes] at whole
  omega

end

def controlArguments (count : Nat) : Json :=
  .obj [("outcome", .str "changed"), ("text", .str (controlText count)), ("references", .arr [])]

theorem controlArguments_accepted (count : Nat) (some : 0 < count) (short : count ≤ 16384) :
    validateRoutineResult (controlArguments count) = .some ⟨.changed, controlText count, []⟩ := by
  have read : validateRoutineResult (controlArguments count) =
      if isBoundedRoutineText (controlText count) then .some ⟨.changed, controlText count, []⟩
      else none := rfl
  rw [read, if_pos (controlText_isBounded count some short)]

/-- Reads one document. -/
def doneLibrary : PyLibrary where
  loads text := if text = "done" then some (controlArguments 1) else none
  sha256 := id
  isPrintable _ := true
  strip := id
  fromIsoFormat _ := none

def doneRun : RoutineResultRun where
  scope := ⟨1, 2, 3, 4⟩
  issuedAt := "2026-01-01T00:00:00Z"
  deadlineAt := "2026-01-01T01:00:00Z"
  fingerprint := ""
  eventId := 5
  eventSequence := 1
  routineId := 6
  occurrenceId := 7
  runId := 8
  routineRevision := 1
  titleSnapshot := "Digest"
  executionId := 9
  attemptId := 10
  generation := 0
  mainConversationId := 11
  runConversationId := 12
  delayed := false

/-- A short report is taken when its envelope fits. -/
theorem short_report_is_taken :
    doneRun.Takes doneLibrary plainWire [] "call-1" "done" ↔
      "done".utf8ByteSize ≤ maxRoutineArgumentBytes ∧
        fitsRoutineEnvelope (controlText 1) [] = true ∧
        doneRun.Fits id plainWire.uuidText ⟨.changed, controlText 1, []⟩ :=
  accepted_report_is_taken_iff doneLibrary plainWire [] "call-1" "done"
    (fun _ _ => rfl) rfl (by decide +kernel) (controlArguments 1) rfl
    ⟨.changed, controlText 1, []⟩ (by decide +kernel) doneRun (by decide +kernel)

/-- The tool accepts 12000 control characters, and the transcript does not. -/
theorem control_text_is_refused :
    validateRoutineResult (controlArguments 12000) = some ⟨.changed, controlText 12000, []⟩ ∧
      ∀ report, routineResultValue (controlArguments 12000) ≠ .ok report := by
  have accepted := controlArguments_accepted 12000 (by decide) (by decide)
  refine ⟨accepted, ?_⟩
  intro report value
  have fits := (((validateRoutineResult_spec accepted).2 report).mp value).2
  have fewer := controlText_fits 12000 fits
  omega

end Foundry
