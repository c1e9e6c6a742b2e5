import Foundry.Services.Souls

/-!
# Souls that are rendered again

A rendering gives its values back where the text after the job does not stand in the job itself.
That of the platform layer is longer than a job may be; the legacy one is not.
-/

set_option autoImplicit false

namespace Foundry

/-! ## The property -/

/-- The rewrites of the renderings of the values. -/
structure SoulValues.RoundTrips (values : SoulValues) : Prop where
  legacy : legacySoulFor (platformLayerSoulTemplate.render values) =
    some (legacySoulTemplate.render values)
  restored : ((rerender (legacySoulTemplate.render values) legacySoulTemplate
    platformLayerSoulTemplate).bind fun soul =>
      rerender soul platformLayerSoulTemplate legacySoulTemplate) =
    some (legacySoulTemplate.render values)
  adopted : ((rerender (platformLayerSoulTemplate.render values) platformLayerSoulTemplate
    legacySoulTemplate).bind fun soul =>
      rerender soul legacySoulTemplate platformLayerSoulTemplate) =
    some (platformLayerSoulTemplate.render values)

/-! ## The shortest match -/

section Match

variable {template : SoulTemplate} {text : List Char} {values matched : SoulValues}

section

variable (template : SoulTemplate) (values : SoulValues)

theorem cut_render :
    template.cut (template.render values) values.name.length values.job.length = values := by
  obtain ⟨name, job, personality⟩ := values
  have named : (template.render ⟨name, job, personality⟩).drop soulHead.length =
      name ++ (soulIntroduction ++ (name ++ (template.job ++ (job ++ (template.personality ++
        (personality ++ template.closing)))))) := List.drop_left
  have whole : name ++ (soulIntroduction ++ (name ++ (template.job ++ (job ++
      (template.personality ++ (personality ++ template.closing)))))) =
        (name ++ (soulIntroduction ++ (name ++ template.job))) ++ (job ++ (template.personality ++
          (personality ++ template.closing))) := by
    simp only [List.append_assoc]
  have rest : (name ++ (soulIntroduction ++ (name ++ (template.job ++ (job ++
      (template.personality ++ (personality ++ template.closing))))))).drop
        (name.length + (soulIntroduction.length + (name.length + template.job.length))) =
      job ++ (template.personality ++ (personality ++ template.closing)) := by
    rw [whole]
    exact List.drop_left' (by simp only [List.length_append])
  have last : (job ++ (template.personality ++ (personality ++ template.closing))).drop
      (job.length + template.personality.length) = personality ++ template.closing := by
    rw [← List.append_assoc]
    exact List.drop_left' (by simp only [List.length_append])
  simp only [SoulTemplate.cut, named, rest, last, List.take_left, List.length_append,
    Nat.add_sub_cancel]

theorem fullmatch_render :
    ∃ matched, template.fullmatch (template.render values) = some matched ∧
      template.render matched = template.render values ∧
      matched.name.length ≤ values.name.length ∧
      (matched.name.length = values.name.length → matched.job.length ≤ values.job.length) := by
  have nameBound : values.name.length < (template.render values).length + 1 := by
    simp only [SoulTemplate.render, List.length_append]
    omega
  have jobBound : values.job.length < (template.render values).length + 1 := by
    simp only [SoulTemplate.render, List.length_append]
    omega
  have fits := congrArg template.render (cut_render template values)
  cases jobs : template.jobLength? (template.render values) values.name.length with
  | none =>
    have none := List.find?_range_eq_none.mp jobs values.job.length jobBound
    exact absurd fits (by simpa using none)
  | some =>
    cases names : (List.range ((template.render values).length + 1)).find? fun nameLength =>
        (template.jobLength? (template.render values) nameLength).isSome with
    | none =>
      have none := List.find?_range_eq_none.mp names values.name.length nameBound
      rw [jobs] at none
      cases none
    | some nameLength =>
      obtain ⟨found, _, shortest⟩ := List.find?_range_eq_some.mp names
      obtain ⟨_, foundJob⟩ := Option.isSome_iff_exists.mp found
      obtain ⟨renders, _, shortestJob⟩ := List.find?_range_eq_some.mp foundJob
      have shortName : nameLength ≤ values.name.length := by
        by_contra longer
        have none := shortest values.name.length (by omega)
        rw [jobs] at none
        cases none
      refine ⟨_, by simp only [SoulTemplate.fullmatch, names, foundJob, Option.bind_eq_bind,
        Option.bind_some]; rfl, by simpa using renders, ?_, ?_⟩
      · exact Nat.le_trans (List.length_take_le _ _) shortName
      · intro same
        have nameTaken : nameLength = values.name.length :=
          Nat.le_antisymm shortName (same ▸ List.length_take_le _ _)
        subst nameTaken
        refine Nat.le_trans (List.length_take_le _ _) ?_
        by_contra longer
        have none := shortestJob values.job.length (by omega)
        exact absurd fits (by simpa using none)

end

/-- A match is a rendering. -/
theorem render_of_fullmatch (found : template.fullmatch text = some values) :
    template.render values = text := by
  simp only [SoulTemplate.fullmatch, Option.bind_eq_bind, Option.bind_eq_some_iff] at found
  obtain ⟨_, _, _, foundJob, given⟩ := found
  cases given
  simpa using (List.find?_range_eq_some.mp foundJob).1

/-- No proper end of the passage after the job begins it. -/
def SoulTemplate.isUnbordered (template : SoulTemplate) : Bool :=
  (List.range template.personality.length).all fun shift =>
    shift = 0 || !(template.personality.drop shift).isPrefixOf template.personality

/-- A reading whose name is no longer than one of a single line has that name. -/
theorem name_eq (oneLine : '\n' ∉ values.name)
    (same : template.render matched = template.render values)
    (shortName : matched.name.length ≤ values.name.length) : matched.name = values.name := by
  have named := List.append_cancel_left same
  rcases List.append_eq_append_iff.mp named with ⟨more, isName, rest⟩ | ⟨more, isName, _⟩
  · cases more with
    | nil => exact (isName.trans (List.append_nil _)).symm
    | cons letter =>
      -- what follows the shorter name begins with a line feed
      have first : letter = '\n' := (List.cons.inj rest).1.symm
      rw [isName, first] at oneLine
      simp at oneLine
  · have none : more.length = 0 := by
      rw [isName, List.length_append] at shortName
      omega
    rw [isName, List.length_eq_zero_iff.mp none, List.append_nil]

/-- Of two readings of a text, one with no longer name and job is the same. -/
theorem values_eq (unbordered : template.isUnbordered = true)
    (free : ¬template.personality <:+: values.job) (oneLine : '\n' ∉ values.name)
    (same : template.render matched = template.render values)
    (shortName : matched.name.length ≤ values.name.length)
    (shortJob : matched.name.length = values.name.length →
      matched.job.length ≤ values.job.length) : matched = values := by
  have whole := same
  obtain ⟨name, job, personality⟩ := values
  obtain ⟨_, otherJob, _⟩ := matched
  simp only [SoulTemplate.render] at free oneLine same shortName shortJob
  have named := List.append_cancel_left same
  have sameName := @name_eq template ⟨name, job, personality⟩ _ oneLine whole shortName
  simp only at sameName
  subst sameName
  have jobs := List.append_cancel_left (List.append_cancel_left (List.append_cancel_left
    (List.append_cancel_left named)))
  have sameJob : otherJob = job := by
    rcases List.append_eq_append_iff.mp jobs with ⟨more, isJob, rest⟩ | ⟨more, isJob, _⟩
    · rcases List.append_eq_append_iff.mp rest with ⟨last, isMore, _⟩ | ⟨last, isPassage, tail⟩
      · exact absurd ⟨otherJob, last, by rw [isJob, isMore, List.append_assoc]⟩ free
      · have begins : last <+: template.personality :=
          List.prefix_of_prefix_length_le ⟨_, tail.symm⟩ (List.prefix_append _ _)
            (by rw [isPassage, List.length_append]; omega)
        cases last with
        | nil =>
          rw [List.append_nil] at isPassage
          exact absurd ⟨otherJob, [], by rw [isPassage, ← isJob, List.append_nil]⟩ free
        | cons letter last =>
          have shift := List.all_eq_true.mp unbordered more.length (List.mem_range.mpr (by
            rw [isPassage, List.length_append, List.length_cons]
            omega))
          have ends : template.personality.drop more.length = letter :: last := by
            rw [isPassage, List.drop_left]
          rw [ends, List.isPrefixOf_iff_prefix.mpr begins] at shift
          have none : more = [] := by simpa using shift
          rw [isJob, none, List.append_nil]
    · have short := shortJob rfl
      have none : more.length = 0 := by
        rw [isJob, List.length_append] at short
        omega
      rw [isJob, List.length_eq_zero_iff.mp none, List.append_nil]
  subst sameJob
  have last := List.append_cancel_right (List.append_cancel_left (List.append_cancel_left jobs))
  rw [last]

end Match

/-! ## The two templates -/

section Templates

variable {values : SoulValues}

theorem unbordered_legacy : legacySoulTemplate.isUnbordered = true := by decide +kernel

theorem unbordered_platformLayer : platformLayerSoulTemplate.isUnbordered = true := by
  decide +kernel

/-- A job of the admitted length has no room for the passage of the platform layer. -/
theorem free_platformLayer (short : values.job.length ≤ 200) :
    ¬platformLayerSoulTemplate.personality <:+: values.job := by
  intro inJob
  have long : platformLayerSoulTemplate.personality.length = 258 := by decide +kernel
  have fits := inJob.length_le
  omega

theorem rerender_render (source target : SoulTemplate) (values : SoulValues) :
    ∃ matched, rerender (source.render values) source target = some (target.render matched) ∧
      source.render matched = source.render values ∧
      matched.name.length ≤ values.name.length ∧
      (matched.name.length = values.name.length → matched.job.length ≤ values.job.length) := by
  obtain ⟨matched, found, renders, shortName, shortJob⟩ := fullmatch_render source values
  refine ⟨matched, ?_, renders, shortName, shortJob⟩
  rw [rerender, found]
  simp [renders]

theorem rerender_free {source : SoulTemplate} (target : SoulTemplate)
    (unbordered : source.isUnbordered = true) (free : ¬source.personality <:+: values.job)
    (oneLine : '\n' ∉ values.name) :
    rerender (source.render values) source target = some (target.render values) := by
  obtain ⟨_, found, renders, shortName, shortJob⟩ := rerender_render source target values
  rw [found, values_eq unbordered free oneLine renders shortName shortJob]

theorem rerender_platformLayer (target : SoulTemplate) (short : values.job.length ≤ 200)
    (oneLine : '\n' ∉ values.name) :
    rerender (platformLayerSoulTemplate.render values) platformLayerSoulTemplate target =
      some (target.render values) :=
  rerender_free target unbordered_platformLayer (free_platformLayer short) oneLine

section

variable (short : values.job.length ≤ 200) (oneLine : '\n' ∉ values.name)

include short oneLine

/-- A rewrite away from the legacy rendering is undone by the one back. -/
theorem restored_legacy :
    ∃ matched, rerender (legacySoulTemplate.render values) legacySoulTemplate
        platformLayerSoulTemplate = some (platformLayerSoulTemplate.render matched) ∧
      rerender (platformLayerSoulTemplate.render matched) platformLayerSoulTemplate
        legacySoulTemplate = some (legacySoulTemplate.render values) := by
  obtain ⟨matched, found, renders, shortName, shortJob⟩ :=
    rerender_render legacySoulTemplate platformLayerSoulTemplate values
  have sameName := name_eq oneLine renders shortName
  have lessJob := shortJob (congrArg List.length sameName)
  refine ⟨matched, found, ?_⟩
  rw [rerender_platformLayer _ (Nat.le_trans lessJob short) (sameName ▸ oneLine), renders]

/-- A job with the passage of the legacy rendering is cut before it. -/
theorem adopted_iff :
    rerender (legacySoulTemplate.render values) legacySoulTemplate platformLayerSoulTemplate =
        some (platformLayerSoulTemplate.render values) ↔
      ¬legacySoulTemplate.personality <:+: values.job := by
  constructor
  · rintro adopted ⟨before, after, isJob⟩
    let earlier : SoulValues := ⟨values.name, before, after ++ (legacySoulTemplate.personality ++
      values.personality)⟩
    have same : legacySoulTemplate.render earlier = legacySoulTemplate.render values := by
      simp only [SoulTemplate.render, earlier, ← isJob, List.append_assoc]
    obtain ⟨matched, found, renders, shortName, shortJob⟩ :=
      rerender_render legacySoulTemplate platformLayerSoulTemplate earlier
    rw [same, adopted, Option.some.injEq] at found
    have sameName := @name_eq _ earlier _ oneLine renders shortName
    have less : matched.job.length ≤ before.length := shortJob (congrArg List.length sameName)
    have long : legacySoulTemplate.personality ≠ [] := by decide +kernel
    have least := List.length_pos_iff.mpr long
    have whole : values.job.length =
        before.length + legacySoulTemplate.personality.length + after.length := by
      rw [← isJob, List.length_append, List.length_append]
    have one := values_eq unbordered_platformLayer (free_platformLayer short) oneLine found.symm
      shortName fun _ => by omega
    rw [one] at less
    omega
  · exact fun free => rerender_free _ unbordered_legacy free oneLine

end

end Templates

/-! ## The rewrites -/

variable {values : SoulValues}

theorem isAdmitted_spec {isControl : Char → Bool} (admitted : values.isAdmitted isControl = true) :
    values.job.length ≤ 200 ∧ '\n' ∉ values.name := by
  simp only [SoulValues.isAdmitted, Bool.and_eq_true, decide_eq_true_eq] at admitted
  obtain ⟨⟨⟨⟨⟨⟨⟨_, line⟩, _⟩, short⟩, _⟩, _⟩, _⟩, _⟩ := admitted
  refine ⟨short, fun member => ?_⟩
  have clean := List.all_eq_true.mp line '\n' member
  revert clean
  simp [isAsciiControl]

theorem roundTrips_iff (short : values.job.length ≤ 200) (oneLine : '\n' ∉ values.name) :
    values.RoundTrips ↔ ¬legacySoulTemplate.personality <:+: values.job := by
  have legacy := rerender_platformLayer legacySoulTemplate short oneLine
  rw [← adopted_iff short oneLine]
  constructor
  · intro roundTrips
    have adopted := roundTrips.adopted
    rwa [legacy] at adopted
  · intro adopted
    obtain ⟨_, found, restored⟩ := restored_legacy short oneLine
    exact ⟨legacy, by rw [found]; exact restored, by rw [legacy]; exact adopted⟩

/-- The rewrites of admitted values round-trip exactly where the job does not hold the passage that
follows it in the legacy rendering, and a text that is no rendering has no legacy form. -/
theorem souls_round_trip_where_no_job_holds_the_passage (isControl : Char → Bool) :
    (∀ values : SoulValues, values.isAdmitted isControl = true →
      (values.RoundTrips ↔ ¬legacySoulTemplate.personality <:+: values.job)) ∧
      ∀ soul, (∀ values, soul ≠ platformLayerSoulTemplate.render values) →
        legacySoulFor soul = none := by
  constructor
  · intro values admitted
    obtain ⟨short, oneLine⟩ := isAdmitted_spec admitted
    exact roundTrips_iff short oneLine
  · intro soul unrendered
    unfold legacySoulFor rerender
    split
    · rfl
    · next values found =>
      exact absurd (render_of_fullmatch found).symm (unrendered values)

/-- A job that is the passage itself. -/
def passageSoul : SoulValues := ⟨"June".toList, legacySoulTemplate.personality, "calm".toList⟩

/-- The values are admitted, and the migration and its reverse do not give their soul back. -/
theorem passage_soul_is_not_restored :
    passageSoul.isAdmitted (fun _ => false) = true ∧ ¬passageSoul.RoundTrips := by
  have admitted : passageSoul.isAdmitted (fun _ => false) = true := by decide +kernel
  obtain ⟨short, oneLine⟩ := isAdmitted_spec admitted
  have isPassage : passageSoul.job = legacySoulTemplate.personality := by rw [passageSoul]
  have inJob := List.infix_refl legacySoulTemplate.personality
  rw [← isPassage] at inJob
  exact ⟨admitted, fun roundTrips =>
    (roundTrips_iff short oneLine).mp roundTrips (isPassage ▸ inJob)⟩

end Foundry
