import Foundry.Hermes.Coalescing

/-!
# Coalescing changes no text

What `_CoalescedStream` yields is the inner stream with adjacent deltas of one run merged, for
every inner stream and every timing of the window.
-/

set_option autoImplicit false

namespace Foundry.Coalescing

variable {Foreign Error : Type}

/-! ## Merged deltas -/

def HermesEvent.text (event : HermesEvent) : String :=
  event.deltaText.getD ""

def totalSize (events : List HermesEvent) : Nat :=
  (events.map fun event => event.text.utf8ByteSize).sum

structure Group (limit : Int) (first : HermesEvent) (others : List HermesEvent) : Prop where
  deltas : ∀ event ∈ first :: others, event.deltaText.isSome = true
  sameRun : ∀ event ∈ others, event.sessionId = first.sessionId ∧ event.runId = first.runId ∧
    event.profileId = first.profileId
  bounded : others = [] ∨ (totalSize (first :: others) : Int) ≤ limit

/-- The second list is the first with groups of adjacent deltas merged. -/
inductive Merged (limit : Int) : List (Item Foreign) → List (Item Foreign) → Prop where
  | nil : Merged limit [] []
  | group (first : HermesEvent) (others : List HermesEvent) (rest yields : List (Item Foreign)) :
      Group limit first others → Merged limit rest yields →
      Merged limit ((first :: others).map .event ++ rest)
        (.event (CoalescedStream.merged first others) :: yields)
  | other (item : Item Foreign) (rest yields : List (Item Foreign)) :
      item.deltaText = none → Merged limit rest yields →
      Merged limit (item :: rest) (item :: yields)

/-- The text before the first other item, and each other item with the text after it. -/
def textRuns : List (Item Foreign) → String × List (Item Foreign × String)
  | [] => ("", [])
  | item :: rest =>
    match item.deltaText with
    | some text => (text ++ (textRuns rest).1, (textRuns rest).2)
    | none => ("", (item, (textRuns rest).1) :: (textRuns rest).2)

section

variable {event : HermesEvent} (isDelta : event.deltaText.isSome = true)

include isDelta

theorem HermesEvent.text_eq :
    event.deltaText = some event.text := by
  obtain ⟨_, same⟩ := Option.isSome_iff_exists.mp isDelta
  rw [HermesEvent.text, same, Option.getD_some]

theorem HermesEvent.name_of_delta :
    event.name = "message.delta" := by
  unfold deltaText at isDelta
  split at isDelta
  · next named => exact named
  · cases isDelta

end

theorem merged_nil (event : HermesEvent) : CoalescedStream.merged event [] = event := by
  have same : String.join [event.deltaText.getD ""] = event.deltaText.getD "" := by
    rw [String.join_cons, String.join_nil, String.append_empty]
  simp only [CoalescedStream.merged, List.map_cons, List.map_nil, same, if_true]

variable {first : HermesEvent}

theorem deltaText_merged (others : List HermesEvent) (isDelta : first.deltaText.isSome = true) :
    (CoalescedStream.merged first others).deltaText =
      some (String.join ((first :: others).map HermesEvent.text)) := by
  have unfolded : CoalescedStream.merged first others =
      if String.join ((first :: others).map HermesEvent.text) = first.text then first
      else { first with
        payload := textPayload (String.join ((first :: others).map HermesEvent.text)) } := rfl
  rw [unfolded]
  split
  · next same => rw [HermesEvent.text_eq isDelta, same]
  · rw [HermesEvent.deltaText, if_pos (HermesEvent.name_of_delta isDelta)]
    rfl

theorem utf8ByteSize_join (texts : List String) :
    (String.join texts).utf8ByteSize = (texts.map String.utf8ByteSize).sum := by
  induction texts with
  | nil => rfl
  | cons _ _ ih =>
    rw [String.join_cons, String.utf8ByteSize_append, ih, List.map_cons, List.sum_cons]

theorem textRuns_deltas (events : List HermesEvent) (rest : List (Item Foreign))
    (deltas : ∀ event ∈ events, event.deltaText.isSome = true) :
    textRuns (events.map .event ++ rest) =
      (String.join (events.map HermesEvent.text) ++ (textRuns rest).1, (textRuns rest).2) := by
  induction events with
  | nil =>
    rw [List.map_nil, List.map_nil, List.nil_append, String.join_nil, String.empty_append]
  | cons event _ ih =>
    have isDelta : (Item.event event : Item Foreign).deltaText = some event.text :=
      HermesEvent.text_eq (deltas event (List.mem_cons_self ..))
    rw [List.map_cons, List.cons_append, textRuns, isDelta]
    simp only
    rw [ih fun other member => deltas other (List.mem_cons_of_mem event member), List.map_cons,
      String.join_cons, String.append_assoc]

theorem totalSize_append (events : List HermesEvent) (event : HermesEvent) :
    totalSize (events ++ [event]) = totalSize events + event.text.utf8ByteSize := by
  rw [totalSize, List.map_append, List.sum_append]
  rfl

variable {event : HermesEvent}

theorem Group.single (limit : Int)
    (isDelta : event.deltaText.isSome = true) : Group limit event [] where
  deltas := by
    intro other member
    rw [List.mem_singleton.mp member]
    exact isDelta
  sameRun := by rintro other ⟨⟩
  bounded := .inl rfl

theorem Group.snoc {limit : Int} {others : List HermesEvent}
    (grouped : Group limit first others) (isDelta : event.deltaText.isSome = true)
    (sameRun : event.sessionId = first.sessionId ∧ event.runId = first.runId ∧
      event.profileId = first.profileId)
    (fits : (totalSize (first :: (others ++ [event])) : Int) ≤ limit) :
    Group limit first (others ++ [event]) where
  deltas := by
    intro other member
    rw [← List.cons_append, List.mem_append, List.mem_singleton] at member
    rcases member with earlier | rfl
    · exact grouped.deltas other earlier
    · exact isDelta
  sameRun := by
    intro other member
    rw [List.mem_append, List.mem_singleton] at member
    rcases member with earlier | rfl
    · exact grouped.sameRun other earlier
    · exact sameRun
  bounded := .inr fits

section

variable {limit : Int} {items yields : List (Item Foreign)} (isMerged : Merged limit items yields)

include limit isMerged

theorem Merged.textRuns_eq : textRuns yields = textRuns items := by
  induction isMerged with
  | nil => rfl
  | group first others _ yields grouped _ ih =>
    rw [textRuns_deltas _ _ grouped.deltas, ← ih, textRuns]
    have isDelta := deltaText_merged others (grouped.deltas first (List.mem_cons_self ..))
    change (match (CoalescedStream.merged first others).deltaText with
      | some text => (text ++ (textRuns yields).1, (textRuns yields).2)
      | none => _) = _
    rw [isDelta]
  | other _ _ _ isOther _ ih => rw [textRuns, textRuns, isOther, ih]

theorem Merged.bounded (event : HermesEvent) (member : .event event ∈ yields)
    (isDelta : event.deltaText.isSome = true) :
    (event.text.utf8ByteSize : Int) ≤ limit ∨
      ∃ read, .event read ∈ items ∧ read.deltaText.isSome = true ∧
        event.text.utf8ByteSize ≤ read.text.utf8ByteSize := by
  induction isMerged with
  | nil => cases member
  | group first others _ _ grouped _ ih =>
    rcases List.mem_cons.mp member with same | later
    · have here : event = CoalescedStream.merged first others := Item.event.inj same
      have isFirst := grouped.deltas first (List.mem_cons_self ..)
      rcases grouped.bounded with alone | within
      · refine .inr ⟨first, List.mem_append_left _ (List.mem_cons_self ..), isFirst, ?_⟩
        rw [here, alone, merged_nil]
      · refine .inl ?_
        rw [here, HermesEvent.text, deltaText_merged others isFirst, Option.getD_some,
          utf8ByteSize_join, List.map_map]
        exact within
    · rcases ih later with within | ⟨read, found, isRead, least⟩
      · exact .inl within
      · exact .inr ⟨read, List.mem_append_right _ found, isRead, least⟩
  | other _ _ _ isOther _ ih =>
    rcases List.mem_cons.mp member with same | later
    · rw [← same] at isOther
      change event.deltaText = none at isOther
      rw [isOther] at isDelta
      cases isDelta
    · rcases ih later with within | ⟨read, found, isRead, least⟩
      · exact .inl within
      · exact .inr ⟨read, List.mem_cons_of_mem _ found, isRead, least⟩

end

/-! ## What is still to be yielded -/

namespace CoalescedStream

/-- The items that are not read, the one that is under way first. -/
def unread (stream : CoalescedStream Foreign Error) : List (Item Foreign) :=
  match stream.pending with
  | some (.item item) => item :: stream.inner
  | _ => stream.inner

def undelivered (stream : CoalescedStream Foreign Error) : List (Item Foreign) :=
  stream.held.toList ++ stream.buffer.map .event ++ stream.unread

def endingOf : Option Error → Ending Error
  | some error => .raised error
  | none => .stopped

def lastResult : Option Error → ReadResult Foreign Error
  | some error => .raised error
  | none => .ended

def finish (stream : CoalescedStream Foreign Error) : Ending Error :=
  if stream.done then endingOf stream.error else endingOf stream.ending

structure Sound (limit : Int) (stream : CoalescedStream Foreign Error) : Prop where
  limited : stream.maxBytes = limit
  /-- What is held is no delta, and nothing waits before it. -/
  heldAlone : ∀ item, stream.held = some item → item.deltaText = none ∧ stream.buffer = []
  grouped : ∀ first others, stream.buffer = first :: others → Group limit first others
  counted : stream.bufferBytes = totalSize stream.buffer
  firstAlone : stream.firstDeltaSent = false → stream.buffer = []
  /-- A read that gives no item is the last one. -/
  lastRead : ∀ result, stream.pending = some result →
    (∃ item, result = .item item) ∨ (stream.inner = [] ∧
      result = lastResult stream.ending)
  finished : stream.done = true → stream.inner = [] ∧ stream.pending = none
  unraised : stream.done = false → stream.error = none

variable {limit : Int} {stream read after : CoalescedStream Foreign Error}
  {result : ReadResult Foreign Error}

theorem Sound.start (limit : Int) (inner : List (Item Foreign)) (ending : Option Error)
    (timeouts : List Bool) : (start inner ending limit timeouts).Sound limit where
  limited := rfl
  heldAlone := by rintro item ⟨⟩
  grouped := by rintro first others ⟨⟩
  counted := rfl
  firstAlone := fun _ => rfl
  lastRead := by rintro result ⟨⟩
  finished := by rintro ⟨⟩
  unraised := fun _ => rfl

theorem Sound.of_read (sound : stream.Sound limit) (running : stream.done = false)
    (inner : List (Item Foreign)) (kept : Option (ReadResult Foreign Error)) (timeouts : List Bool)
    (last : ∀ result, kept = some result →
      (∃ item, result = .item item) ∨ (inner = [] ∧ result = lastResult stream.ending)) :
    Sound limit
      { stream with inner := inner, pending := kept, timeouts := timeouts } where
  limited := sound.limited
  heldAlone := sound.heldAlone
  grouped := sound.grouped
  counted := sound.counted
  firstAlone := sound.firstAlone
  lastRead := last
  finished := by
    intro done
    change stream.done = true at done
    rw [running] at done
    cases done
  unraised := sound.unraised

theorem Sound.ensureFuture (sound : stream.Sound limit) :
    ∃ result inner, stream.ensureFuture = (result, { stream with inner := inner }) ∧
      ((∃ item, result = .item item ∧ stream.unread = item :: inner) ∨
        (stream.unread = [] ∧ inner = [] ∧ result = lastResult stream.ending)) := by
  unfold CoalescedStream.ensureFuture
  split
  · next result pending =>
    refine ⟨result, stream.inner, rfl, ?_⟩
    rcases sound.lastRead result pending with ⟨item, rfl⟩ | ⟨empty, rfl⟩
    · refine .inl ⟨item, rfl, ?_⟩
      rw [unread, pending]
    · refine .inr ⟨?_, empty, rfl⟩
      rw [unread, pending, ← empty]
      cases stream.ending with
      | none => rfl
      | some => rfl
  · next pending =>
    have none : stream.unread = stream.inner := by
      rw [unread, pending]
    rw [none]
    cases inner : stream.inner with
    | cons item rest =>
      refine ⟨.item item, rest, ?_, .inl ⟨item, rfl, rfl⟩⟩
      rw [innerNext, inner]
    | nil =>
      refine ⟨lastResult stream.ending, [], ?_, .inr ⟨rfl, rfl, rfl⟩⟩
      have same : { stream with inner := [] } = stream := by rw [← inner]
      rw [same, innerNext, inner]
      cases stream.ending with
      | none => rfl
      | some => rfl

theorem Sound.next (sound : stream.Sound limit) (running : stream.done = false) :
    (∃ item inner timeouts,
      stream.next = (.item item,
        { stream with inner := inner, pending := none, timeouts := timeouts }) ∧
      stream.unread = item :: inner) ∨
    (∃ timeouts,
      stream.next = (lastResult stream.ending,
        { stream with inner := [], pending := none, timeouts := timeouts }) ∧
      stream.unread = []) ∨
    ∃ read, stream.next = (.timedOut, read) ∧ read.Sound limit ∧ stream.buffer ≠ [] ∧
      read.buffer = stream.buffer ∧ read.held = stream.held ∧ read.unread = stream.unread ∧
      read.finish = stream.finish := by
  obtain ⟨result, inner, starts, gives⟩ := sound.ensureFuture
  have ready : ∀ timeouts, stream.next =
        (result, { stream with inner := inner, pending := none, timeouts := timeouts }) →
      (∃ item inner timeouts,
        stream.next = (.item item,
          { stream with inner := inner, pending := none, timeouts := timeouts }) ∧
        stream.unread = item :: inner) ∨
      (∃ timeouts,
        stream.next = (lastResult stream.ending,
          { stream with inner := [], pending := none, timeouts := timeouts }) ∧
        stream.unread = []) := by
    intro timeouts same
    rcases gives with ⟨item, rfl, next⟩ | ⟨none, rfl, rfl⟩
    · exact .inl ⟨item, inner, timeouts, same, next⟩
    · exact .inr ⟨timeouts, same, none⟩
  by_cases empty : stream.buffer.isEmpty = true
  · have same : stream.next =
        (result, { stream with inner := inner, pending := none, timeouts := stream.timeouts }) := by
      rw [CoalescedStream.next, starts]
      exact if_pos empty
    rcases ready _ same with item | last
    · exact .inl item
    · exact .inr (.inl last)
  by_cases cut : stream.timeouts.headD false = true
  · have same : stream.next = (.timedOut,
        { stream with
          inner := inner
          pending := some result
          timeouts := stream.timeouts.tail }) := by
      rw [CoalescedStream.next, starts]
      exact (if_neg empty).trans (if_pos cut)
    refine .inr (.inr ⟨_, same, ?_, ?_, rfl, rfl, ?_, rfl⟩)
    · refine sound.of_read running inner (some result) _ ?_
      rintro _ ⟨⟩
      rcases gives with ⟨item, isItem, _⟩ | ⟨_, none, last⟩
      · exact .inl ⟨item, isItem⟩
      · exact .inr ⟨none, last⟩
    · intro none
      rw [none] at empty
      exact empty rfl
    · rcases gives with ⟨_, rfl, next⟩ | ⟨none, rfl, rfl⟩
      · rw [next]
        rfl
      · rw [none]
        cases stream.ending with
        | none => rfl
        | some => rfl
  · have same : stream.next = (result,
        { stream with inner := inner, pending := none, timeouts := stream.timeouts.tail }) := by
      rw [CoalescedStream.next, starts]
      exact (if_neg empty).trans (if_neg cut)
    rcases ready _ same with item | last
    · exact .inl item
    · exact .inr (.inl last)

/-! ## Turns -/

/-- A turn yields what comes first, keeps the rest, and ends as the stream is to end. -/
def Follows (limit : Int) (stream : CoalescedStream Foreign Error) : Turn Foreign Error → Prop
  | .continues after => after.Sound limit ∧ after.held = none ∧
      after.undelivered = stream.undelivered ∧ after.finish = stream.finish
  | .returns (.yields item) after => after.Sound limit ∧ after.finish = stream.finish ∧
      ∀ yields, Merged limit after.undelivered yields →
        Merged limit stream.undelivered (item :: yields)
  | .returns (.raises error) _ => stream.undelivered = [] ∧ stream.finish = .raised error
  | .returns .stops _ => stream.undelivered = [] ∧ stream.finish = .stopped
  | .returns .crashes _ => False

variable {text : String}

section

variable (sound : read.Sound limit)

include sound

variable {held : Option (Item Foreign)}

theorem Sound.flush (filled : read.buffer ≠ []) {buffer : List HermesEvent} {bytes : Nat}
    (goesOn : Sound limit { read with buffer := buffer, bufferBytes := bytes, held := held })
    (finishes : read.finish = stream.finish)
    (before : stream.undelivered = read.buffer.map .event ++
      undelivered { read with buffer := buffer, bufferBytes := bytes, held := held }) :
    stream.Follows limit (read.flush buffer bytes held) := by
  unfold CoalescedStream.flush
  split
  · next first others isBuffer =>
    refine ⟨goesOn, finishes, ?_⟩
    intro yields isMerged
    rw [before, isBuffer]
    exact .group first others _ yields (sound.grouped first others isBuffer) isMerged
  · next empty => exact filled empty

theorem Sound.emptied (isOther : ∀ item, held = some item → item.deltaText = none) :
    Sound limit { read with buffer := [], bufferBytes := 0, held := held } where
  limited := sound.limited
  heldAlone := fun item isHeld => ⟨isOther item isHeld, rfl⟩
  grouped := by rintro first others ⟨⟩
  counted := rfl
  firstAlone := fun _ => rfl
  lastRead := sound.lastRead
  finished := sound.finished
  unraised := sound.unraised

theorem Sound.joined (alone : read.held = none) (sent : read.firstDeltaSent = true)
    (isDelta : event.deltaText = some text) (joins : read.joins event text.utf8ByteSize = true) :
    Sound limit
      { read with
        buffer := read.buffer ++ [event]
        bufferBytes := read.bufferBytes + text.utf8ByteSize } := by
  have isText : event.text = text := by rw [HermesEvent.text, isDelta, Option.getD_some]
  have isSome : event.deltaText.isSome = true := by rw [isDelta, Option.isSome_some]
  have counts : read.bufferBytes + text.utf8ByteSize = totalSize (read.buffer ++ [event]) := by
    rw [totalSize_append, sound.counted, isText]
  refine ⟨sound.limited, (by rw [alone]; rintro item ⟨⟩), ?_, counts, ?_, sound.lastRead,
    sound.finished, sound.unraised⟩
  · intro first others isBuffer
    change read.buffer ++ [event] = first :: others at isBuffer
    unfold CoalescedStream.joins at joins
    split at joins
    · next empty =>
      rw [empty] at isBuffer
      cases isBuffer
      exact Group.single limit isSome
    · next rest filled =>
      simp only [Bool.and_eq_true, beq_iff_eq, decide_eq_true_eq] at joins
      obtain ⟨⟨⟨session, run⟩, profile⟩, fits⟩ := joins
      rw [filled] at isBuffer
      cases isBuffer
      refine (sound.grouped first rest filled).snoc isSome
        ⟨session.symm, run.symm, profile.symm⟩ ?_
      rw [counts, filled, sound.limited] at fits
      exact fits
  · intro unsent
    rw [sent] at unsent
    cases unsent

theorem Sound.restarted (sent : read.firstDeltaSent = true) (isDelta : event.deltaText = some text) :
    Sound limit
      { read with buffer := [event], bufferBytes := text.utf8ByteSize, held := none } := by
  have isSome : event.deltaText.isSome = true := by rw [isDelta, Option.isSome_some]
  refine ⟨sound.limited, (by rintro item ⟨⟩), ?_, ?_, ?_, sound.lastRead, sound.finished,
    sound.unraised⟩
  · rintro _ _ ⟨⟩
    exact Group.single limit isSome
  · rw [totalSize, List.map_singleton, List.sum_singleton, HermesEvent.text, isDelta]
    rfl
  · intro unsent
    rw [sent] at unsent
    cases unsent

end

theorem take_delta (isDelta : event.deltaText = some text) :
    read.take (.event event) = read.takeDelta event text := by
  simp only [CoalescedStream.take, Item.deltaText, isDelta]

variable {item : Item Foreign}

theorem take_other (isOther : item.deltaText = none) :
    read.take item =
      if read.buffer.isEmpty then .returns (.yields item) read
      else read.flush [] 0 (some item) := by
  cases item with
  | event => simp only [CoalescedStream.take, isOther]
  | foreign => rfl

theorem undelivered_of (alone : read.held = none) :
    read.undelivered = read.buffer.map .event ++ read.unread := by
  rw [undelivered, alone]
  rfl

theorem Sound.takeDelta (sound : read.Sound limit) (alone : read.held = none) (finishes : read.finish = stream.finish)
    (before : stream.undelivered = read.buffer.map .event ++ .event event :: read.unread)
    (isDelta : event.deltaText = some text) :
    stream.Follows limit (read.takeDelta event text) := by
  have isSome : event.deltaText.isSome = true := by rw [isDelta, Option.isSome_some]
  unfold CoalescedStream.takeDelta
  split
  · next unsent =>
    have empty := sound.firstAlone unsent
    refine ⟨⟨sound.limited, sound.heldAlone, sound.grouped, sound.counted, fun _ => empty,
      sound.lastRead, sound.finished, sound.unraised⟩, finishes, ?_⟩
    intro yields isMerged
    change Merged limit read.undelivered yields at isMerged
    rw [undelivered_of alone, empty, List.map_nil, List.nil_append] at isMerged
    rw [before, empty, List.map_nil, List.nil_append]
    have merges := Merged.group event [] read.unread yields (Group.single limit isSome) isMerged
    rwa [merged_nil] at merges
  · next sent =>
    have isSent : read.firstDeltaSent = true := Bool.not_eq_false _ ▸ sent
    split
    · next joins =>
      refine ⟨sound.joined alone isSent isDelta joins, alone, ?_, finishes⟩
      change read.held.toList ++ (read.buffer ++ [event]).map Item.event ++ read.unread = _
      rw [before, alone, Option.toList_none, List.nil_append, List.map_append,
        List.append_assoc]
      rfl
    · next apart =>
      have filled : read.buffer ≠ [] := by
        intro empty
        rw [joins, empty] at apart
        exact apart rfl
      refine sound.flush filled (sound.restarted isSent isDelta) finishes ?_
      rw [before]
      rfl

theorem Sound.take (sound : read.Sound limit) (alone : read.held = none)
    (finishes : read.finish = stream.finish)
    (before : stream.undelivered = read.buffer.map .event ++ item :: read.unread) :
    stream.Follows limit (read.take item) := by
  cases given : item.deltaText with
  | some =>
    cases item with
    | foreign => cases given
    | event =>
      rw [take_delta given]
      exact sound.takeDelta alone finishes before given
  | none =>
    rw [take_other given]
    split
    · next empty =>
      have none := List.isEmpty_iff.mp empty
      refine ⟨sound, finishes, ?_⟩
      intro yields isMerged
      rw [undelivered_of alone, none, List.map_nil, List.nil_append] at isMerged
      rw [before, none, List.map_nil, List.nil_append]
      exact .other item read.unread yields given isMerged
    · next filled =>
      have isFilled : read.buffer ≠ [] := fun none => filled (List.isEmpty_iff.mpr none)
      have isOther : ∀ other, some item = some other → other.deltaText = none := by
        rintro _ ⟨⟩
        exact given
      refine sound.flush isFilled (sound.emptied isOther) finishes ?_
      rw [before]
      rfl

theorem Sound.closed (sound : stream.Sound limit) (alone : stream.held = none)
    (running : stream.done = false) (nothing : stream.unread = []) (timeouts : List Bool)
    (error : Option Error) (ends : endingOf error = endingOf stream.ending) :
    stream.Follows limit (.continues
      { stream with
        inner := []
        pending := none
        timeouts := timeouts
        done := true
        error := error }) := by
  refine ⟨⟨sound.limited, sound.heldAlone, sound.grouped, sound.counted, sound.firstAlone,
    (by rintro result ⟨⟩), fun _ => ⟨rfl, rfl⟩, (by rintro ⟨⟩)⟩, alone, ?_, ?_⟩
  · rw [undelivered_of alone, nothing]
    exact undelivered_of alone
  · rw [finish, finish, running]
    exact ends

theorem Sound.turn (sound : stream.Sound limit) (alone : stream.held = none) :
    stream.Follows limit stream.turn := by
  unfold CoalescedStream.turn
  split
  · next done =>
    obtain ⟨none, noRead⟩ := sound.finished done
    have nothing : stream.unread = [] := by rw [unread, noRead, none]
    split
    · next empty =>
      have undelivers : stream.undelivered = [] := by
        rw [undelivered_of alone, nothing, List.isEmpty_iff.mp empty]
        rfl
      split
      · next raised =>
        refine ⟨undelivers, ?_⟩
        rw [finish, if_pos done, raised]
        rfl
      · next unraised =>
        refine ⟨undelivers, ?_⟩
        rw [finish, if_pos done, unraised]
        rfl
    · next filled =>
      have isFilled : stream.buffer ≠ [] := fun none => filled (List.isEmpty_iff.mpr none)
      exact sound.flush isFilled (sound.emptied (by rintro item ⟨⟩)) rfl (undelivered_of alone)
  · next goesOn =>
    have running : stream.done = false := Bool.not_eq_true _ ▸ goesOn
    rcases sound.next running with
      ⟨item, inner, timeouts, reads, next⟩ | ⟨timeouts, reads, none⟩ |
      ⟨read, reads, isSound, filled, buffer, held, unread, finishes⟩
    · rw [reads]
      have isSound := sound.of_read running inner none timeouts (by rintro result ⟨⟩)
      refine isSound.take alone rfl ?_
      rw [undelivered_of alone, next]
      rfl
    · rw [reads]
      rcases Option.eq_none_or_eq_some stream.ending with ending | ⟨error, ending⟩
      · have last : lastResult stream.ending = (.ended : ReadResult Foreign Error) := by
          rw [ending]
          rfl
        rw [last]
        refine sound.closed alone running none timeouts stream.error ?_
        rw [sound.unraised running, ending]
      · have last : lastResult stream.ending = (.raised error : ReadResult Foreign Error) := by
          rw [ending]
          rfl
        rw [last]
        refine sound.closed alone running none timeouts (some error) ?_
        rw [ending]
    · rw [reads]
      have isAlone : read.held = none := held.trans alone
      refine isSound.flush (buffer ▸ filled) (isSound.emptied (by rintro item ⟨⟩)) finishes ?_
      rw [undelivered_of alone, ← unread, ← buffer]
      rfl

/-! ## The whole stream -/

theorem Sound.loop (sound : stream.Sound limit) (alone : stream.held = none) :
    stream.Follows limit (.returns stream.loop.1 stream.loop.2) := by
  induction stream using CoalescedStream.loop.induct with
  | case1 _ _ _ turned =>
    have follows := sound.turn alone
    rw [turned] at follows
    rw [CoalescedStream.loop]
    split
    · next turns =>
      rw [turned] at turns
      cases turns
      exact follows
    · next turns =>
      rw [turned] at turns
      cases turns
  | case2 stream after turned ih =>
    have follows := sound.turn alone
    rw [turned] at follows
    obtain ⟨isSound, isAlone, undelivers, finishes⟩ := follows
    have later := ih isSound isAlone
    have same : stream.loop = after.loop := by
      rw [CoalescedStream.loop]
      split
      · next turns =>
        rw [turned] at turns
        cases turns
      · next turns =>
        rw [turned] at turns
        cases turns
        rfl
    rw [same]
    unfold Follows at later ⊢
    rw [← undelivers, ← finishes]
    exact later

theorem Sound.anext (sound : stream.Sound limit) :
    stream.Follows limit (.returns stream.anext.1 stream.anext.2) := by
  unfold CoalescedStream.anext
  split
  · next item held =>
    obtain ⟨isOther, _⟩ := sound.heldAlone item held
    refine ⟨⟨sound.limited, (by rintro other ⟨⟩), sound.grouped, sound.counted, sound.firstAlone,
      sound.lastRead, sound.finished, sound.unraised⟩, rfl, ?_⟩
    intro yields isMerged
    have first : stream.undelivered =
        item :: undelivered { stream with held := none } := by
      rw [undelivered, held]
      rfl
    rw [first]
    exact .other item _ yields isOther isMerged
  · next alone => exact sound.loop alone

theorem drain_eq (stream : CoalescedStream Foreign Error) :
    stream.drain = match stream.anext with
      | (.yields item, after) => (item :: after.drain.1, after.drain.2)
      | (.raises error, _) => ([], .raised error)
      | (.stops, _) => ([], .stopped)
      | (.crashes, _) => ([], .crashed) := by
  rw [CoalescedStream.drain]
  split
  all_goals
    next step => rw [step]

theorem Sound.drain (sound : stream.Sound limit) :
    Merged limit stream.undelivered stream.drain.1 ∧ stream.drain.2 = stream.finish := by
  induction stream using CoalescedStream.drain.induct with
  | case1 _ _ _ step ih =>
    have follows := sound.anext
    rw [step] at follows
    obtain ⟨isSound, finishes, merges⟩ := follows
    obtain ⟨isMerged, ends⟩ := ih isSound
    rw [drain_eq, step]
    exact ⟨merges _ isMerged, ends.trans finishes⟩
  | case2 _ _ _ step | case3 _ _ step =>
    have follows := sound.anext
    rw [step] at follows
    rw [drain_eq, step, follows.1, follows.2]
    exact ⟨.nil, rfl⟩
  | case4 _ _ step =>
    have follows := sound.anext
    rw [step] at follows
    exact follows.elim

end CoalescedStream

/-- For every inner stream, limit and timing of the window the yielded items are the inner ones with
groups of adjacent deltas of one run merged: the same other items with the same text between them,
no delta above the limit and above all that were read; and then the stream ends as the inner one. -/
theorem coalescing_is_transparent (inner : List (Item Foreign)) (ending : Option Error)
    (maxBytes : Int) (timeouts : List Bool) :
    Merged maxBytes inner (CoalescedStream.start inner ending maxBytes timeouts).drain.1 ∧
    textRuns (CoalescedStream.start inner ending maxBytes timeouts).drain.1 = textRuns inner ∧
    (∀ event : HermesEvent,
      .event event ∈ (CoalescedStream.start inner ending maxBytes timeouts).drain.1 →
      event.deltaText.isSome = true →
      (event.text.utf8ByteSize : Int) ≤ maxBytes ∨
        ∃ read, .event read ∈ inner ∧ read.deltaText.isSome = true ∧
          event.text.utf8ByteSize ≤ read.text.utf8ByteSize) ∧
    (CoalescedStream.start inner ending maxBytes timeouts).drain.2 =
      CoalescedStream.endingOf ending := by
  obtain ⟨isMerged, ends⟩ :=
    (CoalescedStream.Sound.start maxBytes inner ending timeouts).drain
  exact ⟨isMerged, isMerged.textRuns_eq, fun event member isDelta =>
    isMerged.bounded event member isDelta, ends⟩

def delta (sequence : Int) (text : String) : HermesEvent :=
  ⟨"message.delta", "ally-1", "session", "run", sequence, textPayload text⟩

def threeDeltas : List (Item Empty) :=
  [.event (delta 1 "a"), .event (delta 2 "b"), .event (delta 3 "c")]

theorem three_deltas_keep_their_text :
    textRuns (CoalescedStream.start threeDeltas (some "lost") 4096 [true, false]).drain.1 =
      ("abc", []) := by
  have runs := (coalescing_is_transparent threeDeltas (some "lost") 4096 [true, false]).2.1
  rw [runs]
  rfl

end Foundry.Coalescing
