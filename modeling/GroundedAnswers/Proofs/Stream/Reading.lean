import GroundedAnswers.Proofs.Task.Ensures
import GroundedAnswers.Stream.Basic

namespace GroundedAnswers

/-! What a reader gets of a stream: the texts of the frames up to the first one that ends the
stream, and then one event that says how it ended. -/

/-! ## Cancelling -/

namespace RequestContext

variable {context : RequestContext} {now wake : Moment}

private theorem interruption?_cancelledFrom :
    (context.cancelledFrom now).interruption? now = some .cancelled := by
  have cancelled : (context.cancelledFrom now).isCancelled now = true := by
    unfold isCancelled cancelledFrom
    cases context.cancelAt with
    | none => exact decide_eq_true (Nat.le_refl now)
    | some cancel => exact decide_eq_true (Nat.min_le_left now cancel)
  rw [interruption?, if_pos cancelled]

private theorem stopsAt?_cancelledFrom (calm : context.interruption? now = none) :
    (context.cancelledFrom now).stopsAt? = some now := by
  rw [interruption?_eq_none_iff] at calm
  rcases context with ⟨tenant, cancelAt, deadline⟩
  cases cancelAt with
  | none =>
      cases deadline with
      | none => rfl
      | some deadline =>
          have later : now < deadline := calm deadline rfl
          exact congrArg some (Nat.min_eq_left (Nat.le_of_lt later))
  | some cancel =>
      cases deadline with
      | none =>
          have later : now < cancel := calm cancel rfl
          exact congrArg some (Nat.min_eq_left (Nat.le_of_lt later))
      | some deadline =>
          have later : now < min cancel deadline := calm _ rfl
          have first : min (min now cancel) deadline = now := by
            rw [Nat.min_assoc]
            exact Nat.min_eq_left (Nat.le_of_lt later)
          exact congrArg some first

private theorem breaks?_cancelledFrom (calm : context.interruption? now = none)
    (order : now ≤ wake) :
    (context.cancelledFrom now).breaks? wake = some (now, .cancelled) := by
  unfold breaks?
  rw [stopsAt?_cancelledFrom calm]
  simp [order, interruption?_cancelledFrom]

end RequestContext

/-! ## Frames -/

namespace Frame

def isLast : Frame → Bool
  | .done => true
  | .failure _ => true
  | _ => false

def text? : Frame → Option String
  | .delta text => some text
  | .deltaWithUsage text _ => some text
  | _ => none

def textsOf (frames : List Frame) : List String :=
  (frames.takeWhile (!·.isLast)).filterMap text?

/-- The event of the first last frame, with the counts of the frames before it added to `usage`. -/
def endingOf? (usage : Usage) (frames : List Frame) : Option StreamEvent :=
  (frames.find? isLast).bind
    (event? ((frames.takeWhile (!·.isLast)).foldl usageAfter usage))

variable {frame : Frame} {first rest : List Frame} {usage : Usage}

private theorem textsOf_cons_of_last (last : frame.isLast) : textsOf (frame :: rest) = [] := by
  simp [textsOf, last]

private theorem textsOf_cons (open_ : frame.isLast = false) :
    textsOf (frame :: rest) = frame.text?.toList ++ textsOf rest := by
  rw [textsOf, List.takeWhile_cons_of_pos (by rw [open_]; rfl), List.filterMap_cons]
  cases frame.text? <;> rfl

private theorem endingOf?_cons_of_last (last : frame.isLast) :
    endingOf? usage (frame :: rest) = frame.event? usage := by
  simp [endingOf?, last]

private theorem endingOf?_cons (open_ : frame.isLast = false) :
    endingOf? usage (frame :: rest) = endingOf? (frame.usageAfter usage) rest := by
  simp [endingOf?, open_]

private theorem textsOf_append (open_ : ∀ frame ∈ first, frame.isLast = false) :
    textsOf (first ++ rest) = textsOf first ++ textsOf rest := by
  induction first with
  | nil => rfl
  | cons frame others induction =>
      rw [List.forall_mem_cons] at open_
      rw [List.cons_append, textsOf_cons open_.1, textsOf_cons open_.1, induction open_.2,
        List.append_assoc]

private theorem endingOf?_append (open_ : ∀ frame ∈ first, frame.isLast = false) :
    endingOf? usage (first ++ rest) = endingOf? (first.foldl usageAfter usage) rest := by
  induction first generalizing usage with
  | nil => rfl
  | cons frame others induction =>
      rw [List.forall_mem_cons] at open_
      rw [List.cons_append, endingOf?_cons open_.1, induction open_.2, List.foldl_cons]

private theorem append_of_endingOf?_eq_some {ending : StreamEvent}
    (ends : endingOf? usage first = some ending) :
    textsOf (first ++ rest) = textsOf first ∧ endingOf? usage (first ++ rest) = some ending := by
  induction first generalizing usage with
  | nil => cases ends
  | cons frame others induction =>
      rw [List.cons_append]
      cases last : frame.isLast with
      | true =>
          rw [endingOf?_cons_of_last last] at ends ⊢
          exact ⟨by rw [textsOf_cons_of_last last, textsOf_cons_of_last last], ends⟩
      | false =>
          rw [endingOf?_cons last] at ends ⊢
          rw [textsOf_cons last, textsOf_cons last, (induction ends).1]
          exact ⟨rfl, (induction ends).2⟩

private theorem isTerminal_of_endingOf? {frames : List Frame} {ending : StreamEvent}
    (ends : endingOf? usage frames = some ending) : ending.isTerminal := by
  rcases Option.bind_eq_some_iff.mp ends with ⟨frame, found, told⟩
  have last := List.find?_some found
  cases frame <;> cases last <;> cases told <;> rfl

end Frame

namespace ChatStream

/-! ## Writing frames -/

namespace Writer

/-- What a writer does with some frames: it sends their texts, and stops behind the last frame. -/
inductive Told (writer : Writer) (frames : List Frame) : List TimedEvent × Option Writer → Prop
  | ended {events : List TimedEvent} {ending : StreamEvent}
      (ends : Frame.endingOf? writer.usage frames = some ending)
      (told : events.map TimedEvent.event =
        (Frame.textsOf frames).map StreamEvent.delta ++ [ending]) :
      Told writer frames (events, none)
  | goesOn {events : List TimedEvent} {after : Writer}
      (open_ : ∀ frame ∈ frames, frame.isLast = false)
      (told : events.map TimedEvent.event = (Frame.textsOf frames).map StreamEvent.delta)
      (sent : after.sent = writer.sent + (Frame.textsOf frames).length)
      (inOrder : after.read ≤ after.sent)
      (usage : after.usage = frames.foldl Frame.usageAfter writer.usage)
      (sameMoment : after.now = writer.now)
      (sameReader : after.cancelAfter = writer.cancelAfter) :
      Told writer frames (events, some after)

theorem Told.cons {writer next : Writer} {frame : Frame} {rest : List Frame}
    {events : List TimedEvent} {last : Option Writer} (told : next.Told rest (events, last))
    (first : List TimedEvent) (open_ : frame.isLast = false)
    (tells : first.map TimedEvent.event = frame.text?.toList.map StreamEvent.delta)
    (sent : next.sent = writer.sent + frame.text?.toList.length)
    (usage : next.usage = frame.usageAfter writer.usage) (sameMoment : next.now = writer.now)
    (sameReader : next.cancelAfter = writer.cancelAfter) :
    writer.Told (frame :: rest) (first ++ events, last) := by
  cases told with
  | ended ends told =>
      refine .ended ((Frame.endingOf?_cons open_).trans (usage ▸ ends)) ?_
      rw [List.map_append, tells, told, Frame.textsOf_cons open_, List.map_append,
        List.append_assoc]
  | goesOn stillOpen told sent' inOrder usage' sameMoment' sameReader' =>
      refine .goesOn (List.forall_mem_cons.mpr ⟨open_, stillOpen⟩) ?_ ?_ inOrder ?_
        (sameMoment'.trans sameMoment) (sameReader'.trans sameReader)
      · rw [List.map_append, tells, told, Frame.textsOf_cons open_, List.map_append]
      · rw [sent', sent, Frame.textsOf_cons open_, List.length_append, Nat.add_assoc]
      · rw [usage', usage, List.foldl_cons]

private theorem afterSending_inOrder {writer : Writer} (inOrder : writer.read ≤ writer.sent) :
    writer.afterSending.read ≤ writer.afterSending.sent := by
  unfold afterSending
  dsimp only
  split <;> omega

private theorem frames_told (writer : Writer) (inOrder : writer.read ≤ writer.sent)
    (frames : List Frame) : writer.Told frames (writer.frames frames) := by
  induction frames generalizing writer with
  | nil => exact .goesOn nofun rfl rfl inOrder rfl rfl rfl
  | cons frame rest induction =>
      have silent := induction { writer with usage := frame.usageAfter writer.usage } inOrder
      have sending := induction
        ({ writer with usage := frame.usageAfter writer.usage } : Writer).afterSending
        (afterSending_inOrder inOrder)
      cases frame with
      | skip => exact silent.cons [] rfl rfl rfl rfl rfl rfl
      | usage update => exact silent.cons [] rfl rfl rfl rfl rfl rfl
      | delta text =>
          exact sending.cons [writer.timed (.delta text)] rfl rfl rfl rfl rfl rfl
      | deltaWithUsage text update =>
          exact sending.cons [writer.timed (.delta text)] rfl rfl rfl rfl rfl rfl
      | done => exact .ended rfl rfl
      | failure message => exact .ended rfl rfl

end Writer

/-! ## Writing items -/

/-- How a stream ends for a reader. `frames` are those that come until the context is interrupted,
`sent` counts the texts before them. Either the first last frame is told, or the reader has seen
enough and cancels the context before. -/
inductive Ends (cancelAfter : Option Nat) (usage : Usage) (sent : Nat) (frames : List Frame) :
    List String → StreamEvent → Prop
  | told {ending : StreamEvent} (ends : Frame.endingOf? usage frames = some ending) :
      Ends cancelAfter usage sent frames (Frame.textsOf frames) ending
  | left {count : Nat} {heard : List Frame} (cancels : cancelAfter = some count)
      (enough : count ≤ sent + (Frame.textsOf heard).length) (early : heard <+: frames)
      (open_ : ∀ frame ∈ heard, frame.isLast = false) :
      Ends cancelAfter usage sent frames (Frame.textsOf heard)
        (.failed Interruption.cancelled.message)

namespace Ends

variable {cancelAfter : Option Nat} {usage : Usage} {sent : Nat} {frames : List Frame}
  {texts : List String} {ending : StreamEvent}

private theorem told_append {first : List Frame}
    (ends : Frame.endingOf? usage first = some ending) :
    Ends cancelAfter usage sent (first ++ frames) (Frame.textsOf first) ending := by
  rcases Frame.append_of_endingOf?_eq_some ends with ⟨sameTexts, sameEnding⟩
  rw [← sameTexts]
  exact .told sameEnding

theorem append {first : List Frame} (open_ : ∀ frame ∈ first, frame.isLast = false)
    (ends : Ends cancelAfter (first.foldl Frame.usageAfter usage)
      (sent + (Frame.textsOf first).length) frames texts ending) :
    Ends cancelAfter usage sent (first ++ frames) (Frame.textsOf first ++ texts) ending := by
  cases ends with
  | told ends =>
      rw [← Frame.textsOf_append open_]
      exact .told ((Frame.endingOf?_append open_).trans ends)
  | left cancels enough early stillOpen =>
      rw [← Frame.textsOf_append open_]
      refine .left cancels ?_ ((List.prefix_append_right_inj first).mpr early)
        (List.forall_mem_append.mpr ⟨open_, stillOpen⟩)
      rw [Frame.textsOf_append open_, List.length_append, ← Nat.add_assoc]
      exact enough

theorem isTerminal (ends : Ends cancelAfter usage sent frames texts ending) :
    ending.isTerminal := by
  cases ends with
  | told ends => exact Frame.isTerminal_of_endingOf? ends
  | left => rfl

end Ends

/-- The frames of some items and of the end behind them, until the context is interrupted. A failure
to deliver and an interruption each count as a frame that says so. -/
def arriving (context : RequestContext) (trailing : List Frame) :
    Moment → List StreamItem → List Frame
  | now, [] =>
      match context.interruption? now with
      | some cause => [.failure cause.message]
      | none => trailing ++ [.done]
  | now, item :: items =>
      match context.interruption? now with
      | some cause => [.failure cause.message]
      | none =>
          match item with
          | .broken message => [.failure message]
          | .frames frames => frames ++ arriving context trailing now items
          | .pause nanoseconds =>
              let wake := now.besideAfter nanoseconds
              match context.breaks? wake with
              | some (_, cause) => [.failure cause.message]
              | none => arriving context trailing wake items

namespace Writer

/-- The writer sees the context as it is, or finds that the reader has cancelled it. -/
theorem seen_cases (writer : Writer) (context : RequestContext) :
    writer.seen context = context ∨
      writer.seen context = context.cancelledFrom writer.now ∧
        ∃ count, writer.cancelAfter = some count ∧ count ≤ writer.read := by
  unfold seen
  cases writer.cancelAfter with
  | none => exact .inl rfl
  | some count =>
      by_cases enough : count ≤ writer.read
      · exact .inr ⟨by simp [enough], count, rfl, enough⟩
      · exact .inl (by simp [enough])

def EndsWith (context : RequestContext) (trailing : List Frame) (items : List StreamItem)
    (writer : Writer) (told : List TimedEvent) : Prop :=
  ∃ texts ending, told.map TimedEvent.event = texts.map StreamEvent.delta ++ [ending] ∧
    Ends writer.cancelAfter writer.usage writer.sent
      (arriving context trailing writer.now items) texts ending

section

variable {context : RequestContext} {trailing : List Frame} {items : List StreamItem}
  {writer : Writer}

private theorem arriving_pause {now : Moment} (calm : context.interruption? now = none)
    (nanoseconds : Nat) :
    arriving context trailing now (.pause nanoseconds :: items) =
      match context.breaks? (now.besideAfter nanoseconds) with
      | some (_, cause) => [.failure cause.message]
      | none => arriving context trailing (now.besideAfter nanoseconds) items := by
  simp only [arriving, calm]

private theorem events_pause (same : writer.seen context = context)
    (calm : context.interruption? writer.now = none) (nanoseconds : Nat) :
    let wake := writer.now.besideAfter nanoseconds
    events (some context) trailing writer (.pause nanoseconds :: items) =
      if wake ≤ writer.now then events (some context) trailing writer items
      else
        match (writer.atPause.seen context).breaks? wake with
        | some (moment, cause) => [⟨moment, .failed cause.message⟩]
        | none => events (some context) trailing { writer.atPause with now := wake } items := by
  intro wake
  cases broken : (writer.atPause.seen context).breaks? wake with
  | none => simp only [events, interruption?, Option.bind_some, same, calm, broken, wake]
  | some stop => simp only [events, interruption?, Option.bind_some, same, calm, broken, wake]

variable (inOrder : writer.read ≤ writer.sent)

include inOrder

private theorem endsWith_of_calm
    (calmly : writer.seen context = context → context.interruption? writer.now = none →
      EndsWith context trailing items writer (events (some context) trailing writer items)) :
    EndsWith context trailing items writer (events (some context) trailing writer items) := by
  have looks : writer.interruption? (some context) =
      (writer.seen context).interruption? writer.now := rfl
  rcases writer.seen_cases context with same | ⟨left, count, cancels, enough⟩
  · rw [same] at looks
    cases look : context.interruption? writer.now with
    | none => exact calmly same look
    | some cause =>
        have failing : arriving context trailing writer.now items = [.failure cause.message] := by
          cases items <;> simp [arriving, look]
        refine ⟨[], .failed cause.message, ?_, ?_⟩
        · cases items <;> simp [events, looks, look, timed]
        · rw [failing]
          exact .told rfl
  · rw [left, RequestContext.interruption?_cancelledFrom] at looks
    refine ⟨[], .failed Interruption.cancelled.message, ?_, ?_⟩
    · cases items <;> simp [events, looks, timed]
    · exact .left cancels (Nat.le_trans enough inOrder) List.nil_prefix nofun

private theorem endsWith_nil (same : writer.seen context = context)
    (calm : context.interruption? writer.now = none) :
    EndsWith context trailing [] writer (events (some context) trailing writer []) := by
  have sending : events (some context) trailing writer [] =
      (writer.frames (trailing ++ [.done])).1 := by
    simp [events, interruption?, same, calm]
  have coming : arriving context trailing writer.now [] = trailing ++ [.done] := by
    simp [arriving, calm]
  have told := writer.frames_told inOrder (trailing ++ [.done])
  unfold EndsWith
  rw [sending, coming]
  generalize writer.frames (trailing ++ [.done]) = sends at told
  cases told with
  | ended ends told => exact ⟨_, _, told, .told ends⟩
  | goesOn open_ =>
      have stillOpen := open_ .done (List.mem_append_right _ (List.mem_singleton_self _))
      cases stillOpen

private theorem endsWith_frames (same : writer.seen context = context)
    (calm : context.interruption? writer.now = none)
    (goesOn : ∀ writer : Writer, writer.read ≤ writer.sent →
      EndsWith context trailing items writer (events (some context) trailing writer items))
    (frames : List Frame) :
    EndsWith context trailing (.frames frames :: items) writer
      (events (some context) trailing writer (.frames frames :: items)) := by
  have coming : arriving context trailing writer.now (.frames frames :: items) =
      frames ++ arriving context trailing writer.now items := by
    simp [arriving, calm]
  have told := writer.frames_told inOrder frames
  unfold EndsWith
  rw [coming]
  rcases sends : writer.frames frames with ⟨sent, last⟩
  rw [sends] at told
  cases told with
  | @ended _ ending ends told =>
      have sending : events (some context) trailing writer (.frames frames :: items) = sent := by
        simp [events, interruption?, same, calm, sends]
      rw [sending]
      exact ⟨_, ending, told, .told_append ends⟩
  | @goesOn _ after open_ told sentMore inOrder usage sameMoment sameReader =>
      have sending : events (some context) trailing writer (.frames frames :: items) =
          sent ++ events (some context) trailing after items := by
        simp [events, interruption?, same, calm, sends]
      rcases goesOn after inOrder with ⟨texts, ending, later, ends⟩
      rw [sameReader, usage, sentMore, sameMoment] at ends
      refine ⟨Frame.textsOf frames ++ texts, ending, ?_, ends.append open_⟩
      rw [sending, List.map_append, told, later, List.map_append, List.append_assoc]

private theorem endsWith_pause (same : writer.seen context = context)
    (calm : context.interruption? writer.now = none)
    (goesOn : ∀ writer : Writer, writer.read ≤ writer.sent →
      EndsWith context trailing items writer (events (some context) trailing writer items))
    (nanoseconds : Nat) :
    EndsWith context trailing (.pause nanoseconds :: items) writer
      (events (some context) trailing writer (.pause nanoseconds :: items)) := by
  have order := Moment.le_besideAfter writer.now nanoseconds
  unfold EndsWith
  rw [events_pause same calm, arriving_pause calm]
  generalize writer.now.besideAfter nanoseconds = wake at order ⊢
  dsimp only
  split
  · rename_i come
    have sameMoment : wake = writer.now := Nat.le_antisymm come order
    rw [sameMoment, RequestContext.breaks?_eq_none_iff.mpr calm]
    exact goesOn writer inOrder
  · rcases writer.atPause.seen_cases context with same | ⟨left, count, cancels, enough⟩
    · rw [same]
      cases context.breaks? wake with
      | none => exact goesOn { writer.atPause with now := wake } (Nat.le_refl _)
      | some stop => exact ⟨[], _, rfl, .told rfl⟩
    · have cancelled : (writer.atPause.seen context).breaks? wake =
          some (writer.now, .cancelled) :=
        left ▸ RequestContext.breaks?_cancelledFrom calm order
      rw [cancelled]
      exact ⟨[], _, rfl, .left cancels enough List.nil_prefix nofun⟩

end

theorem events_endsWith (writer : Writer) (context : RequestContext) (trailing : List Frame)
    (items : List StreamItem) (inOrder : writer.read ≤ writer.sent) :
    EndsWith context trailing items writer (events (some context) trailing writer items) := by
  induction items generalizing writer with
  | nil => exact endsWith_of_calm inOrder (endsWith_nil inOrder)
  | cons item items induction =>
      refine endsWith_of_calm inOrder fun same calm => ?_
      cases item with
      | pause nanoseconds => exact endsWith_pause inOrder same calm induction nanoseconds
      | frames frames => exact endsWith_frames inOrder same calm induction frames
      | broken message =>
          refine ⟨[], .failed message, ?_, ?_⟩
          · simp [events, interruption?, same, calm, timed]
          · have coming : arriving context trailing writer.now (.broken message :: items) =
                [.failure message] := by
              simp [arriving, calm]
            rw [coming]
            exact .told rfl

end Writer

/-! ## Reading to the end -/

theorem run_read_whole (stream : ChatStream) (cancelAfter : Option Nat) (now : Moment)
    (state : σ) :
    (Task.run (stream.read none cancelAfter) now state).1 =
      ⟨(stream.eventsFrom now cancelAfter).map TimedEvent.event, true⟩ := by
  unfold read
  rw [Task.bind_run, Task.run_now]
  simp only [Option.map_none, Option.getD_none]
  cases (stream.eventsFrom now cancelAfter).getLast? with
  | none => rfl
  | some last =>
      simp only [Task.bind_run]
      rfl

theorem read_ends (context : RequestContext) (items : List StreamItem) (trailing : List Frame)
    (cancelAfter : Option Nat) (now : Moment) (state : σ) :
    ∃ texts ending,
      (Task.run ((ChatStream.mk (some context) items trailing).read none cancelAfter) now state).1 =
        ⟨texts.map StreamEvent.delta ++ [ending], true⟩ ∧
      Ends cancelAfter .zero 0 (arriving context trailing (now.besideAfter 0) items) texts
        ending := by
  let writer : Writer :=
    { cancelAfter, now := now.besideAfter 0, sent := 0, read := 0, usage := .zero }
  rcases writer.events_endsWith context trailing items (Nat.le_refl 0) with
    ⟨texts, ending, told, ends⟩
  rw [run_read_whole]
  exact ⟨texts, ending, congrArg (Reading.mk · true) told, ends⟩

end ChatStream

end GroundedAnswers
