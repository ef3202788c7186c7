import GroundedAnswers.Proofs.Stream.Receiving
import GroundedAnswers.Service.Anthropic
import Mathlib.Algebra.Group.Nat.Defs

namespace GroundedAnswers

/-! The counts of tokens that a stream ends with. Frames bring them one by one, and a count of zero
stands for one that is not there. The total is never brought along, but is the sum of the counts
that are known by then. -/

/-! ## Totals -/

/-- The total is the sum of the counts, or the greatest number when the sum is too large. -/
def Usage.Totalled (usage : Usage) : Prop :=
  usage.totalTokens.toNat =
    min (usage.inputTokens.toNat + usage.outputTokens.toNat) (2 ^ 32 - 1)

private theorem Usage.totalled_of (inputTokens outputTokens : UInt32) :
    (of inputTokens outputTokens).Totalled :=
  toNat_saturatingAdd inputTokens outputTokens

private theorem Usage.Totalled.eq_of {usage : Usage} (total : usage.Totalled) :
    usage = of usage.inputTokens usage.outputTokens := by
  have same : usage.totalTokens = saturatingAdd usage.inputTokens usage.outputTokens :=
    UInt32.toNat_inj.mp (total.trans (toNat_saturatingAdd _ _).symm)
  rw [of, ← same]

private theorem Frame.totalled_usageAfter {usage : Usage} (total : usage.Totalled) (frame : Frame) :
    (frame.usageAfter usage).Totalled := by
  cases frame with
  | usage update => exact Usage.totalled_of _ _
  | deltaWithUsage text update => exact Usage.totalled_of _ _
  | skip | delta | done | failure => exact total

private theorem ChatStream.Writer.totalled_of_frames (writer : Writer) {after : Writer}
    {frames : List Frame} (total : writer.usage.Totalled)
    (goesOn : (writer.frames frames).2 = some after) : after.usage.Totalled := by
  induction frames generalizing writer with
  | nil =>
      cases goesOn
      exact total
  | cons frame rest induction =>
      let updated : Writer := { writer with usage := frame.usageAfter writer.usage }
      have step : updated.usage.Totalled := frame.totalled_usageAfter total
      rw [frames] at goesOn
      split at goesOn
      · exact induction updated step goesOn
      · split at goesOn
        · cases goesOn
        · exact induction updated.afterSending step goesOn

/-! ## The last count -/

namespace Frame

def update? : Frame → Option Usage
  | .usage update => some update
  | .deltaWithUsage _ update => some update
  | _ => none

/-- The last count other than zero that some frames bring, or else an earlier one. -/
def lastCount (count : Usage → UInt32) (earlier : UInt32) (frames : List Frame) : UInt32 :=
  (((frames.filterMap update?).map count).filter (· ≠ 0)).getLastD earlier

section

variable (count : Usage → UInt32) (earlier : UInt32)

private theorem lastCount_append (first rest : List Frame) :
    lastCount count earlier (first ++ rest) =
      lastCount count (lastCount count earlier first) rest := by
  unfold lastCount
  rw [List.filterMap_append, List.map_append, List.filter_append]
  simp only [List.getLastD_eq_getLast?, List.getLast?_append]
  cases (((rest.filterMap update?).map count).filter (· ≠ 0)).getLast? <;> rfl

private theorem lastCount_of_none {frame : Frame} (silent : frame.update? = none) :
    lastCount count earlier [frame] = earlier := by
  rw [lastCount, List.filterMap_cons_none silent]
  rfl

private theorem lastCount_of_some {frame : Frame} {update : Usage}
    (tells : frame.update? = some update) :
    lastCount count earlier [frame] = if count update = 0 then earlier else count update := by
  rw [lastCount, List.filterMap_cons_some tells]
  by_cases zero : count update = 0 <;> simp [zero]

end

private theorem usageAfter_of (inputTokens outputTokens : UInt32) (frame : Frame) :
    frame.usageAfter (.of inputTokens outputTokens) =
      .of (lastCount Usage.inputTokens inputTokens [frame])
        (lastCount Usage.outputTokens outputTokens [frame]) := by
  cases tells : frame.update? with
  | none =>
      rw [lastCount_of_none _ _ tells, lastCount_of_none _ _ tells]
      cases frame <;> cases tells <;> rfl
  | some update =>
      rw [lastCount_of_some _ _ tells, lastCount_of_some _ _ tells]
      cases frame <;> cases tells <;> rfl

private theorem foldl_usageAfter (inputTokens outputTokens : UInt32) (frames : List Frame) :
    frames.foldl usageAfter (.of inputTokens outputTokens) =
      .of (lastCount Usage.inputTokens inputTokens frames)
        (lastCount Usage.outputTokens outputTokens frames) := by
  induction frames generalizing inputTokens outputTokens with
  | nil => rfl
  | cons frame rest induction =>
      have front : frame :: rest = [frame] ++ rest := rfl
      rw [List.foldl_cons, usageAfter_of, induction, front, lastCount_append, lastCount_append]

end Frame

/-! ## The counts at the end -/

private theorem Frame.endingOf?_eq_done_iff {usage final : Usage} {frames : List Frame} :
    endingOf? usage frames = some (.done final) ↔
      frames.find? isLast = some .done ∧
        (frames.takeWhile (!·.isLast)).foldl usageAfter usage = final := by
  rw [endingOf?]
  cases found : frames.find? isLast with
  | none => simp
  | some frame =>
      have last := List.find?_some found
      cases frame <;> cases last <;> simp [event?]

namespace ChatStream

def sends (stream : ChatStream) (start : Moment) (cancelAfter : Option Nat) : List StreamEvent :=
  (stream.eventsFrom start cancelAfter).map TimedEvent.event

section

variable {context : RequestContext} {items : List StreamItem} {trailing : List Frame}
  {cancelAfter : Option Nat} {start : Moment} {usage : Usage}

private theorem sends_ends (context : RequestContext) (items : List StreamItem)
    (trailing : List Frame) (cancelAfter : Option Nat) (start : Moment) :
    ∃ texts ending,
      (ChatStream.mk (some context) items trailing).sends start cancelAfter =
        texts.map StreamEvent.delta ++ [ending] ∧
      Ends cancelAfter .zero 0 (arriving context trailing (start.besideAfter 0) items) texts
        ending :=
  Writer.events_endsWith
    { cancelAfter, now := start.besideAfter 0, sent := 0, read := 0, usage := .zero } context
    trailing items (Nat.le_refl 0)

private theorem endingOf?_of_done_mem_sends
    (told : .done usage ∈ (ChatStream.mk (some context) items trailing).sends start cancelAfter) :
    Frame.endingOf? .zero (arriving context trailing (start.besideAfter 0) items) =
      some (.done usage) := by
  rcases sends_ends context items trailing cancelAfter start with ⟨texts, ending, sent, ends⟩
  rw [sent, List.mem_append, List.mem_singleton] at told
  rcases told with among | rfl
  · rcases List.mem_map.mp among with ⟨text, -, equal⟩
    cases equal
  · cases ends
    assumption

/-- A reader who does not cancel is told how the stream ends. -/
theorem mem_sends_of_endingOf? {ending : StreamEvent}
    (ends : Frame.endingOf? .zero (arriving context trailing (start.besideAfter 0) items) =
      some ending) :
    ending ∈ (ChatStream.mk (some context) items trailing).sends start none := by
  rcases sends_ends context items trailing none start with ⟨texts, other, sent, ended⟩
  rw [sent]
  cases ended with
  | told found =>
      rw [found, Option.some.injEq] at ends
      exact ends ▸ List.mem_append_right _ List.mem_cons_self
  | left cancels => cases cancels

end

end ChatStream

/-- A stream that ends as done tells the last counts, other than zero, of the frames that it has
gone through until then, the input and the output each on its own, and their total. The total is
right behind every frame, and of all counts that are put together. -/
theorem done_tells_last_counts (context : RequestContext) (cancelAfter : Option Nat)
    (start : Moment) :
    let first := start.besideAfter 0
    let tells (stream : ChatStream) (frames : List Frame) : Prop :=
      let before := frames.takeWhile (!·.isLast)
      (∀ usage, .done usage ∈ stream.sends start cancelAfter →
        frames.find? Frame.isLast = some .done ∧
        usage.inputTokens = Frame.lastCount Usage.inputTokens 0 before ∧
        usage.outputTokens = Frame.lastCount Usage.outputTokens 0 before ∧
        usage.Totalled) ∧
      (frames.find? Frame.isLast = some .done → ∃ usage, .done usage ∈ stream.sends start none)
    (∀ items trailing,
      tells ⟨some context, items, trailing⟩ (ChatStream.arriving context trailing first items)) ∧
    (∀ (frame : String → Frame) (body : List BodyPart),
      tells (ServerSent.stream context frame body)
        (ServerSent.framesFrom frame false [] .start (received context first body)) ∧
      tells (Lines.stream context frame body)
        (Lines.framesFrom frame [] (received context first body))) ∧
    (∀ (writer after : ChatStream.Writer) (frames : List Frame), writer.usage.Totalled →
      (writer.frames frames).2 = some after → after.usage.Totalled) ∧
    ∀ inputTokens outputTokens, (Usage.of inputTokens outputTokens).Totalled := by
  intro first tells
  have anything : ∀ items trailing,
      tells ⟨some context, items, trailing⟩
        (ChatStream.arriving context trailing first items) := by
    intro items trailing
    refine ⟨fun usage told => ?_, fun found => ?_⟩
    · have ends := ChatStream.endingOf?_of_done_mem_sends told
      rcases Frame.endingOf?_eq_done_iff.mp ends with ⟨found, rfl⟩
      have counts := Frame.foldl_usageAfter 0 0
        ((ChatStream.arriving context trailing first items).takeWhile (!·.isLast))
      rw [Usage.zero, counts]
      exact ⟨found, rfl, rfl, Usage.totalled_of _ _⟩
    · exact ⟨_, ChatStream.mem_sends_of_endingOf? (Frame.endingOf?_eq_done_iff.mpr ⟨found, rfl⟩)⟩
  refine ⟨anything, fun frame body => ⟨?_, ?_⟩,
    fun writer _ _ total goesOn => writer.totalled_of_frames total goesOn, Usage.totalled_of⟩
  · have stuck : Text.Utf8.decodeFront [] = ([], []) := Text.Utf8.decodeFront_of_fault rfl
    rw [← ServerSent.arriving_items context frame false [] .start first body stuck]
    exact anything (ServerSent.items frame false [] .start body) []
  · rw [← Lines.arriving_items context frame [] first body]
    exact anything (Lines.items frame [] body).1 (Lines.items frame [] body).2

/-- Counts that come one after the other, and a sum that is too large. -/
theorem done_tells_last_counts_piecewise :
    let context := RequestContext.ofTenant (.ofNat 1)
    let events :=
      ["\x7b\"type\": \"message_start\", \"message\":" ++
          "\x7b\"usage\": \x7b\"input_tokens\": 25, \"output_tokens\": 1\x7d\x7d\x7d",
        "\x7b\"type\": \"message_delta\", \"usage\": \x7b\"output_tokens\": 15\x7d\x7d",
        "\x7b\"type\": \"message_stop\"\x7d"]
    let body := events.map fun data => BodyPart.bytes (Text.Utf8.encode s!"data: {data}\n\n")
    let frames : List Frame :=
      [.usage (.of 0xFFFFFFFF 3), .deltaWithUsage "a" ⟨0, 7, 1⟩, .usage ⟨0, 0, 9⟩]
    .done ⟨25, 15, 40⟩ ∈ (ServerSent.stream context Anthropic.frame body).sends 0 none ∧
    .done ⟨0xFFFFFFFF, 7, 0xFFFFFFFF⟩ ∈
      (ChatStream.mk (some context) [.frames frames] [.skip]).sends 0 none := by
  intro context events body frames
  have arriving :
      ServerSent.framesFrom Anthropic.frame false [] .start
          (received context (Moment.besideAfter 0 0) body) =
        [.usage (.of 25 1), .usage (.of 0 15), .done, .done] := by
    decide +kernel
  rcases done_tells_last_counts context none 0 with ⟨anything, bodies, -⟩
  constructor
  · have tells := (bodies Anthropic.frame body).1
    rw [arriving] at tells
    rcases tells.2 rfl with ⟨usage, told⟩
    rcases tells.1 usage told with ⟨-, input, output, total⟩
    have known : usage = ⟨25, 15, 40⟩ := by
      rw [total.eq_of, input, output]
      rfl
    exact known ▸ told
  · have tells := anything [.frames frames] [.skip]
    rcases tells.2 rfl with ⟨usage, told⟩
    rcases tells.1 usage told with ⟨-, input, output, total⟩
    have known : usage = ⟨0xFFFFFFFF, 7, 0xFFFFFFFF⟩ := by
      rw [total.eq_of, input, output]
      rfl
    exact known ▸ told

end GroundedAnswers
