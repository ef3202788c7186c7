import GroundedAnswers.Proofs.Answering.Searching
import GroundedAnswers.Proofs.Retrieval.Repeats
import GroundedAnswers.Proofs.Task.Together

namespace GroundedAnswers

/-! Searches for several texts side by side. What comes of them together depends on what each of
them comes to and on the order of the texts, never on which search is finished first. -/

namespace Pipeline

open SearchResult (firstOfEach)

/-! ## Results for several texts -/

section

variable (pipeline : Pipeline σ) (context : RequestContext) (options : RetrieveOptions)
  (texts : List String) (now : Moment) (state : σ)

def outcomesOf : List (Except RetrievalFailure (List SearchResult)) :=
  (Task.run (Task.all (texts.map fun text => (pipeline.retrieve context options text).run))
    now state).1

/-- Each outcome is one that its own search can come to, whatever the others do meanwhile. -/
theorem outcomesOf_ensured {keeps : σ → Prop}
    {ends : String → Except RetrievalFailure (List SearchResult) → Prop} (holds : keeps state)
    (each : ∀ text ∈ texts, ∀ before, keeps before →
      Progress.Ensures keeps (fun outcome _ after => ends text outcome ∧ keeps after) now
        (pipeline.retrieve context options text now before)) :
    List.Forall₂ ends texts (pipeline.outcomesOf context options texts now state) := by
  have searches : List.Forall₂
      (fun text task => ∀ before, keeps before → Progress.Ensures keeps
        (fun outcome _ after => ends text outcome ∧ keeps after) now (task now before))
      texts (texts.map fun text => (pipeline.retrieve context options text).run) := by
    rw [List.forall₂_map_right_iff]
    exact List.forall₂_same.mpr each
  have all : Branches.AllEnd keeps (fun text outcome _ => ends text outcome) texts now
      (Task.all (texts.map fun text => (pipeline.retrieve context options text).run) now state) :=
    Task.all_ensures (fun _ _ _ _ _ ended => ended) searches holds
  exact all.run.1

private theorem length_outcomesOf :
    (pipeline.outcomesOf context options texts now state).length = texts.length := by
  have each : List.Forall₂ (fun _ _ => True) texts
      (pipeline.outcomesOf context options texts now state) := by
    apply @outcomesOf_ensured _ pipeline context options texts now state (fun _ => True)
    · exact True.intro
    · intro text _ before _
      exact (Progress.Ensures.trivial now _).imp fun _ _ _ _ => ⟨True.intro, True.intro⟩
  exact each.length_eq.symm

private theorem run_retrieveAll :
    (Task.run (pipeline.retrieveAll context options texts).run now state).1 =
      match severeFailure? (pipeline.outcomesOf context options texts now state) with
      | some failure => .error failure
      | none => .ok
          ((firstOfEach (successes (pipeline.outcomesOf context options texts now state)).flatten).take
            options.topK) := by
  unfold outcomesOf retrieveAll
  rcases ended : Task.run (Task.all (texts.map fun text =>
    (pipeline.retrieve context options text).run)) now state with ⟨outcomes, moment, after⟩
  rw [Task.run_bind_lift ended]
  dsimp only
  cases severeFailure? outcomes with
  | some failure => rfl
  | none =>
      rw [← mergeUnique_eq]
      rfl

end

/-- Searches for several texts come to what their outcomes say in the order of the texts: to the
first interruption, or else to the first failure when there is no success, or else to the first
result of each chunk, up to the number asked for. The outcome of each text is that of its own
search. A search for the first text that succeeds stays in front as it is. -/
theorem retrieveAll_merges (pipeline : Pipeline σ) (context : RequestContext)
    (options : RetrieveOptions) (texts : List String) (now : Moment) (state : σ) :
    let outcomes := pipeline.outcomesOf context options texts now state
    let result := (Task.run (pipeline.retrieveAll context options texts).run now state).1
    let found := (successes outcomes).flatten
    (∀ (keeps : σ → Prop) (ends : String → Except RetrievalFailure (List SearchResult) → Prop),
      keeps state →
      (∀ text ∈ texts, ∀ before, keeps before →
        Progress.Ensures keeps (fun outcome _ after => ends text outcome ∧ keeps after) now
          (pipeline.retrieve context options text now before)) →
      List.Forall₂ ends texts outcomes) ∧
    (∀ before cause after, outcomes = before ++ .error (.interrupted cause) :: after →
      (∀ other, .error (.interrupted other) ∉ before) → result = .error (.interrupted cause)) ∧
    ((∀ cause, .error (.interrupted cause) ∉ outcomes) →
      (∀ failure others, outcomes = .error failure :: others → (∀ results, .ok results ∉ outcomes) →
        result = .error failure) ∧
      (texts = [] ∨ (∃ results, .ok results ∈ outcomes) →
        result = .ok ((firstOfEach found).take options.topK))) ∧
    ∀ results, result = .ok results →
      (results.map SearchResult.chunk).Nodup ∧
      (∀ kept ∈ results, ∃ earlier later, found = earlier ++ kept :: later ∧
        ∀ other ∈ earlier, other.chunk ≠ kept.chunk) ∧
      ((found.map SearchResult.chunk).dedup.length ≤ options.topK →
        ∀ other ∈ found, ∃ kept ∈ results, kept.chunk = other.chunk) ∧
      ∀ first others, outcomes = .ok first :: others → (first.map SearchResult.chunk).Nodup →
        first.length ≤ options.topK → first <+: results := by
  intro outcomes result found
  have merged : result = match severeFailure? outcomes with
      | some failure => .error failure
      | none => .ok ((firstOfEach found).take options.topK) :=
    run_retrieveAll pipeline context options texts now state
  refine ⟨fun keeps ends holds each => ?_, ?_, fun uninterrupted => ⟨?_, ?_⟩, ?_⟩
  · exact outcomesOf_ensured pipeline context options texts now state holds each
  · intro before cause after whole first
    rw [merged, whole, severeFailure?_of_interrupted first]
  · intro failure others whole failed
    rw [merged, severeFailure?_of_all_failed uninterrupted failed, whole]
    rfl
  · rintro (nothing | ⟨results, success⟩)
    · have count : outcomes.length = 0 := by
        rw [length_outcomesOf, nothing]
        rfl
      rw [merged, List.length_eq_zero_iff.mp count]
      rfl
    · rw [merged, severeFailure?_of_ok uninterrupted success]
  · intro results succeeded
    have isMerged : (firstOfEach found).take options.topK = results := by
      rw [merged] at succeeded
      cases severe : severeFailure? outcomes with
      | some failure =>
          rw [severe] at succeeded
          cases succeeded
      | none =>
          rw [severe] at succeeded
          cases succeeded
          rfl
    subst isMerged
    refine ⟨?_, fun kept member => ?_, fun roomy other member => ?_, ?_⟩
    · exact (SearchResult.nodup_firstOfEach found).sublist
        ((List.take_sublist _ _).map SearchResult.chunk)
    · exact SearchResult.exists_of_mem_firstOfEach (List.mem_of_mem_take member)
    · rw [List.take_of_length_le (by rwa [SearchResult.length_firstOfEach])]
      exact SearchResult.exists_mem_firstOfEach member
    · intro first others whole distinct short
      have joined : found = first ++ (successes others).flatten := by
        change (successes outcomes).flatten = _
        rw [whole]
        rfl
      rw [List.prefix_take_iff, joined]
      exact ⟨SearchResult.prefix_firstOfEach distinct _, short⟩

end Pipeline

end GroundedAnswers
