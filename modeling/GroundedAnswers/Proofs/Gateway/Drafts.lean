import GroundedAnswers.Gateway.Draft

namespace GroundedAnswers

/-! What it takes to build a gateway from a draft. -/

namespace GatewayDraft

theorem defaultName_eq_ok_iff {draft : GatewayDraft σ} {name : String} :
    draft.defaultName = .ok name ↔
      draft.defaultBackend = some name ∨
        (draft.defaultBackend = none ∧ ∃ backend, draft.backends = [backend] ∧
          backend.name = name) := by
  unfold defaultName
  split <;> simp_all

theorem build_eq_ok_iff {draft : GatewayDraft σ} {gateway : Gateway σ} :
    draft.build = .ok gateway ↔
      draft.defaultName = .ok gateway.defaultBackend ∧
      (Gateway.find? draft.backends gateway.defaultBackend).isSome ∧
      (∀ name, draft.fallbackBackend = some name →
        (Gateway.find? draft.backends name).isSome) ∧
      gateway = ⟨draft.backends, gateway.defaultBackend, draft.fallbackBackend,
        draft.fallbackModel, draft.defaultModel, draft.retry⟩ := by
  unfold build
  cases named : draft.defaultName with
  | error failure => simp [bind, Except.bind]
  | ok name =>
      simp only [bind, Except.bind]
      constructor
      · intro built
        split at built
        · cases built
        · rename_i registered
          have isRegistered : (Gateway.find? draft.backends name).isSome := by
            simpa [Option.isSome_iff_ne_none] using registered
          cases configured : draft.fallbackBackend with
          | none =>
              simp only [configured] at built
              cases built
              exact ⟨rfl, isRegistered, nofun, rfl⟩
          | some fallback =>
              simp only [configured] at built
              split at built
              · cases built
              · rename_i known
                cases built
                refine ⟨rfl, isRegistered, fun name same => ?_, rfl⟩
                cases same
                simpa [Option.isSome_iff_ne_none] using known
      · rintro ⟨same, registered, fallbacks, whole⟩
        cases same
        rw [whole, if_neg (by simpa [Option.isSome_iff_ne_none] using registered)]
        cases configured : draft.fallbackBackend with
        | none => rfl
        | some fallback =>
            have known := fallbacks fallback configured
            simp only
            rw [if_neg (by simpa [Option.isSome_iff_ne_none] using known)]
            rfl

theorem isSome_find?_iff {backends : List (Backend σ)} {name : String} :
    (Gateway.find? backends name).isSome ↔ name ∈ backends.map (·.name) := by
  simp [Gateway.find?]

end GatewayDraft

end GroundedAnswers
