import SharedListener.Config.Basic

/-!
# What an accepted configuration is

A configuration is accepted if none of its checks fails, in whatever order they
are made.  So it can be taken apart into the conditions that the checks stand for.
-/

namespace SharedListener.Config

variable {config : Config} {listener : Listener}

/-! ## Checks in a row -/

private theorem andThen_eq_ok_iff {first second : Except Flaw Unit} :
    (do first; second) = .ok () ↔ first = .ok () ∧ second = .ok () := by
  cases first with
  | error flaw => exact iff_of_false nofun fun h => nomatch h.1
  | ok _ => exact (and_iff_right rfl).symm

theorem require_eq_ok_iff {condition : Bool} {flaw : Flaw} :
    require condition flaw = .ok () ↔ condition := by
  cases condition <;> simp [require]

private theorem forM_eq_ok_iff {α : Type} {check : α → Except Flaw Unit} {items : List α} :
    items.forM check = .ok () ↔ ∀ item ∈ items, check item = .ok () := by
  induction items with
  | nil => exact iff_of_true rfl (List.forall_mem_nil _)
  | cons item items ih =>
      rw [List.forall_mem_cons, ← ih]
      exact andThen_eq_ok_iff

/-! ## What the checks say -/

theorem Listener.validate_eq_ok_iff :
    listener.validate = .ok () ↔
      (SocketAddress.ofText? listener.listen).isSome ∧
      (512 ≤ listener.readBufferBytes ∧ listener.readBufferBytes ≤ 65536) ∧
      (1 ≤ listener.maxFrameBytes ∧ listener.maxFrameBytes < Frame.lengthCeiling) ∧
      256 ≤ listener.maxHandshakeBytes ∧ listener.maxHandshakeBytes ≤ 65536 := by
  unfold Listener.validate
  simp only [andThen_eq_ok_iff, require_eq_ok_iff, Bool.and_eq_true, decide_eq_true_eq]

theorem validate_eq_ok_iff :
    config.validate = .ok () ↔
      config.version = 1 ∧ config.scopes ≠ [] ∧ (∀ scope ∈ config.scopes, isSegment scope.app) ∧
      config.listener.validate = .ok () ∧
      config.operations.forM Operations.validate = .ok () := by
  unfold Config.validate
  simp only [andThen_eq_ok_iff, forM_eq_ok_iff, Scope.validate, require_eq_ok_iff]
  simp

end SharedListener.Config
