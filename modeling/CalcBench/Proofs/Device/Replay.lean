import CalcBench.Device.Replay
import CalcBench.Proofs.Device.Calls
import CalcBench.Proofs.Expression.Scanning

/-!
# CalcBench.Proofs.Device.Replay — what a replay has handed out

Whatever is asked of a replay, the responses that it gave and those that it still has are the trace.
A request that fails gives nothing and counts nothing.

* `Replay.after_calls`: **given and left** make up what there was, and `consumed` counts what was given.
-/

namespace CalcBench

/-- The responses that calls gave, in order, when all of them are made whatever the outcomes of those
before. -/
def Device.given {ε σ : Type} (d : Device ε σ) (s : σ) (calls : List Call) : List Response :=
  (d.outcomes s calls).filterMap fun outcome => outcome.toOption.join

namespace Replay

theorem ofTrace_eq_ok {source : String} {r : Replay} (h : ofTrace source = .ok r) :
    Trace.parse source = .ok r.responses ∧ r.consumed = 0 := by
  obtain ⟨rs, hparse, rfl⟩ := Expression.map_eq_ok h
  exact ⟨hparse, rfl⟩

/-! ### One call -/

theorem given_put (r : Replay) (byte : UInt8) (calls : List Call) :
    device.given r (.put byte :: calls) = device.given r calls := rfl

theorem given_get_nil (consumed : Nat) (calls : List Call) :
    device.given ⟨[], consumed⟩ (.get :: calls) = device.given ⟨[], consumed⟩ calls := rfl

theorem given_get_cons (response : Response) (rest : List Response) (consumed : Nat)
    (calls : List Call) :
    device.given ⟨response :: rest, consumed⟩ (.get :: calls) =
      response :: device.given ⟨rest, consumed + 1⟩ calls := rfl

/-! ### Histories -/

/-- **Given and left.**  Over any calls the responses given, in order, and those left make up what there
was; each of them was counted as it was given. -/
theorem after_calls (r : Replay) (calls : List Call) :
    r.responses = device.given r calls ++ (device.after r calls).responses ∧
      (device.after r calls).consumed = r.consumed + (device.given r calls).length := by
  induction calls generalizing r with
  | nil => exact ⟨rfl, rfl⟩
  | cons call calls ih =>
    cases call with
    | put byte =>
      rw [given_put]
      exact ih r
    | get =>
      obtain ⟨responses, consumed⟩ := r
      cases responses with
      | nil =>
        rw [given_get_nil]
        exact ih ⟨[], consumed⟩
      | cons response rest =>
        obtain ⟨hresponses, hconsumed⟩ := ih ⟨rest, consumed + 1⟩
        rw [given_get_cons, List.cons_append, List.length_cons]
        refine ⟨congrArg (response :: ·) hresponses, hconsumed.trans ?_⟩
        show consumed + 1 + _ = consumed + _
        omega

theorem after_exhausted (consumed : Nat) (calls : List Call) :
    device.after ⟨[], consumed⟩ calls = ⟨[], consumed⟩ := by
  induction calls with
  | nil => rfl
  | cons call calls ih =>
    cases call with
    | put byte => exact ih
    | get => exact ih

end Replay

end CalcBench
