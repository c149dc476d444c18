import CalcBench.Device
import Mathlib.Tactic.Common

/-!
# CalcBench.Proofs.Device.Calls — calls made one after the other

Calls to a device are made in order until one fails.  `Performs` is the run in which none does, `Fails`
the run that ends with the first that does; each list of calls has one of the two.  In a history calls
are made whatever the outcomes of those before.
-/

namespace CalcBench

/-- The calls that put bytes in order. -/
def puts (bytes : List UInt8) : List Call := bytes.map .put

namespace Device

variable {ε σ : Type}

/-- `d.Performs s calls given s'`: from `s` on all of the calls succeed; they give the responses
`given` and leave `s'`. -/
inductive Performs (d : Device ε σ) : σ → List Call → List Response → σ → Prop where
  | nil (s : σ) : Performs d s [] [] s
  | put {s s' : σ} {byte : UInt8} {calls : List Call} {given : List Response} :
      (d.put s byte).outcome = .ok () → Performs d (d.put s byte).state calls given s' →
      Performs d s (.put byte :: calls) given s'
  | get {s s' : σ} {response : Response} {calls : List Call} {given : List Response} :
      (d.get s).outcome = .ok response → Performs d (d.get s).state calls given s' →
      Performs d s (.get :: calls) (response :: given) s'

/-- `d.Fails s calls made e s'`: from `s` on the first of the calls, `made`, were made; all of them
succeeded but the last, which failed with `e` and left `s'`. -/
inductive Fails (d : Device ε σ) : σ → List Call → List Call → ε → σ → Prop where
  | here {s : σ} {call : Call} {calls : List Call} {e : ε} :
      (d.perform s call).outcome = .error e →
      Fails d s (call :: calls) [call] e (d.perform s call).state
  | put {s s' : σ} {byte : UInt8} {calls made : List Call} {e : ε} :
      (d.put s byte).outcome = .ok () → Fails d (d.put s byte).state calls made e s' →
      Fails d s (.put byte :: calls) (.put byte :: made) e s'
  | get {s s' : σ} {response : Response} {calls made : List Call} {e : ε} :
      (d.get s).outcome = .ok response → Fails d (d.get s).state calls made e s' →
      Fails d s (.get :: calls) (.get :: made) e s'

variable {d : Device ε σ}

/-! ### One call -/

theorem map_eq_error_iff {α β : Type} {x : Except ε α} {f : α → β} {e : ε} :
    x.map f = .error e ↔ x = .error e := by
  cases x with
  | ok a => exact iff_of_false nofun nofun
  | error e' => simp [Except.map]

theorem perform_put_eq_error_iff {s : σ} {byte : UInt8} {e : ε} :
    (d.perform s (.put byte)).outcome = .error e ↔ (d.put s byte).outcome = .error e :=
  map_eq_error_iff

theorem perform_get_eq_error_iff {s : σ} {e : ε} :
    (d.perform s .get).outcome = .error e ↔ (d.get s).outcome = .error e :=
  map_eq_error_iff

/-! ### Calls in two parts -/

theorem performs_append_iff {s s' : σ} {front back : List Call} {given : List Response} :
    d.Performs s (front ++ back) given s' ↔
      ∃ given₁ mid given₂, given = given₁ ++ given₂ ∧ d.Performs s front given₁ mid ∧
        d.Performs mid back given₂ s' := by
  constructor
  · -- the calls of the first part decide how the run starts, so the induction is on them
    intro h
    induction front generalizing s given with
    | nil => exact ⟨[], s, given, rfl, .nil s, h⟩
    | cons call front ih =>
      cases h with
      | put hput h =>
        obtain ⟨given₁, mid, given₂, rfl, hfront, hback⟩ := ih h
        exact ⟨given₁, mid, given₂, rfl, .put hput hfront, hback⟩
      | get hget h =>
        obtain ⟨given₁, mid, given₂, rfl, hfront, hback⟩ := ih h
        exact ⟨_ :: given₁, mid, given₂, rfl, .get hget hfront, hback⟩
  · rintro ⟨given₁, mid, given₂, rfl, hfront, hback⟩
    induction hfront with
    | nil s => exact hback
    | put hput _ ih => exact .put hput (ih hback)
    | get hget _ ih => exact .get hget (ih hback)

theorem fails_append_iff {s s' : σ} {front back made : List Call} {e : ε} :
    d.Fails s (front ++ back) made e s' ↔
      d.Fails s front made e s' ∨
        ∃ given mid made', made = front ++ made' ∧ d.Performs s front given mid ∧
          d.Fails mid back made' e s' := by
  constructor
  · intro h
    induction front generalizing s made with
    | nil => exact .inr ⟨[], s, made, rfl, .nil s, h⟩
    | cons call front ih =>
      -- the first call fails, or the run goes on and ends within `front` or behind it
      cases h with
      | here hcall => exact .inl (.here hcall)
      | put hput h =>
        rcases ih h with h | ⟨given, mid, made', rfl, hfront, hback⟩
        · exact .inl (.put hput h)
        · exact .inr ⟨given, mid, made', rfl, .put hput hfront, hback⟩
      | get hget h =>
        rcases ih h with h | ⟨given, mid, made', rfl, hfront, hback⟩
        · exact .inl (.get hget h)
        · exact .inr ⟨_ :: given, mid, made', rfl, .get hget hfront, hback⟩
  · rintro (h | ⟨given, mid, made', rfl, hfront, hback⟩)
    · induction h with
      | here hcall => exact .here hcall
      | put hput _ ih => exact .put hput ih
      | get hget _ ih => exact .get hget ih
    · induction hfront with
      | nil s => exact hback
      | put hput _ ih => exact .put hput (ih hback)
      | get hget _ ih => exact .get hget (ih hback)

/-! ### Success or failure -/

/-- Calls all succeed, or there is a first that fails. -/
theorem performs_or_fails (d : Device ε σ) (s : σ) (calls : List Call) :
    (∃ given s', d.Performs s calls given s') ∨ ∃ made e s', d.Fails s calls made e s' := by
  induction calls generalizing s with
  | nil => exact .inl ⟨[], s, .nil s⟩
  | cons call calls ih =>
    cases call with
    | put byte =>
      cases hput : (d.put s byte).outcome with
      | error e => exact .inr ⟨_, e, _, .here (perform_put_eq_error_iff.mpr hput)⟩
      | ok u =>
        rcases ih (d.put s byte).state with ⟨given, s', h⟩ | ⟨made, e, s', h⟩
        · exact .inl ⟨given, s', .put hput h⟩
        · exact .inr ⟨_, e, s', .put hput h⟩
    | get =>
      cases hget : (d.get s).outcome with
      | error e => exact .inr ⟨_, e, _, .here (perform_get_eq_error_iff.mpr hget)⟩
      | ok response =>
        rcases ih (d.get s).state with ⟨given, s', h⟩ | ⟨made, e, s', h⟩
        · exact .inl ⟨_, s', .get hget h⟩
        · exact .inr ⟨_, e, s', .get hget h⟩

/-- What was made is a first part of the calls, and its last call is the one that failed. -/
theorem Fails.exists_split {s s' : σ} {calls made : List Call} {e : ε}
    (h : d.Fails s calls made e s') :
    ∃ front call back given mid, calls = front ++ call :: back ∧ made = front ++ [call] ∧
      d.Performs s front given mid ∧ (d.perform mid call).outcome = .error e ∧
      (d.perform mid call).state = s' := by
  induction h with
  | @here s call calls e hcall => exact ⟨[], call, calls, [], s, rfl, rfl, .nil s, hcall, rfl⟩
  | put hput _ ih =>
    obtain ⟨front, call, back, given, mid, rfl, rfl, hfront, hcall⟩ := ih
    exact ⟨_ :: front, call, back, given, mid, rfl, rfl, .put hput hfront, hcall⟩
  | get hget _ ih =>
    obtain ⟨front, call, back, given, mid, rfl, rfl, hfront, hcall⟩ := ih
    exact ⟨_ :: front, call, back, _ :: given, mid, rfl, rfl, .get hget hfront, hcall⟩

/-! ### Bytes only -/

theorem Performs.given_puts {s s' : σ} {bytes : List UInt8} {given : List Response}
    (h : d.Performs s (puts bytes) given s') : given = [] := by
  induction bytes generalizing s with
  | nil => cases h; rfl
  | cons byte rest ih =>
    cases h with
    | put _ h => exact ih h

theorem Fails.exists_split_puts {s s' : σ} {bytes : List UInt8} {made : List Call} {e : ε}
    (h : d.Fails s (puts bytes) made e s') :
    ∃ front byte back mid, bytes = front ++ byte :: back ∧ made = puts (front ++ [byte]) ∧
      d.Performs s (puts front) [] mid ∧ (d.put mid byte).outcome = .error e ∧
      (d.put mid byte).state = s' := by
  obtain ⟨front', call, back', given, mid, hcalls, rfl, hfront, hcall, rfl⟩ := h.exists_split
  obtain ⟨front, tail, rfl, rfl, htail⟩ := List.map_eq_append_iff.mp hcalls
  obtain ⟨byte, back, rfl, rfl, rfl⟩ := List.map_eq_cons_iff.mp htail
  obtain rfl : given = [] := Performs.given_puts hfront
  refine ⟨front, byte, back, mid, rfl, ?_, hfront, perform_put_eq_error_iff.mp hcall, rfl⟩
  rw [puts, List.map_append]
  rfl

/-! ### A recording device -/

/-- A recording device gives what the device gives and has the calls that were made. -/
theorem Performs.recorded {s s' : σ} {calls : List Call} {given : List Response}
    (h : d.Performs s calls given s') (before : List Call) :
    d.recorded.Performs (s, before) calls given (s', before ++ calls) := by
  induction h generalizing before with
  | nil s =>
    rw [List.append_nil]
    exact .nil _
  | @put s s' byte calls given hput _ ih =>
    have hrest := ih (before ++ [.put byte])
    rw [List.append_assoc] at hrest
    exact .put hput hrest
  | @get s s' response calls given hget _ ih =>
    have hrest := ih (before ++ [.get])
    rw [List.append_assoc] at hrest
    exact .get hget hrest

theorem recorded_perform (d : Device ε σ) (s : σ) (before : List Call) (call : Call) :
    d.recorded.perform (s, before) call =
      ⟨(d.perform s call).outcome, ((d.perform s call).state, before ++ [call]),
        (d.perform s call).events⟩ := by
  cases call with
  | put byte => rfl
  | get => rfl

/-- A recording device fails where the device fails, the failed call being the last that it has. -/
theorem Fails.recorded {s s' : σ} {calls made : List Call} {e : ε}
    (h : d.Fails s calls made e s') (before : List Call) :
    d.recorded.Fails (s, before) calls made e (s', before ++ made) := by
  induction h generalizing before with
  | @here s call calls e hcall =>
    have hcalled := recorded_perform d s before call
    have hfails : d.recorded.Fails (s, before) (call :: calls) [call] e
        (d.recorded.perform (s, before) call).state := .here (by rw [hcalled, hcall])
    rwa [hcalled] at hfails
  | @put s s' byte calls made e hput _ ih =>
    have hrest := ih (before ++ [.put byte])
    rw [List.append_assoc] at hrest
    exact .put hput hrest
  | @get s s' response calls made e hget _ ih =>
    have hrest := ih (before ++ [.get])
    rw [List.append_assoc] at hrest
    exact .get hget hrest

/-! ### Histories -/

/-- The outcomes of calls that are all made, also after one that fails. -/
def outcomes (d : Device ε σ) (s : σ) : List Call → List (Except ε (Option Response))
  | [] => []
  | call :: calls => (d.perform s call).outcome :: d.outcomes (d.perform s call).state calls

/-- The bytes put since the last response that was given, or all of them if none was; `bytes` are
those put before the calls. -/
def unanswered (d : Device ε σ) (s : σ) (bytes : List UInt8) : List Call → List UInt8
  | [] => bytes
  | .put byte :: calls => d.unanswered (d.put s byte).state (bytes ++ [byte]) calls
  | .get :: calls =>
    d.unanswered (d.get s).state (if (d.get s).outcome.isOk then [] else bytes) calls

variable (d)

theorem after_append (s : σ) (front back : List Call) :
    d.after s (front ++ back) = d.after (d.after s front) back := List.foldl_append

theorem outcomes_append (s : σ) (front back : List Call) :
    d.outcomes s (front ++ back) = d.outcomes s front ++ d.outcomes (d.after s front) back := by
  induction front generalizing s with
  | nil => rfl
  | cons call front ih => exact congrArg (_ :: ·) (ih _)

theorem unanswered_append (s : σ) (bytes : List UInt8) (front back : List Call) :
    d.unanswered s bytes (front ++ back) =
      d.unanswered (d.after s front) (d.unanswered s bytes front) back := by
  induction front generalizing s bytes with
  | nil => rfl
  | cons call front ih =>
    cases call with
    | put byte => exact ih _ _
    | get => exact ih _ _

theorem after_append_get (s : σ) (calls : List Call) :
    d.after s (calls ++ [.get]) = (d.get (d.after s calls)).state := d.after_append s calls [.get]

theorem outcomes_append_get (s : σ) (calls later : List Call) :
    d.outcomes s (calls ++ .get :: later) =
      d.outcomes s calls ++ (d.get (d.after s calls)).outcome.map some ::
        d.outcomes (d.get (d.after s calls)).state later := d.outcomes_append s calls (.get :: later)

theorem unanswered_append_get (s : σ) (bytes : List UInt8) (calls : List Call) :
    d.unanswered s bytes (calls ++ [.get]) =
      if (d.get (d.after s calls)).outcome.isOk then [] else d.unanswered s bytes calls :=
  d.unanswered_append s bytes calls [.get]

end Device

end CalcBench
