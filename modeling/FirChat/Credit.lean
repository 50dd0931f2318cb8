import FirChat.Machine

set_option autoImplicit false

-- What the steps of a run are worth together, and a measure of the states and
-- observations that grows by no more than that.
namespace Machine

variable {State Act Out : Type}

def total (machine : Machine State Act Out) (weight : State → Act → Nat) : State → List Act → Nat
  | _, [] => 0
  | state, act :: rest =>
      weight state act +
        match machine.step state act with
        | none => 0
        | some (next, _) => machine.total weight next rest

theorem total_cons (machine : Machine State Act Out) (weight : State → Act → Nat) (state next : State) (act : Act)
    (rest : List Act) (out : List Out) (stepped : machine.step state act = some (next, out)) :
    machine.total weight state (act :: rest) = weight state act + machine.total weight next rest := by
  rw [total, stepped]

theorem total_bounds (machine : Machine State Act Out) (inv : State → Prop) (weight : State → Act → Nat)
    (measure : State → List Out → Nat)
    (keeps : ∀ state act next out, inv state → machine.step state act = some (next, out) → inv next)
    (grows : ∀ state seen act next out, inv state → machine.step state act = some (next, out) →
      measure next (seen ++ out) ≤ measure state seen + weight state act)
    (acts : List Act) (start finish : State) (seen out : List Out) (holds : inv start)
    (ran : machine.run start acts = some (finish, out)) :
    measure finish (seen ++ out) ≤ measure start seen + machine.total weight start acts := by
  induction acts generalizing start seen out with
  | nil =>
      obtain ⟨rfl, rfl⟩ := (run_nil machine start finish out).mp ran
      rw [List.append_nil]
      exact Nat.le_refl _
  | cons act rest ih =>
      obtain ⟨next, now, later, stepped, tail, rfl⟩ := (run_cons machine start finish act rest out).mp ran
      rw [← List.append_assoc, machine.total_cons weight start next act rest now stepped]
      have first := grows start seen act next now holds stepped
      have second := ih next (seen ++ now) later (keeps start act next now holds stepped) tail
      omega

theorem total_exact (machine : Machine State Act Out) (inv : State → Prop) (weight : State → Act → Nat)
    (measure : State → List Out → Nat) (cond : State → Act → Prop)
    (keeps : ∀ state act next out, inv state → machine.step state act = some (next, out) → inv next)
    (grows : ∀ state seen act next out, inv state → cond state act → machine.step state act = some (next, out) →
      measure next (seen ++ out) = measure state seen + weight state act)
    (acts : List Act) (start finish : State) (seen out : List Out) (holds : inv start)
    (along : machine.Along cond start acts) (ran : machine.run start acts = some (finish, out)) :
    measure finish (seen ++ out) = measure start seen + machine.total weight start acts := by
  induction acts generalizing start seen out with
  | nil =>
      obtain ⟨rfl, rfl⟩ := (run_nil machine start finish out).mp ran
      rw [List.append_nil]
      rfl
  | cons act rest ih =>
      obtain ⟨next, now, later, stepped, tail, rfl⟩ := (run_cons machine start finish act rest out).mp ran
      rw [← List.append_assoc, machine.total_cons weight start next act rest now stepped]
      have first := grows start seen act next now holds along.1 stepped
      have second := ih next (seen ++ now) later (keeps start act next now holds stepped) (along.2 next now stepped) tail
      omega

end Machine
