import Mathlib.Data.List.Basic

set_option autoImplicit false

-- A deterministic machine whose actions may be disabled. Every choice of an
-- environment (an order of callbacks, a verdict, a lost client) is in the
-- action, so a run is a list of actions; a step also emits observations.
structure Machine (State Act Out : Type) where
  step : State → Act → Option (State × List Out)

namespace Machine

variable {State Act Out : Type}

def run (machine : Machine State Act Out) : State → List Act → Option (State × List Out)
  | state, [] => some (state, [])
  | state, act :: rest =>
      match machine.step state act with
      | none => none
      | some (next, out) =>
          match machine.run next rest with
          | none => none
          | some (finish, later) => some (finish, out ++ later)

def Along (machine : Machine State Act Out) (cond : State → Act → Prop) : State → List Act → Prop
  | _, [] => True
  | state, act :: rest =>
      cond state act ∧ ∀ next out, machine.step state act = some (next, out) → machine.Along cond next rest

def Always (machine : Machine State Act Out) (good : State → Prop) : State → List Act → Prop
  | state, [] => good state
  | state, act :: rest =>
      good state ∧ ∀ next out, machine.step state act = some (next, out) → machine.Always good next rest

theorem run_nil (machine : Machine State Act Out) (state finish : State) (out : List Out) :
    machine.run state [] = some (finish, out) ↔ finish = state ∧ out = [] := by
  simp only [run, Option.some.injEq, Prod.mk.injEq]
  constructor <;> rintro ⟨rfl, rfl⟩ <;> exact ⟨rfl, rfl⟩

theorem run_cons (machine : Machine State Act Out) (state finish : State) (act : Act) (rest : List Act)
    (out : List Out) :
    machine.run state (act :: rest) = some (finish, out) ↔
      ∃ next now later, machine.step state act = some (next, now) ∧
        machine.run next rest = some (finish, later) ∧ out = now ++ later := by
  constructor
  · intro ran
    rw [run] at ran
    split at ran
    · cases ran
    · rename_i next now stepped
      split at ran
      · cases ran
      · rename_i final later tail
        obtain ⟨rfl, rfl⟩ := Prod.mk.inj (Option.some.inj ran)
        exact ⟨next, now, later, stepped, tail, rfl⟩
  · intro given
    obtain ⟨next, now, later, stepped, tail, rfl⟩ := given
    rw [run, stepped]
    dsimp only
    rw [tail]

theorem run_append (machine : Machine State Act Out) (start finish : State) (front back : List Act)
    (out : List Out) :
    machine.run start (front ++ back) = some (finish, out) ↔
      ∃ middle early later, machine.run start front = some (middle, early) ∧
        machine.run middle back = some (finish, later) ∧ out = early ++ later := by
  induction front generalizing start out with
  | nil =>
      constructor
      · intro ran
        exact ⟨start, [], out, rfl, ran, rfl⟩
      · intro given
        obtain ⟨middle, early, later, first, second, rfl⟩ := given
        obtain ⟨rfl, rfl⟩ := (run_nil machine start middle early).mp first
        exact second
  | cons act rest ih =>
      rw [List.cons_append, run_cons]
      constructor
      · intro given
        obtain ⟨next, now, tail, stepped, ran, rfl⟩ := given
        obtain ⟨middle, early, later, first, second, rfl⟩ := (ih next tail).mp ran
        refine ⟨middle, now ++ early, later, ?_, second, by rw [List.append_assoc]⟩
        exact (run_cons machine start middle act rest (now ++ early)).mpr ⟨next, now, early, stepped, first, rfl⟩
      · intro given
        obtain ⟨middle, early, later, first, second, rfl⟩ := given
        obtain ⟨next, now, mid, stepped, tail, rfl⟩ := (run_cons machine start middle act rest early).mp first
        exact ⟨next, now, mid ++ later, stepped, (ih next (mid ++ later)).mpr ⟨middle, mid, later, tail, second, rfl⟩,
          by rw [List.append_assoc]⟩

theorem along_of_forall (machine : Machine State Act Out) (cond : State → Act → Prop) (acts : List Act)
    (every : ∀ state, ∀ act ∈ acts, cond state act) (start : State) : machine.Along cond start acts := by
  induction acts generalizing start with
  | nil => trivial
  | cons act rest ih =>
      refine ⟨every start act (by simp), fun next out _ => ih ?_ next⟩
      exact fun state later member => every state later (by simp [member])

theorem along_step_iff (machine : Machine State Act Out) (cond : State → Act → Prop) (state next : State) (act : Act)
    (rest : List Act) (out : List Out) (stepped : machine.step state act = some (next, out)) :
    machine.Along cond next rest ↔
      ∀ other observed, machine.step state act = some (other, observed) → machine.Along cond other rest := by
  constructor
  · intro later other observed same
    obtain ⟨rfl, rfl⟩ := Prod.mk.inj (Option.some.inj (stepped.symm.trans same))
    exact later
  · exact fun later => later next out stepped

theorem along_cons (machine : Machine State Act Out) (cond : State → Act → Prop) (state next : State) (act : Act)
    (rest : List Act) (out : List Out) (stepped : machine.step state act = some (next, out)) (now : cond state act)
    (later : machine.Along cond next rest) : machine.Along cond state (act :: rest) :=
  ⟨now, (machine.along_step_iff cond state next act rest out stepped).mp later⟩

theorem along_append (machine : Machine State Act Out) (cond : State → Act → Prop) (front back : List Act)
    (start middle : State) (out : List Out) (ran : machine.run start front = some (middle, out))
    (first : machine.Along cond start front) (second : machine.Along cond middle back) :
    machine.Along cond start (front ++ back) := by
  induction front generalizing start out with
  | nil =>
      obtain ⟨rfl, _⟩ := (run_nil machine start middle out).mp ran
      exact second
  | cons act rest ih =>
      obtain ⟨next, now, later, stepped, tail, _⟩ := (run_cons machine start middle act rest out).mp ran
      exact machine.along_cons cond start next act (rest ++ back) now stepped first.1
        (ih next later tail (first.2 next now stepped))

instance decidableAlong (machine : Machine State Act Out) (cond : State → Act → Prop)
    [decidable : ∀ state act, Decidable (cond state act)] : ∀ state acts, Decidable (machine.Along cond state acts)
  | _, [] => isTrue trivial
  | state, act :: rest =>
      match stepped : machine.step state act with
      | none => decidable_of_iff (cond state act) ⟨fun now => ⟨now, fun _ _ same => by simp [stepped] at same⟩, And.left⟩
      | some (next, out) =>
          have later : Decidable (machine.Along cond next rest) := machine.decidableAlong cond next rest
          decidable_of_iff (cond state act ∧ machine.Along cond next rest)
            (and_congr_right' (machine.along_step_iff cond state next act rest out stepped))

theorem along_and (machine : Machine State Act Out) (first second : State → Act → Prop) (acts : List Act) (start : State)
    (left : machine.Along first start acts) (right : machine.Along second start acts) :
    machine.Along (fun state act => first state act ∧ second state act) start acts := by
  induction acts generalizing start with
  | nil => trivial
  | cons act rest ih =>
      exact ⟨⟨left.1, right.1⟩, fun next out stepped => ih next (left.2 next out stepped) (right.2 next out stepped)⟩

theorem forall_of_along (machine : Machine State Act Out) (cond : Act → Prop) (acts : List Act) (start finish : State)
    (out : List Out) (ran : machine.run start acts = some (finish, out))
    (along : machine.Along (fun _ act => cond act) start acts) : ∀ act ∈ acts, cond act := by
  induction acts generalizing start out with
  | nil => simp
  | cons act rest ih =>
      obtain ⟨next, now, later, stepped, tail, _⟩ := (run_cons machine start finish act rest out).mp ran
      intro other member
      rcases List.mem_cons.mp member with rfl | behind
      · exact along.1
      · exact ih next later tail (along.2 next now stepped) other behind

-- The run rule: what one step preserves of the state and of everything
-- observed so far, every run preserves.
theorem run_history_along (machine : Machine State Act Out) (inv : State → List Out → Prop)
    (cond : State → Act → Prop)
    (keeps : ∀ state seen act next out, inv state seen → cond state act →
      machine.step state act = some (next, out) → inv next (seen ++ out))
    (acts : List Act) (start finish : State) (seen out : List Out) (holds : inv start seen)
    (along : machine.Along cond start acts) (ran : machine.run start acts = some (finish, out)) :
    inv finish (seen ++ out) := by
  induction acts generalizing start seen out with
  | nil =>
      obtain ⟨rfl, rfl⟩ := (run_nil machine start finish out).mp ran
      simpa using holds
  | cons act rest ih =>
      obtain ⟨next, now, later, stepped, tail, rfl⟩ := (run_cons machine start finish act rest out).mp ran
      rw [← List.append_assoc]
      exact ih next (seen ++ now) later (keeps start seen act next now holds along.1 stepped)
        (along.2 next now stepped) tail

theorem history_along (machine : Machine State Act Out) (inv : State → List Out → Prop) (cond : State → Act → Prop)
    (keeps : ∀ state seen act next out, inv state seen → cond state act →
      machine.step state act = some (next, out) → inv next (seen ++ out))
    (acts : List Act) (start finish : State) (out : List Out) (holds : inv start [])
    (along : machine.Along cond start acts) (ran : machine.run start acts = some (finish, out)) : inv finish out := by
  simpa using run_history_along machine inv cond keeps acts start finish [] out holds along ran

theorem history_forall (machine : Machine State Act Out) (inv : State → List Out → Prop) (cond : Act → Prop)
    (keeps : ∀ state seen act next out, inv state seen → cond act →
      machine.step state act = some (next, out) → inv next (seen ++ out))
    (acts : List Act) (start finish : State) (out : List Out) (holds : inv start [])
    (every : ∀ act ∈ acts, cond act) (ran : machine.run start acts = some (finish, out)) : inv finish out := by
  have along := machine.along_of_forall (fun _ act => cond act) acts (fun _ => every) start
  exact machine.history_along inv (fun _ act => cond act) keeps acts start finish out holds along ran

theorem run_history (machine : Machine State Act Out) (inv : State → List Out → Prop)
    (keeps : ∀ state seen act next out, inv state seen →
      machine.step state act = some (next, out) → inv next (seen ++ out))
    (acts : List Act) (start finish : State) (out : List Out) (holds : inv start [])
    (ran : machine.run start acts = some (finish, out)) : inv finish out :=
  machine.history_forall inv (fun _ => True) (fun state seen act next now inside _ => keeps state seen act next now inside)
    acts start finish out holds (fun _ _ => trivial) ran

theorem invariant_along (machine : Machine State Act Out) (inv : State → Prop) (cond : State → Act → Prop)
    (keeps : ∀ state act next out, inv state → cond state act → machine.step state act = some (next, out) → inv next)
    (acts : List Act) (start finish : State) (out : List Out) (holds : inv start)
    (along : machine.Along cond start acts) (ran : machine.run start acts = some (finish, out)) : inv finish :=
  machine.history_along (fun state _ => inv state) cond (fun state _ => keeps state) acts start finish out holds along ran

theorem invariant_run (machine : Machine State Act Out) (inv : State → Prop)
    (keeps : ∀ state act next out, inv state → machine.step state act = some (next, out) → inv next)
    (acts : List Act) (start finish : State) (out : List Out) (holds : inv start)
    (ran : machine.run start acts = some (finish, out)) : inv finish :=
  machine.run_history (fun state _ => inv state) (fun state _ => keeps state) acts start finish out holds ran

-- The converse of a run rule: when a step that misses cond leaves a mark that
-- no later step removes, an unmarked end shows that every step met cond.
theorem along_of_unmarked (machine : Machine State Act Out) (inv mark : State → List Out → Prop)
    (cond : State → Act → Prop)
    (keeps : ∀ state seen act next out, inv state seen →
      machine.step state act = some (next, out) → inv next (seen ++ out))
    (marks : ∀ state seen act next out, inv state seen → ¬ cond state act →
      machine.step state act = some (next, out) → mark next (seen ++ out))
    (persists : ∀ state seen act next out, inv state seen → mark state seen →
      machine.step state act = some (next, out) → mark next (seen ++ out))
    (acts : List Act) (start finish : State) (seen out : List Out) (holds : inv start seen)
    (ran : machine.run start acts = some (finish, out)) (unmarked : ¬ mark finish (seen ++ out)) :
    machine.Along cond start acts := by
  induction acts generalizing start seen out with
  | nil => trivial
  | cons act rest ih =>
      obtain ⟨next, now, later, stepped, tail, rfl⟩ := (run_cons machine start finish act rest out).mp ran
      rw [← List.append_assoc] at unmarked
      have kept := keeps start seen act next now holds stepped
      constructor
      · by_contra missed
        have marked := marks start seen act next now holds missed stepped
        have both := run_history_along machine (fun state seen => inv state seen ∧ mark state seen) (fun _ _ => True)
          (fun state seen act next out inside _ step => ⟨keeps state seen act next out inside.1 step,
            persists state seen act next out inside.1 inside.2 step⟩)
          rest next finish (seen ++ now) later ⟨kept, marked⟩
          (along_of_forall machine _ rest (fun _ _ _ => trivial) next) tail
        exact unmarked both.2
      · intro other observed same
        obtain ⟨rfl, rfl⟩ := Prod.mk.inj (Option.some.inj (stepped.symm.trans same))
        exact ih next (seen ++ now) later kept tail unmarked

-- Where a step's observations are good exactly when it meets cond, so are a run's.
theorem outputs_good_iff (machine : Machine State Act Out) (inv : State → Prop) (good : Out → Prop)
    (cond : State → Act → Prop)
    (keeps : ∀ state act next out, inv state → machine.step state act = some (next, out) → inv next)
    (tells : ∀ state act next out, inv state → machine.step state act = some (next, out) →
      ((∀ item ∈ out, good item) ↔ cond state act))
    (acts : List Act) (start finish : State) (out : List Out) (holds : inv start)
    (ran : machine.run start acts = some (finish, out)) :
    (∀ item ∈ out, good item) ↔ machine.Along cond start acts := by
  induction acts generalizing start out with
  | nil =>
      obtain ⟨_, rfl⟩ := (run_nil machine start finish out).mp ran
      simp [Along]
  | cons act rest ih =>
      obtain ⟨next, now, later, stepped, tail, rfl⟩ := (run_cons machine start finish act rest out).mp ran
      have first := tells start act next now holds stepped
      have second := ih next later (keeps start act next now holds stepped) tail
      rw [List.forall_mem_append, first, second, along_step_iff machine cond start next act rest now stepped]
      exact Iff.rfl

theorem always_start (machine : Machine State Act Out) (good : State → Prop) (acts : List Act) (start : State)
    (always : machine.Always good start acts) : good start := by
  cases acts with
  | nil => exact always
  | cons act rest => exact always.1

theorem always_at (machine : Machine State Act Out) (good : State → Prop) (front back : List Act) (start middle : State)
    (out : List Out) (always : machine.Always good start (front ++ back))
    (ran : machine.run start front = some (middle, out)) : good middle := by
  induction front generalizing start out with
  | nil =>
      obtain ⟨rfl, _⟩ := (run_nil machine start middle out).mp ran
      exact machine.always_start good back middle always
  | cons act rest ih =>
      obtain ⟨next, now, later, stepped, tail, _⟩ := (run_cons machine start middle act rest out).mp ran
      exact ih next later (always.2 next now stepped) tail

-- Where a step from a good state is harmless and leads to a good state exactly
-- when it meets cond, so are all steps and states of a run.
theorem always_along_iff (machine : Machine State Act Out) (inv good : State → Prop) (harmless cond : State → Act → Prop)
    (keeps : ∀ state act next out, inv state → machine.step state act = some (next, out) → inv next)
    (tells : ∀ state act next out, inv state → good state → machine.step state act = some (next, out) →
      (good next ∧ harmless state act ↔ cond state act))
    (acts : List Act) (start finish : State) (out : List Out) (holds : inv start) (fine : good start)
    (ran : machine.run start acts = some (finish, out)) :
    machine.Always good start acts ∧ machine.Along harmless start acts ↔ machine.Along cond start acts := by
  induction acts generalizing start out with
  | nil => exact iff_of_true ⟨fine, trivial⟩ trivial
  | cons act rest ih =>
      obtain ⟨next, now, later, stepped, tail, _⟩ := (run_cons machine start finish act rest out).mp ran
      have told := tells start act next now holds fine stepped
      have kept := keeps start act next now holds stepped
      have only (property : State → Prop) :
          (∀ other observed, machine.step start act = some (other, observed) → property other) ↔ property next := by
        simp [stepped]
      rw [Always, Along, Along, only, only, only]
      constructor
      · intro given
        obtain ⟨always, calm, quiet⟩ := given
        have good := machine.always_start good rest next always.2
        exact ⟨told.mp ⟨good, calm⟩, (ih next later kept good tail).mp ⟨always.2, quiet⟩⟩
      · intro along
        obtain ⟨good, calm⟩ := told.mpr along.1
        obtain ⟨always, quiet⟩ := (ih next later kept good tail).mpr along.2
        exact ⟨⟨fine, always⟩, calm, quiet⟩

theorem always_iff_along (machine : Machine State Act Out) (inv good : State → Prop) (cond : State → Act → Prop)
    (keeps : ∀ state act next out, inv state → machine.step state act = some (next, out) → inv next)
    (tells : ∀ state act next out, inv state → good state → machine.step state act = some (next, out) →
      (good next ↔ cond state act))
    (acts : List Act) (start finish : State) (out : List Out) (holds : inv start) (fine : good start)
    (ran : machine.run start acts = some (finish, out)) :
    machine.Always good start acts ↔ machine.Along cond start acts := by
  have both := machine.always_along_iff inv good (fun _ _ => True) cond keeps
    (fun state act next out holds fine stepped => (and_iff_left trivial).trans (tells state act next out holds fine stepped))
    acts start finish out holds fine ran
  exact (and_iff_left (machine.along_of_forall _ acts (fun _ _ _ => trivial) start)).symm.trans both

end Machine
