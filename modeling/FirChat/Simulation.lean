import FirChat.Machine
import Mathlib.Data.List.Induction

set_option autoImplicit false

-- What holds along a run and its pieces, and forward simulation of one machine by
-- another, which may take any number of steps, also none, for one step of the first.
namespace Machine

variable {State Act Out Small Move Note : Type}

theorem traced_run (machine : Machine State Act Out) (inv : List Act → State → Prop) (start : State) (base : inv [] start)
    (keeps : ∀ acts state act next early out, machine.run start acts = some (state, early) → inv acts state →
      machine.step state act = some (next, out) → inv (acts ++ [act]) next)
    (acts : List Act) (finish : State) (out : List Out) (ran : machine.run start acts = some (finish, out)) :
    inv acts finish := by
  induction acts using List.reverseRecOn generalizing finish out with
  | nil =>
      obtain ⟨rfl, _⟩ := (run_nil machine start finish out).mp ran
      exact base
  | append_singleton rest act ih =>
      obtain ⟨middle, early, later, first, second, _⟩ := (run_append machine start finish rest [act] out).mp ran
      obtain ⟨next, now, nothing, stepped, ended, _⟩ := (run_cons machine middle finish act [] later).mp second
      obtain ⟨rfl, _⟩ := (run_nil machine next finish nothing).mp ended
      exact keeps rest middle act finish early now first (ih middle early first) stepped

-- Every step that meets cond is matched by allowed moves that show the same.
def Simulates (machine : Machine State Act Out) (abstract : Machine Small Move Note) (relates : State → Small → Prop)
    (cond : State → Act → Prop) (allowed : Small → Move → Prop) (shows : Out → Option Note) : Prop :=
  ∀ state small act next out, relates state small → cond state act → machine.step state act = some (next, out) →
    ∃ moves last, abstract.run small moves = some (last, out.filterMap shows) ∧ abstract.Along allowed small moves ∧
      relates next last

theorem simulates_run (machine : Machine State Act Out) (abstract : Machine Small Move Note)
    (relates : State → Small → Prop) (cond : State → Act → Prop) (allowed : Small → Move → Prop)
    (shows : Out → Option Note) (simulates : machine.Simulates abstract relates cond allowed shows) (acts : List Act)
    (start finish : State) (small : Small) (out : List Out) (related : relates start small)
    (along : machine.Along cond start acts) (ran : machine.run start acts = some (finish, out)) :
    ∃ moves last, abstract.run small moves = some (last, out.filterMap shows) ∧ abstract.Along allowed small moves ∧
      relates finish last := by
  induction acts generalizing start small out with
  | nil =>
      obtain ⟨rfl, rfl⟩ := (run_nil machine start finish out).mp ran
      exact ⟨[], small, rfl, trivial, related⟩
  | cons act rest ih =>
      obtain ⟨next, now, later, stepped, tail, rfl⟩ := (run_cons machine start finish act rest out).mp ran
      obtain ⟨first, middle, moved, allows, held⟩ := simulates start small act next now related along.1 stepped
      obtain ⟨second, last, ended, after, kept⟩ := ih next middle later held (along.2 next now stepped) tail
      refine ⟨first ++ second, last, ?_, abstract.along_append allowed first second small middle _ moved allows after, kept⟩
      rw [List.filterMap_append]
      exact (run_append abstract small last first second _).mpr ⟨middle, _, _, moved, ended, rfl⟩

theorem matched_move (abstract : Machine Small Move Note) (allowed : Small → Move → Prop) (small next : Small) (move : Move)
    (notes : List Note) (stepped : abstract.step small move = some (next, notes)) (allows : allowed small move) :
    abstract.run small [move] = some (next, notes) ∧ abstract.Along allowed small [move] := by
  refine ⟨(run_cons abstract small next move [] notes).mpr ⟨next, notes, [], stepped, rfl, by simp⟩, allows, ?_⟩
  exact fun _ _ _ => trivial

end Machine
