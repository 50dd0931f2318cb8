import Mathlib.Data.List.Basic

set_option autoImplicit false

-- A client's copy of a server's data, with its own undecided writes applied on
-- top. The server decides the writes in the order in which they were issued.
structure Replica (Data Write : Type) where
  server : Data
  pending : List Write

namespace Replica

variable {Data Write : Type} (apply : Data → Write → Data)

def view (replica : Replica Data Write) : Data := replica.pending.foldl apply replica.server

def issue (replica : Replica Data Write) (write : Write) : Replica Data Write :=
  { replica with pending := replica.pending ++ [write] }

def receive (replica : Replica Data Write) (write : Write) : Replica Data Write :=
  { replica with server := apply replica.server write }

def decide (replica : Replica Data Write) (accepted : Bool) : Option (Write × Replica Data Write) :=
  match replica.pending with
  | [] => none
  | write :: rest => some (write, ⟨if accepted then apply replica.server write else replica.server, rest⟩)

theorem decide_cases (replica next : Replica Data Write) (accepted : Bool) (write : Write)
    (decided : replica.decide apply accepted = some (write, next)) :
    replica.pending = write :: next.pending ∧
      next.server = if accepted then apply replica.server write else replica.server := by
  unfold decide at decided
  split at decided
  · cases decided
  · rename_i head rest pending
    cases decided
    exact ⟨pending, rfl⟩

-- Nobody sees an acceptance: the write only moves from the client to the server.
theorem view_accept (replica next : Replica Data Write) (write : Write)
    (decided : replica.decide apply true = some (write, next)) : next.view apply = replica.view apply := by
  obtain ⟨pending, server⟩ := decide_cases apply replica next true write decided
  simp only [view, pending, server, List.foldl_cons, if_true]

theorem view_of_server (replica : Replica Data Write) (good : Data → Prop) (server : good replica.server)
    (keeps : ∀ data, ∀ write ∈ replica.pending, good data → good (apply data write)) : good (replica.view apply) := by
  obtain ⟨data, pending⟩ := replica
  unfold view
  dsimp only at server keeps ⊢
  induction pending generalizing data with
  | nil => exact server
  | cons write rest ih =>
      exact ih (apply data write) (keeps data write List.mem_cons_self server)
        (fun later other member => keeps later other (List.mem_cons_of_mem write member))

end Replica
