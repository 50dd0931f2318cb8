import FirChat.Ledger
import FirChat.Simulation

set_option autoImplicit false

namespace FirChat

-- While owner was signed in on the device me, a row was swiped there that held a
-- message of partner in messages; the table may still have shown another.
def Swiped (actions : List Action) (me : ClientId) (owner partner : Uid) : Prop :=
  ∃ front row back s out message, actions = front ++ .client me (.swipeDelete row) :: back ∧
    System.machine.run System.initial front = some (s, out) ∧ (s.clients me).currentUser = some owner ∧
    (s.clients me).list.messages[row]? = some message ∧ message.partenerId (some owner) = some partner

theorem swiped_later (actions : List Action) (action : Action) (me : ClientId) (owner partner : Uid)
    (swiped : Swiped actions me owner partner) : Swiped (actions ++ [action]) me owner partner := by
  obtain ⟨front, row, back, s, out, message, rfl, rest⟩ := swiped
  exact ⟨front, row, back ++ [action], s, out, message, by simp, rest⟩

theorem act_removes (me : ClientId) (db : Database) (act : ClientAct) (client next : Client) (out : List Output)
    (acted : client.act me db act = some (next, out)) (owner partner : Uid)
    (pending : .remove owner partner ∈ next.outbox) : .remove owner partner ∈ client.outbox ∨
      ∃ row, act = .swipeDelete row ∧ client.currentUser = some owner ∧
        ∃ message, client.list.messages[row]? = some message ∧ message.partenerId (some owner) = some partner := by
  cases act_effect me db act client next out acted with
  | quiet _ outbox => exact Or.inl (outbox ▸ pending)
  | post _ _ _ _ _ _ _ outbox => exact Or.inl (by simpa [outbox] using pending)
  | finished _ _ _ outbox => exact Or.inl (by simpa [outbox] using pending)
  | rejected _ _ _ outbox => exact Or.inl (outbox ▸ pending)
  | removed _ _ _ _ _ outbox => exact Or.inl (outbox ▸ pending)
  | remove user key signedIn _ _ _ row same =>
      subst act
      have ran : client.swipe me row = _ := Option.some.inj acted
      rcases swipe_cases client _ me row _ ran with ⟨_, _, ended⟩ | ⟨_, _, asked⟩
      · rw [ended] at pending
        exact Or.inl pending
      · rcases asked _ pending with old | ⟨_, _, message, named, mine, here, partnered⟩
        · exact Or.inl old
        · cases named
          exact Or.inr ⟨row, rfl, mine, message, here, partnered⟩

structure Custody (actions : List Action) (index : UserMessages) (s : System) : Prop where
  removes : ∀ me owner partner, .remove owner partner ∈ (s.clients me).outbox → Swiped actions me owner partner
  kept : ∀ entry ∈ index, entry ∈ s.db.index ∨ ∃ me, Swiped actions me entry.owner entry.partner

theorem apply_keeps_entry (db : Database) (write : Write) (entry : Entry) (there : entry ∈ db.index) :
    entry ∈ (db.apply write).index ∨ write = .remove entry.owner entry.partner := by
  cases write with
  | message send => exact Or.inl there
  | senderIndex send => exact Or.inl ((mem_add _ _ _).mpr (Or.inl there))
  | recipientIndex send => exact Or.inl ((mem_add _ _ _).mpr (Or.inl there))
  | remove owner partner =>
      by_cases same : entry.owner = owner ∧ entry.partner = partner
      · exact Or.inr (by rw [same.1, same.2])
      · exact Or.inl ((mem_remove _ _ _ _).mpr ⟨there, same⟩)

theorem custody_step (index : UserMessages) (actions : List Action) (s : System) (action : Action) (next : System)
    (early out : List Output) (ran : System.machine.run System.initial actions = some (s, early))
    (custody : Custody actions index s) (stepped : System.machine.step s action = some (next, out)) :
    Custody (actions ++ [action]) index next := by
  have later (me : ClientId) (owner partner : Uid) (swiped : Swiped actions me owner partner) :=
    swiped_later actions action me owner partner swiped
  have before (entry : Entry) (member : entry ∈ index) :
      entry ∈ s.db.index ∨ ∃ me, Swiped (actions ++ [action]) me entry.owner entry.partner :=
    (custody.kept entry member).imp_right (fun given => given.imp (fun me swiped => later me _ _ swiped))
  obtain ⟨me, act, client, rfl, _, _, acted, rfl⟩ | ⟨me, k, accepted, write, rfl, waiting, rfl, rfl⟩ :=
    system_step_cases s next action out stepped
  · refine ⟨fun other owner partner pending => ?_, before⟩
    by_cases same : other = me
    · subst other
      simp only [Function.update_self] at pending
      rcases act_removes me s.db act _ client out acted owner partner pending with old | ⟨row, rfl, mine, message, here, named⟩
      · exact later me owner partner (custody.removes me owner partner old)
      · exact ⟨actions, row, [], s, early, message, rfl, ran, mine, here, named⟩
    · simp only [Function.update_of_ne same] at pending
      exact later other owner partner (custody.removes other owner partner pending)
  · constructor
    · intro other owner partner pending
      by_cases same : other = me
      · subst other
        simp only [Function.update_self] at pending
        exact later me owner partner (custody.removes me owner partner (List.mem_of_mem_eraseIdx pending))
      · simp only [Function.update_of_ne same] at pending
        exact later other owner partner (custody.removes other owner partner pending)
    · intro entry member
      rcases before entry member with there | gone
      · cases accepted with
        | false => exact Or.inl there
        | true =>
            rcases apply_keeps_entry s.db write entry there with stays | removed
            · exact Or.inl stays
            · have issued := custody.removes me entry.owner entry.partner (removed ▸ List.mem_of_getElem? waiting)
              exact Or.inr ⟨me, later me _ _ issued⟩
      · exact Or.inr gone

-- Across all devices and all orders of writes, a message is never changed or
-- lost once it is stored, and it leaves a user's conversation only if that user,
-- signed in on some device, has swiped a row that holds the partner's message in
-- messages.
theorem only_the_owner_deletes (front back : List Action) (s t : System) (early later : List Output)
    (ran : System.machine.run System.initial front = some (s, early))
    (after : System.machine.run s back = some (t, later)) :
    (∀ id record, s.db.messages.lookup id = some record → t.db.messages.lookup id = some record) ∧
    (∀ entry ∈ s.db.index, entry ∈ t.db.index ∨ ∃ me, Swiped (front ++ back) me entry.owner entry.partner) := by
  have whole := (Machine.run_append System.machine System.initial t front back (early ++ later)).mpr
    ⟨s, early, later, ran, after, rfl⟩
  constructor
  · intro id record stored
    obtain ⟨me, send, decided, same⟩ := ((ledger_run front s early ran).stored id record).mp stored
    exact ((ledger_run (front ++ back) t _ whole).stored id record).mpr
      ⟨me, send, List.mem_append_left later decided, same⟩
  · have first := Machine.traced_run System.machine (fun actions s => Custody actions [] s) System.initial
      ⟨by simp [System.initial], by simp⟩
      (fun actions s action next early out ran custody => custody_step [] actions s action next early out ran custody)
      front s early ran
    have second := Machine.traced_run System.machine (fun actions t => Custody (front ++ actions) s.db.index t) s
      (by rw [List.append_nil]; exact ⟨first.removes, fun entry member => Or.inl member⟩)
      (fun actions t action next now out moved custody stepped => by
        rw [← List.append_assoc]
        refine custody_step s.db.index (front ++ actions) t action next (early ++ now) out ?_ custody stepped
        exact (Machine.run_append System.machine System.initial t front actions _).mpr ⟨s, early, now, ran, moved, rfl⟩)
      back t later after
    exact second.kept

def textSent : List Action :=
  [.client 0 (.signIn "ann"), .client 0 (.showChatControllerForUser "bob" {}), .client 1 (.signIn "bob"),
    .client 0 (.sendMessage 0 "hi" "-M1" 1600000000), .verdict 0 0 true, .client 0 (.complete 0),
    .verdict 0 0 true, .verdict 0 0 true, .client 1 (.childAdded ⟨"bob", "ann", "-M1"⟩), .client 1 (.value 0),
    .client 1 (.timerFires [⟨some "ann", some "hi", some 1600000000, some "bob", none, none, none⟩])]

def textSwiped : List Action := [.client 1 (.swipeDelete 0), .verdict 1 0 true, .client 1 (.complete 0)]

theorem only_the_owner_deletes_swiped :
    ∃ s t early later, System.machine.run System.initial textSent = some (s, early) ∧
      System.machine.run s textSwiped = some (t, later) ∧ t.db.index = [⟨"ann", "bob", "-M1"⟩] ∧
      (∃ me, Swiped (textSent ++ textSwiped) me "bob" "ann") ∧ t.db.messages.lookup "-M1" ≠ none := by
  have kept := only_the_owner_deletes textSent textSwiped _ _ _ _ rfl rfl
  refine ⟨_, _, _, _, rfl, rfl, rfl, ?_, ?_⟩
  · refine (kept.2 ⟨"bob", "ann", "-M1"⟩ ?_).resolve_left ?_
    · decide
    · decide
  · rw [kept.1 "-M1" _ rfl]
    exact Option.some_ne_none _

end FirChat
