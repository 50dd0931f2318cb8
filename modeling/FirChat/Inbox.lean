import FirChat.Conversation
import FirChat.Convergence
import FirChat.Isolation

set_option autoImplicit false

namespace FirChat

def Session.Sourced (records : MsgId → Option Dictionary) (uid : Uid) (s : Session) : Prop :=
  ∀ key message, s.list.messageDict.lookup key = some message →
    ∃ id record, records id = some record ∧ WellFormed uid key record ∧ message = Message.init record

theorem sourced_quiet (records : MsgId → Option Dictionary) (uid : Uid) (s next : Session) (sourced : s.Sourced records uid)
    (rows : ∀ key message, next.list.messageDict.lookup key = some message →
      s.list.messageDict.lookup key = some message) : next.Sourced records uid :=
  fun key message found => sourced key message (rows key message found)

theorem sourced_step (records : MsgId → Option Dictionary) (uid : Uid) (s : Session) (act : SessionAct) (next : Session)
    (out : List Notice) (formats : Formats records s) (attended : s.Attended uid) (sourced : s.Sourced records uid)
    (stepped : (Session.machine records).step s act = some (next, out)) : next.Sourced records uid := by
  cases session_step_cases records s next act out stepped with
  | setup =>
      have empty : s.setup.list.messageDict = ∅ := by
        unfold Session.setup
        split <;> rfl
      intro key message found
      rw [empty, AList.lookup_empty] at found
      cases found
  | deliver k front back event =>
      cases event with
      | partnerAdded => exact sourced
      | messageAdded => exact sourced
      | partnerRemoved owner partner =>
          exact sourced_quiet records uid s _ sourced (fun key message => erased_rows _ partner key message)
  | complete k partner accepted =>
      refine sourced_quiet records uid s _ sourced (fun key message found => ?_)
      cases accepted with
      | false => exact found
      | true => exact erased_rows _ partner key message found
  | timerFires values list same =>
      refine sourced_quiet records uid s _ sourced (fun key message found => ?_)
      rwa [← same]
  | single k fetch waiting _ _ filed =>
      have member := List.mem_of_getElem? waiting
      have formatted := formats.fetches fetch member
      obtain ⟨record, list, stored, rfl, inserted, _⟩ := file_attended records uid s next k fetch out attended formatted
        member filed
      intro key message found
      rw [inserted] at found
      by_cases same : key = fetch.partner
      · subst key
        rw [AList.lookup_insert] at found
        cases found
        obtain ⟨known, here, formed⟩ := formatted
        cases here.symm.trans stored
        rw [attended.fetches fetch member] at formed
        exact ⟨fetch.id, record, stored, formed, rfl⟩
      · rw [AList.lookup_insert_ne same] at found
        exact sourced key message found
  | _ => exact sourced

theorem sourced_run (records : MsgId → Option Dictionary) (uid : Uid) (actions : List SessionAct) (s : Session)
    (out : List Notice) (stays : ∀ act ∈ actions, act.Stays uid)
    (ran : (Session.machine records).run (Session.start (some uid)) actions = some (s, out)) : s.Sourced records uid :=
  (Machine.history_forall (Session.machine records)
    (fun s _ => Formats records s ∧ s.Attended uid ∧ s.Sourced records uid) (fun act => act.Stays uid)
    (fun s _ act next out holds stays stepped => ⟨formats_step records s act next out holds.1 stepped,
      attended_step records uid s next act out holds.2.1 stays stepped,
      sourced_step records uid s act next out holds.1 holds.2.1 holds.2.2 stepped⟩)
    actions (Session.start (some uid)) s out
    ⟨formats_start records (some uid), attended_start uid, fun key message found => by simp [Session.start] at found⟩
    stays ran).2.2

theorem fanned_run (actions : List Action) (s : System) (out : List Output)
    (keeps : System.machine.Along System.Keeps System.initial actions)
    (ran : System.machine.run System.initial actions = some (s, out)) : Ledger s out ∧ Fanned s out := by
  have whole := Machine.history_along System.machine
    (fun s seen => Ledger s seen ∧ Delivery s seen ∧ Fanned s seen) System.Keeps
    (fun s seen action next now holds keeps stepped => ⟨ledger_step s seen action next now holds.1 stepped,
      delivery_step s seen action next now holds.2.1 (keeps_sends s action keeps) stepped,
      fanned_step s seen action next now holds.1 holds.2.1 holds.2.2 keeps stepped⟩)
    actions System.initial s out ⟨ledger_initial, delivery_initial, fanned_initial⟩ keeps ran
  exact ⟨whole.1, whole.2.2⟩

theorem formed_accepted (s : System) (out : List Output) (ledger : Ledger s out) (id : MsgId) (record : Dictionary)
    (u v : Uid) (stored : s.db.messages.lookup id = some record) (formed : WellFormed u v record) :
    ∃ send, record = send.values ∧ Accepted out u v send := by
  obtain ⟨me, send, decided, _, rfl⟩ := (ledger.stored id record).mp stored
  obtain ⟨origin, composed⟩ := ledger.decided me _ true decided
  obtain ⟨payload, seconds, values⟩ := ledger.values me send origin composed
  obtain ⟨hasTo, hasFrom, _⟩ := payload_header send payload seconds values
  obtain ⟨fromId, toId, _, sender, recipient, _, between⟩ := formed
  cases sender.symm.trans hasFrom
  cases recipient.symm.trans hasTo
  exact ⟨send, rfl, ⟨me, decided⟩, between⟩

-- From the tap on Send to the other user's list, once all writes are decided and
-- the list of uid has caught up with the index.
theorem list_has_correspondents (actions : List Action) (s : System) (out : List Output)
    (ran : System.machine.run System.initial actions = some (s, out))
    (keeps : System.machine.Along System.Keeps System.initial actions) (settled : Settled s) (uid : Uid)
    (acts : List SessionAct) (t : Session) (notices : List Notice) (undisturbed : ∀ act ∈ acts, act.Undisturbed uid)
    (followed : (Session.machine (fun id => s.db.messages.lookup id)).run (Session.start (some uid)) acts =
      some (t, notices))
    (quiet : t.Quiet) (idle : t.list.timer ≠ some ⟨true⟩)
    (synced : ∀ partner id, (⟨uid, partner, id⟩ : Entry) ∈ t.userMessages ↔ (⟨uid, partner, id⟩ : Entry) ∈ s.db.index) :
    (t.list.messages.map (fun message => message.partenerId (some uid))).Nodup ∧
    (∀ partner, some partner ∈ t.list.messages.map (fun message => message.partenerId (some uid)) ↔
      ∃ send, Accepted out uid partner send) ∧
    (∀ message ∈ t.list.messages, ∃ partner send, message.partenerId (some uid) = some partner ∧
      message = send.message ∧ Accepted out uid partner send) := by
  obtain ⟨ledger, fanned⟩ := fanned_run actions s out keeps ran
  have stays : ∀ act ∈ acts, act.Stays uid := fun act member => undisturbed_stays uid act (undisturbed act member)
  have tracked := (undisturbed_run _ uid acts t notices undisturbed followed).1
  obtain ⟨filed, current⟩ := session_debounced _ uid acts t notices stays followed
  have shown := current.resolve_left idle
  have rows := quiet_messages uid t tracked quiet filed shown
  refine ⟨shown.distinct, fun partner => ?_, fun message member => ?_⟩
  · rw [rows.mem_iff, List.mem_map_of_injective (Option.some_injective Uid), mem_partners_shows]
    constructor
    · intro there
      obtain ⟨id, here⟩ := there
      obtain ⟨send, _, accepted⟩ := (settled_index s out ledger fanned settled uid partner id).mp ((synced partner id).mp here)
      exact ⟨send, accepted⟩
    · intro given
      obtain ⟨send, accepted⟩ := given
      exact ⟨send.id, (synced partner send.id).mpr
        ((settled_index s out ledger fanned settled uid partner send.id).mpr ⟨send, rfl, accepted⟩)⟩
  · obtain ⟨entry, inside, rfl⟩ := List.mem_map.mp (shown.all.mem_iff.mp member)
    have row : t.list.messageDict.lookup entry.1 = some entry.2 := AList.mem_lookup_iff.mpr inside
    obtain ⟨id, record, stored, formed, read⟩ := sourced_run _ uid acts t notices stays followed entry.1 entry.2 row
    obtain ⟨send, rfl, accepted⟩ := formed_accepted s out ledger id record uid entry.1 stored formed
    exact ⟨entry.1, send, (filed entry.1 entry.2 row).1, read, accepted⟩

def textArrives : List SessionAct :=
  [.setupNavbarWithUser, .messageIndexed ⟨"bob", "ann", "-M1"⟩, .deliver 0, .deliver 0, .value 0, .single 0,
    .timerFires [firstText]]

theorem list_has_correspondents_delivered :
    ∃ s out t notices, System.machine.run System.initial deliveredText = some (s, out) ∧
      (Session.machine (fun id => s.db.messages.lookup id)).run (Session.start (some "bob")) textArrives =
        some (t, notices) ∧
      ∃ message ∈ t.list.messages, message.partenerId (some "bob") = some "ann" ∧ ∃ send, Accepted out "bob" "ann" send := by
  have shown := list_has_correspondents deliveredText _ _ rfl ?_ ?_ "bob" textArrives _ _ ?_ rfl ?_ ?_ ?_
  · refine ⟨_, _, _, _, rfl, rfl, firstText, List.mem_cons_self, rfl, (shown.2.1 "ann").mp ?_⟩
    decide
  · refine Machine.along_of_forall _ _ _ (fun s act member => ?_) _
    simp only [deliveredText, List.mem_cons, List.not_mem_nil, or_false] at member
    rcases member with rfl | rfl | rfl | rfl | rfl | rfl | rfl | rfl | rfl <;> simp [System.Keeps]
  · intro given
    rcases given with _ | _ | me <;> exact ⟨rfl, fun _ => List.not_mem_nil⟩
  · simp [textArrives, SessionAct.Undisturbed]
  · exact ⟨by decide, rfl, rfl, rfl, fun _ _ => List.not_mem_nil⟩
  · decide
  · intro partner id
    change _ ∈ [(⟨"bob", "ann", "-M1"⟩ : Entry)] ↔ _ ∈ [(⟨"ann", "bob", "-M1"⟩ : Entry), ⟨"bob", "ann", "-M1"⟩]
    simp

end FirChat
