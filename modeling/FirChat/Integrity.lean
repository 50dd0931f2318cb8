import FirChat.Ledger

set_option autoImplicit false

namespace FirChat

-- What the handlers do with the record behind an index entry while the
-- entry's owner is signed in: one key serves filing, removal and deletion.
structure Handled (entry : Entry) (dictionary : Dictionary) : Prop where
  key : (Message.init dictionary).partenerId (some entry.owner) = some entry.partner
  filed : ∀ list : ChatsList, (list.fetchMessage (some entry.owner) (some dictionary)).messageDict =
    list.messageDict.insert entry.partner (Message.init dictionary)
  childRemoved : ∀ list : ChatsList, ((list.fetchMessage (some entry.owner) (some dictionary)).childRemoved
    entry.partner).messageDict.lookup entry.partner = none
  swiped : ∀ (list : ChatsList) (row : Nat), list.messages[row]? = some (Message.init dictionary) →
    list.commitDelete (some entry.owner) row = .ok (some (entry.owner, entry.partner))
  removeCompleted : ∀ list : ChatsList, ((list.fetchMessage (some entry.owner) (some dictionary)).removeCompleted
    entry.partner true).messageDict.lookup entry.partner = none

theorem well_formed_handled (entry : Entry) (dictionary : Dictionary)
    (formed : WellFormed entry.owner entry.partner dictionary) : Handled entry dictionary where
  key := well_formed_partner entry.owner entry.partner dictionary formed
  filed := fun list => fetch_message_files entry.owner entry.partner dictionary list formed
  childRemoved := fun list => AList.lookup_erase _ _
  swiped := fun list row shown => by
    simp only [ChatsList.commitDelete, shown, well_formed_partner entry.owner entry.partner dictionary formed,
      Option.map_some]
  removeCompleted := fun list => AList.lookup_erase _ _

theorem payload_header (send : Send) (payload : Payload) (seconds : Int)
    (values : send.values = messageValues send.toId send.fromId seconds payload.properties) :
    send.values.lookup "toId" = some (.string send.toId) ∧ send.values.lookup "fromId" = some (.string send.fromId) ∧
      send.values.lookup "timeStamp" = some (.number seconds) := by
  obtain ⟨noTo, noFrom, noTime⟩ := payload_names_no_header payload
  rw [values]
  exact header_lookup send.toId send.fromId seconds payload.properties noTo noFrom noTime

theorem payload_well_formed (send : Send) (payload : Payload) (seconds : Int)
    (values : send.values = messageValues send.toId send.fromId seconds payload.properties) :
    WellFormed send.fromId send.toId send.values := by
  obtain ⟨hasTo, hasFrom, hasTime⟩ := payload_header send payload seconds values
  exact ⟨send.fromId, send.toId, seconds, hasFrom, hasTo, hasTime, Or.inl ⟨rfl, rfl⟩⟩

theorem backed_record (s : System) (seen : List Output) (ledger : Ledger s seen) (entry : Entry)
    (backed : Backed seen entry) :
    ∃ record, s.db.messages.lookup entry.id = some record ∧ WellFormed entry.owner entry.partner record := by
  obtain ⟨me, send, decided, shape⟩ := backed
  obtain ⟨origin, composed⟩ := ledger.decided me _ true decided
  obtain ⟨payload, seconds, values⟩ := ledger.values me send origin composed
  have formed := payload_well_formed send payload seconds values
  have stored := (ledger.stored send.id send.values).mpr ⟨me, send, decided, rfl, rfl⟩
  rcases shape with rfl | rfl
  · exact ⟨send.values, stored, formed⟩
  · exact ⟨send.values, stored, well_formed_swap _ _ _ formed⟩

theorem record_persists (actions more : List Action) (s t : System) (out later : List Output)
    (ran : System.machine.run System.initial actions = some (s, out))
    (continued : System.machine.run s more = some (t, later)) (id : MsgId) (record : Dictionary)
    (stored : s.db.messages.lookup id = some record) : t.db.messages.lookup id = some record := by
  have whole := (Machine.run_append System.machine System.initial t actions more (out ++ later)).mpr
    ⟨s, out, later, ran, continued, rfl⟩
  obtain ⟨me, send, decided, shape⟩ := ((ledger_run actions s out ran).stored id record).mp stored
  exact ((ledger_run (actions ++ more) t (out ++ later) whole).stored id record).mpr
    ⟨me, send, List.mem_append_left later decided, shape⟩

theorem index_integrity (actions : List Action) (s : System) (out : List Output)
    (ran : System.machine.run System.initial actions = some (s, out)) :
    (∀ u v id, (⟨u, v, id⟩ : Entry) ∈ s.db.index →
      ∃ record fromId toId timeStamp, s.db.messages.lookup id = some record ∧
        record.lookup "fromId" = some (.string fromId) ∧ record.lookup "toId" = some (.string toId) ∧
        record.lookup "timeStamp" = some (.number timeStamp) ∧ ({fromId, toId} : Set Uid) = {u, v} ∧
        ∀ more t later, System.machine.run s more = some (t, later) → t.db.messages.lookup id = some record) ∧
    (∀ me, ∀ entry ∈ (s.clients me).reads,
      ∃ dictionary, s.db.messages.lookup entry.id = some dictionary ∧ Handled entry dictionary) := by
  have ledger := ledger_run actions s out ran
  constructor
  · intro u v id member
    obtain ⟨record, stored, fromId, toId, timeStamp, hasFrom, hasTo, hasTime, pair⟩ :=
      backed_record s out ledger ⟨u, v, id⟩ (ledger_backed_index s out ledger _ member)
    exact ⟨record, fromId, toId, timeStamp, stored, hasFrom, hasTo, hasTime,
      (participants_iff_pair fromId toId u v).mp pair, fun more t later continued =>
        record_persists actions more s t out later ran continued id record stored⟩
  · intro me entry member
    obtain ⟨record, stored, formed⟩ := backed_record s out ledger entry (ledger.reads me entry member)
    exact ⟨record, stored, well_formed_handled entry record formed⟩

def deliveredText : List Action :=
  [.client 0 (.signIn "ann"), .client 0 (.showChatControllerForUser "bob" {}),
    .client 0 (.sendMessage 0 "hi" "-M1" 1600000000), .verdict 0 0 true, .client 0 (.complete 0),
    .verdict 0 0 true, .verdict 0 0 true, .client 1 (.signIn "bob"), .client 1 (.childAdded ⟨"bob", "ann", "-M1"⟩)]

theorem index_integrity_delivered :
    ∃ s out, System.machine.run System.initial deliveredText = some (s, out) ∧
      (⟨"bob", "ann", "-M1"⟩ : Entry) ∈ s.db.index ∧ (s.clients 1).reads = [⟨"bob", "ann", "-M1"⟩] ∧
      ∃ dictionary, s.db.messages.lookup "-M1" = some dictionary ∧ Handled ⟨"bob", "ann", "-M1"⟩ dictionary := by
  refine ⟨_, _, rfl, by decide, by decide, ?_⟩
  exact (index_integrity deliveredText _ _ rfl).2 1 ⟨"bob", "ann", "-M1"⟩ (by decide)

end FirChat
