import FirChat.Integrity

set_option autoImplicit false

namespace FirChat

def Action.Sends : Action → Prop
  | .client _ (.swipeDelete _) => False
  | _ => True

def Outstanding (s : System) (me : ClientId) (send : Send) : Prop :=
  .message send ∈ (s.clients me).outbox ∨ .senderIndex send ∈ (s.clients me).outbox ∨
    .recipientIndex send ∈ (s.clients me).outbox ∨
    ((s.clients me).status = .running ∧ ∃ accepted, .message send accepted ∈ (s.clients me).completions)

def Everywhere (s : System) (send : Send) : Prop :=
  (∃ record, s.db.messages.lookup send.id = some record) ∧ send.senderEntry ∈ s.db.index ∧
    send.recipientEntry ∈ s.db.index

def Nowhere (s : System) (send : Send) : Prop :=
  s.db.messages.lookup send.id = none ∧ send.senderEntry ∉ s.db.index ∧ send.recipientEntry ∉ s.db.index

def AllOrNothing (s : System) (out : List Output) (me : ClientId) (send : Send) : Prop :=
  (Everywhere s send ∨ Nowhere s send) ∧
    ((s.clients me).status = .running → ¬ Everywhere s send → .alerted me (some send.id) ∈ out)

-- The verdicts under which nothing is lost halfway. The two index entries of a
-- message to oneself are the same entry.
def Unbroken (out : List Output) (me : ClientId) (send : Send) : Prop :=
  .decided me (.message send) true ∉ out ∨
    (.decided me (.senderIndex send) true ∈ out ∧ .decided me (.recipientIndex send) true ∈ out) ∨
    (send.fromId = send.toId ∧
      (.decided me (.senderIndex send) true ∈ out ∨ .decided me (.recipientIndex send) true ∈ out))

structure Delivery (s : System) (seen : List Output) : Prop where
  undeleted : ∀ me owner partner, .remove owner partner ∉ (s.clients me).outbox
  sent : ∀ me send origin, .composed me send origin ∈ seen →
    .message send ∈ (s.clients me).outbox ∨ ∃ accepted, .decided me (.message send) accepted ∈ seen
  told : ∀ me send, .decided me (.message send) false ∈ seen →
    .message send false ∈ (s.clients me).completions ∨ .alerted me (some send.id) ∈ seen
  sender : ∀ me send, .decided me (.senderIndex send) true ∈ seen → send.senderEntry ∈ s.db.index
  recipient : ∀ me send, .decided me (.recipientIndex send) true ∈ seen → send.recipientEntry ∈ s.db.index

theorem delivery_initial : Delivery System.initial [] where
  undeleted := by simp [System.initial]
  sent := by simp
  told := by simp
  sender := by simp
  recipient := by simp

theorem delivery_client (s : System) (seen out : List Output) (delivery : Delivery s seen) (me : ClientId)
    (client : Client) (keys : List MsgId)
    (undecided : ∀ other write accepted, .decided other write accepted ∉ out)
    (outbox : ∃ more, client.outbox = (s.clients me).outbox ++ more ∧ ∀ owner partner, .remove owner partner ∉ more)
    (composed : ∀ other send origin, .composed other send origin ∈ out → other = me ∧ .message send ∈ client.outbox)
    (completions : ∀ send, .message send false ∈ (s.clients me).completions →
      .message send false ∈ client.completions ∨ .alerted me (some send.id) ∈ out) :
    Delivery ⟨s.db, keys, Function.update s.clients me client⟩ (seen ++ out) := by
  obtain ⟨more, grown, kept⟩ := outbox
  have earlier (other : ClientId) (write : Write) (accepted : Bool)
      (decided : .decided other write accepted ∈ seen ++ out) : .decided other write accepted ∈ seen :=
    (List.mem_append.mp decided).resolve_right (undecided other write accepted)
  constructor
  · refine (Function.forall_update_iff s.clients (p := fun _ c => ∀ owner partner,
      .remove owner partner ∉ c.outbox)).mpr ⟨fun owner partner member => ?_, fun other _ => delivery.undeleted other⟩
    rw [grown] at member
    exact (List.mem_append.mp member).elim (delivery.undeleted me owner partner) (kept owner partner)
  · intro other send origin member
    rcases List.mem_append.mp member with old | new
    · rcases delivery.sent other send origin old with waiting | ⟨accepted, decided⟩
      · refine Or.inl ?_
        by_cases same : other = me
        · subst other
          simp only [Function.update_self, grown]
          exact List.mem_append_left more waiting
        · simpa only [Function.update_of_ne same] using waiting
      · exact Or.inr ⟨accepted, List.mem_append_left out decided⟩
    · obtain ⟨rfl, waiting⟩ := composed other send origin new
      exact Or.inl (by simpa only [Function.update_self] using waiting)
  · intro other send decided
    rcases delivery.told other send (earlier other _ _ decided) with ready | alerted
    · by_cases same : other = me
      · subst other
        simp only [Function.update_self]
        exact (completions send ready).imp_right (List.mem_append_right seen)
      · exact Or.inl (by simpa only [Function.update_of_ne same] using ready)
    · exact Or.inr (List.mem_append_left out alerted)
  · exact fun other send decided => delivery.sender other send (earlier other _ _ decided)
  · exact fun other send decided => delivery.recipient other send (earlier other _ _ decided)

theorem apply_keeps_entries (db : Database) (write : Write) (kept : ∀ owner partner, write ≠ .remove owner partner)
    (entry : Entry) (member : entry ∈ db.index) : entry ∈ (db.apply write).index := by
  cases write with
  | message send => exact member
  | senderIndex send => exact (mem_add _ _ _).mpr (Or.inl member)
  | recipientIndex send => exact (mem_add _ _ _).mpr (Or.inl member)
  | remove owner partner => exact absurd rfl (kept owner partner)

theorem delivery_verdict (s : System) (seen : List Output) (delivery : Delivery s seen) (me : ClientId) (k : Nat)
    (accepted : Bool) (write : Write) (waiting : (s.clients me).outbox[k]? = some write) :
    Delivery ⟨if accepted then s.db.apply write else s.db, s.keys,
      Function.update s.clients me ((s.clients me).decided k write accepted)⟩ (seen ++ [.decided me write accepted]) := by
  have kept (owner partner : Uid) : write ≠ .remove owner partner := by
    intro same
    obtain rfl := same
    exact delivery.undeleted me owner partner (List.mem_of_getElem? waiting)
  have entries (entry : Entry) (member : entry ∈ s.db.index) :
      entry ∈ (if accepted then s.db.apply write else s.db).index := by
    cases accepted with
    | false => exact member
    | true => exact apply_keeps_entries s.db write kept entry member
  constructor
  · refine (Function.forall_update_iff s.clients (p := fun _ c => ∀ owner partner,
      .remove owner partner ∉ c.outbox)).mpr ⟨fun owner partner member => ?_, fun other _ => delivery.undeleted other⟩
    exact delivery.undeleted me owner partner (List.mem_of_mem_eraseIdx member)
  · intro other send origin composed
    rcases delivery.sent other send origin (by simpa using composed) with inside | ⟨verdict, decided⟩
    · by_cases same : other = me
      · subst other
        by_cases now : write = .message send
        · exact Or.inr ⟨accepted, by simp [now]⟩
        · refine Or.inl ?_
          simp only [Function.update_self]
          exact Queue.mem_erase_other _ k write _ waiting (Ne.symm now) inside
      · exact Or.inl (by simpa only [Function.update_of_ne same] using inside)
    · exact Or.inr ⟨verdict, List.mem_append_left _ decided⟩
  · intro other send decided
    rcases List.mem_append.mp decided with old | now
    · rcases delivery.told other send old with ready | alerted
      · refine Or.inl ?_
        by_cases same : other = me
        · subst other
          simp only [Function.update_self]
          exact List.mem_append_left _ ready
        · simpa only [Function.update_of_ne same] using ready
      · exact Or.inr (List.mem_append_left _ alerted)
    · cases List.mem_singleton.mp now
      refine Or.inl ?_
      simp only [Function.update_self]
      exact List.mem_append_right _ List.mem_cons_self
  · intro other send decided
    rcases List.mem_append.mp decided with old | now
    · exact entries _ (delivery.sender other send old)
    · cases List.mem_singleton.mp now
      exact (mem_add _ _ _).mpr (Or.inr rfl)
  · intro other send decided
    rcases List.mem_append.mp decided with old | now
    · exact entries _ (delivery.recipient other send old)
    · cases List.mem_singleton.mp now
      exact (mem_add _ _ _).mpr (Or.inr rfl)

theorem delivery_step (s : System) (seen : List Output) (action : Action) (next : System) (out : List Output)
    (delivery : Delivery s seen) (sends : action.Sends) (stepped : System.machine.step s action = some (next, out)) :
    Delivery next (seen ++ out) := by
  obtain ⟨me, act, client, rfl, _, _, acted, rfl⟩ | ⟨me, k, accepted, write, rfl, waiting, rfl, rfl⟩ :=
    system_step_cases s next action out stepped
  · have completed (k : Nat) (taken : Completion) (ready : (s.clients me).completions[k]? = some taken) (send : Send)
        (other : .message send false ≠ taken) (member : .message send false ∈ (s.clients me).completions) :
        .message send false ∈ (s.clients me).completions.eraseIdx k := Queue.mem_erase_other _ k taken _ ready other member
    cases act_effect me s.db act (s.clients me) client out acted with
    | quiet _ outbox completions _ silent =>
        refine delivery_client s seen out delivery me client _ (fun other write accepted member => ?_)
          ⟨[], by simp [outbox], by simp⟩ (fun other send origin member => ?_)
          (fun send ready => Or.inl (completions ▸ ready))
        · cases silent _ member
        · cases silent _ member
    | post send origin payload seconds _ _ _ outbox completions _ =>
        refine delivery_client s seen _ delivery me client _ (by simp) ⟨[.message send], outbox, by simp⟩
          (fun other sent start member => ?_) (fun sent ready => Or.inl (completions ▸ ready))
        cases List.mem_singleton.mp member
        exact ⟨rfl, by simp [outbox]⟩
    | remove owner partner _ _ _ _ row swiped =>
        subst swiped
        exact sends.elim
    | finished k send ready outbox completions _ =>
        refine delivery_client s seen _ delivery me client _ (by simp) ⟨_, outbox, by simp⟩ (by simp)
          (fun sent waiting => Or.inl ?_)
        rw [completions]
        exact completed k _ ready sent (by simp) waiting
    | rejected k send ready outbox completions _ =>
        refine delivery_client s seen _ delivery me client _ (by simp) ⟨[], by simp [outbox], by simp⟩ (by simp)
          (fun sent waiting => ?_)
        by_cases same : sent = send
        · subst sent
          exact Or.inr List.mem_cons_self
        · rw [completions]
          exact Or.inl (completed k _ ready sent (by simpa using same) waiting)
    | removed k partner accepted _ ready outbox completions _ silent =>
        refine delivery_client s seen out delivery me client _ (fun other write accepted member => ?_)
          ⟨[], by simp [outbox], by simp⟩ (fun other send origin member => ?_) (fun sent waiting => Or.inl ?_)
        · cases silent _ member
        · cases silent _ member
        · rw [completions]
          exact completed k _ ready sent (by simp) waiting
  · exact delivery_verdict s seen delivery me k accepted write waiting

theorem delivery_run (actions : List Action) (s : System) (out : List Output) (sends : ∀ action ∈ actions, action.Sends)
    (ran : System.machine.run System.initial actions = some (s, out)) : Delivery s out :=
  Machine.history_forall System.machine Delivery Action.Sends delivery_step actions System.initial s out
    delivery_initial sends ran

theorem ledger_send (s : System) (seen : List Output) (ledger : Ledger s seen) (me other : ClientId) (send sent : Send)
    (origin : Origin) (composed : .composed me send origin ∈ seen) (known : ∃ start, .composed other sent start ∈ seen)
    (same : sent.id = send.id) : other = me ∧ sent = send :=
  known.elim fun start first => ledger.once other sent start me send origin first composed same

theorem stored_accepted (s : System) (seen : List Output) (ledger : Ledger s seen) (me : ClientId) (send : Send)
    (origin : Origin) (composed : .composed me send origin ∈ seen) (record : Dictionary)
    (found : s.db.messages.lookup send.id = some record) : .decided me (.message send) true ∈ seen := by
  obtain ⟨other, sent, decided, same, _⟩ := (ledger.stored send.id record).mp found
  obtain ⟨rfl, rfl⟩ := ledger_send s seen ledger me other send sent origin composed
    (ledger.decided other _ true decided) same
  exact decided

theorem indexed_accepted (s : System) (seen : List Output) (ledger : Ledger s seen) (me : ClientId) (send : Send)
    (origin : Origin) (composed : .composed me send origin ∈ seen) (entry : Entry) (id : entry.id = send.id)
    (member : entry ∈ s.db.index) :
    (.decided me (.senderIndex send) true ∈ seen ∧ entry = send.senderEntry) ∨
      (.decided me (.recipientIndex send) true ∈ seen ∧ entry = send.recipientEntry) := by
  obtain ⟨other, sent, ⟨decided, rfl⟩ | ⟨decided, rfl⟩⟩ := ledger.indexed entry member
  · obtain ⟨rfl, rfl⟩ := ledger_send s seen ledger me other send sent origin composed
      (ledger.decided other _ true decided).1 id
    exact Or.inl ⟨decided, rfl⟩
  · obtain ⟨rfl, rfl⟩ := ledger_send s seen ledger me other send sent origin composed
      (ledger.decided other _ true decided).1 id
    exact Or.inr ⟨decided, rfl⟩

theorem entries_equal (send : Send) (same : send.senderEntry = send.recipientEntry) : send.fromId = send.toId :=
  congrArg Entry.owner same

theorem self_entries (send : Send) (same : send.fromId = send.toId) : send.senderEntry = send.recipientEntry := by
  simp [Send.senderEntry, Send.recipientEntry, same]

theorem unaccepted_nowhere (s : System) (seen : List Output) (ledger : Ledger s seen) (me : ClientId) (send : Send)
    (origin : Origin) (composed : .composed me send origin ∈ seen)
    (refused : .decided me (.message send) true ∉ seen) : Nowhere s send := by
  have unindexed (entry : Entry) (id : entry.id = send.id) : entry ∉ s.db.index := by
    intro member
    rcases indexed_accepted s seen ledger me send origin composed entry id member with ⟨decided, _⟩ | ⟨decided, _⟩
    · exact refused (ledger.decided me _ true decided).2
    · exact refused (ledger.decided me _ true decided).2
  refine ⟨?_, unindexed send.senderEntry rfl, unindexed send.recipientEntry rfl⟩
  cases found : s.db.messages.lookup send.id with
  | none => rfl
  | some record => exact absurd (stored_accepted s seen ledger me send origin composed record found) refused

theorem accepted_stored (s : System) (seen : List Output) (ledger : Ledger s seen) (me : ClientId) (send : Send)
    (accepted : .decided me (.message send) true ∈ seen) : s.db.messages.lookup send.id = some send.values :=
  (ledger.stored send.id send.values).mpr ⟨me, send, accepted, rfl, rfl⟩

theorem everywhere_iff (s : System) (seen : List Output) (ledger : Ledger s seen) (delivery : Delivery s seen)
    (me : ClientId) (send : Send) (origin : Origin) (composed : .composed me send origin ∈ seen) :
    Everywhere s send ↔ (.decided me (.senderIndex send) true ∈ seen ∧ .decided me (.recipientIndex send) true ∈ seen) ∨
      (send.fromId = send.toId ∧
        (.decided me (.senderIndex send) true ∈ seen ∨ .decided me (.recipientIndex send) true ∈ seen)) := by
  have from_entry := indexed_accepted s seen ledger me send origin composed
  constructor
  · intro given
    obtain ⟨_, atSender, atRecipient⟩ := given
    rcases from_entry send.senderEntry rfl atSender with ⟨sender, _⟩ | ⟨recipient, same⟩
    · rcases from_entry send.recipientEntry rfl atRecipient with ⟨_, same⟩ | ⟨recipient, _⟩
      · exact Or.inr ⟨entries_equal send same.symm, Or.inl sender⟩
      · exact Or.inl ⟨sender, recipient⟩
    · exact Or.inr ⟨entries_equal send same, Or.inr recipient⟩
  · have record (index : Write) (known : Known seen me index)
        (shape : index = .senderIndex send ∨ index = .recipientIndex send) :
        ∃ record, s.db.messages.lookup send.id = some record := by
      rcases shape with rfl | rfl <;> exact ⟨_, accepted_stored s seen ledger me send known.2⟩
    intro given
    rcases given with ⟨sender, recipient⟩ | ⟨same, sender | recipient⟩
    · exact ⟨record _ (ledger.decided me _ true sender) (Or.inl rfl), delivery.sender me send sender,
        delivery.recipient me send recipient⟩
    · have here := delivery.sender me send sender
      exact ⟨record _ (ledger.decided me _ true sender) (Or.inl rfl), here, self_entries send same ▸ here⟩
    · have here := delivery.recipient me send recipient
      exact ⟨record _ (ledger.decided me _ true recipient) (Or.inr rfl), self_entries send same ▸ here, here⟩

theorem all_or_nothing_iff (actions : List Action) (s : System) (out : List Output)
    (sends : ∀ action ∈ actions, action.Sends) (ran : System.machine.run System.initial actions = some (s, out))
    (me : ClientId) (send : Send) (origin : Origin) (composed : .composed me send origin ∈ out)
    (settled : ¬ Outstanding s me send) : AllOrNothing s out me send ↔ Unbroken out me send := by
  have ledger := ledger_run actions s out ran
  have delivery := delivery_run actions s out sends ran
  have everywhere := everywhere_iff s out ledger delivery me send origin composed
  constructor
  · intro given
    obtain ⟨places, _⟩ := given
    by_cases accepted : .decided me (.message send) true ∈ out
    · have stored := accepted_stored s out ledger me send accepted
      rcases places with all | ⟨missing, _⟩
      · exact Or.inr (everywhere.mp all)
      · rw [missing] at stored
        cases stored
    · exact Or.inl accepted
  · intro given
    rcases given with refused | indexed
    · refine ⟨Or.inr (unaccepted_nowhere s out ledger me send origin composed refused), fun running _ => ?_⟩
      -- The message write was decided, so it was rejected, and its block has run.
      rcases delivery.sent me send origin composed with waiting | ⟨accepted, decided⟩
      · exact absurd (Or.inl waiting) settled
      · cases accepted with
        | true => exact absurd decided refused
        | false =>
            rcases delivery.told me send decided with ready | alerted
            · exact absurd (Or.inr (Or.inr (Or.inr ⟨running, false, ready⟩))) settled
            · exact alerted
    · have all := everywhere.mpr indexed
      exact ⟨Or.inl all, fun _ missed => absurd all missed⟩

theorem all_or_nothing_delivered :
    ∃ s send origin, System.machine.run System.initial deliveredText =
        some (s, [.composed 0 send origin, .decided 0 (.message send) true, .issued 0 (.senderIndex send),
          .issued 0 (.recipientIndex send), .decided 0 (.senderIndex send) true, .decided 0 (.recipientIndex send) true]) ∧
      AllOrNothing s [.composed 0 send origin, .decided 0 (.message send) true, .issued 0 (.senderIndex send),
        .issued 0 (.recipientIndex send), .decided 0 (.senderIndex send) true,
        .decided 0 (.recipientIndex send) true] 0 send := by
  refine ⟨_, _, _, rfl, (all_or_nothing_iff deliveredText _ _ ?_ rfl 0 _ _ List.mem_cons_self ?_).mpr ?_⟩
  · simp [deliveredText, Action.Sends]
  · intro given
    rcases given with waiting | waiting | waiting | ⟨_, _, waiting⟩ <;> exact List.not_mem_nil waiting
  · exact Or.inr (Or.inl ⟨by simp, by simp⟩)

def halfIndexedText : List Action :=
  [.client 0 (.signIn "ann"), .client 0 (.showChatControllerForUser "bob" {}),
    .client 0 (.sendMessage 0 "hi" "-M1" 1600000000), .verdict 0 0 true, .client 0 (.complete 0),
    .verdict 0 0 true, .verdict 0 0 false]

theorem half_indexed_text_is_silent :
    ∃ s send origin out, System.machine.run System.initial halfIndexedText = some (s, .composed 0 send origin :: out) ∧
      ¬ Outstanding s 0 send ∧ (s.clients 0).status = .running ∧
      ¬ AllOrNothing s (.composed 0 send origin :: out) 0 send := by
  refine ⟨_, _, _, _, rfl, ?_, rfl, ?_⟩
  · intro given
    rcases given with waiting | waiting | waiting | ⟨_, _, waiting⟩ <;> exact List.not_mem_nil waiting
  · intro given
    rcases given with ⟨⟨_, _, atRecipient⟩ | ⟨_, atSender, _⟩, _⟩
    · exact absurd atRecipient (by decide)
    · exact absurd (by decide) atSender

end FirChat
