import FirChat.ChatView
import FirChat.Delivery
import FirChat.Service

set_option autoImplicit false

namespace FirChat

-- Its chat.currentUser stays the user who was signed in when it was opened;
-- children are what Firebase has last told the listener to be there.
structure ChatScreen where
  me : ClientId
  chat : ChatView
  children : List MsgId := []

structure Conversations where
  system : System
  screens : List ChatScreen

-- An action of the system, or something that happens to the n-th screen.
-- Firebase tells of a removed child as well, but nothing listens to it.
inductive ConversationsAct where
  | act (action : Action)
  | childAdded (n : Nat) (id : MsgId)
  | childRemoved (n : Nat) (id : MsgId)
  | single (n k : Nat)

namespace ChatScreen

def showChatControllerForUser (me : ClientId) (currentUser : Option Uid) (id : Uid) (profile : User) : ChatScreen :=
  ⟨me, ({ ChatView.start currentUser with user := some { profile with id := some id } } : ChatView).observeMessages, []⟩

def childAdded (screen : ChatScreen) (id : MsgId) : ChatScreen :=
  { screen with
    chat := { screen.chat with indexed := screen.chat.indexed ++ [id], reads := screen.chat.reads ++ [id] }
    children := screen.children ++ [id] }

def childRemoved (screen : ChatScreen) (id : MsgId) : ChatScreen := { screen with children := screen.children.erase id }

def single (screen : ChatScreen) (k : Nat) (snapshot : Option Dictionary) : ChatScreen :=
  { screen with chat := ({ screen.chat with reads := screen.chat.reads.eraseIdx k } : ChatView).append snapshot }

end ChatScreen

namespace Conversations

def initial : Conversations := ⟨System.initial, []⟩

def view (s : Conversations) (screen : ChatScreen) : Database := (s.system.clients screen.me).view s.system.db

def listened (s : Conversations) (screen : ChatScreen) : List MsgId :=
  match screen.chat.listener with
  | none => []
  | some (uid, toId) => UserMessages.conversation (s.view screen).index uid toId

def opened (s : System) : Action → List ChatScreen
  | .client me (.showChatControllerForUser id profile) =>
      [ChatScreen.showChatControllerForUser me (s.clients me).currentUser id profile]
  | _ => []

def onScreen (s : Conversations) (n : Nat) (change : ChatScreen → Option ChatScreen) : Option (Conversations × List Output) :=
  match s.screens[n]? with
  | none => none
  | some screen =>
      if (s.system.clients screen.me).status = .running then
        (change screen).map (fun changed => ({ s with screens := s.screens.set n changed }, []))
      else none

def step (s : Conversations) : ConversationsAct → Option (Conversations × List Output)
  | .act action =>
      match s.system.step action with
      | none => none
      | some (system, out) => some (⟨system, s.screens ++ opened s.system action⟩, out)
  | .childAdded n id =>
      s.onScreen n (fun screen =>
        if id ∈ s.listened screen ∧ id ∉ screen.children then some (screen.childAdded id) else none)
  | .childRemoved n id =>
      s.onScreen n (fun screen =>
        if id ∈ screen.children ∧ id ∉ s.listened screen then some (screen.childRemoved id) else none)
  | .single n k =>
      s.onScreen n (fun screen =>
        (screen.chat.reads[k]?).map (fun id => screen.single k ((s.view screen).messages.lookup id)))

def machine : Machine Conversations ConversationsAct Output := ⟨step⟩

structure CaughtUp (s : Conversations) (screen : ChatScreen) : Prop where
  told : ∀ id, id ∈ screen.children ↔ id ∈ s.listened screen
  reads : screen.chat.reads = []

end Conversations

inductive ChatScreenEffect (s : Conversations) (screen : ChatScreen) : ChatScreen → Prop where
  | childAdded (id : MsgId) (there : id ∈ s.listened screen) (untold : id ∉ screen.children) :
      ChatScreenEffect s screen (screen.childAdded id)
  | childRemoved (id : MsgId) (told : id ∈ screen.children) (gone : id ∉ s.listened screen) :
      ChatScreenEffect s screen (screen.childRemoved id)
  | single (k : Nat) (id : MsgId) (waiting : screen.chat.reads[k]? = some id) :
      ChatScreenEffect s screen (screen.single k ((s.view screen).messages.lookup id))

theorem on_screen_cases (s next : Conversations) (n : Nat) (change : ChatScreen → Option ChatScreen) (out : List Output)
    (changed : s.onScreen n change = some (next, out)) :
    ∃ screen after, s.screens[n]? = some screen ∧ change screen = some after ∧
      next = { s with screens := s.screens.set n after } ∧ out = [] := by
  unfold Conversations.onScreen at changed
  split at changed
  · cases changed
  · rename_i screen here
    split at changed
    · obtain ⟨after, made, same⟩ := Option.map_eq_some_iff.mp changed
      cases same
      exact ⟨screen, after, here, made, rfl, rfl⟩
    · cases changed

theorem conversations_step_cases (s next : Conversations) (act : ConversationsAct) (out : List Output)
    (stepped : s.step act = some (next, out)) :
    (∃ action system, act = .act action ∧ s.system.step action = some (system, out) ∧
      next = ⟨system, s.screens ++ Conversations.opened s.system action⟩) ∨
    (∃ n screen after, (∀ action, act ≠ .act action) ∧ s.screens[n]? = some screen ∧ ChatScreenEffect s screen after ∧
      next = { s with screens := s.screens.set n after } ∧ out = []) := by
  cases act with
  | act action =>
      simp only [Conversations.step] at stepped
      split at stepped
      · cases stepped
      · rename_i system later ran
        cases stepped
        exact Or.inl ⟨action, system, rfl, ran, rfl⟩
  | childAdded n id =>
      obtain ⟨screen, after, here, made, same, silent⟩ := on_screen_cases s next n _ out stepped
      split at made
      · rename_i passed
        cases made
        exact Or.inr ⟨n, screen, _, by simp, here, .childAdded id passed.1 passed.2, same, silent⟩
      · cases made
  | childRemoved n id =>
      obtain ⟨screen, after, here, made, same, silent⟩ := on_screen_cases s next n _ out stepped
      split at made
      · rename_i passed
        cases made
        exact Or.inr ⟨n, screen, _, by simp, here, .childRemoved id passed.1 passed.2, same, silent⟩
      · cases made
  | single n k =>
      obtain ⟨screen, after, here, made, same, silent⟩ := on_screen_cases s next n _ out stepped
      obtain ⟨id, waiting, rfl⟩ := Option.map_eq_some_iff.mp made
      exact Or.inr ⟨n, screen, _, by simp, here, .single k id waiting, same, silent⟩

def Send.message (send : Send) : Message := Message.init send.values

structure Accepted (seen : List Output) (u v : Uid) (send : Send) : Prop where
  decided : ∃ me, .decided me (.message send) true ∈ seen
  between : Participants send.fromId send.toId u v

def Following (seen : List Output) (screen : ChatScreen) : Prop :=
  ∃ shown waiting : List Send, screen.chat.messages = shown.map Send.message ∧
    screen.chat.reads = waiting.map Send.id ∧ screen.chat.indexed.Perm ((shown ++ waiting).map Send.id) ∧
    ∀ send ∈ shown ++ waiting, ∃ uid toId, screen.chat.listener = some (uid, toId) ∧ Accepted seen uid toId send

theorem following_mono (seen out : List Output) (screen : ChatScreen) (following : Following seen screen) :
    Following (seen ++ out) screen := by
  obtain ⟨shown, waiting, messages, reads, indexed, accepted⟩ := following
  refine ⟨shown, waiting, messages, reads, indexed, fun send member => ?_⟩
  obtain ⟨uid, toId, listening, ⟨me, decided⟩, between⟩ := accepted send member
  exact ⟨uid, toId, listening, ⟨me, List.mem_append_left out decided⟩, between⟩

theorem following_opened (s : System) (seen : List Output) (action : Action) :
    ∀ screen ∈ Conversations.opened s action, Following seen screen := by
  intro screen member
  unfold Conversations.opened at member
  split at member
  · cases List.mem_singleton.mp member
    refine ⟨[], [], ?_, ?_, ?_, by simp⟩ <;> unfold ChatScreen.showChatControllerForUser ChatView.observeMessages <;>
      split <;> simp [ChatView.start]
  · cases member

theorem listened_accepted (s : Conversations) (seen : List Output) (ledger : Ledger s.system seen)
    (screen : ChatScreen) (id : MsgId) (there : id ∈ s.listened screen) :
    ∃ uid toId send, screen.chat.listener = some (uid, toId) ∧ Accepted seen uid toId send ∧ send.id = id := by
  unfold Conversations.listened at there
  split at there
  · cases there
  · rename_i uid toId listening
    obtain ⟨me, send, decided, shape⟩ := ledger_backed_view s.system seen ledger screen.me ⟨uid, toId, id⟩
      ((mem_conversation _ _ _ _).mp there)
    obtain ⟨same, between⟩ := (participants_entry send ⟨uid, toId, id⟩).mpr shape
    exact ⟨uid, toId, send, listening, ⟨⟨me, decided⟩, between⟩, same.symm⟩

theorem view_messages (writes : List Write) (db : Database) (id : MsgId)
    (other : ∀ send, .message send ∈ writes → send.id ≠ id) :
    (writes.foldl Database.apply db).messages.lookup id = db.messages.lookup id := by
  induction writes generalizing db with
  | nil => rfl
  | cons write rest ih =>
      rw [List.foldl_cons, ih (db.apply write) (fun send member => other send (List.mem_cons_of_mem write member))]
      cases write with
      | message send =>
          exact AList.lookup_insert_ne (Ne.symm (other send List.mem_cons_self))
      | senderIndex send => rfl
      | recipientIndex send => rfl
      | remove owner partner => rfl

-- No client's own writes hide a message that the server has.
theorem accepted_viewed (s : Conversations) (seen : List Output) (ledger : Ledger s.system seen) (screen : ChatScreen)
    (u v : Uid) (send : Send) (accepted : Accepted seen u v send) :
    (s.view screen).messages.lookup send.id = some send.values := by
  obtain ⟨me, decided⟩ := accepted.decided
  have stored := accepted_stored s.system seen ledger me send decided
  rw [Conversations.view, Client.view, view_messages _ _ _ (fun other member same => ?_)]
  · exact stored
  · have absent := undecided_not_stored s.system seen ledger screen.me other member
    rw [same, stored] at absent
    cases absent

theorem following_changed (s : Conversations) (seen : List Output) (ledger : Ledger s.system seen)
    (screen after : ChatScreen) (following : Following seen screen) (effect : ChatScreenEffect s screen after) :
    Following seen after := by
  obtain ⟨shown, waiting, messages, reads, indexed, accepted⟩ := following
  cases effect with
  | childAdded id there untold =>
      obtain ⟨uid, toId, send, listening, taken, rfl⟩ := listened_accepted s seen ledger screen id there
      refine ⟨shown, waiting ++ [send], messages, by simp [ChatScreen.childAdded, reads], ?_, ?_⟩
      · rw [← List.append_assoc, List.map_append]
        exact indexed.append_right [send.id]
      · rw [← List.append_assoc]
        exact Queue.forall_behind _ (shown ++ waiting) send accepted ⟨uid, toId, listening, taken⟩
  | childRemoved id told gone => exact ⟨shown, waiting, messages, reads, indexed, accepted⟩
  | single k id here =>
      rw [reads, List.getElem?_map] at here
      obtain ⟨send, read, rfl⟩ := Option.map_eq_some_iff.mp here
      obtain ⟨uid, toId, listening, taken⟩ := accepted send (List.mem_append_right shown (List.mem_of_getElem? read))
      have moved : (shown ++ waiting).Perm ((shown ++ [send]) ++ waiting.eraseIdx k) := by
        obtain ⟨bound, rfl⟩ := List.getElem?_eq_some_iff.mp read
        rw [List.append_assoc, List.singleton_append]
        exact ((List.getElem_cons_eraseIdx_perm bound).symm).append_left shown
      rw [accepted_viewed s seen ledger screen uid toId send taken]
      refine ⟨shown ++ [send], waiting.eraseIdx k, ?_, ?_, ?_, ?_⟩
      · simp [ChatScreen.single, ChatView.append, messages, Send.message]
      · simp [ChatScreen.single, ChatView.append, reads, List.eraseIdx_map]
      · exact indexed.trans (moved.map Send.id)
      · exact fun other member => accepted other (moved.mem_iff.mpr member)

theorem following_step (s : Conversations) (seen : List Output) (act : ConversationsAct) (next : Conversations)
    (out : List Output) (holds : Ledger s.system seen ∧ ∀ screen ∈ s.screens, Following seen screen)
    (stepped : Conversations.machine.step s act = some (next, out)) :
    Ledger next.system (seen ++ out) ∧ ∀ screen ∈ next.screens, Following (seen ++ out) screen := by
  obtain ⟨ledger, following⟩ := holds
  obtain ⟨action, system, rfl, ran, rfl⟩ | ⟨n, screen, after, _, here, effect, rfl, rfl⟩ :=
    conversations_step_cases s next act out stepped
  · refine ⟨ledger_step s.system seen action system out ledger ran, fun screen member => ?_⟩
    rcases List.mem_append.mp member with old | fresh
    · exact following_mono seen out screen (following screen old)
    · exact following_opened s.system (seen ++ out) action screen fresh
  · rw [List.append_nil]
    have changed := following_changed s seen ledger screen after (following screen (List.mem_of_getElem? here)) effect
    exact ⟨ledger, Queue.forall_set (Following seen) s.screens n after following changed⟩

theorem following_run (acts : List ConversationsAct) (s : Conversations) (out : List Output)
    (ran : Conversations.machine.run Conversations.initial acts = some (s, out)) :
    Ledger s.system out ∧ ∀ screen ∈ s.screens, Following out screen :=
  Machine.run_history Conversations.machine (fun s seen => Ledger s.system seen ∧ ∀ screen ∈ s.screens, Following seen screen)
    following_step acts Conversations.initial s out ⟨ledger_initial, by simp [Conversations.initial]⟩ ran

-- Only the width of a picture is not what it was.
theorem payload_message (toId fromId : Uid) (seconds : Int) (payload : Payload) :
    Message.init (messageValues toId fromId seconds payload.properties) =
      { payload.expected toId fromId seconds with
        imageWidth := (Message.init (messageValues toId fromId seconds payload.properties)).imageWidth } := by
  cases payload <;> rfl

theorem screens_show_what_was_sent (acts : List ConversationsAct) (s : Conversations) (out : List Output)
    (ran : Conversations.machine.run Conversations.initial acts = some (s, out)) (screen : ChatScreen)
    (present : screen ∈ s.screens) (message : Message) (shown : message ∈ screen.chat.messages) :
    ∃ uid toId me send origin payload seconds, screen.chat.listener = some (uid, toId) ∧
      .composed me send origin ∈ out ∧ .decided me (.message send) true ∈ out ∧
      Participants send.fromId send.toId uid toId ∧
      send.values = messageValues send.toId send.fromId seconds (Payload.properties payload) ∧
      message = { payload.expected send.toId send.fromId seconds with imageWidth := message.imageWidth } := by
  obtain ⟨ledger, following⟩ := following_run acts s out ran
  obtain ⟨read, waiting, messages, _, _, accepted⟩ := following screen present
  rw [messages] at shown
  obtain ⟨send, member, rfl⟩ := List.mem_map.mp shown
  obtain ⟨uid, toId, listening, ⟨me, decided⟩, between⟩ := accepted send (List.mem_append_left waiting member)
  obtain ⟨origin, composed⟩ := ledger.decided me _ true decided
  obtain ⟨payload, seconds, values⟩ := ledger.values me send origin composed
  refine ⟨uid, toId, me, send, origin, payload, seconds, listening, composed, decided, between, values, ?_⟩
  rw [Send.message, values]
  exact payload_message send.toId send.fromId seconds payload

def textOnBothScreens : List ConversationsAct :=
  [.act (.client 0 (.signIn "ann")), .act (.client 0 (.showChatControllerForUser "bob" {})),
    .act (.client 1 (.signIn "bob")), .act (.client 1 (.showChatControllerForUser "ann" {})),
    .act (.client 0 (.sendMessage 0 "hi" "-M1" 1600000000)), .act (.verdict 0 0 true), .act (.client 0 (.complete 0)),
    .childAdded 0 "-M1", .single 0 0, .act (.verdict 0 0 true), .act (.verdict 0 0 true), .childAdded 1 "-M1", .single 1 0]

theorem screens_show_what_was_sent_text :
    ∃ s out, Conversations.machine.run Conversations.initial textOnBothScreens = some (s, out) ∧
      ∃ me send origin, .composed me send origin ∈ out ∧ .decided me (.message send) true ∈ out ∧
        Participants send.fromId send.toId "bob" "ann" := by
  refine ⟨_, _, rfl, ?_⟩
  obtain ⟨_, _, me, send, origin, _, _, same, composed, decided, between, _⟩ :=
    screens_show_what_was_sent textOnBothScreens _ _ rfl _ (List.mem_of_getElem? (i := 1) rfl) firstText List.mem_cons_self
  cases same
  exact ⟨me, send, origin, composed, decided, between⟩

def Write.entry : Write → Option Entry
  | .message _ => none
  | .senderIndex send => some send.senderEntry
  | .recipientIndex send => some send.recipientEntry
  | .remove _ _ => none

-- No conversation is deleted, and no index write is rejected.
def System.Keeps (s : System) : Action → Prop
  | .client _ (.swipeDelete _) => False
  | .client _ _ => True
  | .verdict me k accepted => accepted = true ∨ ∀ write, (s.clients me).outbox[k]? = some write → write.entry = none

def Conversations.Keeps (s : Conversations) : ConversationsAct → Prop
  | .act action => s.system.Keeps action
  | _ => True

theorem view_entries (writes : List Write) (db : Database) (entry : Entry)
    (undeleted : ∀ owner partner, .remove owner partner ∉ writes) :
    entry ∈ (writes.foldl Database.apply db).index ↔ entry ∈ db.index ∨ ∃ write ∈ writes, write.entry = some entry := by
  induction writes generalizing db with
  | nil => simp
  | cons write rest ih =>
      rw [List.foldl_cons, ih _ (fun owner partner member => undeleted owner partner (List.mem_cons_of_mem write member))]
      cases write with
      | message send => simp [Database.apply, Database.putMessage, Write.entry]
      | senderIndex send => simp [Database.apply, Write.entry, or_assoc, eq_comm]
      | recipientIndex send => simp [Database.apply, Write.entry, or_assoc, eq_comm]
      | remove owner partner => exact absurd List.mem_cons_self (undeleted owner partner)

theorem keeps_sends (s : System) (action : Action) (keeps : s.Keeps action) : action.Sends := by
  unfold System.Keeps at keeps
  split at keeps
  · exact keeps.elim
  · rename_i act other
    cases act <;> first | trivial | exact (other _ rfl).elim
  · trivial

theorem outbox_grows (s : System) (me : ClientId) (act : ClientAct) (client : Client) (out : List Output)
    (acted : (s.clients me).act me s.db act = some (client, out)) :
    ∃ more, client.outbox = (s.clients me).outbox ++ more := by
  cases act_effect me s.db act (s.clients me) client out acted with
  | quiet _ outbox => exact ⟨[], by simp [outbox]⟩
  | post send _ _ _ _ _ _ outbox => exact ⟨_, outbox⟩
  | remove owner partner _ outbox => exact ⟨_, outbox⟩
  | finished k send _ outbox => exact ⟨_, outbox⟩
  | rejected k send _ outbox => exact ⟨[], by simp [outbox]⟩
  | removed k partner accepted _ _ outbox => exact ⟨[], by simp [outbox]⟩

theorem view_grows (s : System) (seen : List Output) (action : Action) (next : System) (out : List Output)
    (before : Delivery s seen) (after : Delivery next (seen ++ out)) (keeps : s.Keeps action)
    (stepped : System.machine.step s action = some (next, out)) (me : ClientId) (entry : Entry)
    (visible : entry ∈ ((s.clients me).view s.db).index) : entry ∈ ((next.clients me).view next.db).index := by
  rw [Client.view, view_entries _ _ _ (before.undeleted me)] at visible
  rw [Client.view, view_entries _ _ _ (after.undeleted me)]
  obtain ⟨other, act, client, rfl, _, _, acted, rfl⟩ | ⟨other, k, accepted, write, rfl, waiting, rfl, rfl⟩ :=
    system_step_cases s next action out stepped
  · obtain ⟨more, grown⟩ := outbox_grows s other act client out acted
    rcases visible with stored | ⟨write, member, shape⟩
    · exact Or.inl stored
    · refine Or.inr ⟨write, ?_, shape⟩
      by_cases same : me = other
      · subst other
        simp only [Function.update_self, grown]
        exact List.mem_append_left more member
      · simpa only [Function.update_of_ne same] using member
  · have kept (owner partner : Uid) : write ≠ .remove owner partner := by
      intro same
      exact before.undeleted other owner partner (same ▸ List.mem_of_getElem? waiting)
    rcases visible with stored | ⟨pending, member, shape⟩
    · refine Or.inl ?_
      cases accepted with
      | false => exact stored
      | true => exact apply_keeps_entries s.db write kept entry stored
    · by_cases same : me = other
      · subst other
        by_cases now : pending = write
        · subst pending
          rcases keeps with rfl | silent
          · refine Or.inl ?_
            cases write with
            | senderIndex send => exact (mem_add _ _ _).mpr (Or.inr (Option.some.inj shape).symm)
            | recipientIndex send => exact (mem_add _ _ _).mpr (Or.inr (Option.some.inj shape).symm)
            | message send => cases shape
            | remove owner partner => cases shape
          · rw [silent write waiting] at shape
            cases shape
        · refine Or.inr ⟨pending, ?_, shape⟩
          simp only [Function.update_self]
          exact Queue.mem_erase_other _ k write pending waiting now member
      · exact Or.inr ⟨pending, by simpa only [Function.update_of_ne same] using member, shape⟩

def Output.accepted : Output → Option Send
  | .decided _ (.message send) true => some send
  | _ => none

-- An accepted message is in both conversations, as its sender sees them, or the
-- block that puts it there has still to run; and it is accepted only once.
structure Fanned (s : System) (seen : List Output) : Prop where
  posted : ∀ me send, .decided me (.message send) true ∈ seen →
    .message send true ∈ (s.clients me).completions ∨
      ∀ entry, entry = send.senderEntry ∨ entry = send.recipientEntry → entry ∈ ((s.clients me).view s.db).index
  once : (seen.filterMap Output.accepted).Nodup

theorem fanned_initial : Fanned System.initial [] := ⟨by simp, List.nodup_nil⟩

theorem mem_accepted (out : List Output) (send : Send) :
    send ∈ out.filterMap Output.accepted ↔ ∃ me, .decided me (.message send) true ∈ out := by
  rw [List.mem_filterMap]
  constructor
  · intro given
    obtain ⟨output, member, taken⟩ := given
    unfold Output.accepted at taken
    split at taken
    · rename_i me sent
      cases taken
      exact ⟨me, member⟩
    · cases taken
  · intro given
    obtain ⟨me, member⟩ := given
    exact ⟨_, member, rfl⟩

theorem act_undecided (me : ClientId) (db : Database) (act : ClientAct) (client next : Client) (out : List Output)
    (acted : client.act me db act = some (next, out)) : out.filterMap Output.accepted = [] := by
  refine List.filterMap_eq_nil_iff.mpr (fun output member => ?_)
  cases act_effect me db act client next out acted with
  | quiet _ _ _ _ silent => rw [silent output member]; rfl
  | removed _ _ _ _ _ _ _ _ silent => rw [silent output member]; rfl
  | post => rw [List.mem_singleton.mp member]; rfl
  | remove => rw [List.mem_singleton.mp member]; rfl
  | rejected => rw [List.mem_singleton.mp member]; rfl
  | finished =>
      rcases List.mem_cons.mp member with rfl | last
      · rfl
      · rw [List.mem_singleton.mp last]; rfl

theorem act_posts (me : ClientId) (db : Database) (act : ClientAct) (client next : Client) (out : List Output)
    (acted : client.act me db act = some (next, out)) (send : Send)
    (ready : .message send true ∈ client.completions) :
    .message send true ∈ next.completions ∨ .senderIndex send ∈ next.outbox ∧ .recipientIndex send ∈ next.outbox := by
  have other (k : Nat) (taken : Completion) (here : client.completions[k]? = some taken)
      (different : .message send true ≠ taken) : .message send true ∈ client.completions.eraseIdx k :=
    Queue.mem_erase_other _ k taken _ here different ready
  cases act_effect me db act client next out acted with
  | quiet _ _ completions => exact Or.inl (completions ▸ ready)
  | post _ _ _ _ _ _ _ _ completions => exact Or.inl (completions ▸ ready)
  | remove _ _ _ _ completions => exact Or.inl (completions ▸ ready)
  | rejected k sent here _ completions => exact Or.inl (completions ▸ other k _ here (by simp))
  | removed k _ _ _ here _ completions => exact Or.inl (completions ▸ other k _ here (by simp))
  | finished k sent here outbox completions =>
      by_cases same : send = sent
      · subst sent
        exact Or.inr ⟨by simp [outbox], by simp [outbox]⟩
      · exact Or.inl (completions ▸ other k _ here (by simpa using same))

theorem fanned_step (s : System) (seen : List Output) (action : Action) (next : System) (out : List Output)
    (ledger : Ledger s seen) (before : Delivery s seen) (fanned : Fanned s seen) (keeps : s.Keeps action)
    (stepped : System.machine.step s action = some (next, out)) : Fanned next (seen ++ out) := by
  have after := delivery_step s seen action next out before (keeps_sends s action keeps) stepped
  have grows := view_grows s seen action next out before after keeps stepped
  obtain ⟨me, act, client, rfl, _, _, acted, rfl⟩ | ⟨me, k, accepted, write, rfl, waiting, rfl, rfl⟩ :=
    system_step_cases s next action out stepped
  · have silent := act_undecided me s.db act (s.clients me) client out acted
    refine ⟨fun other send decided => ?_, by simpa [List.filterMap_append, silent] using fanned.once⟩
    have old : .decided other (.message send) true ∈ seen := by
      refine (List.mem_append.mp decided).resolve_right (fun new => ?_)
      have found := (mem_accepted out send).mpr ⟨other, new⟩
      rw [silent] at found
      cases found
    rcases fanned.posted other send old with ready | visible
    · by_cases same : other = me
      · subst other
        simp only [Function.update_self]
        rcases act_posts me s.db act (s.clients me) client out acted send ready with waits | ⟨sender, recipient⟩
        · exact Or.inl waits
        · refine Or.inr (fun entry shape => ?_)
          have undeleted := after.undeleted me
          simp only [Function.update_self] at undeleted
          rw [Client.view, view_entries _ _ _ undeleted]
          rcases shape with rfl | rfl
          · exact Or.inr ⟨_, sender, rfl⟩
          · exact Or.inr ⟨_, recipient, rfl⟩
      · exact Or.inl (by simpa only [Function.update_of_ne same] using ready)
    · exact Or.inr (fun entry shape => grows other entry (visible entry shape))
  · constructor
    · intro other send decided
      rcases List.mem_append.mp decided with old | new
      · rcases fanned.posted other send old with ready | visible
        · refine Or.inl ?_
          by_cases same : other = me
          · subst other
            simp only [Function.update_self]
            exact List.mem_append_left _ ready
          · simpa only [Function.update_of_ne same] using ready
        · exact Or.inr (fun entry shape => grows other entry (visible entry shape))
      · cases List.mem_singleton.mp new
        refine Or.inl ?_
        simp only [Function.update_self]
        exact List.mem_append_right _ List.mem_cons_self
    · rw [List.filterMap_append]
      refine List.nodup_append'.mpr ⟨fanned.once, ?_, ?_⟩
      · cases taken : Output.accepted (.decided me write accepted) <;> simp [taken]
      · intro send old new
        obtain ⟨other, decided⟩ := (mem_accepted seen send).mp old
        obtain ⟨_, now⟩ := (mem_accepted _ send).mp new
        cases List.mem_singleton.mp now
        obtain ⟨origin, composed⟩ := ledger.decided other _ true decided
        obtain ⟨start, again⟩ := ledger.outbox me _ (List.mem_of_getElem? waiting)
        obtain ⟨rfl, _⟩ := ledger.once other send origin me send start composed again rfl
        exact ledger.waiting other send true (List.mem_of_getElem? waiting) decided

structure Told (s : Conversations) (screen : ChatScreen) : Prop where
  all : screen.children = screen.chat.indexed
  once : screen.children.Nodup
  there : ∀ id ∈ screen.children, id ∈ s.listened screen

structure Steady (s : Conversations) (seen : List Output) : Prop where
  ledger : Ledger s.system seen
  delivery : Delivery s.system seen
  fanned : Fanned s.system seen
  following : ∀ screen ∈ s.screens, Following seen screen
  told : ∀ screen ∈ s.screens, Told s screen

theorem steady_initial : Steady Conversations.initial [] :=
  ⟨ledger_initial, delivery_initial, fanned_initial, by simp [Conversations.initial], by simp [Conversations.initial]⟩

theorem told_opened (s : Conversations) (before : System) (action : Action) :
    ∀ screen ∈ Conversations.opened before action, Told s screen := by
  intro screen member
  unfold Conversations.opened at member
  split at member
  · cases List.mem_singleton.mp member
    refine ⟨?_, List.nodup_nil, by simp [ChatScreen.showChatControllerForUser]⟩
    unfold ChatScreen.showChatControllerForUser ChatView.observeMessages
    split <;> rfl
  · cases member

theorem told_changed (s : Conversations) (screens : List ChatScreen) (screen after : ChatScreen) (told : Told s screen)
    (effect : ChatScreenEffect s screen after) : Told { s with screens := screens } after := by
  obtain ⟨all, once, there⟩ := told
  cases effect with
  | childAdded id here untold =>
      exact ⟨by simp [ChatScreen.childAdded, all], List.nodup_append'.mpr ⟨once, List.nodup_singleton id, by simpa using untold⟩,
        Queue.forall_behind (fun id => id ∈ s.listened screen) screen.children id there here⟩
  | childRemoved id known gone => exact absurd (there id known) gone
  | single k id here =>
      refine ⟨by simpa [ChatScreen.single] using all, once, ?_⟩
      simpa only [Conversations.listened, Conversations.view, ChatScreen.single, append_listener] using there

theorem told_grows (s next : Conversations) (screen : ChatScreen) (told : Told s screen)
    (grows : ∀ entry ∈ (s.view screen).index, entry ∈ (next.view screen).index) : Told next screen := by
  refine ⟨told.all, told.once, fun id member => ?_⟩
  have here := told.there id member
  unfold Conversations.listened at here ⊢
  split at here
  · cases here
  · exact (mem_conversation _ _ _ _).mpr (grows _ ((mem_conversation _ _ _ _).mp here))

theorem steady_step (s : Conversations) (seen : List Output) (act : ConversationsAct) (next : Conversations)
    (out : List Output) (steady : Steady s seen) (keeps : s.Keeps act)
    (stepped : Conversations.machine.step s act = some (next, out)) : Steady next (seen ++ out) := by
  obtain ⟨ledger, delivery, fanned, following, told⟩ := steady
  have followed := following_step s seen act next out ⟨ledger, following⟩ stepped
  obtain ⟨action, system, rfl, ran, rfl⟩ | ⟨n, screen, after, _, here, effect, rfl, rfl⟩ :=
    conversations_step_cases s next act out stepped
  · have delivered := delivery_step s.system seen action system out delivery (keeps_sends s.system action keeps) ran
    refine ⟨followed.1, delivered, fanned_step s.system seen action system out ledger delivery fanned keeps ran,
      followed.2, fun screen member => ?_⟩
    rcases List.mem_append.mp member with old | fresh
    · exact told_grows s _ screen (told screen old)
        (view_grows s.system seen action system out delivery delivered keeps ran screen.me)
    · exact told_opened _ s.system action screen fresh
  · rw [List.append_nil] at followed ⊢
    refine ⟨ledger, delivery, fanned, followed.2, ?_⟩
    have changed := told_changed s (s.screens.set n after) screen after (told screen (List.mem_of_getElem? here)) effect
    exact Queue.forall_set (Told { s with screens := s.screens.set n after }) s.screens n after
      (fun other member => told_grows s _ other (told other member) (fun _ visible => visible)) changed

def acceptedBetween (u v : Uid) (out : List Output) : List Send :=
  (out.filterMap Output.accepted).filter (fun send => decide (Participants send.fromId send.toId u v))

theorem mem_accepted_between (u v : Uid) (out : List Output) (send : Send) :
    send ∈ acceptedBetween u v out ↔ Accepted out u v send := by
  rw [acceptedBetween, List.mem_filter, mem_accepted, decide_eq_true_eq]
  exact ⟨fun given => ⟨given.1, given.2⟩, fun given => ⟨given.1, given.2⟩⟩

theorem accepted_between_swap (u v : Uid) (out : List Output) : acceptedBetween u v out = acceptedBetween v u out := by
  have swap (send : Send) : Participants send.fromId send.toId u v ↔ Participants send.fromId send.toId v u := or_comm
  simp only [acceptedBetween, swap]

-- Once nothing is under way, the index has just the accepted messages.
theorem settled_index (s : System) (out : List Output) (ledger : Ledger s out) (fanned : Fanned s out)
    (settled : Settled s) (uid toId : Uid) (id : MsgId) :
    (⟨uid, toId, id⟩ : Entry) ∈ s.db.index ↔ ∃ send, send.id = id ∧ Accepted out uid toId send := by
  constructor
  · intro there
    obtain ⟨me, send, decided, shape⟩ := ledger_backed_index s out ledger _ there
    obtain ⟨same, between⟩ := (participants_entry send ⟨uid, toId, id⟩).mpr shape
    exact ⟨send, same.symm, ⟨me, decided⟩, between⟩
  · intro given
    obtain ⟨send, rfl, ⟨me, decided⟩, between⟩ := given
    have visible := (fanned.posted me send decided).resolve_left ((settled me).2 send)
    have there := visible ⟨uid, toId, send.id⟩ ((participants_entry send ⟨uid, toId, send.id⟩).mp ⟨rfl, between⟩)
    rwa [Client.view, (settled me).1] at there

theorem settled_screen (s : Conversations) (out : List Output) (steady : Steady s out) (settled : Settled s.system)
    (screen : ChatScreen) (present : screen ∈ s.screens) (uid toId : Uid)
    (listening : screen.chat.listener = some (uid, toId)) (caughtUp : s.CaughtUp screen) :
    screen.chat.messages.Perm ((acceptedBetween uid toId out).map Send.message) := by
  obtain ⟨shown, waiting, messages, reads, indexed, accepted⟩ := steady.following screen present
  have told := steady.told screen present
  obtain rfl : waiting = [] := List.map_eq_nil_iff.mp (reads.symm.trans caughtUp.reads)
  rw [List.append_nil] at indexed accepted
  have distinct : (shown.map Send.id).Nodup := indexed.nodup_iff.mp (told.all ▸ told.once)
  rw [messages]
  refine List.Perm.map Send.message ?_
  refine (List.perm_ext_iff_of_nodup (List.Nodup.of_map Send.id distinct) (steady.fanned.once.filter _)).mpr (fun send => ?_)
  change send ∈ shown ↔ send ∈ acceptedBetween uid toId out
  rw [mem_accepted_between]
  constructor
  · intro member
    obtain ⟨_, _, same, taken⟩ := accepted send member
    cases listening.symm.trans same
    exact taken
  · intro taken
    obtain ⟨me, decided⟩ := taken.decided
    -- The message is in both conversations, so Firebase has told the screen of it.
    have there := (settled_index s.system out steady.ledger steady.fanned settled uid toId send.id).mpr ⟨send, rfl, taken⟩
    have listed : send.id ∈ s.listened screen := by
      rw [Conversations.listened, listening]
      refine (mem_conversation _ _ _ _).mpr ?_
      rw [Conversations.view, Client.view, (settled screen.me).1]
      exact there
    have read := indexed.mem_iff.mp (told.all ▸ (caughtUp.told send.id).mpr listed)
    obtain ⟨other, member, same⟩ := List.mem_map.mp read
    obtain ⟨_, _, _, ⟨also, known⟩, _⟩ := accepted other member
    obtain ⟨origin, composed⟩ := steady.ledger.decided me _ true decided
    obtain ⟨start, again⟩ := steady.ledger.decided also _ true known
    obtain ⟨_, rfl⟩ := steady.ledger.once also other start me send origin again composed same
    exact member

theorem both_ends_show_the_same (acts : List ConversationsAct) (s : Conversations) (out : List Output)
    (ran : Conversations.machine.run Conversations.initial acts = some (s, out))
    (keeps : Conversations.machine.Along Conversations.Keeps Conversations.initial acts) (settled : Settled s.system)
    (screen : ChatScreen) (present : screen ∈ s.screens) (uid toId : Uid)
    (listening : screen.chat.listener = some (uid, toId)) (caughtUp : s.CaughtUp screen) :
    screen.chat.messages.Perm ((acceptedBetween uid toId out).map Send.message) ∧
      ∀ other ∈ s.screens, other.chat.listener = some (toId, uid) → s.CaughtUp other →
        other.chat.messages.Perm screen.chat.messages := by
  have steady := Machine.history_along Conversations.machine Steady Conversations.Keeps steady_step acts
    Conversations.initial s out steady_initial keeps ran
  have shown := settled_screen s out steady settled screen present uid toId listening caughtUp
  refine ⟨shown, fun other inside across caught => ?_⟩
  have answered := settled_screen s out steady settled other inside toId uid across caught
  rw [accepted_between_swap] at answered
  exact answered.trans shown.symm

theorem both_ends_show_the_text :
    ∃ s out ann bob, Conversations.machine.run Conversations.initial textOnBothScreens = some (s, out) ∧
      s.screens = [ann, bob] ∧ bob.chat.messages = [firstText] ∧ ann.chat.messages.Perm bob.chat.messages := by
  refine ⟨_, _, _, _, rfl, rfl, rfl, ?_⟩
  refine (both_ends_show_the_same textOnBothScreens _ _ rfl ?_ ?_ _ List.mem_cons_self "ann" "bob" rfl ?_).2 _
    (List.mem_of_getElem? (i := 1) rfl) rfl ?_ |>.symm
  · refine Machine.along_of_forall _ _ _ (fun s act member => ?_) _
    simp only [textOnBothScreens, List.mem_cons, List.not_mem_nil, or_false] at member
    rcases member with rfl | rfl | rfl | rfl | rfl | rfl | rfl | rfl | rfl | rfl | rfl | rfl | rfl <;>
      simp [Conversations.Keeps, System.Keeps]
  · intro given
    rcases given with _ | _ | me <;> exact ⟨rfl, fun _ => List.not_mem_nil⟩
  · exact ⟨fun _ => Iff.rfl, rfl⟩
  · exact ⟨fun _ => Iff.rfl, rfl⟩

end FirChat
