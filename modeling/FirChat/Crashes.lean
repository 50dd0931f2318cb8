import FirChat.Composer
import FirChat.Isolation
import FirChat.Reload
import FirChat.Sends

set_option autoImplicit false

namespace FirChat

def ChatsList.Dated (list : ChatsList) : Prop :=
  ∀ key message, list.messageDict.lookup key = some message → Timed message

def Client.Crashed (client : Client) : Prop := ∃ site trap, client.status = .crashed site trap

-- Nobody posts while signed out or what Firebase cannot store, and a row that
-- the table asks for, selects or deletes is still in messages.
def ClientAct.Safe (client : Client) : ClientAct → Prop
  | .sendMessage chat text _ seconds => client.currentUser ≠ none ∧ client.Storable chat seconds (FirChat.sendMessage text)
  | .upload k (.url (some imageUrl)) _ seconds => ∀ upload completion, client.uploads[k]? = some upload →
      upload.stage = .downloadURL completion →
        client.currentUser ≠ none ∧ client.Storable upload.chat seconds (completion.properties imageUrl)
  | .cellForRow row => row < client.list.messages.length
  | .didSelectRow row => row < client.list.messages.length
  | .swipeDelete row => client.currentUser ≠ none → row < client.list.messages.length
  | _ => True

def System.Safe (s : System) : Action → Prop
  | .client me act => act.Safe (s.clients me)
  | .verdict _ _ _ => True

theorem dated_erased (list next : ChatsList) (key : Uid) (dated : list.Dated)
    (erased : next.messageDict = list.messageDict.erase key) : next.Dated := by
  intro other message found
  rw [erased] at found
  exact dated other message (erased_rows list.messageDict key other message found)

theorem fetch_message_dated (currentUser : Option Uid) (snapshot : Option Dictionary) (list : ChatsList)
    (dated : list.Dated) (brings : ∀ dictionary ∈ snapshot, Timed (Message.init dictionary)) :
    (list.fetchMessage currentUser snapshot).Dated := by
  unfold ChatsList.fetchMessage
  split
  · exact dated
  · rename_i dictionary
    split
    · exact dated
    · rename_i partnerId _
      intro key message found
      change (list.messageDict.insert partnerId (Message.init dictionary)).lookup key = some message at found
      by_cases same : key = partnerId
      · subst key
        rw [AList.lookup_insert] at found
        cases found
        exact brings dictionary rfl
      · rw [AList.lookup_insert_ne same] at found
        exact dated key message found

theorem fire_dated (client : Client) (values : List Message) (dated : client.list.Dated)
    (same : values.Perm client.list.values) :
    ∃ list, client.fire values = { client with list := list } ∧ list.messageDict = client.list.messageDict := by
  have timed : ∀ message ∈ values, message.timeStamp ≠ none := by
    intro message member
    obtain ⟨entry, inside, rfl⟩ := List.mem_map.mp (same.mem_iff.mp member)
    exact dated entry.1 entry.2 (AList.mem_lookup_iff.mpr inside)
  cases sorted : client.list.timerFired.handleReloadData values with
  | error trap =>
      unfold ChatsList.handleReloadData at sorted
      split at sorted
      · rename_i missing
        obtain ⟨message, member, undated⟩ := missing.2
        exact absurd undated (timed message member)
      · cases sorted
  | ok list =>
      refine ⟨list, by rw [Client.fire, sorted], ?_⟩
      exact handle_reload_data_dict values client.list.timerFired list sorted

theorem ledger_timed (s : System) (seen : List Output) (ledger : Ledger s seen) (id : MsgId) :
    ∀ dictionary ∈ s.db.messages.lookup id, Timed (Message.init dictionary) := by
  intro dictionary stored
  obtain ⟨me, send, decided, _, rfl⟩ := (ledger.stored id dictionary).mp stored
  obtain ⟨origin, composed⟩ := ledger.decided me _ true decided
  obtain ⟨payload, seconds, values⟩ := ledger.values me send origin composed
  obtain ⟨_, _, hasTime⟩ := payload_header send payload seconds values
  simp [Timed, Message.init, hasTime, Value.asNumber]

theorem post_keeps_list (client next : Client) (me : ClientId) (site : Site) (chat : Nat) (origin : Origin)
    (childRef : MsgId) (seconds : Int) (properties : Dictionary) (out : List Output)
    (posted : client.post me site chat origin childRef seconds properties = (next, out)) : next.list = client.list := by
  rcases post_cases client next me site chat origin childRef seconds properties out posted with
    ⟨_, rfl, _⟩ | ⟨_, rfl, _⟩ <;> rfl

theorem upload_keeps_list (client next : Client) (me : ClientId) (k : Nat) (upload : Upload) (event : UploadEvent)
    (childRef : MsgId) (seconds : Int) (out : List Output)
    (stepped : client.uploadStep me k upload event childRef seconds = some (next, out)) : next.list = client.list := by
  unfold Client.uploadStep at stepped
  split at stepped
  · cases stepped; rfl
  · cases stepped; rfl
  · cases stepped; rfl
  · exact post_keeps_list (client.endUpload k) next me .completion _ _ childRef seconds _ out (Option.some.inj stepped)
  · cases stepped; rfl
  · cases stepped; rfl
  · cases stepped; rfl
  · rename_i encodes _
    cases stepped
    cases encodes <;> rfl
  · cases stepped

theorem act_dated (me : ClientId) (db : Database) (act : ClientAct) (client next : Client) (out : List Output)
    (dated : client.list.Dated) (brings : ∀ id, ∀ dictionary ∈ db.messages.lookup id, Timed (Message.init dictionary))
    (acted : client.act me db act = some (next, out)) : next.list.Dated := by
  cases act with
  | signIn uid => cases acted; exact dated
  | signOut => cases acted; exact dated
  | showChatControllerForUser id profile => cases acted; exact dated
  | stop => cases acted; exact dated
  | setupNavbarWithUser =>
      cases acted
      intro key message found
      cases found
  | childRemoved key =>
      cases acted
      exact dated_erased client.list _ key dated rfl
  | sendMessage chat text childRef seconds =>
      simp only [Client.act] at acted
      split at acted
      · rw [post_keeps_list client next me .tap chat _ childRef seconds _ out (Option.some.inj acted)]
        exact dated
      · cases acted
  | pickImage chat selectedImage encodes =>
      simp only [Client.act] at acted
      split at acted
      · cases acted
        cases encodes <;> exact dated
      · cases acted
  | pickVideo chat =>
      simp only [Client.act] at acted
      split at acted
      · cases acted
        exact dated
      · cases acted
  | upload k event childRef seconds =>
      simp only [Client.act] at acted
      split at acted
      · cases acted
      · rename_i upload _
        rw [upload_keeps_list client next me k upload event childRef seconds out acted]
        exact dated
  | timerFires values =>
      simp only [Client.act] at acted
      split at acted
      · rename_i fires
        obtain ⟨list, fired, same⟩ := fire_dated client values dated fires.2
        cases acted
        rw [fired]
        intro key message found
        exact dated key message (same ▸ found)
      · cases acted
  | cellForRow row =>
      cases acted
      unfold Client.cellForRow
      split <;> exact dated
  | didSelectRow row =>
      cases acted
      unfold Client.didSelectRow
      split <;> exact dated
  | swipeDelete row =>
      simp only [Client.act, Option.some.injEq] at acted
      unfold Client.swipe at acted
      split at acted <;> cases acted <;> exact dated
  | complete k =>
      simp only [Client.act] at acted
      split at acted
      · cases acted
      · rename_i completion _
        have ran := Option.some.inj acted
        cases completion with
        | message send accepted => cases accepted <;> cases ran <;> exact dated
        | removed partner accepted =>
            cases ran
            cases accepted with
            | false => exact dated
            | true => exact dated_erased client.list _ partner dated rfl
  | childAdded entry =>
      simp only [Client.act] at acted
      split at acted
      · cases acted
        exact dated
      · cases acted
  | value k =>
      simp only [Client.act] at acted
      split at acted
      · cases acted
      · rename_i entry _
        cases acted
        exact fetch_message_dated client.currentUser _ client.list dated (brings entry.id)

theorem running_not_crashed (client : Client) (running : client.status = .running) : ¬ client.Crashed := by
  intro crashed
  obtain ⟨site, trap, same⟩ := crashed
  rw [running] at same
  cases same

theorem post_crashes_iff (client next : Client) (me : ClientId) (site : Site) (chat : Nat) (origin : Origin)
    (childRef : MsgId) (seconds : Int) (properties : Dictionary) (out : List Output) (kept : client.ChatsKept)
    (opened : chat < client.chats.length) (running : client.status = .running)
    (posted : client.post me site chat origin childRef seconds properties = (next, out)) :
    next.Crashed ↔ ¬ (client.currentUser ≠ none ∧ client.Storable chat seconds properties) := by
  have stored := post_storable client next me site chat origin childRef seconds properties out posted
  have sends := post_sends client next me site chat origin childRef seconds properties out kept opened
  rcases post_cases client next me site chat origin childRef seconds properties out posted with
    ⟨trap, rfl, rfl, _⟩ | ⟨send, rfl, rfl, _, signedIn, _⟩
  · exact iff_of_true ⟨site, trap, rfl⟩ (fun able => sends able.1 able.2 posted rfl)
  · refine iff_of_false (running_not_crashed _ running) (not_not.mpr ⟨?_, stored (by simp)⟩)
    rw [signedIn]
    exact Option.some_ne_none send.fromId

theorem cell_for_row_crashes_iff (client : Client) (row : Nat) (running : client.status = .running) :
    (client.cellForRow row).Crashed ↔ ¬ row < client.list.messages.length := by
  unfold Client.cellForRow
  split
  · rename_i absent
    exact iff_of_true ⟨_, _, rfl⟩ (Nat.not_lt.mpr (List.getElem?_eq_none_iff.mp absent))
  · rename_i message here
    exact iff_of_false (running_not_crashed client running) (not_not.mpr (List.getElem?_eq_some_iff.mp here).1)

theorem did_select_row_crashes_iff (client : Client) (row : Nat) (running : client.status = .running) :
    (client.didSelectRow row).Crashed ↔ ¬ row < client.list.messages.length := by
  unfold Client.didSelectRow
  split
  · rename_i trap failed
    have beyond := (did_select_row_trap client.currentUser row client.list trap failed).2
    exact iff_of_true ⟨_, _, rfl⟩ (Nat.not_lt.mpr beyond)
  · rename_i partner looked
    refine iff_of_false (running_not_crashed client running) (not_not.mpr ?_)
    by_contra beyond
    rw [ChatsList.didSelectRow, List.getElem?_eq_none_iff.mpr (Nat.not_lt.mp beyond)] at looked
    cases looked

theorem swipe_crashes_iff (client next : Client) (me : ClientId) (row : Nat) (out : List Output)
    (running : client.status = .running) (swiped : client.swipe me row = (next, out)) :
    next.Crashed ↔ ¬ (client.currentUser ≠ none → row < client.list.messages.length) := by
  rcases swipe_cases client next me row out swiped with ⟨signedIn, beyond, rfl⟩ | ⟨inRange, status, _⟩
  · exact iff_of_true ⟨.tap, .indexOutOfRange, rfl⟩ (fun safe => absurd (safe signedIn) (Nat.not_lt.mpr beyond))
  · exact iff_of_false (running_not_crashed next (status.trans running)) (not_not.mpr inRange)

theorem upload_crashes_iff (client next : Client) (me : ClientId) (k : Nat) (upload : Upload) (event : UploadEvent)
    (childRef : MsgId) (seconds : Int) (out : List Output) (kept : client.ChatsKept) (running : client.status = .running)
    (found : client.uploads[k]? = some upload)
    (stepped : client.uploadStep me k upload event childRef seconds = some (next, out)) :
    next.Crashed ↔ ¬ (ClientAct.upload k event childRef seconds).Safe client := by
  -- A step that does not post goes on, and asks for nothing.
  have goes (later : Client) (status : later.status = client.status)
      (safe : (ClientAct.upload k event childRef seconds).Safe client) :
      later.Crashed ↔ ¬ (ClientAct.upload k event childRef seconds).Safe client :=
    iff_of_false (running_not_crashed later (status.trans running)) (not_not.mpr safe)
  unfold Client.uploadStep at stepped
  split at stepped
  · cases stepped; exact goes _ rfl trivial
  · cases stepped; exact goes _ rfl trivial
  · cases stepped; exact goes _ rfl trivial
  · rename_i completion imageUrl waiting
    have opened := (kept.uploads upload (List.mem_of_getElem? found)).1
    have after := chats_kept_same client (client.endUpload k) kept rfl (fun _ member => List.mem_of_mem_eraseIdx member)
    have posts := post_crashes_iff (client.endUpload k) next me .completion upload.chat upload.origin childRef seconds _ out
      after opened running (Option.some.inj stepped)
    refine posts.trans (not_congr ⟨fun able other arrived here there => ?_, fun safe => ?_⟩)
    · cases found.symm.trans here
      cases waiting.symm.trans there
      exact able
    · exact safe upload completion found waiting
  · cases stepped; exact goes _ rfl trivial
  · cases stepped; exact goes _ rfl trivial
  · cases stepped; exact goes _ rfl trivial
  · rename_i encodes _
    cases stepped
    cases encodes <;> exact goes _ rfl trivial
  · cases stepped

theorem act_crashes_iff (me : ClientId) (db : Database) (act : ClientAct) (client next : Client) (out : List Output)
    (kept : client.ChatsKept) (dated : client.list.Dated) (running : client.status = .running)
    (acted : client.act me db act = some (next, out)) : next.Crashed ↔ ¬ act.Safe client := by
  have goes (later : Client) (status : later.status = client.status) (safe : act.Safe client) :
      later.Crashed ↔ ¬ act.Safe client :=
    iff_of_false (running_not_crashed later (status.trans running)) (not_not.mpr safe)
  cases act with
  | signIn uid => cases acted; exact goes _ rfl trivial
  | signOut => cases acted; exact goes _ rfl trivial
  | showChatControllerForUser id profile => cases acted; exact goes _ rfl trivial
  | setupNavbarWithUser => cases acted; exact goes _ rfl trivial
  | childRemoved key => cases acted; exact goes _ rfl trivial
  | stop =>
      cases acted
      exact iff_of_false (fun given => by obtain ⟨site, trap, same⟩ := given; cases same) (not_not.mpr trivial)
  | sendMessage chat text childRef seconds =>
      simp only [Client.act] at acted
      split at acted
      · rename_i opened
        exact post_crashes_iff client next me .tap chat _ childRef seconds _ out kept opened running (Option.some.inj acted)
      · cases acted
  | pickImage chat selectedImage encodes =>
      simp only [Client.act] at acted
      split at acted
      · cases acted
        cases encodes <;> exact goes _ rfl trivial
      · cases acted
  | pickVideo chat =>
      simp only [Client.act] at acted
      split at acted
      · cases acted; exact goes _ rfl trivial
      · cases acted
  | upload k event childRef seconds =>
      simp only [Client.act] at acted
      split at acted
      · cases acted
      · rename_i upload found
        exact upload_crashes_iff client next me k upload event childRef seconds out kept running found acted
  | timerFires values =>
      simp only [Client.act] at acted
      split at acted
      · rename_i fires
        obtain ⟨list, fired, _⟩ := fire_dated client values dated fires.2
        cases acted
        rw [fired]
        exact goes _ rfl trivial
      · cases acted
  | cellForRow row =>
      cases acted
      exact cell_for_row_crashes_iff client row running
  | didSelectRow row =>
      cases acted
      exact did_select_row_crashes_iff client row running
  | swipeDelete row =>
      simp only [Client.act, Option.some.injEq] at acted
      exact swipe_crashes_iff client next me row out running acted
  | complete k =>
      simp only [Client.act] at acted
      split at acted
      · cases acted
      · rename_i completion _
        have ran := Option.some.inj acted
        cases completion with
        | message send accepted => cases accepted <;> cases ran <;> exact goes _ rfl trivial
        | removed partner accepted => cases ran; exact goes _ rfl trivial
  | childAdded entry =>
      simp only [Client.act] at acted
      split at acted
      · cases acted; exact goes _ rfl trivial
      · cases acted
  | value k =>
      simp only [Client.act] at acted
      split at acted
      · cases acted
      · cases acted; exact goes _ rfl trivial

structure Upright (s : System) (seen : List Output) : Prop where
  ledger : Ledger s seen
  chats : ∀ me, (s.clients me).ChatsKept
  dated : ∀ me, (s.clients me).list.Dated

theorem upright_initial : Upright System.initial [] where
  ledger := ledger_initial
  chats := fun me => ⟨by simp [System.initial], by simp [System.initial]⟩
  dated := fun me key message found => by cases found

theorem upright_step (s : System) (seen : List Output) (action : Action) (next : System) (out : List Output)
    (upright : Upright s seen) (stepped : System.machine.step s action = some (next, out)) :
    Upright next (seen ++ out) := by
  refine ⟨ledger_step s seen action next out upright.ledger stepped,
    chats_kept_step s action next out upright.chats stepped, ?_⟩
  obtain ⟨me, act, client, rfl, _, _, acted, rfl⟩ | ⟨me, k, accepted, write, rfl, _, rfl, rfl⟩ :=
    system_step_cases s next action out stepped
  · exact (Function.forall_update_iff s.clients (p := fun _ c => c.list.Dated)).mpr
      ⟨act_dated me s.db act _ client out (upright.dated me) (ledger_timed s seen upright.ledger) acted,
        fun other _ => upright.dated other⟩
  · exact (Function.forall_update_iff s.clients (p := fun _ c => c.list.Dated)).mpr
      ⟨upright.dated me, fun other _ => upright.dated other⟩

def System.Crashed (s : System) : Prop := ∃ me, (s.clients me).Crashed

theorem crash_marks (s : System) (seen : List Output) (action : Action) (next : System) (out : List Output)
    (upright : Upright s seen) (missed : ¬ s.Safe action)
    (stepped : System.machine.step s action = some (next, out)) : next.Crashed := by
  obtain ⟨me, act, client, rfl, running, _, acted, rfl⟩ | ⟨me, k, accepted, write, rfl, _⟩ :=
    system_step_cases s next action out stepped
  · refine ⟨me, ?_⟩
    simp only [Function.update_self]
    exact (act_crashes_iff me s.db act _ client out (upright.chats me) (upright.dated me) running acted).mpr missed
  · exact absurd trivial missed

theorem crash_persists (s : System) (action : Action) (next : System) (out : List Output) (crashed : s.Crashed)
    (stepped : System.machine.step s action = some (next, out)) : next.Crashed := by
  obtain ⟨other, crash⟩ := crashed
  refine ⟨other, ?_⟩
  obtain ⟨me, act, client, rfl, running, _, acted, rfl⟩ | ⟨me, k, accepted, write, rfl, _, rfl, rfl⟩ :=
    system_step_cases s next action out stepped
  · by_cases same : other = me
    · subst other
      exact absurd crash (running_not_crashed _ running)
    · simpa only [Function.update_of_ne same] using crash
  · by_cases same : other = me
    · subst other
      simp only [Function.update_self]
      exact crash
    · simpa only [Function.update_of_ne same] using crash

theorem safe_step_runs_on (s : System) (seen : List Output) (action : Action) (next : System) (out : List Output)
    (upright : Upright s seen) (fine : ¬ s.Crashed) (safe : s.Safe action)
    (stepped : System.machine.step s action = some (next, out)) : ¬ next.Crashed := by
  intro crashed
  obtain ⟨other, crash⟩ := crashed
  obtain ⟨me, act, client, rfl, running, _, acted, rfl⟩ | ⟨me, k, accepted, write, rfl, _, rfl, rfl⟩ :=
    system_step_cases s next action out stepped
  · by_cases same : other = me
    · subst other
      simp only [Function.update_self] at crash
      exact (act_crashes_iff me s.db act _ client out (upright.chats me) (upright.dated me) running acted).mp crash safe
    · exact fine ⟨other, by simpa only [Function.update_of_ne same] using crash⟩
  · by_cases same : other = me
    · subst other
      simp only [Function.update_self] at crash
      exact fine ⟨me, crash⟩
    · exact fine ⟨other, by simpa only [Function.update_of_ne same] using crash⟩

-- The traps of sending and of the conversation list: the chat's user is never
-- nil, and every message that reaches a list can be sorted.
theorem no_client_crashes_iff (actions : List Action) (s : System) (out : List Output)
    (ran : System.machine.run System.initial actions = some (s, out)) :
    (∀ me site trap, (s.clients me).status ≠ .crashed site trap) ↔
      System.machine.Along System.Safe System.initial actions := by
  have none_crashed : (∀ me site trap, (s.clients me).status ≠ .crashed site trap) ↔ ¬ s.Crashed :=
    ⟨fun every given => given.elim fun me crash => crash.elim fun site trapped => trapped.elim (every me site),
      fun fine me site trap same => fine ⟨me, site, trap, same⟩⟩
  have start : ¬ System.initial.Crashed := by
    intro given
    obtain ⟨me, site, trap, same⟩ := given
    cases same
  rw [none_crashed]
  constructor
  · intro fine
    exact Machine.along_of_unmarked System.machine Upright (fun s _ => s.Crashed) System.Safe upright_step crash_marks
      (fun s _ action next later _ crashed stepped => crash_persists s action next later crashed stepped) actions
      System.initial s [] out upright_initial ran fine
  · intro along
    exact (Machine.history_along System.machine (fun s seen => Upright s seen ∧ ¬ s.Crashed) System.Safe
      (fun s seen action next later holds safe stepped => ⟨upright_step s seen action next later holds.1 stepped,
        safe_step_runs_on s seen action next later holds.1 holds.2 safe stepped⟩)
      actions System.initial s out ⟨upright_initial, start⟩ along ran).2

theorem no_client_crashes_picture :
    ∃ s out, System.machine.run System.initial pictureInOneSession = some (s, out) ∧
      ∀ me site trap, (s.clients me).status ≠ .crashed site trap := by
  refine ⟨_, _, rfl, (no_client_crashes_iff pictureInOneSession _ _ rfl).mpr ?_⟩
  refine Machine.along_append _ _ pictureStored _ _ _ _ rfl (Machine.along_of_forall _ _ _ (fun s act member => ?_) _) ?_
  · simp only [pictureStored, List.mem_cons, List.not_mem_nil, or_false] at member
    rcases member with rfl | rfl | rfl | rfl <;> trivial
  · refine ⟨fun upload completion found waiting => ?_, fun _ _ _ => trivial⟩
    cases found
    cases waiting
    refine ⟨by decide, fun toId fromId named signedIn => ?_⟩
    cases named
    cases signedIn
    decide

end FirChat
