import FirChat.Integrity

set_option autoImplicit false

namespace FirChat

-- The sender is read in the download-URL block, long after the picture was
-- picked. Nothing is sent when Firebase refuses the record, as that of a video.
def ClientAct.SenderStays (client : Client) : ClientAct → Prop
  | .upload k (.url (some imageUrl)) _ seconds =>
      ∀ chat completion origin, client.uploads[k]? = some ⟨chat, .downloadURL completion, origin⟩ →
        client.currentUser ≠ none ∧
          (client.Storable chat seconds (completion.properties imageUrl) → client.currentUser = origin.initiator)
  | _ => True

def SenderStays (s : System) : Action → Prop
  | .client me act => act.SenderStays (s.clients me)
  | .verdict _ _ _ => True

-- Every message record and both of its index entries carry the two ids that
-- held when the send was started, and no completion died for want of a user.
def SentAsComposed (s : System) (out : List Output) : Prop :=
  (∀ me send origin, .composed me send origin ∈ out →
    ∃ u v, origin.initiator = some u ∧ origin.chatUser = some v ∧ send.values.lookup "fromId" = some (.string u) ∧
      send.values.lookup "toId" = some (.string v) ∧
      (∀ other sent, .issued other (.senderIndex sent) ∈ out → sent.id = send.id → sent.senderEntry = ⟨u, v, send.id⟩) ∧
      (∀ other sent, .issued other (.recipientIndex sent) ∈ out → sent.id = send.id →
        sent.recipientEntry = ⟨v, u, send.id⟩)) ∧
  (∀ me, (s.clients me).status ≠ .crashed .completion .currentUserIsNil)

structure Client.ChatsKept (client : Client) : Prop where
  named : ∀ user ∈ client.chats, user.id ≠ none
  uploads : ∀ upload ∈ client.uploads,
    upload.chat < client.chats.length ∧ upload.origin.chatUser = client.chatUser upload.chat

theorem chat_user_some (client : Client) (kept : client.ChatsKept) (chat : Nat) (opened : chat < client.chats.length) :
    ∃ toId, client.chatUser chat = some toId := by
  have member : client.chats[chat] ∈ client.chats := List.getElem_mem opened
  obtain ⟨toId, named⟩ := Option.ne_none_iff_exists'.mp (kept.named _ member)
  exact ⟨toId, by simp [Client.chatUser, List.getElem?_eq_getElem opened, named]⟩

theorem post_signed_out (client : Client) (me : ClientId) (site : Site) (chat : Nat) (origin : Origin)
    (childRef : MsgId) (seconds : Int) (properties : Dictionary) (toId : Uid)
    (named : client.chatUser chat = some toId) (signedOut : client.currentUser = none) :
    client.post me site chat origin childRef seconds properties =
      ({ client with status := .crashed site .currentUserIsNil }, []) := by
  have user : client.chats[chat]?.bind User.id = some toId := named
  simp only [Client.post, sendMessageWithProperties, user, signedOut]

theorem post_composes (client next : Client) (me : ClientId) (site : Site) (chat : Nat) (origin : Origin)
    (childRef : MsgId) (seconds : Int) (properties : Dictionary) (toId fromId : Uid) (out : List Output)
    (named : client.chatUser chat = some toId) (signedIn : client.currentUser = some fromId)
    (stored : storable (messageValues toId fromId seconds properties) = true)
    (posted : client.post me site chat origin childRef seconds properties = (next, out)) :
    ∃ send, out = [.composed me send origin] ∧ send.fromId = fromId := by
  have user : client.chats[chat]?.bind User.id = some toId := named
  simp only [Client.post, sendMessageWithProperties, user, signedIn, stored, if_true] at posted
  cases posted
  exact ⟨_, rfl, rfl⟩

theorem post_storable (client next : Client) (me : ClientId) (site : Site) (chat : Nat) (origin : Origin)
    (childRef : MsgId) (seconds : Int) (properties : Dictionary) (out : List Output)
    (posted : client.post me site chat origin childRef seconds properties = (next, out)) (sends : out ≠ []) :
    client.Storable chat seconds properties := by
  intro toId fromId named signedIn
  have user : client.chats[chat]?.bind User.id = some toId := named
  by_contra refused
  simp only [Client.post, sendMessageWithProperties, user, signedIn, if_neg refused] at posted
  cases posted
  exact sends rfl

theorem post_sends (client next : Client) (me : ClientId) (site : Site) (chat : Nat) (origin : Origin)
    (childRef : MsgId) (seconds : Int) (properties : Dictionary) (out : List Output) (kept : client.ChatsKept)
    (opened : chat < client.chats.length) (signedIn : client.currentUser ≠ none)
    (stored : client.Storable chat seconds properties)
    (posted : client.post me site chat origin childRef seconds properties = (next, out)) : out ≠ [] := by
  obtain ⟨toId, named⟩ := chat_user_some client kept chat opened
  obtain ⟨fromId, user⟩ := Option.ne_none_iff_exists'.mp signedIn
  obtain ⟨send, rfl, _⟩ := post_composes client next me site chat origin childRef seconds properties toId fromId out named
    user (stored toId fromId named user) posted
  simp

theorem post_video (client next : Client) (me : ClientId) (site : Site) (chat : Nat) (origin : Origin)
    (childRef : MsgId) (seconds : Int) (downloadUrl imageUrl : String) (thumbnailImage : UIImage) (out : List Output)
    (posted : client.post me site chat origin childRef seconds (videoProperties downloadUrl imageUrl thumbnailImage) =
      (next, out)) : out = [] := by
  by_contra sends
  have stored := post_storable client next me site chat origin childRef seconds _ out posted sends
  rcases post_cases client next me site chat origin childRef seconds _ out posted with ⟨_, _, silent, _⟩ | sent
  · exact sends silent
  · obtain ⟨send, _, _, named, signedIn, _⟩ := sent
    have accepted := stored send.toId send.fromId named signedIn
    exact ((storable_iff send.toId send.fromId seconds (.video downloadUrl imageUrl thumbnailImage)).mp accepted).2.2

theorem chats_kept_of (client next : Client) (kept : client.ChatsKept) (chats : next.chats = client.chats)
    (uploads : ∀ upload ∈ next.uploads, (∃ old ∈ client.uploads, upload.chat = old.chat ∧ upload.origin = old.origin) ∨
      (upload.chat < client.chats.length ∧ upload.origin.chatUser = client.chatUser upload.chat)) : next.ChatsKept := by
  have users (chat : Nat) : next.chatUser chat = client.chatUser chat := by simp only [Client.chatUser, chats]
  constructor
  · rw [chats]
    exact kept.named
  · intro upload member
    rw [chats, users]
    rcases uploads upload member with ⟨old, before, chat, origin⟩ | fresh
    · rw [chat, origin]
      exact kept.uploads old before
    · exact fresh

theorem chats_kept_same (client next : Client) (kept : client.ChatsKept) (chats : next.chats = client.chats)
    (uploads : ∀ upload ∈ next.uploads, upload ∈ client.uploads) : next.ChatsKept :=
  chats_kept_of client next kept chats (fun upload member => Or.inl ⟨upload, uploads upload member, rfl, rfl⟩)

theorem chats_kept_post (client base next : Client) (kept : client.ChatsKept) (chats : base.chats = client.chats)
    (uploads : ∀ upload ∈ base.uploads, upload ∈ client.uploads) (me : ClientId) (site : Site) (chat : Nat)
    (origin : Origin) (childRef : MsgId) (seconds : Int) (properties : Dictionary) (out : List Output)
    (posted : base.post me site chat origin childRef seconds properties = (next, out)) : next.ChatsKept := by
  rcases post_cases base next me site chat origin childRef seconds properties out posted with
    ⟨_, rfl, _⟩ | ⟨_, rfl, _⟩
  · exact chats_kept_same client _ kept chats uploads
  · exact chats_kept_same client _ kept chats uploads

theorem chats_kept_opened (client : Client) (kept : client.ChatsKept) (id : Uid) (profile : User) :
    ({ client with chats := client.chats ++ [{ profile with id := some id }] } : Client).ChatsKept := by
  constructor
  · exact Queue.forall_behind _ client.chats { profile with id := some id } kept.named (by simp)
  · intro upload member
    obtain ⟨opened, user⟩ := kept.uploads upload member
    refine ⟨?_, ?_⟩
    · rw [List.length_append]
      exact Nat.lt_add_right _ opened
    · rw [user]
      simp only [Client.chatUser, List.getElem?_append_left opened]

theorem act_chats_kept (me : ClientId) (db : Database) (act : ClientAct) (client next : Client) (out : List Output)
    (kept : client.ChatsKept) (acted : client.act me db act = some (next, out)) : next.ChatsKept := by
  have erased (k : Nat) : ∀ upload ∈ client.uploads.eraseIdx k, upload ∈ client.uploads :=
    fun _ member => List.mem_of_mem_eraseIdx member
  cases client_act_cases me db act client next out acted with
  | opened id profile => exact chats_kept_opened client kept id profile
  | picked _ chat stage there =>
      refine chats_kept_of client _ kept rfl (fun upload member => ?_)
      rcases List.mem_append.mp member with old | new
      · exact Or.inl ⟨upload, old, rfl, rfl⟩
      · cases List.mem_singleton.mp new
        exact Or.inr ⟨there, rfl⟩
  | moved _ k upload found stage =>
      refine chats_kept_of client _ kept rfl (fun other member => ?_)
      rcases List.mem_or_eq_of_mem_set member with old | rfl
      · exact Or.inl ⟨other, old, rfl, rfl⟩
      · exact Or.inl ⟨upload, List.mem_of_getElem? found, rfl, rfl⟩
  | dropped _ k => exact chats_kept_same client _ kept rfl (erased k)
  | thumbnail _ k upload found stage =>
      refine chats_kept_of client _ kept rfl (fun other member => ?_)
      rcases List.mem_append.mp member with old | new
      · exact Or.inl ⟨other, erased k other old, rfl, rfl⟩
      · cases List.mem_singleton.mp new
        exact Or.inl ⟨upload, List.mem_of_getElem? found, rfl, rfl⟩
  | tapped chat text childRef seconds _ _ posted =>
      exact chats_kept_post client client next kept rfl (fun _ member => member) me .tap chat _ childRef seconds _ out
        posted
  | arrived k chat completion origin imageUrl childRef seconds _ _ _ posted =>
      exact chats_kept_post client (client.endUpload k) next kept rfl (erased k) me .completion chat _ childRef
        seconds _ out posted
  | _ => exact chats_kept_same client _ kept rfl (fun _ member => member)

-- Whoever signs in and out, the chat of a pending upload is that of its start,
-- and an index write follows a composed message.
structure Origins (s : System) (seen : List Output) : Prop where
  chats : ∀ me, (s.clients me).ChatsKept
  composed : ∀ me send origin, .composed me send origin ∈ seen → origin.chatUser = some send.toId
  issued : ∀ me write, .issued me write ∈ seen → Known seen me write

def Strayed (s : System) (seen : List Output) : Prop :=
  (∃ me send origin, .composed me send origin ∈ seen ∧ origin.initiator ≠ some send.fromId) ∨
    (∃ me, (s.clients me).status = .crashed .completion .currentUserIsNil)

theorem act_composed (me : ClientId) (db : Database) (act : ClientAct) (client next : Client) (out : List Output)
    (kept : client.ChatsKept) (acted : client.act me db act = some (next, out)) (other : ClientId) (send : Send)
    (origin : Origin) (composed : .composed other send origin ∈ out) : origin.chatUser = some send.toId := by
  cases client_act_cases me db act client next out acted with
  | tapped chat text childRef seconds _ _ posted =>
      rcases post_cases _ _ _ _ _ _ _ _ _ _ posted with ⟨_, _, rfl, _⟩ | ⟨sent, _, rfl, user, _⟩
      · cases composed
      · cases List.mem_singleton.mp composed
        exact user
  | arrived k chat completion start imageUrl childRef seconds _ _ found posted =>
      rcases post_cases _ _ _ _ _ _ _ _ _ _ posted with ⟨_, _, rfl, _⟩ | ⟨sent, _, rfl, user, _⟩
      · cases composed
      · cases List.mem_singleton.mp composed
        exact (kept.uploads _ (List.mem_of_getElem? found)).2.trans user
  | dropped _ _ _ silent => cases silent _ composed
  | removed _ _ _ _ _ _ silent => cases silent _ composed
  | _ => simp at composed

theorem act_issued (me : ClientId) (db : Database) (act : ClientAct) (client next : Client) (out : List Output)
    (acted : client.act me db act = some (next, out)) (other : ClientId) (write : Write)
    (issued : .issued other write ∈ out) : other = me ∧ write ∈ next.outbox := by
  cases act_effect me db act client next out acted with
  | quiet _ _ _ _ silent => cases silent _ issued
  | post => simp at issued
  | remove owner partner _ outbox =>
      cases List.mem_singleton.mp issued
      exact ⟨rfl, by simp [outbox]⟩
  | finished k send _ outbox =>
      simp only [List.mem_cons, Output.issued.injEq, List.not_mem_nil, or_false] at issued
      rcases issued with ⟨rfl, rfl⟩ | ⟨rfl, rfl⟩ <;> exact ⟨rfl, by simp [outbox]⟩
  | rejected => simp at issued
  | removed _ _ _ _ _ _ _ _ silent => cases silent _ issued

theorem origins_initial : Origins System.initial [] where
  chats := fun me => ⟨by simp [System.initial], by simp [System.initial]⟩
  composed := by simp
  issued := by simp

theorem origins_step (s : System) (seen : List Output) (action : Action) (next : System) (out : List Output)
    (ledger : Ledger s seen) (origins : Origins s seen) (stepped : System.machine.step s action = some (next, out)) :
    Origins next (seen ++ out) := by
  have after := ledger_step s seen action next out ledger stepped
  obtain ⟨me, act, client, rfl, running, _, acted, rfl⟩ | ⟨me, k, accepted, write, rfl, _, rfl, rfl⟩ :=
    system_step_cases s next action out stepped
  · constructor
    · exact (Function.forall_update_iff s.clients (p := fun _ c => c.ChatsKept)).mpr
        ⟨act_chats_kept me s.db act _ client out (origins.chats me) acted, fun other _ => origins.chats other⟩
    · intro other send origin composed
      rcases List.mem_append.mp composed with old | new
      · exact origins.composed other send origin old
      · exact act_composed me s.db act _ client out (origins.chats me) acted other send origin new
    · intro other write issued
      rcases List.mem_append.mp issued with old | new
      · exact known_mono seen out other write (origins.issued other write old)
      · obtain ⟨rfl, member⟩ := act_issued me s.db act _ client out acted other write new
        exact after.outbox other write (by simpa only [Function.update_self] using member)
  · constructor
    · exact (Function.forall_update_iff s.clients (p := fun _ c => c.ChatsKept)).mpr
        ⟨chats_kept_same (s.clients me) _ (origins.chats me) rfl (fun _ member => member),
          fun other _ => origins.chats other⟩
    · intro other send origin composed
      exact origins.composed other send origin (by simpa using composed)
    · intro other decided issued
      exact known_mono seen _ other decided (origins.issued other decided (by simpa using issued))

theorem history_step (s : System) (seen : List Output) (action : Action) (next : System) (out : List Output)
    (holds : Ledger s seen ∧ Origins s seen) (stepped : System.machine.step s action = some (next, out)) :
    Ledger next (seen ++ out) ∧ Origins next (seen ++ out) :=
  ⟨ledger_step s seen action next out holds.1 stepped, origins_step s seen action next out holds.1 holds.2 stepped⟩

theorem act_stays (me : ClientId) (db : Database) (act : ClientAct) (client next : Client) (out : List Output)
    (running : client.status = .running) (stays : act.SenderStays client)
    (acted : client.act me db act = some (next, out)) :
    next.status ≠ .crashed .completion .currentUserIsNil ∧
      ∀ other send origin, .composed other send origin ∈ out → origin.initiator = some send.fromId := by
  cases client_act_cases me db act client next out acted with
  | tapped chat text childRef seconds _ _ posted =>
      rcases post_cases _ _ _ _ _ _ _ _ _ _ posted with ⟨_, rfl, rfl, _⟩ | ⟨sent, rfl, rfl, _, signedIn, _⟩
      · exact ⟨by simp, by simp⟩
      · refine ⟨by simp [running], fun other send origin composed => ?_⟩
        cases List.mem_singleton.mp composed
        exact signedIn
  | arrived k chat completion start imageUrl childRef seconds _ _ found posted =>
      obtain ⟨somebody, same⟩ := stays chat completion start found
      have stored := post_storable (client.endUpload k) next me .completion chat start childRef seconds _ out posted
      rcases post_cases _ _ _ _ _ _ _ _ _ _ posted with ⟨trap, rfl, rfl, signedOut⟩ | ⟨sent, rfl, rfl, _, signedIn, _⟩
      · exact ⟨fun crashed => somebody (signedOut (by simpa using crashed)), by simp⟩
      · refine ⟨by simp [running, Client.endUpload], fun other send origin composed => ?_⟩
        cases List.mem_singleton.mp composed
        exact (same (stored (by simp))).symm.trans signedIn
  | ended _ status cause => exact ⟨cause, by simp⟩
  | dropped _ _ _ silent =>
      exact ⟨by simp [running, Client.endUpload], fun other send origin composed => by cases silent _ composed⟩
  | removed _ _ _ _ _ _ silent =>
      exact ⟨by simp [running], fun other send origin composed => by cases silent _ composed⟩
  | _ => exact ⟨by simp [running, Client.moveUpload], by simp⟩

theorem act_strays (me : ClientId) (db : Database) (act : ClientAct) (client next : Client) (out : List Output)
    (kept : client.ChatsKept) (missed : ¬ act.SenderStays client) (acted : client.act me db act = some (next, out)) :
    (∃ send origin, .composed me send origin ∈ out ∧ origin.initiator ≠ some send.fromId) ∨
      next.status = .crashed .completion .currentUserIsNil := by
  unfold ClientAct.SenderStays at missed
  split at missed
  · rename_i k imageUrl childRef seconds
    push Not at missed
    obtain ⟨chat, completion, origin, found, strayed⟩ := missed
    simp only [Client.act, found, Client.uploadStep] at acted
    have posted := Option.some.inj acted
    obtain ⟨toId, named⟩ := chat_user_some client kept chat (kept.uploads _ (List.mem_of_getElem? found)).1
    cases signedIn : client.currentUser with
    | none =>
        rw [post_signed_out (client.endUpload k) me .completion chat origin childRef seconds _ toId named signedIn] at posted
        cases posted
        exact Or.inr rfl
    | some fromId =>
        obtain ⟨stored, different⟩ := strayed (signedIn ▸ Option.some_ne_none fromId)
        obtain ⟨send, rfl, sender⟩ := post_composes (client.endUpload k) next me .completion chat origin childRef seconds
          _ toId fromId out named signedIn (stored toId fromId named signedIn) posted
        refine Or.inl ⟨send, origin, by simp, fun same => different ?_⟩
        rw [same, sender, signedIn]
  · exact absurd trivial missed

theorem strayed_marks (s : System) (seen : List Output) (action : Action) (next : System) (out : List Output)
    (holds : Ledger s seen ∧ Origins s seen) (missed : ¬ SenderStays s action)
    (stepped : System.machine.step s action = some (next, out)) : Strayed next (seen ++ out) := by
  obtain ⟨me, act, client, rfl, _, _, acted, rfl⟩ | ⟨me, k, accepted, write, rfl, _, rfl, rfl⟩ :=
    system_step_cases s next action out stepped
  · rcases act_strays me s.db act (s.clients me) client out (holds.2.chats me) missed acted with
      ⟨send, origin, composed, other⟩ | crashed
    · exact Or.inl ⟨me, send, origin, List.mem_append_right seen composed, other⟩
    · exact Or.inr ⟨me, by simpa only [Function.update_self] using crashed⟩
  · exact absurd trivial missed

theorem decided_status (s : System) (me other : ClientId) (k : Nat) (write : Write) (accepted : Bool) :
    (Function.update s.clients me ((s.clients me).decided k write accepted) other).status = (s.clients other).status := by
  by_cases same : other = me
  · subst other
    rw [Function.update_self]
    rfl
  · rw [Function.update_of_ne same]

theorem strayed_persists (s : System) (seen : List Output) (action : Action) (next : System) (out : List Output)
    (strayed : Strayed s seen) (stepped : System.machine.step s action = some (next, out)) :
    Strayed next (seen ++ out) := by
  rcases strayed with ⟨other, send, origin, composed, different⟩ | ⟨other, crashed⟩
  · exact Or.inl ⟨other, send, origin, List.mem_append_left out composed, different⟩
  · refine Or.inr ⟨other, ?_⟩
    obtain ⟨me, act, client, rfl, running, _, _, rfl⟩ | ⟨me, k, accepted, write, rfl, _, rfl, rfl⟩ :=
      system_step_cases s next action out stepped
    · have apart : other ≠ me := by
        intro same
        obtain rfl := same
        rw [crashed] at running
        cases running
      simpa only [Function.update_of_ne apart] using crashed
    · rw [decided_status]
      exact crashed

theorem unstrayed_step (s : System) (seen : List Output) (action : Action) (next : System) (out : List Output)
    (clean : ¬ Strayed s seen) (stays : SenderStays s action)
    (stepped : System.machine.step s action = some (next, out)) : ¬ Strayed next (seen ++ out) := by
  have before (me : ClientId) : (s.clients me).status ≠ .crashed .completion .currentUserIsNil :=
    fun crashed => clean (Or.inr ⟨me, crashed⟩)
  have sent (me : ClientId) (send : Send) (origin : Origin) (composed : .composed me send origin ∈ seen) :
      origin.initiator = some send.fromId := by
    by_contra other
    exact clean (Or.inl ⟨me, send, origin, composed, other⟩)
  obtain ⟨me, act, client, rfl, running, _, acted, rfl⟩ | ⟨me, k, accepted, write, rfl, _, rfl, rfl⟩ :=
    system_step_cases s next action out stepped
  · obtain ⟨status, same⟩ := act_stays me s.db act (s.clients me) client out running stays acted
    intro given
    rcases given with ⟨other, send, origin, composed, different⟩ | ⟨other, crashed⟩
    · rcases List.mem_append.mp composed with old | new
      · exact different (sent other send origin old)
      · exact different (same other send origin new)
    · exact (Function.forall_update_iff s.clients
        (p := fun _ c => c.status ≠ .crashed .completion .currentUserIsNil)).mpr
        ⟨status, fun other _ => before other⟩ other crashed
  · intro given
    rcases given with ⟨other, send, origin, composed, different⟩ | ⟨other, crashed⟩
    · exact different (sent other send origin (by simpa using composed))
    · rw [decided_status] at crashed
      exact before other crashed

theorem sent_as_composed_unstrayed (s : System) (out : List Output) (ledger : Ledger s out) (origins : Origins s out) :
    SentAsComposed s out ↔ ¬ Strayed s out := by
  constructor
  · rintro ⟨sent, alive⟩ (⟨me, send, origin, composed, different⟩ | ⟨me, crashed⟩)
    · obtain ⟨u, _, initiator, _, hasFrom, _⟩ := sent me send origin composed
      obtain ⟨payload, seconds, values⟩ := ledger.values me send origin composed
      have sender := (payload_header send payload seconds values).2.1
      rw [sender] at hasFrom
      cases hasFrom
      exact different initiator
    · exact alive me crashed
  · intro clean
    refine ⟨fun me send origin composed => ?_, fun me crashed => clean (Or.inr ⟨me, crashed⟩)⟩
    obtain ⟨payload, seconds, values⟩ := ledger.values me send origin composed
    obtain ⟨hasTo, hasFrom, _⟩ := payload_header send payload seconds values
    have initiator : origin.initiator = some send.fromId := by
      by_contra other
      exact clean (Or.inl ⟨me, send, origin, composed, other⟩)
    have unique (other : ClientId) (sent : Send) (known : ∃ start, .composed other sent start ∈ out)
        (same : sent.id = send.id) : sent = send :=
      known.elim fun start first => (ledger.once other sent start me send origin first composed same).2
    refine ⟨send.fromId, send.toId, initiator, origins.composed me send origin composed, hasFrom, hasTo, ?_, ?_⟩
    · intro other sent issued same
      rw [unique other sent (origins.issued other _ issued).1 same]
      rfl
    · intro other sent issued same
      rw [unique other sent (origins.issued other _ issued).1 same]
      rfl

theorem sent_as_composed_iff (actions : List Action) (s : System) (out : List Output)
    (ran : System.machine.run System.initial actions = some (s, out)) :
    SentAsComposed s out ↔ System.machine.Along SenderStays System.initial actions := by
  have start : Ledger System.initial [] ∧ Origins System.initial [] := ⟨ledger_initial, origins_initial⟩
  have clean : ¬ Strayed System.initial [] := by simp [Strayed, System.initial]
  obtain ⟨ledger, origins⟩ := Machine.run_history System.machine (fun s seen => Ledger s seen ∧ Origins s seen)
    history_step actions System.initial s out start ran
  rw [sent_as_composed_unstrayed s out ledger origins]
  constructor
  · intro unmarked
    exact Machine.along_of_unmarked System.machine (fun s seen => Ledger s seen ∧ Origins s seen) Strayed SenderStays
      history_step strayed_marks (fun s seen action next later _ => strayed_persists s seen action next later)
      actions System.initial s [] out start ran unmarked
  · intro along
    exact Machine.history_along System.machine (fun s seen => ¬ Strayed s seen) SenderStays
      unstrayed_step actions System.initial s out clean along ran

def pictureStored : List Action :=
  [.client 0 (.signIn "ann"), .client 0 (.showChatControllerForUser "bob" {}),
    .client 0 (.pickImage 0 ⟨⟨100, 200⟩, by decide, by decide⟩ true), .client 0 (.upload 0 .stored "-K0" 0)]

-- ann picks a picture in bob's chat, signs out during the upload, and carl signs in.
def pictureAcrossSessions : List Action :=
  pictureStored ++ [.client 0 .signOut, .client 0 (.signIn "carl"),
    .client 0 (.upload 0 (.url (some "https://img/1")) "-M1" 1600000000)]

theorem picture_is_sent_by_carl :
    ∃ s send, System.machine.run System.initial pictureAcrossSessions =
        some (s, [.composed 0 send ⟨some "ann", some "bob"⟩]) ∧
      send.values.lookup "fromId" = some (.string "carl") ∧
      ¬ SentAsComposed s [.composed 0 send ⟨some "ann", some "bob"⟩] := by
  refine ⟨_, _, rfl, rfl, fun sent => ?_⟩
  obtain ⟨u, _, initiator, _, hasFrom, _⟩ := sent.1 0 _ ⟨some "ann", some "bob"⟩ (List.mem_singleton.mpr rfl)
  obtain rfl : "ann" = u := Option.some.inj initiator
  exact absurd hasFrom (by decide)

def pictureInOneSession : List Action :=
  pictureStored ++ [.client 0 (.upload 0 (.url (some "https://img/1")) "-M1" 1600000000)]

theorem sent_as_composed_picture :
    ∃ s out, System.machine.run System.initial pictureInOneSession = some (s, out) ∧ SentAsComposed s out := by
  refine ⟨_, _, rfl, (sent_as_composed_iff pictureInOneSession _ _ rfl).mpr ?_⟩
  refine Machine.along_append _ _ pictureStored _ _ _ _ rfl (Machine.along_of_forall _ _ _ (fun s act member => ?_) _) ?_
  · simp only [pictureStored, List.mem_cons, List.not_mem_nil, or_false] at member
    rcases member with rfl | rfl | rfl | rfl <;> trivial
  · refine ⟨fun chat completion origin found => ?_, fun _ _ _ => trivial⟩
    cases found
    exact ⟨by decide, fun _ => rfl⟩

end FirChat
