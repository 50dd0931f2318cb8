import FirChat.Client
import FirChat.Machine
import FirChat.Queue
import Mathlib.Logic.Function.Basic

set_option autoImplicit false

namespace FirChat

-- Any number of clients and the one shared database. keys are the
-- childByAutoId keys handed out so far; a key is never handed out twice.
structure System where
  db : Database
  keys : List MsgId
  clients : ClientId → Client

-- A verdict decides the k-th undecided write of a client, in whatever order
-- the server takes them. Writes of a stopped client may still be decided; a
-- write that is lost with its client is one that is rejected.
inductive Action where
  | client (me : ClientId) (act : ClientAct)
  | verdict (me : ClientId) (k : Nat) (accepted : Bool)

def ClientAct.childRef : ClientAct → Option MsgId
  | .sendMessage _ _ childRef _ => some childRef
  | .upload _ _ childRef _ => some childRef
  | _ => none

def Write.completions (accepted : Bool) : Write → List Completion
  | .message send => [.message send accepted]
  | .senderIndex _ => []
  | .recipientIndex _ => []
  | .remove _ partner => [.removed partner accepted]

namespace Client

def decided (client : Client) (k : Nat) (write : Write) (accepted : Bool) : Client :=
  { client with
    outbox := client.outbox.eraseIdx k
    completions := client.completions ++ write.completions accepted }

end Client

namespace System

def initial : System := ⟨Database.empty, [], fun _ => {}⟩

def step (s : System) : Action → Option (System × List Output)
  | .client me act =>
      if (s.clients me).status = .running ∧ ∀ key ∈ act.childRef, key ∉ s.keys then
        match (s.clients me).act me s.db act with
        | none => none
        | some (client, out) => some (⟨s.db, act.childRef.toList ++ s.keys, Function.update s.clients me client⟩, out)
      else none
  | .verdict me k accepted =>
      match (s.clients me).outbox[k]? with
      | none => none
      | some write =>
          some (⟨if accepted then s.db.apply write else s.db, s.keys,
            Function.update s.clients me ((s.clients me).decided k write accepted)⟩, [.decided me write accepted])

def machine : Machine System Action Output := ⟨step⟩

end System

inductive ClientEffect (me : ClientId) (db : Database) (client : Client) :
    ClientAct → Client → List Output → Prop where
  | signedIn (uid : Uid) : ClientEffect me db client (.signIn uid) { client with currentUser := some uid } []
  | signedOut : ClientEffect me db client .signOut { client with currentUser := none } []
  | opened (id : Uid) (profile : User) :
      ClientEffect me db client (.showChatControllerForUser id profile)
        { client with chats := client.chats ++ [{ profile with id := some id }] } []
  | relisted (act : ClientAct) (list : ChatsList) : ClientEffect me db client act { client with list := list } []
  | ended (act : ClientAct) (status : Status) (cause : status ≠ .crashed .completion .currentUserIsNil) :
      ClientEffect me db client act { client with status := status } []
  | picked (act : ClientAct) (chat : Nat) (stage : Stage) (there : chat < client.chats.length) :
      ClientEffect me db client act
        { client with uploads := client.uploads ++ [⟨chat, stage, client.originOf chat⟩] } []
  | moved (act : ClientAct) (k : Nat) (upload : Upload) (found : client.uploads[k]? = some upload) (stage : Stage) :
      ClientEffect me db client act (client.moveUpload k upload stage) []
  | dropped (act : ClientAct) (k : Nat) (out : List Output) (silent : ∀ output ∈ out, output = .alerted me none) :
      ClientEffect me db client act (client.endUpload k) out
  | thumbnail (act : ClientAct) (k : Nat) (upload : Upload) (found : client.uploads[k]? = some upload) (stage : Stage) :
      ClientEffect me db client act { client with
        uploads := client.uploads.eraseIdx k ++ [⟨upload.chat, stage, upload.origin⟩] } []
  | tapped (chat : Nat) (text : String) (childRef : MsgId) (seconds : Int) (next : Client) (out : List Output)
      (posted : client.post me .tap chat (client.originOf chat) childRef seconds (sendMessage text) = (next, out)) :
      ClientEffect me db client (.sendMessage chat text childRef seconds) next out
  | arrived (k chat : Nat) (completion : ImageCompletion) (origin : Origin) (imageUrl : String) (childRef : MsgId)
      (seconds : Int) (next : Client) (out : List Output)
      (found : client.uploads[k]? = some ⟨chat, .downloadURL completion, origin⟩)
      (posted : (client.endUpload k).post me .completion chat origin childRef seconds (completion.properties imageUrl) =
        (next, out)) :
      ClientEffect me db client (.upload k (.url (some imageUrl)) childRef seconds) next out
  | swiped (row : Nat) (owner partner : Uid) (signedIn : client.currentUser = some owner) :
      ClientEffect me db client (.swipeDelete row) { client with outbox := client.outbox ++ [.remove owner partner] }
        [.issued me (.remove owner partner)]
  | finished (k : Nat) (send : Send) (ready : client.completions[k]? = some (.message send true)) :
      ClientEffect me db client (.complete k)
        { client with
          completions := client.completions.eraseIdx k
          outbox := client.outbox ++ [.senderIndex send, .recipientIndex send] }
        [.issued me (.senderIndex send), .issued me (.recipientIndex send)]
  | rejected (k : Nat) (send : Send) (ready : client.completions[k]? = some (.message send false)) :
      ClientEffect me db client (.complete k) { client with completions := client.completions.eraseIdx k }
        [.alerted me (some send.id)]
  | removed (k : Nat) (partner : Uid) (accepted : Bool) (ready : client.completions[k]? = some (.removed partner accepted))
      (list : ChatsList) (out : List Output) (silent : ∀ output ∈ out, output = .alerted me none) :
      ClientEffect me db client (.complete k)
        { client with completions := client.completions.eraseIdx k, list := list } out
  | followed (entry : Entry) (visible : entry ∈ (client.view db).index) :
      ClientEffect me db client (.childAdded entry) { client with reads := client.reads ++ [entry] } []
  | read (k : Nat) (list : ChatsList) :
      ClientEffect me db client (.value k) { client with reads := client.reads.eraseIdx k, list := list } []

theorem start_image_cases (client : Client) (chat : Nat) (origin : Origin) (completion : ImageCompletion)
    (encodes : Bool) :
    client.startImage chat origin completion encodes = client ∨
      client.startImage chat origin completion encodes =
        { client with uploads := client.uploads ++ [⟨chat, .putData completion, origin⟩] } := by
  cases encodes with
  | false => exact Or.inl rfl
  | true => exact Or.inr rfl

theorem upload_step_cases (me : ClientId) (db : Database) (k : Nat) (upload : Upload) (event : UploadEvent)
    (childRef : MsgId) (seconds : Int) (client next : Client) (out : List Output)
    (found : client.uploads[k]? = some upload)
    (stepped : client.uploadStep me k upload event childRef seconds = some (next, out)) :
    ClientEffect me db client (.upload k event childRef seconds) next out := by
  obtain ⟨chat, stage, origin⟩ := upload
  unfold Client.uploadStep at stepped
  split at stepped
  · cases stepped; exact .dropped _ k _ (by simp)
  · cases stepped; exact .moved _ k _ found _
  · cases stepped; exact .dropped _ k _ (by simp)
  · rename_i completion imageUrl waiting
    obtain rfl : stage = .downloadURL completion := waiting
    exact .arrived k chat completion origin imageUrl childRef seconds next out found (Option.some.inj stepped)
  · cases stepped; exact .moved _ k _ found _
  · cases stepped; exact .dropped _ k _ (by simp)
  · cases stepped; exact .dropped _ k _ (by simp)
  · rename_i downloadUrl thumbnailImage encodes _
    cases stepped
    rcases start_image_cases (client.endUpload k) chat origin (.thumbnail downloadUrl thumbnailImage) encodes with
      unencoded | started
    · rw [unencoded]
      exact .dropped _ k _ (by simp)
    · rw [started]
      exact .thumbnail _ k _ found _
  · cases stepped

theorem client_act_cases (me : ClientId) (db : Database) (act : ClientAct) (client next : Client) (out : List Output)
    (acted : client.act me db act = some (next, out)) : ClientEffect me db client act next out := by
  cases act with
  | signIn uid => cases acted; exact .signedIn uid
  | signOut => cases acted; exact .signedOut
  | setupNavbarWithUser => cases acted; exact .relisted _ _
  | showChatControllerForUser id profile => cases acted; exact .opened id profile
  | childRemoved key => cases acted; exact .relisted _ _
  | stop => cases acted; exact .ended _ _ (by simp)
  | sendMessage chat text childRef seconds =>
      simp only [Client.act] at acted
      split at acted
      · exact .tapped chat text childRef seconds next out (Option.some.inj acted)
      · cases acted
  | pickImage chat selectedImage encodes =>
      simp only [Client.act] at acted
      split at acted
      · rename_i there
        cases acted
        rcases start_image_cases client chat (client.originOf chat) (.picked selectedImage) encodes with
          unencoded | started
        · rw [unencoded]
          exact .relisted _ client.list
        · rw [started]
          exact .picked _ chat _ there
      · cases acted
  | pickVideo chat =>
      simp only [Client.act] at acted
      split at acted
      · rename_i there
        cases acted
        exact .picked _ chat _ there
      · cases acted
  | upload k event childRef seconds =>
      simp only [Client.act] at acted
      split at acted
      · cases acted
      · rename_i found
        exact upload_step_cases me db k _ event childRef seconds client next out found acted
  | timerFires values =>
      simp only [Client.act] at acted
      split at acted
      · cases acted
        unfold Client.fire
        split
        · rename_i trap failed
          rw [handle_reload_data_trap _ _ _ failed]
          exact .ended _ _ (by simp)
        · exact .relisted _ _
      · cases acted
  | cellForRow row =>
      cases acted
      unfold Client.cellForRow
      split
      · exact .ended _ _ (by simp)
      · exact .relisted _ client.list
  | didSelectRow row =>
      cases acted
      unfold Client.didSelectRow
      split
      · rename_i trap failed
        rw [(did_select_row_trap client.currentUser row client.list trap failed).1]
        exact .ended _ _ (by simp)
      · exact .relisted _ client.list
  | swipeDelete row =>
      simp only [Client.act, Option.some.injEq] at acted
      unfold Client.swipe at acted
      split at acted
      · cases acted; exact .ended _ _ (by simp)
      · cases acted; exact .relisted _ client.list
      · rename_i owner partner removed
        cases acted
        exact .swiped row owner partner (commit_delete_owner client.currentUser row client.list owner partner removed)
  | complete k =>
      simp only [Client.act] at acted
      split at acted
      · cases acted
      · rename_i completion ready
        have ran := Option.some.inj acted
        cases completion with
        | message send accepted =>
            cases accepted with
            | true => cases ran; exact .finished k send ready
            | false => cases ran; exact .rejected k send ready
        | removed partner accepted =>
            cases ran
            exact .removed k partner accepted ready _ _ (by cases accepted <;> simp)
  | childAdded entry =>
      simp only [Client.act] at acted
      split at acted
      · rename_i visible
        cases acted
        exact .followed entry visible
      · cases acted
  | value k =>
      simp only [Client.act] at acted
      split at acted
      · cases acted
      · cases acted
        exact .read k _

theorem send_message_spec (user : Option User) (currentUser : Option Uid) (childRef : MsgId) (seconds : Int)
    (properties : Dictionary) (send : Send)
    (sent : sendMessageWithProperties user currentUser childRef seconds properties = .ok send) :
    user.bind User.id = some send.toId ∧ currentUser = some send.fromId ∧ send.id = childRef ∧
      send.values = messageValues send.toId send.fromId seconds properties := by
  unfold sendMessageWithProperties at sent
  split at sent
  · cases sent
  · rename_i toId named
    split at sent
    · cases sent
    · rename_i fromId
      dsimp only at sent
      split at sent
      · cases sent
        exact ⟨named, rfl, rfl, rfl⟩
      · cases sent

theorem send_message_trap (user : Option User) (currentUser : Option Uid) (childRef : MsgId) (seconds : Int)
    (properties : Dictionary)
    (failed : sendMessageWithProperties user currentUser childRef seconds properties = .error .currentUserIsNil) :
    currentUser = none := by
  unfold sendMessageWithProperties at failed
  cases currentUser with
  | none => rfl
  | some fromId =>
      split at failed
      · cases failed
      · dsimp only at failed
        split at failed <;> cases failed

theorem post_cases (client next : Client) (me : ClientId) (site : Site) (chat : Nat) (origin : Origin)
    (childRef : MsgId) (seconds : Int) (properties : Dictionary) (out : List Output)
    (posted : client.post me site chat origin childRef seconds properties = (next, out)) :
    (∃ trap, next = { client with status := .crashed site trap } ∧ out = [] ∧
      (trap = .currentUserIsNil → client.currentUser = none)) ∨
    (∃ send, next = { client with outbox := client.outbox ++ [.message send] } ∧ out = [.composed me send origin] ∧
      client.chatUser chat = some send.toId ∧ client.currentUser = some send.fromId ∧ send.id = childRef ∧
      send.values = messageValues send.toId send.fromId seconds properties) := by
  unfold Client.post at posted
  split at posted
  · rename_i trap failed
    cases posted
    exact Or.inl ⟨trap, rfl, rfl, fun same => send_message_trap _ _ _ _ _ (same ▸ failed)⟩
  · rename_i send sent
    cases posted
    exact Or.inr ⟨send, rfl, rfl, send_message_spec _ _ _ _ _ _ sent⟩

theorem swipe_cases (client next : Client) (me : ClientId) (row : Nat) (out : List Output)
    (swiped : client.swipe me row = (next, out)) :
    (client.currentUser ≠ none ∧ client.list.messages.length ≤ row ∧
      next = { client with status := .crashed .tap .indexOutOfRange }) ∨
    ((client.currentUser ≠ none → row < client.list.messages.length) ∧ next.status = client.status ∧
      ∀ write ∈ next.outbox, write ∈ client.outbox ∨ ∃ owner partner message, write = .remove owner partner ∧
        client.currentUser = some owner ∧ client.list.messages[row]? = some message ∧
        message.partenerId (some owner) = some partner) := by
  unfold Client.swipe at swiped
  cases user : client.currentUser with
  | none =>
      simp only [ChatsList.commitDelete, user] at swiped
      cases swiped
      exact Or.inr ⟨fun signedIn => absurd rfl signedIn, rfl, fun write pending => Or.inl pending⟩
  | some owner =>
      simp only [ChatsList.commitDelete, user] at swiped
      cases here : client.list.messages[row]? with
      | none =>
          simp only [here] at swiped
          cases swiped
          exact Or.inl ⟨Option.some_ne_none owner, List.getElem?_eq_none_iff.mp here, rfl⟩
      | some message =>
          have inRange := (List.getElem?_eq_some_iff.mp here).1
          simp only [here] at swiped
          cases named : message.partenerId (some owner) with
          | none =>
              simp only [named, Option.map_none] at swiped
              cases swiped
              exact Or.inr ⟨fun _ => inRange, rfl, fun write pending => Or.inl pending⟩
          | some partner =>
              simp only [named, Option.map_some] at swiped
              cases swiped
              refine Or.inr ⟨fun _ => inRange, rfl, fun write pending => ?_⟩
              rcases List.mem_append.mp pending with old | new
              · exact Or.inl old
              · exact Or.inr ⟨owner, partner, message, List.mem_singleton.mp new, rfl, rfl, named⟩

-- What an action does to the client's writes, its completion blocks and the
-- index entries it follows: all that the database and the history depend on.
inductive Effect (me : ClientId) (db : Database) (act : ClientAct) (client next : Client) : List Output → Prop where
  | quiet (out : List Output) (outbox : next.outbox = client.outbox) (completions : next.completions = client.completions)
      (reads : ∀ entry ∈ next.reads, entry ∈ client.reads ∨ entry ∈ (client.view db).index)
      (silent : ∀ output ∈ out, output = .alerted me none) : Effect me db act client next out
  | post (send : Send) (origin : Origin) (payload : Payload) (seconds : Int) (key : act.childRef = some send.id)
      (sender : client.currentUser = some send.fromId)
      (values : send.values = messageValues send.toId send.fromId seconds payload.properties)
      (outbox : next.outbox = client.outbox ++ [.message send]) (completions : next.completions = client.completions)
      (reads : next.reads = client.reads) : Effect me db act client next [.composed me send origin]
  | remove (owner partner : Uid) (signedIn : client.currentUser = some owner)
      (outbox : next.outbox = client.outbox ++ [.remove owner partner])
      (completions : next.completions = client.completions) (reads : next.reads = client.reads) (row : Nat)
      (swiped : act = .swipeDelete row) : Effect me db act client next [.issued me (.remove owner partner)]
  | finished (k : Nat) (send : Send) (ready : client.completions[k]? = some (.message send true))
      (outbox : next.outbox = client.outbox ++ [.senderIndex send, .recipientIndex send])
      (completions : next.completions = client.completions.eraseIdx k) (reads : next.reads = client.reads) :
      Effect me db act client next [.issued me (.senderIndex send), .issued me (.recipientIndex send)]
  | rejected (k : Nat) (send : Send) (ready : client.completions[k]? = some (.message send false))
      (outbox : next.outbox = client.outbox) (completions : next.completions = client.completions.eraseIdx k)
      (reads : next.reads = client.reads) : Effect me db act client next [.alerted me (some send.id)]
  | removed (k : Nat) (partner : Uid) (accepted : Bool) (out : List Output)
      (ready : client.completions[k]? = some (.removed partner accepted)) (outbox : next.outbox = client.outbox)
      (completions : next.completions = client.completions.eraseIdx k) (reads : next.reads = client.reads)
      (silent : ∀ output ∈ out, output = .alerted me none) : Effect me db act client next out

theorem post_effect (me : ClientId) (db : Database) (act : ClientAct) (base client next : Client) (site : Site)
    (chat : Nat) (origin : Origin) (childRef : MsgId) (seconds : Int) (payload : Payload) (out : List Output)
    (key : act.childRef = some childRef) (outbox : base.outbox = client.outbox)
    (completions : base.completions = client.completions) (reads : base.reads = client.reads)
    (signedIn : base.currentUser = client.currentUser)
    (posted : base.post me site chat origin childRef seconds payload.properties = (next, out)) :
    Effect me db act client next out := by
  obtain ⟨trap, rfl, rfl, _⟩ | ⟨send, rfl, rfl, _, sender, same, values⟩ :=
    post_cases base next me site chat origin childRef seconds payload.properties out posted
  · exact .quiet _ outbox completions (fun entry member => Or.inl (reads ▸ member)) (by simp)
  · exact .post send origin payload seconds (by rw [key, same]) (signedIn ▸ sender) values
      (by simp only [outbox]) completions reads

theorem act_effect (me : ClientId) (db : Database) (act : ClientAct) (client next : Client) (out : List Output)
    (acted : client.act me db act = some (next, out)) : Effect me db act client next out := by
  cases client_act_cases me db act client next out acted with
  | tapped chat text childRef seconds _ _ posted =>
      exact post_effect me db _ client client next .tap chat (client.originOf chat) childRef seconds (.text text) out
        rfl rfl rfl rfl rfl posted
  | arrived k chat completion origin imageUrl childRef seconds _ _ _ posted =>
      cases completion with
      | picked selectedImage =>
          exact post_effect me db _ (client.endUpload k) client next .completion chat origin childRef seconds
            (.image imageUrl selectedImage) out rfl rfl rfl rfl rfl posted
      | thumbnail downloadUrl thumbnailImage =>
          exact post_effect me db _ (client.endUpload k) client next .completion chat origin childRef seconds
            (.video downloadUrl imageUrl thumbnailImage) out rfl rfl rfl rfl rfl posted
  | swiped row owner partner signedIn => exact .remove owner partner signedIn rfl rfl rfl row rfl
  | finished k send ready => exact .finished k send ready rfl rfl rfl
  | rejected k send ready => exact .rejected k send ready rfl rfl rfl
  | removed k partner accepted ready list _ silent => exact .removed k partner accepted _ ready rfl rfl rfl silent
  | dropped _ k _ silent => exact .quiet _ rfl rfl (fun _ member => Or.inl member) silent
  | followed entry visible =>
      refine .quiet _ rfl rfl (fun other member => ?_) (by simp)
      rcases List.mem_append.mp member with old | fresh
      · exact Or.inl old
      · exact Or.inr (List.mem_singleton.mp fresh ▸ visible)
  | read k list => exact .quiet _ rfl rfl (fun _ member => Or.inl (List.mem_of_mem_eraseIdx member)) (by simp)
  | _ => exact .quiet _ rfl rfl (fun _ member => Or.inl member) (by simp)

theorem system_step_cases (s next : System) (action : Action) (out : List Output)
    (stepped : s.step action = some (next, out)) :
    (∃ me act client, action = .client me act ∧ (s.clients me).status = .running ∧
      (∀ key ∈ act.childRef, key ∉ s.keys) ∧ (s.clients me).act me s.db act = some (client, out) ∧
      next = ⟨s.db, act.childRef.toList ++ s.keys, Function.update s.clients me client⟩) ∨
    (∃ me k accepted write, action = .verdict me k accepted ∧ (s.clients me).outbox[k]? = some write ∧
      next = ⟨if accepted then s.db.apply write else s.db, s.keys,
        Function.update s.clients me ((s.clients me).decided k write accepted)⟩ ∧
      out = [.decided me write accepted]) := by
  cases action with
  | client me act =>
      simp only [System.step] at stepped
      split at stepped
      · rename_i ready
        split at stepped
        · cases stepped
        · rename_i client later acted
          cases stepped
          exact Or.inl ⟨me, act, client, rfl, ready.1, ready.2, acted, rfl⟩
      · cases stepped
  | verdict me k accepted =>
      simp only [System.step] at stepped
      split at stepped
      · cases stepped
      · rename_i write waiting
        cases stepped
        exact Or.inr ⟨me, k, accepted, write, rfl, waiting, rfl, rfl⟩

end FirChat
