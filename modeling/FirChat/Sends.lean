import FirChat.Composer
import FirChat.Credit
import FirChat.Draft

set_option autoImplicit false

namespace FirChat

-- What tells a text or a picture apart in its record; of a picture's sides the
-- record has the height alone.
inductive Content where
  | text (text : String)
  | picture (height : ℚ)
deriving DecidableEq

def Send.content (send : Send) : Option Content :=
  match send.values.lookup "text" with
  | some (.string text) => some (.text text)
  | _ =>
      match send.values.lookup "imageHeight" with
      | some (.number height) => some (.picture height)
      | _ => none

def Stage.content : Stage → Option Content
  | .putData (.picked selectedImage) => some (.picture selectedImage.size.height)
  | .downloadURL (.picked selectedImage) => some (.picture selectedImage.size.height)
  | _ => none

structure Errand where
  me : ClientId
  origin : Origin
  content : Content

namespace Errand

def isPosted (errand : Errand) : Output → Bool
  | .composed me send origin => me = errand.me ∧ origin = errand.origin ∧ send.content = some errand.content
  | _ => false

def isUploading (errand : Errand) (upload : Upload) : Bool :=
  upload.origin = errand.origin ∧ upload.stage.content = some errand.content

def posted (errand : Errand) (seen : List Output) : Nat := seen.countP errand.isPosted

def uploading (errand : Errand) (client : Client) : Nat := client.uploads.countP errand.isUploading

def startedIn (errand : Errand) (me : ClientId) (client : Client) : ClientAct → Nat
  | .sendMessage chat text _ _ =>
      if me = errand.me ∧ client.originOf chat = errand.origin ∧ .text text = errand.content then 1 else 0
  | .pickImage chat selectedImage _ =>
      if me = errand.me ∧ client.originOf chat = errand.origin ∧
        .picture selectedImage.size.height = errand.content then 1 else 0
  | _ => 0

def startedBy (errand : Errand) (s : System) : Action → Nat
  | .client me act => errand.startedIn me (s.clients me) act
  | .verdict _ _ _ => 0

end Errand

-- No picture fails to encode or to upload, and every post is by somebody and of
-- a record that Firebase can store.
def ClientAct.Unlost (client : Client) : ClientAct → Prop
  | .sendMessage chat text _ seconds => client.currentUser ≠ none ∧ client.Storable chat seconds (FirChat.sendMessage text)
  | .pickImage _ _ encodes => encodes = true
  | .upload _ .failed _ _ => False
  | .upload _ (.url none) _ _ => False
  | .upload k (.url (some imageUrl)) _ seconds => ∀ upload selectedImage, client.uploads[k]? = some upload →
      upload.stage = .downloadURL (.picked selectedImage) →
        client.currentUser ≠ none ∧ client.Storable upload.chat seconds (sendMessageWithImage imageUrl selectedImage)
  | _ => True

def System.Unlost (s : System) : Action → Prop
  | .client me act => act.Unlost (s.clients me)
  | .verdict _ _ _ => True

theorem text_content (send : Send) (seconds : Int) (text : String)
    (values : send.values = messageValues send.toId send.fromId seconds (sendMessage text)) :
    send.content = some (.text text) := by
  have read : send.values.lookup "text" = some (.string text) := by
    rw [values, message_values_text]
    rfl
  rw [Send.content, read]

theorem picture_content (send : Send) (seconds : Int) (imageUrl : String) (selectedImage : UIImage)
    (values : send.values = messageValues send.toId send.fromId seconds (sendMessageWithImage imageUrl selectedImage)) :
    send.content = some (.picture selectedImage.size.height) := by
  have silent : send.values.lookup "text" = none := by
    rw [values, message_values_text]
    rfl
  have height : send.values.lookup "imageHeight" = some (.number selectedImage.size.height) := by
    rw [values, messageValues, merge_lookup]
    rfl
  rw [Send.content, silent, height]

theorem post_counted (errand : Errand) (client next : Client) (me : ClientId) (site : Site) (chat : Nat) (origin : Origin)
    (childRef : MsgId) (seconds : Int) (properties : Dictionary) (content : Content) (out : List Output)
    (posted : client.post me site chat origin childRef seconds properties = (next, out))
    (carries : ∀ send : Send, send.values = messageValues send.toId send.fromId seconds properties →
      send.content = some content) :
    next.uploads = client.uploads ∧ (out = [] ∨
      errand.posted out = if me = errand.me ∧ origin = errand.origin ∧ content = errand.content then 1 else 0) := by
  rcases post_cases client next me site chat origin childRef seconds properties out posted with
    ⟨_, rfl, rfl, _⟩ | ⟨send, rfl, rfl, _, _, _, values⟩
  · exact ⟨rfl, Or.inl rfl⟩
  · refine ⟨rfl, Or.inr ?_⟩
    rw [Errand.posted, List.countP_singleton, Errand.isPosted, carries send values]
    simp only [Option.some.injEq, decide_eq_true_eq]

def Errand.Balanced (errand : Errand) (me : ClientId) (client next : Client) (act : ClientAct) (out : List Output) : Prop :=
  errand.posted out + errand.uploading next ≤ errand.uploading client + errand.startedIn me client act ∧
    (act.Unlost client →
      errand.posted out + errand.uploading next = errand.uploading client + errand.startedIn me client act)

theorem balanced_of_eq (errand : Errand) (me : ClientId) (client next : Client) (act : ClientAct) (out : List Output)
    (same : errand.posted out + errand.uploading next = errand.uploading client + errand.startedIn me client act) :
    errand.Balanced me client next act out := ⟨Nat.le_of_eq same, fun _ => same⟩

theorem posted_nil (errand : Errand) : errand.posted [] = 0 := rfl

theorem tap_balanced (errand : Errand) (me : ClientId) (client next : Client) (chat : Nat) (text : String)
    (childRef : MsgId) (seconds : Int) (out : List Output) (kept : client.ChatsKept) (opened : chat < client.chats.length)
    (posted : client.post me .tap chat (client.originOf chat) childRef seconds (sendMessage text) = (next, out)) :
    errand.Balanced me client next (.sendMessage chat text childRef seconds) out := by
  obtain ⟨uploads, counted⟩ := post_counted errand client next me .tap chat _ childRef seconds _ (.text text) out posted
    (fun send => text_content send seconds text)
  have sends (unlost : client.currentUser ≠ none ∧ client.Storable chat seconds (sendMessage text)) : out ≠ [] :=
    post_sends client next me .tap chat _ childRef seconds _ out kept opened unlost.1 unlost.2 posted
  simp only [Errand.Balanced, Errand.uploading, uploads, Errand.startedIn, ClientAct.Unlost]
  rcases counted with rfl | counted
  · exact ⟨by simp [posted_nil], fun unlost => absurd rfl (sends unlost)⟩
  · rw [counted]
    exact ⟨by omega, fun _ => by omega⟩

theorem pick_balanced (errand : Errand) (client : Client) (chat : Nat) (selectedImage : UIImage) (encodes : Bool) :
    errand.Balanced errand.me client (client.startImage chat (client.originOf chat) (.picked selectedImage) encodes)
      (.pickImage chat selectedImage encodes) [] := by
  cases encodes with
  | false => exact ⟨by simp [posted_nil, Client.startImage], fun lost => by cases lost⟩
  | true =>
      refine balanced_of_eq errand _ client _ _ [] ?_
      simp [posted_nil, Client.startImage, Errand.uploading, Errand.startedIn, Errand.isUploading, Stage.content]

theorem uploading_ended (errand : Errand) (client : Client) (k : Nat) (upload : Upload)
    (found : client.uploads[k]? = some upload) :
    errand.uploading (client.endUpload k) + (if errand.isUploading upload then 1 else 0) = errand.uploading client := by
  obtain ⟨front, back, split, erased, _⟩ := Queue.split_at client.uploads k upload found
  simp only [Errand.uploading, Client.endUpload]
  rw [erased, split, List.countP_append, List.countP_append, List.countP_cons, Nat.add_assoc]

theorem uploading_moved (errand : Errand) (client : Client) (k : Nat) (upload : Upload) (stage : Stage)
    (found : client.uploads[k]? = some upload) (same : stage.content = upload.stage.content) :
    errand.uploading (client.moveUpload k upload stage) = errand.uploading client := by
  obtain ⟨front, back, split, _, set⟩ := Queue.split_at client.uploads k upload found
  have moved : errand.isUploading { upload with stage := stage } = errand.isUploading upload := by
    simp only [Errand.isUploading, same]
  simp only [Errand.uploading, Client.moveUpload]
  rw [set, split, List.countP_append, List.countP_append, List.countP_cons, List.countP_cons, moved]

-- A video is neither a text nor a picture, so its steps change no count.
theorem uploading_video (errand : Errand) (upload : Upload) (video : upload.stage.content = none) :
    errand.isUploading upload = false := by
  simp [Errand.isUploading, video]

theorem thumbnail_started (errand : Errand) (client : Client) (chat : Nat) (origin : Origin) (downloadUrl : String)
    (thumbnailImage : UIImage) (encodes : Bool) :
    errand.uploading (client.startImage chat origin (.thumbnail downloadUrl thumbnailImage) encodes) =
      errand.uploading client := by
  cases encodes with
  | false => rfl
  | true =>
      simp only [Errand.uploading, Client.startImage, if_true, List.countP_append, List.countP_singleton]
      rw [uploading_video errand _ rfl]
      rfl

theorem arrival_balanced (errand : Errand) (client next : Client) (k : Nat) (upload : Upload)
    (completion : ImageCompletion) (imageUrl : String) (childRef : MsgId) (seconds : Int) (out : List Output)
    (kept : client.ChatsKept) (found : client.uploads[k]? = some upload) (waiting : upload.stage = .downloadURL completion)
    (posted : (client.endUpload k).post errand.me .completion upload.chat upload.origin childRef seconds
      (completion.properties imageUrl) = (next, out)) :
    errand.Balanced errand.me client next (.upload k (.url (some imageUrl)) childRef seconds) out := by
  have ended := uploading_ended errand client k upload found
  cases completion with
  | thumbnail downloadUrl thumbnailImage =>
      have silent := post_video (client.endUpload k) next errand.me .completion upload.chat upload.origin childRef seconds
        downloadUrl imageUrl thumbnailImage out posted
      have uploads : next.uploads = (client.endUpload k).uploads := by
        rcases post_cases _ _ _ _ _ _ _ _ _ _ posted with ⟨_, rfl, _⟩ | ⟨_, rfl, _⟩ <;> rfl
      rw [uploading_video errand upload (by rw [waiting]; rfl)] at ended
      refine balanced_of_eq errand _ client next _ out ?_
      rw [silent, posted_nil, ← ended]
      simp [Errand.uploading, uploads, Errand.startedIn]
  | picked selectedImage =>
      obtain ⟨uploads, counted⟩ := post_counted errand (client.endUpload k) next errand.me .completion upload.chat
        upload.origin childRef seconds _ (.picture selectedImage.size.height) out posted
        (fun send => picture_content send seconds imageUrl selectedImage)
      have sends (unlost : (ClientAct.upload k (.url (some imageUrl)) childRef seconds).Unlost client) : out ≠ [] := by
        obtain ⟨signedIn, stored⟩ := unlost upload selectedImage found waiting
        exact post_sends (client.endUpload k) next errand.me .completion upload.chat upload.origin childRef seconds _ out
          (chats_kept_same client _ kept rfl (fun _ member => List.mem_of_mem_eraseIdx member))
          (kept.uploads upload (List.mem_of_getElem? found)).1 signedIn stored posted
      have after : errand.uploading next = errand.uploading (client.endUpload k) := by
        simp only [Errand.uploading, uploads]
      have mine : (if errand.isUploading upload then 1 else 0) =
          if errand.me = errand.me ∧ upload.origin = errand.origin ∧
            Content.picture selectedImage.size.height = errand.content then 1 else 0 := by
        simp [Errand.isUploading, waiting, Stage.content]
      rw [mine] at ended
      rw [Errand.Balanced, after, ← ended]
      rcases counted with rfl | counted
      · exact ⟨by simp only [posted_nil]; omega, fun unlost => absurd rfl (sends unlost)⟩
      · rw [counted]
        simp only [Errand.startedIn]
        exact ⟨by omega, fun _ => by omega⟩

theorem upload_balanced (errand : Errand) (client next : Client) (k : Nat) (upload : Upload) (event : UploadEvent)
    (childRef : MsgId) (seconds : Int) (out : List Output) (kept : client.ChatsKept)
    (found : client.uploads[k]? = some upload)
    (stepped : client.uploadStep errand.me k upload event childRef seconds = some (next, out)) :
    errand.Balanced errand.me client next (.upload k event childRef seconds) out := by
  have ended := uploading_ended errand client k upload found
  -- A step that ends an upload and says nothing of a message.
  have dropped (notes : List Output) (silent : errand.posted notes = 0)
      (lost : (ClientAct.upload k event childRef seconds).Unlost client → errand.isUploading upload = false) :
      errand.Balanced errand.me client (client.endUpload k) (.upload k event childRef seconds) notes := by
    rw [Errand.Balanced, silent, ← ended]
    simp only [Errand.startedIn]
    exact ⟨by omega, fun unlost => by simp [lost unlost]⟩
  have moved (stage : Stage) (same : stage.content = upload.stage.content) :
      errand.Balanced errand.me client (client.moveUpload k upload stage) (.upload k event childRef seconds) [] := by
    refine balanced_of_eq errand _ client _ _ [] ?_
    rw [uploading_moved errand client k upload stage found same, posted_nil, Nat.zero_add]
    rfl
  unfold Client.uploadStep at stepped
  split at stepped
  · cases stepped
    exact dropped _ rfl (fun unlost => unlost.elim)
  · rename_i completion waiting
    cases stepped
    refine moved _ ?_
    rw [waiting]
    cases completion <;> rfl
  · cases stepped
    exact dropped _ rfl (fun unlost => unlost.elim)
  · rename_i completion imageUrl waiting
    exact arrival_balanced errand client next k upload completion imageUrl childRef seconds out kept found waiting
      (Option.some.inj stepped)
  · rename_i waiting
    cases stepped
    exact moved _ (by rw [waiting]; rfl)
  · rename_i waiting
    cases stepped
    exact dropped _ rfl (fun _ => uploading_video errand upload (by rw [waiting]; rfl))
  · rename_i waiting
    cases stepped
    exact dropped _ rfl (fun _ => uploading_video errand upload (by rw [waiting]; rfl))
  · rename_i downloadUrl thumbnailImage encodes waiting
    cases stepped
    refine balanced_of_eq errand _ client _ _ [] ?_
    rw [uploading_video errand upload (by rw [waiting]; rfl)] at ended
    rw [thumbnail_started, posted_nil, ← ended]
    simp [Errand.startedIn]
  · cases stepped

def ClientAct.sends : ClientAct → Bool
  | .sendMessage _ _ _ _ => true
  | .pickImage _ _ _ => true
  | .pickVideo _ => true
  | .upload _ _ _ _ => true
  | _ => false

theorem other_act_uploads (me : ClientId) (db : Database) (act : ClientAct) (client next : Client) (out : List Output)
    (other : act.sends = false) (acted : client.act me db act = some (next, out)) :
    next.uploads = client.uploads ∧ ∀ sender send origin, .composed sender send origin ∉ out := by
  cases act with
  | sendMessage => cases other
  | pickImage => cases other
  | pickVideo => cases other
  | upload => cases other
  | signIn uid => cases acted; exact ⟨rfl, by simp⟩
  | signOut => cases acted; exact ⟨rfl, by simp⟩
  | setupNavbarWithUser => cases acted; exact ⟨rfl, by simp⟩
  | showChatControllerForUser id profile => cases acted; exact ⟨rfl, by simp⟩
  | childRemoved key => cases acted; exact ⟨rfl, by simp⟩
  | stop => cases acted; exact ⟨rfl, by simp⟩
  | cellForRow row =>
      cases acted
      unfold Client.cellForRow
      split <;> exact ⟨rfl, by simp⟩
  | didSelectRow row =>
      cases acted
      unfold Client.didSelectRow
      split <;> exact ⟨rfl, by simp⟩
  | timerFires values =>
      simp only [Client.act] at acted
      split at acted
      · cases acted
        unfold Client.fire
        split <;> exact ⟨rfl, by simp⟩
      · cases acted
  | swipeDelete row =>
      simp only [Client.act, Option.some.injEq] at acted
      unfold Client.swipe at acted
      split at acted <;> cases acted <;> exact ⟨rfl, by simp⟩
  | complete k =>
      simp only [Client.act] at acted
      split at acted
      · cases acted
      · rename_i completion ready
        have ran := Option.some.inj acted
        cases completion with
        | message send accepted => cases accepted <;> cases ran <;> exact ⟨rfl, by simp⟩
        | removed partner accepted => cases ran; exact ⟨rfl, by cases accepted <;> simp⟩
  | childAdded entry =>
      simp only [Client.act] at acted
      split at acted
      · cases acted
        exact ⟨rfl, by simp⟩
      · cases acted
  | value k =>
      simp only [Client.act] at acted
      split at acted
      · cases acted
      · cases acted
        exact ⟨rfl, by simp⟩

theorem unposted (errand : Errand) (out : List Output)
    (silent : ∀ sender send origin, .composed sender send origin ∈ out → sender ≠ errand.me) : errand.posted out = 0 := by
  refine List.countP_eq_zero.mpr (fun output member counted => ?_)
  cases output with
  | composed sender send origin => exact silent sender send origin member (of_decide_eq_true counted).1
  | _ => cases counted

theorem act_balanced (errand : Errand) (db : Database) (act : ClientAct) (client next : Client) (out : List Output)
    (kept : client.ChatsKept) (acted : client.act errand.me db act = some (next, out)) :
    errand.Balanced errand.me client next act out := by
  by_cases other : act.sends = false
  · obtain ⟨uploads, silent⟩ := other_act_uploads errand.me db act client next out other acted
    refine balanced_of_eq errand _ client next act out ?_
    have started : errand.startedIn errand.me client act = 0 := by
      cases act with
      | sendMessage => cases other
      | pickImage => cases other
      | _ => rfl
    rw [unposted errand out (fun sender send origin member => absurd member (silent sender send origin)), started,
      Errand.uploading, Errand.uploading, uploads, Nat.zero_add, Nat.add_zero]
  · cases act with
    | sendMessage chat text childRef seconds =>
        simp only [Client.act] at acted
        split at acted
        · rename_i opened
          exact tap_balanced errand errand.me client next chat text childRef seconds out kept opened
            (Option.some.inj acted)
        · cases acted
    | pickImage chat selectedImage encodes =>
        simp only [Client.act] at acted
        split at acted
        · cases acted
          exact pick_balanced errand client chat selectedImage encodes
        · cases acted
    | pickVideo chat =>
        simp only [Client.act] at acted
        split at acted
        · cases acted
          refine balanced_of_eq errand _ client _ _ [] ?_
          simp only [Errand.uploading, List.countP_append, List.countP_singleton, posted_nil, Errand.startedIn]
          rw [uploading_video errand _ rfl]
          simp
        · cases acted
    | upload k event childRef seconds =>
        simp only [Client.act] at acted
        split at acted
        · cases acted
        · rename_i upload found
          exact upload_balanced errand client next k upload event childRef seconds out kept found acted
    | _ => exact absurd rfl other

def Errand.measure (errand : Errand) (s : System) (seen : List Output) : Nat :=
  errand.posted seen + errand.uploading (s.clients errand.me)

theorem composed_by (me : ClientId) (db : Database) (act : ClientAct) (client next : Client) (out : List Output)
    (acted : client.act me db act = some (next, out)) (sender : ClientId) (send : Send) (origin : Origin)
    (composed : .composed sender send origin ∈ out) : sender = me := by
  cases act_effect me db act client next out acted with
  | quiet _ _ _ _ silent => cases silent _ composed
  | post =>
      cases List.mem_singleton.mp composed
      rfl
  | removed _ _ _ _ _ _ _ _ silent => cases silent _ composed
  | _ => simp at composed

theorem errand_step (errand : Errand) (s : System) (seen : List Output) (action : Action) (next : System)
    (out : List Output) (kept : ∀ me, (s.clients me).ChatsKept)
    (stepped : System.machine.step s action = some (next, out)) :
    errand.measure next (seen ++ out) ≤ errand.measure s seen + errand.startedBy s action ∧
      (s.Unlost action → errand.measure next (seen ++ out) = errand.measure s seen + errand.startedBy s action) := by
  have appended : errand.posted (seen ++ out) = errand.posted seen + errand.posted out := List.countP_append
  obtain ⟨me, act, client, rfl, _, _, acted, rfl⟩ | ⟨me, k, accepted, write, rfl, _, rfl, rfl⟩ :=
    system_step_cases s next action out stepped
  · by_cases mine : me = errand.me
    · subst me
      obtain ⟨bounded, exactly⟩ := act_balanced errand s.db act (s.clients errand.me) client out (kept errand.me) acted
      simp only [Errand.measure, appended, Function.update_self, Errand.startedBy, System.Unlost]
      exact ⟨by omega, fun unlost => by have same := exactly unlost; omega⟩
    · have silent := unposted errand out
        (fun sender send origin member => composed_by me s.db act _ client out acted sender send origin member ▸ mine)
      have started : errand.startedIn me (s.clients me) act = 0 := by
        cases act <;> simp [Errand.startedIn, mine]
      have others : Function.update s.clients me client errand.me = s.clients errand.me :=
        Function.update_of_ne (fun same => mine same.symm) client s.clients
      simp only [Errand.measure, appended, silent, others, Errand.startedBy, started]
      exact ⟨Nat.le_refl _, fun _ => rfl⟩
  · have uploads : errand.uploading (Function.update s.clients me ((s.clients me).decided k write accepted) errand.me) =
        errand.uploading (s.clients errand.me) := by
      by_cases mine : errand.me = me
      · rw [mine, Function.update_self]
        rfl
      · rw [Function.update_of_ne mine]
    have silent : errand.posted [.decided me write accepted] = 0 := unposted errand _ (by simp)
    simp only [Errand.measure, appended, silent, uploads, Errand.startedBy]
    exact ⟨Nat.le_refl _, fun _ => rfl⟩

theorem chats_kept_step (s : System) (action : Action) (next : System) (out : List Output)
    (kept : ∀ me, (s.clients me).ChatsKept) (stepped : System.machine.step s action = some (next, out)) :
    ∀ me, (next.clients me).ChatsKept := by
  obtain ⟨me, act, client, rfl, _, _, acted, rfl⟩ | ⟨me, k, accepted, write, rfl, _, rfl, rfl⟩ :=
    system_step_cases s next action out stepped
  · exact (Function.forall_update_iff s.clients (p := fun _ c => c.ChatsKept)).mpr
      ⟨act_chats_kept me s.db act _ client out (kept me) acted, fun other _ => kept other⟩
  · exact (Function.forall_update_iff s.clients (p := fun _ c => c.ChatsKept)).mpr
      ⟨chats_kept_same (s.clients me) _ (kept me) rfl (fun _ member => member), fun other _ => kept other⟩

-- However the uploads of all clients interleave, a tap on Send and a picked
-- picture become one message at most; and just one, or an upload still under
-- way, when nothing is lost.
theorem sends_are_not_repeated (actions : List Action) (s : System) (out : List Output)
    (ran : System.machine.run System.initial actions = some (s, out)) (errand : Errand) :
    errand.posted out + errand.uploading (s.clients errand.me) ≤
        System.machine.total errand.startedBy System.initial actions ∧
      (System.machine.Along System.Unlost System.initial actions →
        errand.posted out + errand.uploading (s.clients errand.me) =
          System.machine.total errand.startedBy System.initial actions) := by
  have kept : ∀ me, (System.initial.clients me).ChatsKept := fun me => ⟨by simp [System.initial], by simp [System.initial]⟩
  have started : errand.measure System.initial [] = 0 := rfl
  constructor
  · have bounded := Machine.total_bounds System.machine (fun s => ∀ me, (s.clients me).ChatsKept) errand.startedBy
      errand.measure chats_kept_step
      (fun s seen action next out kept stepped => (errand_step errand s seen action next out kept stepped).1)
      actions System.initial s [] out kept ran
    rwa [started, Nat.zero_add] at bounded
  · intro along
    have same := Machine.total_exact System.machine (fun s => ∀ me, (s.clients me).ChatsKept) errand.startedBy
      errand.measure System.Unlost chats_kept_step
      (fun s seen action next out kept unlost stepped => (errand_step errand s seen action next out kept stepped).2 unlost)
      actions System.initial s [] out kept along ran
    rwa [started, Nat.zero_add] at same

theorem sends_are_not_repeated_picture :
    ∃ s out, System.machine.run System.initial pictureInOneSession = some (s, out) ∧
      Errand.posted ⟨0, ⟨some "ann", some "bob"⟩, .picture 200⟩ out ≤ 1 := by
  refine ⟨_, _, rfl, ?_⟩
  have bounded := (sends_are_not_repeated pictureInOneSession _ _ rfl ⟨0, ⟨some "ann", some "bob"⟩, .picture 200⟩).1
  exact Nat.le_trans (Nat.le_add_right _ _) bounded

end FirChat
