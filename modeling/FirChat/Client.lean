import FirChat.ChatsList
import FirChat.Database

set_option autoImplicit false

namespace FirChat

abbrev ClientId := Nat

-- A trap is told apart by where it struck: under the user's finger or in a callback.
inductive Site where
  | tap
  | completion
deriving DecidableEq

inductive Status where
  | running
  | stopped
  | crashed (site : Site) (trap : Trap)
deriving DecidableEq

-- Ghost: who was signed in, and whose chat it was, when a send was started.
structure Origin where
  initiator : Option Uid
  chatUser : Option Uid
deriving DecidableEq

inductive ImageCompletion where
  | picked (selectedImage : UIImage)
  | thumbnail (downloadUrl : String) (thumbnailImage : UIImage)

namespace ImageCompletion

def properties (completion : ImageCompletion) (imageUrl : String) : Dictionary :=
  match completion with
  | .picked selectedImage => sendMessageWithImage imageUrl selectedImage
  | .thumbnail downloadUrl thumbnailImage => videoProperties downloadUrl imageUrl thumbnailImage

end ImageCompletion

inductive Stage where
  | putData (completion : ImageCompletion)
  | downloadURL (completion : ImageCompletion)
  | putFile
  | downloadVideoURL

structure Upload where
  chat : Nat
  stage : Stage
  origin : Origin

-- How that callback runs. thumbnail is the result of thumbnailImageForVideoUrl
-- and encodes tells whether jpegData returned data.
inductive UploadEvent where
  | failed
  | stored
  | url (imageUrl : Option String)
  | videoUrl (downloadUrl : Option String) (thumbnail : Option UIImage) (encodes : Bool)

inductive Completion where
  | message (send : Send) (accepted : Bool)
  | removed (chatPartnerId : Uid) (accepted : Bool)
deriving DecidableEq

structure Client where
  status : Status := .running
  currentUser : Option Uid := none
  chats : List User := []
  uploads : List Upload := []
  outbox : List Write := []
  completions : List Completion := []
  reads : List Entry := []
  list : ChatsList := {}

inductive ClientAct where
  | signIn (uid : Uid)
  | signOut
  | setupNavbarWithUser
  | showChatControllerForUser (id : Uid) (profile : User)
  | sendMessage (chat : Nat) (text : String) (childRef : MsgId) (seconds : Int)
  | pickImage (chat : Nat) (selectedImage : UIImage) (encodes : Bool)
  | pickVideo (chat : Nat)
  | upload (k : Nat) (event : UploadEvent) (childRef : MsgId) (seconds : Int)
  | timerFires (values : List Message)
  | cellForRow (row : Nat)
  | didSelectRow (row : Nat)
  | swipeDelete (row : Nat)
  | complete (k : Nat)
  | childAdded (entry : Entry)
  | childRemoved (key : Uid)
  | value (k : Nat)
  | stop

-- What an observer of the whole system sees of a step. Only alerts that are
-- about a message name it; showAlert itself shows just the error's text.
inductive Output where
  | composed (client : ClientId) (send : Send) (origin : Origin)
  | issued (client : ClientId) (write : Write)
  | decided (client : ClientId) (write : Write) (accepted : Bool)
  | alerted (client : ClientId) (about : Option MsgId)
deriving DecidableEq

namespace Client

def chatUser (client : Client) (chat : Nat) : Option Uid := (client.chats[chat]?).bind User.id

def Storable (client : Client) (chat : Nat) (seconds : Int) (properties : Dictionary) : Prop :=
  ∀ toId fromId, client.chatUser chat = some toId → client.currentUser = some fromId →
    storable (messageValues toId fromId seconds properties) = true

def originOf (client : Client) (chat : Nat) : Origin := ⟨client.currentUser, client.chatUser chat⟩

def post (client : Client) (me : ClientId) (site : Site) (chat : Nat) (origin : Origin) (childRef : MsgId)
    (seconds : Int) (properties : Dictionary) : Client × List Output :=
  match sendMessageWithProperties client.chats[chat]? client.currentUser childRef seconds properties with
  | .error trap => ({ client with status := .crashed site trap }, [])
  | .ok send => ({ client with outbox := client.outbox ++ [.message send] }, [.composed me send origin])

-- jpegData returning nil ends uploadToFirebaseUsingImage without a word.
def startImage (client : Client) (chat : Nat) (origin : Origin) (completion : ImageCompletion) (encodes : Bool) :
    Client :=
  if encodes then { client with uploads := client.uploads ++ [⟨chat, .putData completion, origin⟩] } else client

def endUpload (client : Client) (k : Nat) : Client := { client with uploads := client.uploads.eraseIdx k }

def moveUpload (client : Client) (k : Nat) (upload : Upload) (stage : Stage) : Client :=
  { client with uploads := client.uploads.set k { upload with stage := stage } }

def uploadStep (client : Client) (me : ClientId) (k : Nat) (upload : Upload) (event : UploadEvent)
    (childRef : MsgId) (seconds : Int) : Option (Client × List Output) :=
  match upload.stage, event with
  | _, .failed => some (client.endUpload k, [.alerted me none])
  | .putData completion, .stored => some (client.moveUpload k upload (.downloadURL completion), [])
  | .downloadURL _, .url none => some (client.endUpload k, [])
  | .downloadURL completion, .url (some imageUrl) =>
      some ((client.endUpload k).post me .completion upload.chat upload.origin childRef seconds (completion.properties imageUrl))
  | .putFile, .stored => some (client.moveUpload k upload .downloadVideoURL, [])
  | .downloadVideoURL, .videoUrl none _ _ => some (client.endUpload k, [])
  | .downloadVideoURL, .videoUrl (some _) none _ => some (client.endUpload k, [.alerted me none])
  | .downloadVideoURL, .videoUrl (some downloadUrl) (some thumbnailImage) encodes =>
      some ((client.endUpload k).startImage upload.chat upload.origin (.thumbnail downloadUrl thumbnailImage) encodes, [])
  | _, _ => none

def runCompletion (client : Client) (me : ClientId) (completion : Completion) : Client × List Output :=
  match completion with
  | .message send false => (client, [.alerted me (some send.id)])
  | .message send true =>
      ({ client with outbox := client.outbox ++ [.senderIndex send, .recipientIndex send] },
        [.issued me (.senderIndex send), .issued me (.recipientIndex send)])
  | .removed chatPartnerId accepted =>
      ({ client with list := client.list.removeCompleted chatPartnerId accepted },
        if accepted then [] else [.alerted me none])

-- The database as this client sees it: its own undecided writes lie over the server's data.
def view (client : Client) (db : Database) : Database := client.outbox.foldl Database.apply db

def swipe (client : Client) (me : ClientId) (row : Nat) : Client × List Output :=
  match client.list.commitDelete client.currentUser row with
  | .error trap => ({ client with status := .crashed .tap trap }, [])
  | .ok none => (client, [])
  | .ok (some (uid, chatPartnerId)) =>
      ({ client with outbox := client.outbox ++ [.remove uid chatPartnerId] }, [.issued me (.remove uid chatPartnerId)])

def cellForRow (client : Client) (row : Nat) : Client :=
  match client.list.messages[row]? with
  | none => { client with status := .crashed .completion .indexOutOfRange }
  | some _ => client

def didSelectRow (client : Client) (row : Nat) : Client :=
  match client.list.didSelectRow client.currentUser row with
  | .error trap => { client with status := .crashed .tap trap }
  | .ok _ => client

def fire (client : Client) (values : List Message) : Client :=
  match client.list.timerFired.handleReloadData values with
  | .error trap => { client with status := .crashed .completion trap }
  | .ok list => { client with list := list }

def act (client : Client) (me : ClientId) (db : Database) : ClientAct → Option (Client × List Output)
  | .signIn uid => some ({ client with currentUser := some uid }, [])
  | .signOut => some ({ client with currentUser := none }, [])
  | .setupNavbarWithUser => some ({ client with list := client.list.setupNavbarWithUser }, [])
  | .showChatControllerForUser id profile =>
      some ({ client with chats := client.chats ++ [{ profile with id := some id }] }, [])
  | .sendMessage chat text childRef seconds =>
      if chat < client.chats.length then
        some (client.post me .tap chat (client.originOf chat) childRef seconds (FirChat.sendMessage text))
      else none
  | .pickImage chat selectedImage encodes =>
      if chat < client.chats.length then
        some (client.startImage chat (client.originOf chat) (.picked selectedImage) encodes, [])
      else none
  | .pickVideo chat =>
      if chat < client.chats.length then
        some ({ client with uploads := client.uploads ++ [⟨chat, .putFile, client.originOf chat⟩] }, [])
      else none
  | .upload k event childRef seconds =>
      match client.uploads[k]? with
      | none => none
      | some upload => client.uploadStep me k upload event childRef seconds
  | .timerFires values =>
      if client.list.timer = some ⟨true⟩ ∧ values.Perm client.list.values then some (client.fire values, []) else none
  | .cellForRow row => some (client.cellForRow row, [])
  | .didSelectRow row => some (client.didSelectRow row, [])
  | .swipeDelete row => some (client.swipe me row)
  | .complete k =>
      match client.completions[k]? with
      | none => none
      | some completion =>
          some (runCompletion { client with completions := client.completions.eraseIdx k } me completion)
  | .childAdded entry =>
      if entry ∈ (client.view db).index then some ({ client with reads := client.reads ++ [entry] }, []) else none
  | .childRemoved key => some ({ client with list := client.list.childRemoved key }, [])
  | .value k =>
      match client.reads[k]? with
      | none => none
      | some entry =>
          some ({ client with
            reads := client.reads.eraseIdx k
            list := client.list.fetchMessage client.currentUser (db.messages.lookup entry.id) }, [])
  | .stop => some ({ client with status := .stopped }, [])

end Client

end FirChat
