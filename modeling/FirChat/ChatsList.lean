import FirChat.Payload
import Mathlib.Data.List.Sort

set_option autoImplicit false

namespace FirChat

structure Timer where
  isValid : Bool
deriving DecidableEq

structure ChatsList where
  messages : List Message := []
  messageDict : AList (fun _ : String => Message) := ∅
  timer : Option Timer := none

namespace ChatsList

-- The old timer is invalidated, so only the new one can still fire.
def reload (list : ChatsList) : ChatsList := { list with timer := some ⟨true⟩ }

def intMin : Int := -9223372036854775808

def intMax : Int := 9223372036854775807

-- NSNumber.intValue truncates to an Int, at whose ends it saturates.
def intValue (number : ℚ) : Int := max intMin (min intMax (number.num.tdiv number.den))

def timeOf (message : Message) : Int := (message.timeStamp.map intValue).getD 0

-- values is the order in which the dictionary happens to enumerate its values,
-- and the sort is stable. The comparator unwraps both time stamps and runs on
-- every message as soon as there are two of them.
def handleReloadData (values : List Message) (list : ChatsList) : Except Trap ChatsList :=
  if 2 ≤ values.length ∧ ∃ message ∈ values, message.timeStamp = none then .error .timeStampIsNil
  else .ok { list with messages := values.insertionSort (fun m1 m2 => timeOf m2 ≤ timeOf m1) }

def values (list : ChatsList) : List Message := list.messageDict.entries.map Sigma.snd

def timerFired (list : ChatsList) : ChatsList := { list with timer := list.timer.map (fun _ => ⟨false⟩) }

def removeRow (key : String) (list : ChatsList) : ChatsList :=
  reload { list with messageDict := list.messageDict.erase key }

def childRemoved (key : String) (list : ChatsList) : ChatsList := list.removeRow key

def removeCompleted (chatPartnerId : String) (accepted : Bool) (list : ChatsList) : ChatsList :=
  if accepted then list.removeRow chatPartnerId else list

def fetchedMessage (dictionary : Dictionary) : Message :=
  { Message.init dictionary with
    fromId := (dictionary.lookup "fromId").bind Value.asString
    text := (dictionary.lookup "text").bind Value.asString
    timeStamp := (dictionary.lookup "timeStamp").bind Value.asNumber
    toId := (dictionary.lookup "toId").bind Value.asString }

def fetchMessage (currentUser : Option Uid) (snapshot : Option Dictionary) (list : ChatsList) : ChatsList :=
  match snapshot with
  | none => list
  | some dictionary =>
      match (fetchedMessage dictionary).partenerId currentUser with
      | none => list.reload
      | some partnerId =>
          reload { list with messageDict := list.messageDict.insert partnerId (fetchedMessage dictionary) }

-- setupNavbarWithUser clears both collections and detaches nothing.
def setupNavbarWithUser (list : ChatsList) : ChatsList := { list with messages := [], messageDict := ∅ }

-- Up to removeValue: the path that is removed.
def commitDelete (currentUser : Option Uid) (row : Nat) (list : ChatsList) : Except Trap (Option (Uid × Uid)) :=
  match currentUser with
  | none => .ok none
  | some uid =>
      match list.messages[row]? with
      | none => .error .indexOutOfRange
      | some message => .ok ((message.partenerId currentUser).map (fun chatPartnerId => (uid, chatPartnerId)))

-- Up to the read of the partner's record.
def didSelectRow (currentUser : Option Uid) (row : Nat) (list : ChatsList) : Except Trap (Option Uid) :=
  match list.messages[row]? with
  | none => .error .indexOutOfRange
  | some message => .ok (message.partenerId currentUser)

end ChatsList

theorem fetched_message_eq (dictionary : Dictionary) : ChatsList.fetchedMessage dictionary = Message.init dictionary :=
  rfl

theorem fetch_message_files (owner partner : Uid) (record : Dictionary) (list : ChatsList)
    (formed : WellFormed owner partner record) :
    (ChatsList.fetchMessage (some owner) (some record) list).messageDict =
      list.messageDict.insert partner (Message.init record) := by
  simp only [ChatsList.fetchMessage, fetched_message_eq, well_formed_partner owner partner record formed,
    ChatsList.reload]

theorem fetch_message_files_some (owner partner : Uid) (record : Dictionary) (currentUser : Option Uid)
    (formed : WellFormed owner partner record) :
    ∃ key, (ChatsList.fetchedMessage record).partenerId currentUser = some key := by
  obtain ⟨fromId, toId, _, hasFrom, hasTo, _, _⟩ := formed
  by_cases same : some fromId = currentUser
  · exact ⟨toId, by simp [ChatsList.fetchedMessage, Message.partenerId, hasFrom, hasTo, Value.asString, same]⟩
  · exact ⟨fromId, by simp [ChatsList.fetchedMessage, Message.partenerId, hasFrom, Value.asString, same]⟩

theorem commit_delete_owner (currentUser : Option Uid) (row : Nat) (list : ChatsList) (uid chatPartnerId : Uid)
    (removed : list.commitDelete currentUser row = .ok (some (uid, chatPartnerId))) : currentUser = some uid := by
  unfold ChatsList.commitDelete at removed
  split at removed
  · cases removed
  · rename_i signedIn
    split at removed
    · cases removed
    · rename_i message _
      cases named : message.partenerId (some signedIn) with
      | none => simp [named] at removed
      | some key =>
          simp only [named, Option.map_some, Except.ok.injEq, Option.some.injEq, Prod.mk.injEq] at removed
          rw [removed.1]

theorem did_select_row_trap (currentUser : Option Uid) (row : Nat) (list : ChatsList) (trap : Trap)
    (failed : list.didSelectRow currentUser row = .error trap) :
    trap = .indexOutOfRange ∧ list.messages.length ≤ row := by
  unfold ChatsList.didSelectRow at failed
  split at failed
  · rename_i absent
    cases failed
    exact ⟨rfl, List.getElem?_eq_none_iff.mp absent⟩
  · cases failed

@[simp] theorem timer_fired_dict (list : ChatsList) : list.timerFired.messageDict = list.messageDict := rfl

theorem handle_reload_data_dict (values : List Message) (list next : ChatsList)
    (ran : list.handleReloadData values = .ok next) : next.messageDict = list.messageDict := by
  unfold ChatsList.handleReloadData at ran
  split at ran
  · cases ran
  · cases ran
    rfl

theorem handle_reload_data_trap (values : List Message) (list : ChatsList) (trap : Trap)
    (failed : list.handleReloadData values = .error trap) : trap = .timeStampIsNil := by
  unfold ChatsList.handleReloadData at failed
  split at failed
  · cases failed
    rfl
  · cases failed

end FirChat
