import Mathlib.Data.List.AList
import Mathlib.Data.Rat.Defs
import Mathlib.Data.Set.Insert

set_option autoImplicit false

namespace FirChat

abbrev Uid := String
abbrev MsgId := String

-- An AnyObject as the app puts it into a dictionary. Swift accepts a URL object
-- there; Firebase stores only strings and numbers of these three.
inductive Value where
  | string (value : String)
  | number (value : ℚ)
  | url (absoluteString : String)
deriving DecidableEq

namespace Value

def asString : Value → Option String
  | .string value => some value
  | .number _ => none
  | .url _ => none

-- `as? NSNumber`; the numbers are taken exactly.
def asNumber : Value → Option ℚ
  | .string _ => none
  | .number value => some value
  | .url _ => none

def kFirebaseMaxLeafSize : Nat := 1024 * 1024 * 10

abbrev Fits (value : String) : Prop := value.utf8ByteSize ≤ kFirebaseMaxLeafSize

-- FValidation isValidLeafValue and FSnapshotUtilities nodeFrom, which raise
-- InvalidFirebaseData for a longer string and for a value of any other class.
def storable : Value → Bool
  | .string value => decide (Fits value)
  | .number _ => true
  | .url _ => false

end Value

abbrev Dictionary := AList (fun _ : String => Value)

-- snapshot.value as? [String : String]
def asStrings (snapshot : Option Dictionary) : Option Dictionary :=
  snapshot.filter (fun dictionary => dictionary.entries.all (fun entry => entry.2.asString.isSome))

structure User where
  id : Option String := none
  name : Option String := none
  email : Option String := none
  profileImageUrl : Option String := none
deriving DecidableEq

structure Message where
  fromId : Option String
  text : Option String
  timeStamp : Option ℚ
  toId : Option String
  imageUrl : Option String
  imageHeight : Option ℚ
  imageWidth : Option ℚ
deriving DecidableEq

namespace Message

-- The signed-in user is read when the method runs, not when the message was made.
def partenerId (message : Message) (currentUser : Option Uid) : Option String :=
  if message.fromId = currentUser then message.toId else message.fromId

def init (dictionary : Dictionary) : Message where
  fromId := (dictionary.lookup "fromId").bind Value.asString
  text := (dictionary.lookup "text").bind Value.asString
  timeStamp := (dictionary.lookup "timeStamp").bind Value.asNumber
  toId := (dictionary.lookup "toId").bind Value.asString
  imageUrl := (dictionary.lookup "imageUrl").bind Value.asString
  imageHeight := (dictionary.lookup "imageHeight").bind Value.asNumber
  imageWidth := (dictionary.lookup "imageWidth").bind Value.asNumber

end Message

def Participants (fromId toId u v : Uid) : Prop := (fromId = u ∧ toId = v) ∨ (fromId = v ∧ toId = u)

instance (fromId toId u v : Uid) : Decidable (Participants fromId toId u v) :=
  inferInstanceAs (Decidable (_ ∨ _))

theorem participants_iff_pair (fromId toId u v : Uid) :
    Participants fromId toId u v ↔ ({fromId, toId} : Set Uid) = {u, v} :=
  Set.pair_eq_pair_iff.symm

def WellFormed (u v : Uid) (record : Dictionary) : Prop :=
  ∃ fromId toId timeStamp, record.lookup "fromId" = some (.string fromId) ∧
    record.lookup "toId" = some (.string toId) ∧ record.lookup "timeStamp" = some (.number timeStamp) ∧
    Participants fromId toId u v

def wellFormed (u v : Uid) (record : Dictionary) : Bool :=
  match record.lookup "fromId", record.lookup "toId", record.lookup "timeStamp" with
  | some (.string fromId), some (.string toId), some (.number _) => decide (Participants fromId toId u v)
  | _, _, _ => false

theorem well_formed_iff (u v : Uid) (record : Dictionary) : wellFormed u v record = true ↔ WellFormed u v record := by
  constructor
  · intro accepted
    unfold wellFormed at accepted
    split at accepted
    · rename_i fromId toId timeStamp hasFrom hasTo hasTime
      exact ⟨fromId, toId, timeStamp, hasFrom, hasTo, hasTime, of_decide_eq_true accepted⟩
    · cases accepted
  · intro given
    obtain ⟨fromId, toId, timeStamp, hasFrom, hasTo, hasTime, pair⟩ := given
    simp only [wellFormed, hasFrom, hasTo, hasTime, decide_eq_true pair]

theorem well_formed_swap (u v : Uid) (record : Dictionary) (formed : WellFormed u v record) :
    WellFormed v u record := by
  obtain ⟨fromId, toId, timeStamp, hasFrom, hasTo, hasTime, pair⟩ := formed
  exact ⟨fromId, toId, timeStamp, hasFrom, hasTo, hasTime, pair.symm⟩

theorem well_formed_partner (u v : Uid) (record : Dictionary) (formed : WellFormed u v record) :
    (Message.init record).partenerId (some u) = some v := by
  obtain ⟨fromId, toId, timeStamp, hasFrom, hasTo, _, pair⟩ := formed
  rcases pair with ⟨rfl, rfl⟩ | ⟨rfl, rfl⟩
  · simp [Message.init, Message.partenerId, hasFrom, hasTo, Value.asString]
  · by_cases same : fromId = toId
    · simp [Message.init, Message.partenerId, hasFrom, hasTo, Value.asString, same]
    · simp [Message.init, Message.partenerId, hasFrom, hasTo, Value.asString, same]

end FirChat
