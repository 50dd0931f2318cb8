import FirChat.Message
import Mathlib.Algebra.Order.Ring.Rat
import Mathlib.Tactic.FieldSimp
import Mathlib.Tactic.Ring

set_option autoImplicit false

namespace FirChat

structure CGSize where
  width : ℚ
  height : ℚ
deriving DecidableEq

structure UIImage where
  size : CGSize
  widthPositive : 0 < size.width
  heightPositive : 0 < size.height
deriving DecidableEq

-- A Swift trap, or an NSException that no Swift code can catch.
inductive Trap where
  | userIsNil
  | currentUserIsNil
  | invalidFirebaseData
  | indexOutOfRange
  | timeStampIsNil
deriving DecidableEq

def merge (values properties : Dictionary) : Dictionary :=
  properties.entries.foldl (fun values entry => values.insert entry.1 entry.2) values

def messageValues (toId fromId : Uid) (timeStamp : Int) (properties : Dictionary) : Dictionary :=
  merge ((((∅ : Dictionary).insert "toId" (.string toId)).insert "fromId" (.string fromId)).insert
    "timeStamp" (.number timeStamp)) properties

-- updateChildValues validates the whole dictionary before it issues the write.
def storable (values : Dictionary) : Bool := values.entries.all (fun entry => entry.2.storable)

structure Send where
  id : MsgId
  toId : Uid
  fromId : Uid
  values : Dictionary
deriving DecidableEq

-- sendMessageWithProperties up to updateChildValues. childRef is the fresh
-- childByAutoId key; seconds is Int(NSDate().timeIntervalSince1970).
def sendMessageWithProperties (user : Option User) (currentUser : Option Uid) (childRef : MsgId) (seconds : Int)
    (properties : Dictionary) : Except Trap Send :=
  match user.bind User.id with
  | none => .error .userIsNil
  | some toId =>
      match currentUser with
      | none => .error .currentUserIsNil
      | some fromId =>
          let values := messageValues toId fromId seconds properties
          if storable values then .ok ⟨childRef, toId, fromId, values⟩ else .error .invalidFirebaseData

def sendMessage (text : String) : Dictionary := (∅ : Dictionary).insert "text" (.string text)

-- Both sides of the picture are taken from image.size.height, as in the source.
def sendMessageWithImage (imageUrl : String) (image : UIImage) : Dictionary :=
  (((∅ : Dictionary).insert "imageUrl" (.string imageUrl)).insert "imageWidth" (.number image.size.height)).insert
    "imageHeight" (.number image.size.height)

-- The dictionary built by uploadToFireBaseUsingVideoUrl; downloadUrl is a URL object.
def videoProperties (downloadUrl imageUrl : String) (thumbnailImage : UIImage) : Dictionary :=
  ((((∅ : Dictionary).insert "imageUrl" (.string imageUrl)).insert "imageWidth"
    (.number thumbnailImage.size.width)).insert "imageHeight" (.number thumbnailImage.size.height)).insert
    "videoUrl" (.url downloadUrl)

-- ChatViewController sizeForItemAt; estimatedFrameForTExt is UIKit's measure of a text.
def sizeForItemAt (estimatedFrameForTExt : String → ℚ) (message : Message) : ℚ :=
  match message.text with
  | some text => estimatedFrameForTExt text + 20
  | none =>
      match message.imageWidth, message.imageHeight with
      | some imageWidth, some imageHeight => imageHeight / imageWidth * 200
      | _, _ => 80

inductive Payload where
  | text (text : String)
  | image (imageUrl : String) (image : UIImage)
  | video (downloadUrl imageUrl : String) (thumbnailImage : UIImage)

namespace Payload

def properties : Payload → Dictionary
  | .text body => sendMessage body
  | .image imageUrl picture => sendMessageWithImage imageUrl picture
  | .video downloadUrl imageUrl thumbnail => videoProperties downloadUrl imageUrl thumbnail

def Storable : Payload → Prop
  | .text body => Value.Fits body
  | .image imageUrl _ => Value.Fits imageUrl
  | .video _ _ _ => False

def picture : Payload → Option UIImage
  | .text _ => none
  | .image _ shown => some shown
  | .video _ _ thumbnail => some thumbnail

def expected (toId fromId : Uid) (seconds : Int) : Payload → Message
  | .text body => ⟨some fromId, some body, some seconds, some toId, none, none, none⟩
  | .image imageUrl shown =>
      ⟨some fromId, none, some seconds, some toId, some imageUrl, some shown.size.height, some shown.size.width⟩
  | .video _ imageUrl shown =>
      ⟨some fromId, none, some seconds, some toId, some imageUrl, some shown.size.height, some shown.size.width⟩

end Payload

theorem merge_lookup (key : String) (values properties : Dictionary) :
    (merge values properties).lookup key = (properties.lookup key).or (values.lookup key) := by
  obtain ⟨entries, distinct⟩ := properties
  unfold merge
  change (entries.foldl _ values).lookup key = (entries.dlookup key).or (values.lookup key)
  induction entries generalizing values with
  | nil => rfl
  | cons entry tail ih =>
      obtain ⟨name, value⟩ := entry
      obtain ⟨absent, tailDistinct⟩ := List.nodupKeys_cons.mp distinct
      rw [List.foldl_cons, ih (values.insert name value) tailDistinct]
      by_cases same : key = name
      · subst key
        have missing : tail.dlookup name = none := List.dlookup_eq_none.mpr absent
        simp [missing]
      · have skipped : List.dlookup key (⟨name, value⟩ :: tail : List (Sigma fun _ : String => Value)) = tail.dlookup key :=
          List.dlookup_cons_ne tail ⟨name, value⟩ same
        rw [skipped, AList.lookup_insert_ne same]

theorem header_lookup (toId fromId : Uid) (seconds : Int) (properties : Dictionary)
    (noTo : properties.lookup "toId" = none) (noFrom : properties.lookup "fromId" = none)
    (noTime : properties.lookup "timeStamp" = none) :
    (messageValues toId fromId seconds properties).lookup "toId" = some (.string toId) ∧
      (messageValues toId fromId seconds properties).lookup "fromId" = some (.string fromId) ∧
      (messageValues toId fromId seconds properties).lookup "timeStamp" = some (.number seconds) := by
  refine ⟨?_, ?_, ?_⟩
  · rw [messageValues, merge_lookup, noTo]
    rfl
  · rw [messageValues, merge_lookup, noFrom]
    rfl
  · rw [messageValues, merge_lookup, noTime]
    rfl

theorem payload_names_no_header (payload : Payload) :
    payload.properties.lookup "toId" = none ∧ payload.properties.lookup "fromId" = none ∧
      payload.properties.lookup "timeStamp" = none := by
  cases payload <;> exact ⟨rfl, rfl, rfl⟩

theorem storable_iff (toId fromId : Uid) (seconds : Int) (payload : Payload) :
    storable (messageValues toId fromId seconds payload.properties) = true ↔
      Value.Fits toId ∧ Value.Fits fromId ∧ payload.Storable := by
  cases payload with
  | text body =>
      have entries : (messageValues toId fromId seconds (Payload.text body).properties).entries =
        [⟨"text", .string body⟩, ⟨"timeStamp", .number seconds⟩, ⟨"fromId", .string fromId⟩, ⟨"toId", .string toId⟩] := rfl
      simp [storable, entries, Value.storable, Payload.Storable, and_comm, and_assoc]
  | image imageUrl shown =>
      have entries : (messageValues toId fromId seconds (Payload.image imageUrl shown).properties).entries =
        [⟨"imageUrl", .string imageUrl⟩, ⟨"imageWidth", .number shown.size.height⟩,
          ⟨"imageHeight", .number shown.size.height⟩, ⟨"timeStamp", .number seconds⟩, ⟨"fromId", .string fromId⟩,
          ⟨"toId", .string toId⟩] := rfl
      simp [storable, entries, Value.storable, Payload.Storable, and_comm, and_assoc]
  | video downloadUrl imageUrl thumbnail =>
      have member : ⟨"videoUrl", .url downloadUrl⟩ ∈
          (messageValues toId fromId seconds (Payload.video downloadUrl imageUrl thumbnail).properties).entries := by
        change _ ∈ [_, _, _, (⟨"videoUrl", .url downloadUrl⟩ : Sigma fun _ : String => Value), _, _, _]
        simp
      refine iff_of_false (fun stored => ?_) (fun fits => fits.2.2.elim)
      exact absurd (List.all_eq_true.mp stored _ member) (by simp [Value.storable])

end FirChat
