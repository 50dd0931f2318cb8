import FirChat.Payload

set_option autoImplicit false

namespace FirChat

section RoundTrip

variable (profile : User) (toId fromId : Uid) (childRef : MsgId) (seconds : Int)

def encode (payload : Payload) : Except Trap Send :=
  sendMessageWithProperties (some { profile with id := some toId }) (some fromId) childRef seconds payload.properties

-- Reading the written record back gives the payload, and the row of a picture
-- has the height of the original picture scaled to a width of 200.
def RoundTrips (estimatedFrameForTExt : String → ℚ) (payload : Payload) : Prop :=
  ∃ send, encode profile toId fromId childRef seconds payload = .ok send ∧
    Message.init send.values = payload.expected toId fromId seconds ∧
    ∀ shown, payload.picture = some shown →
      sizeForItemAt estimatedFrameForTExt (Message.init send.values) = shown.size.height / shown.size.width * 200

def Payload.Kept (payload : Payload) : Prop :=
  Value.Fits toId ∧ Value.Fits fromId ∧ payload.Storable ∧
    match payload with
    | .image _ shown => shown.size.width = shown.size.height
    | _ => True

theorem encode_storable (payload : Payload) (toFits : Value.Fits toId) (fromFits : Value.Fits fromId)
    (stored : payload.Storable) :
    encode profile toId fromId childRef seconds payload =
      .ok ⟨childRef, toId, fromId, messageValues toId fromId seconds payload.properties⟩ := by
  have accepted := (storable_iff toId fromId seconds payload).mpr ⟨toFits, fromFits, stored⟩
  simp only [encode, sendMessageWithProperties, Option.bind_some, accepted, if_true]

-- Otherwise updateChildValues raises, before anything is written.
theorem encode_refused (payload : Payload)
    (refused : ¬ (Value.Fits toId ∧ Value.Fits fromId ∧ payload.Storable)) :
    encode profile toId fromId childRef seconds payload = .error .invalidFirebaseData := by
  have raised : ¬ storable (messageValues toId fromId seconds payload.properties) = true := fun accepted =>
    refused ((storable_iff toId fromId seconds payload).mp accepted)
  simp only [encode, sendMessageWithProperties, Option.bind_some, if_neg raised]

theorem decode_text (body : String) :
    Message.init (messageValues toId fromId seconds (sendMessage body)) =
      ⟨some fromId, some body, some seconds, some toId, none, none, none⟩ := rfl

theorem decode_image (imageUrl : String) (shown : UIImage) :
    Message.init (messageValues toId fromId seconds (sendMessageWithImage imageUrl shown)) =
      ⟨some fromId, none, some seconds, some toId, some imageUrl, some shown.size.height, some shown.size.height⟩ := rfl

theorem round_trip_iff (estimatedFrameForTExt : String → ℚ) (payload : Payload) :
    RoundTrips profile toId fromId childRef seconds estimatedFrameForTExt payload ↔ payload.Kept toId fromId := by
  by_cases fits : Value.Fits toId ∧ Value.Fits fromId ∧ payload.Storable
  · obtain ⟨toFits, fromFits, stored⟩ := fits
    have ok := encode_storable profile toId fromId childRef seconds payload toFits fromFits stored
    cases payload with
    | text body =>
        refine iff_of_true ⟨_, ok, decode_text toId fromId seconds body, fun shown none => ?_⟩
          ⟨toFits, fromFits, stored, trivial⟩
        cases none
    | image imageUrl shown =>
        have decoded := decode_image toId fromId seconds imageUrl shown
        constructor
        · intro given
          obtain ⟨written, sent, same, _⟩ := given
          obtain rfl := Except.ok.inj (ok.symm.trans sent)
          have widths := congrArg Message.imageWidth (decoded.symm.trans same)
          exact ⟨toFits, fromFits, stored, (Option.some.inj widths).symm⟩
        · intro kept
          have sides : shown.size.width = shown.size.height := kept.2.2.2
          refine ⟨_, ok, ?_, fun other picked => ?_⟩
          · rw [Payload.expected, sides]
            exact decoded
          · obtain rfl : shown = other := Option.some.inj picked
            rw [sides]
            rfl
    | video => exact stored.elim
  · refine iff_of_false (fun given => ?_) (fun kept => fits ⟨kept.1, kept.2.1, kept.2.2.1⟩)
    obtain ⟨send, sent, _⟩ := given
    rw [encode_refused profile toId fromId childRef seconds payload fits] at sent
    cases sent

end RoundTrip

theorem portrait_picture_is_distorted :
    ¬ ∀ (profile : User) (toId fromId : Uid) (childRef : MsgId) (seconds : Int)
      (estimatedFrameForTExt : String → ℚ) (payload : Payload),
      RoundTrips profile toId fromId childRef seconds estimatedFrameForTExt payload := by
  intro always
  obtain ⟨send, sent, decoded, _⟩ := always {} "bob" "ann" "-M1" 1600000000 (fun _ => 20)
    (.image "https://img/1" ⟨⟨100, 200⟩, by decide, by decide⟩)
  obtain rfl := Except.ok.inj sent
  exact absurd decoded (by decide)

end FirChat
