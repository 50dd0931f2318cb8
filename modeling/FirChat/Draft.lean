import FirChat.Client
import FirChat.Machine
import FirChat.Queue

set_option autoImplicit false

namespace FirChat

-- A message write whose completion has still to run. typed is a ghost: what the
-- text field held at the tap on Send, and nothing for a picture or a video.
structure Posting where
  send : Send
  typed : Option String

-- text! reads a nil text as "".
structure Draft where
  user : Option User
  currentUser : Option Uid
  messageTextField : String := ""
  writes : List Posting := []
  running : Bool := true

inductive DraftAct where
  | edit (text : String)
  | sendMessage (childRef : MsgId) (seconds : Int)
  | uploaded (completion : ImageCompletion) (imageUrl : String) (childRef : MsgId) (seconds : Int)
  | complete (k : Nat) (accepted : Bool)

inductive DraftOut where
  | completed (send : Send) (accepted : Bool) (before after : String)
  | trapped (trap : Trap)

namespace Draft

def start (user : Option User) (currentUser : Option Uid) : Draft := { user := user, currentUser := currentUser }

def post (s : Draft) (childRef : MsgId) (seconds : Int) (properties : Dictionary) (typed : Option String) :
    Draft × List DraftOut :=
  match sendMessageWithProperties s.user s.currentUser childRef seconds properties with
  | .error trap => ({ s with running := false }, [.trapped trap])
  | .ok send => ({ s with writes := s.writes ++ [⟨send, typed⟩] }, [])

def completed (s : Draft) (accepted : Bool) : String := if accepted then "" else s.messageTextField

def act (s : Draft) : DraftAct → Option (Draft × List DraftOut)
  | .edit text => some ({ s with messageTextField := text }, [])
  | .sendMessage childRef seconds =>
      some (s.post childRef seconds (FirChat.sendMessage s.messageTextField) (some s.messageTextField))
  | .uploaded completion imageUrl childRef seconds => some (s.post childRef seconds (completion.properties imageUrl) none)
  | .complete k accepted =>
      match s.writes[k]? with
      | none => none
      | some posting =>
          some ({ s with writes := s.writes.eraseIdx k, messageTextField := s.completed accepted },
            [.completed posting.send accepted s.messageTextField (s.completed accepted)])

def step (s : Draft) (action : DraftAct) : Option (Draft × List DraftOut) := if s.running then s.act action else none

def machine : Machine Draft DraftAct DraftOut := ⟨step⟩

end Draft

-- A completion changes the field only to remove the text that it acknowledges.
def DraftOut.RemovesOwnText : DraftOut → Prop
  | .completed send accepted before after =>
      after = before ∨ accepted = true ∧ after = "" ∧ send.values.lookup "text" = some (.string before)
  | .trapped _ => True

def StillTyped (s : Draft) : DraftAct → Prop
  | .complete k true =>
      ∀ posting ∈ s.writes[k]?, s.messageTextField = "" ∨ posting.typed = some s.messageTextField
  | _ => True

instance (s : Draft) : ∀ act, Decidable (StillTyped s act)
  | .edit _ => isTrue trivial
  | .sendMessage _ _ => isTrue trivial
  | .uploaded _ _ _ _ => isTrue trivial
  | .complete _ false => isTrue trivial
  | .complete k true =>
      inferInstanceAs (Decidable (∀ posting ∈ s.writes[k]?, s.messageTextField = "" ∨ posting.typed = some s.messageTextField))

def Typed (s : Draft) : Prop :=
  ∀ posting ∈ s.writes, posting.send.values.lookup "text" = posting.typed.map Value.string

theorem posted_values (user : Option User) (currentUser : Option Uid) (childRef : MsgId) (seconds : Int)
    (properties : Dictionary) (send : Send)
    (posted : sendMessageWithProperties user currentUser childRef seconds properties = .ok send) :
    send.values = messageValues send.toId send.fromId seconds properties := by
  unfold sendMessageWithProperties at posted
  split at posted
  case h_1 => cases posted
  split at posted
  case h_1 => cases posted
  dsimp only at posted
  split at posted
  · cases posted
    rfl
  · cases posted

theorem message_values_text (toId fromId : Uid) (seconds : Int) (properties : Dictionary) :
    (messageValues toId fromId seconds properties).lookup "text" = properties.lookup "text" := by
  rw [messageValues, merge_lookup]
  exact Option.or_none

theorem media_text (completion : ImageCompletion) (imageUrl : String) :
    (completion.properties imageUrl).lookup "text" = none := by
  cases completion <;> rfl

theorem typed_post (s next : Draft) (out : List DraftOut) (childRef : MsgId) (seconds : Int) (properties : Dictionary)
    (text : Option String) (typed : Typed s) (texts : properties.lookup "text" = text.map Value.string)
    (ran : s.post childRef seconds properties text = (next, out)) :
    Typed next ∧ ∀ item ∈ out, item.RemovesOwnText := by
  unfold Draft.post at ran
  split at ran
  · cases ran
    exact ⟨typed, by simp [DraftOut.RemovesOwnText]⟩
  · rename_i send posted
    cases ran
    refine ⟨fun posting member => ?_, by simp⟩
    rcases List.mem_append.mp member with before | now
    · exact typed posting before
    · obtain rfl := List.mem_singleton.mp now
      dsimp only
      rw [posted_values _ _ _ _ _ send posted, message_values_text, texts]

inductive DraftEffect (s : Draft) : DraftAct → Draft → List DraftOut → Prop where
  | edit (text : String) : DraftEffect s (.edit text) { s with messageTextField := text } []
  | post (act : DraftAct) (childRef : MsgId) (seconds : Int) (properties : Dictionary) (text : Option String)
      (next : Draft) (out : List DraftOut) (sends : ∀ k accepted, act ≠ .complete k accepted)
      (texts : properties.lookup "text" = text.map Value.string)
      (ran : s.post childRef seconds properties text = (next, out)) : DraftEffect s act next out
  | complete (k : Nat) (accepted : Bool) (posting : Posting) (waiting : s.writes[k]? = some posting) :
      DraftEffect s (.complete k accepted)
        { s with writes := s.writes.eraseIdx k, messageTextField := s.completed accepted }
        [.completed posting.send accepted s.messageTextField (s.completed accepted)]

theorem draft_step_cases (s next : Draft) (act : DraftAct) (out : List DraftOut)
    (stepped : Draft.machine.step s act = some (next, out)) : DraftEffect s act next out := by
  change s.step act = some (next, out) at stepped
  unfold Draft.step at stepped
  split at stepped
  case isFalse => cases stepped
  cases act with
  | edit text => cases stepped; exact .edit text
  | sendMessage childRef seconds =>
      exact .post _ childRef seconds _ (some s.messageTextField) next out (by simp) rfl (Option.some.inj stepped)
  | uploaded completion imageUrl childRef seconds =>
      exact .post _ childRef seconds _ none next out (by simp) (media_text completion imageUrl) (Option.some.inj stepped)
  | complete k accepted =>
      simp only [Draft.act] at stepped
      split at stepped
      · cases stepped
      · rename_i posting waiting
        cases stepped
        exact .complete k accepted posting waiting

theorem typed_step (s : Draft) (act : DraftAct) (next : Draft) (out : List DraftOut) (typed : Typed s)
    (stepped : Draft.machine.step s act = some (next, out)) : Typed next := by
  cases draft_step_cases s next act out stepped with
  | edit text => exact typed
  | post _ childRef seconds properties text _ _ sends texts ran =>
      exact (typed_post s next out childRef seconds properties text typed texts ran).1
  | complete k accepted posting waiting =>
      exact fun other member => typed other (List.mem_of_mem_eraseIdx member)

theorem completed_removes_own (s : Draft) (k : Nat) (accepted : Bool) (posting : Posting) (typed : Typed s)
    (waiting : s.writes[k]? = some posting) :
    (DraftOut.completed posting.send accepted s.messageTextField (s.completed accepted)).RemovesOwnText ↔
      StillTyped s (.complete k accepted) := by
  cases accepted with
  | false => exact iff_of_true (Or.inl rfl) trivial
  | true =>
      have text := typed posting (List.mem_of_getElem? waiting)
      have same : posting.send.values.lookup "text" = some (.string s.messageTextField) ↔
          posting.typed = some s.messageTextField := by
        rw [text]
        cases posting.typed <;> simp
      simp only [DraftOut.RemovesOwnText, StillTyped, Draft.completed, waiting, if_true, true_and, Option.mem_def,
        Option.some.injEq, forall_eq', same]
      exact or_congr_left eq_comm

theorem step_removes_own_text (s : Draft) (act : DraftAct) (next : Draft) (out : List DraftOut) (typed : Typed s)
    (stepped : Draft.machine.step s act = some (next, out)) :
    (∀ item ∈ out, item.RemovesOwnText) ↔ StillTyped s act := by
  cases draft_step_cases s next act out stepped with
  | edit text => exact iff_of_true (by simp) trivial
  | post _ childRef seconds properties text _ _ sends texts ran =>
      refine iff_of_true (typed_post s next out childRef seconds properties text typed texts ran).2 ?_
      cases act with
      | complete k accepted => exact absurd rfl (sends k accepted)
      | _ => trivial
  | complete k accepted posting waiting =>
      rw [List.forall_mem_singleton]
      exact completed_removes_own s k accepted posting typed waiting

theorem sending_keeps_unsent_text (user : Option User) (currentUser : Option Uid) (acts : List DraftAct)
    (finish : Draft) (out : List DraftOut)
    (ran : Draft.machine.run (Draft.start user currentUser) acts = some (finish, out)) :
    (∀ item ∈ out, item.RemovesOwnText) ↔ Draft.machine.Along StillTyped (Draft.start user currentUser) acts :=
  Machine.outputs_good_iff Draft.machine Typed DraftOut.RemovesOwnText StillTyped typed_step step_removes_own_text acts
    (Draft.start user currentUser) finish out (by simp [Typed, Draft.start]) ran

def patient : List DraftAct := [.edit "hi", .sendMessage "-M1" 1600000000, .complete 0 true]

theorem sending_keeps_unsent_text_patient :
    ∃ finish out, Draft.machine.run (Draft.start (some { id := some "bob" }) (some "ann")) patient = some (finish, out) ∧
      finish.messageTextField = "" ∧ ∀ item ∈ out, item.RemovesOwnText :=
  ⟨_, _, rfl, rfl, (sending_keeps_unsent_text (some { id := some "bob" }) (some "ann") patient _ _ rfl).mpr (by decide)⟩

def impatient : List DraftAct :=
  [.edit "hi", .sendMessage "-M1" 1600000000, .edit "hi, are you", .complete 0 true]

theorem draft_is_lost :
    ¬ ∀ user currentUser acts finish out, Draft.machine.run (Draft.start user currentUser) acts = some (finish, out) →
      ∀ item ∈ out, item.RemovesOwnText := by
  intro all
  have removed := all (some { id := some "bob" }) (some "ann") impatient _ _ rfl _ (List.mem_singleton_self _)
  rcases removed with same | ⟨_, _, text⟩
  · exact absurd same (by decide)
  · exact absurd text (by decide)

end FirChat
