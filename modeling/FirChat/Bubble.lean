import FirChat.Payload
import FirChat.Zoom

set_option autoImplicit false

namespace FirChat

inductive BubbleColor where
  | blueBubbleClor
  | grayBubbleColor
  | clear
deriving DecidableEq

inductive TextColor where
  | white
  | black
deriving DecidableEq

-- The messageImageView of a cell is the image view of the same number.
structure ChatMessengerCell where
  message : Option Message := none
  text : Option String := none
  textColor : TextColor := .white
  textHidden : Bool := false
  bubbleColor : BubbleColor := .blueBubbleClor
  bubbleRightActive : Bool := true
  bubbleLeftActive : Bool := false
  profileHidden : Bool := false
  bubbleWidth : ℚ := 200
deriving DecidableEq

structure Bubbles where
  zoom : Zoom
  cells : ViewId → ChatMessengerCell

inductive BubbleAct where
  | cellForItemAt (cell : ViewId) (message : Message)
  | zoom (act : ZoomAct)

namespace ChatMessengerCell

def setupCell (currentUser : Option Uid) (cell : ChatMessengerCell) (message : Message) : ChatMessengerCell :=
  let sided :=
    if message.fromId = currentUser then
      { cell with
        bubbleColor := .blueBubbleClor
        textColor := .white
        profileHidden := true
        bubbleRightActive := true
        bubbleLeftActive := false }
    else
      { cell with
        bubbleColor := .grayBubbleColor
        textColor := .black
        profileHidden := false
        bubbleRightActive := false
        bubbleLeftActive := true }
  match message.imageUrl with
  | none => sided
  | some _ => { sided with bubbleColor := .clear }

-- collectionView(_:cellForItemAt:). A message without text and picture leaves
-- the width and the text view as they are.
def configured (currentUser : Option Uid) (estimatedFrameForTExt : String → ℚ) (cell : ChatMessengerCell)
    (message : Message) : ChatMessengerCell :=
  let shown := setupCell currentUser { cell with message := some message, text := message.text } message
  match message.text, message.imageUrl with
  | some text, _ => { shown with bubbleWidth := estimatedFrameForTExt text + 32, textHidden := false }
  | none, some _ => { shown with bubbleWidth := 200, textHidden := true }
  | none, none => shown

end ChatMessengerCell

namespace Bubbles

def cellForItemAt (currentUser : Option Uid) (estimatedFrameForTExt : String → ℚ) (s : Bubbles) (cell : ViewId)
    (message : Message) : Bubbles where
  zoom := { s.zoom with isHidden := Function.update s.zoom.isHidden cell message.imageUrl.isNone }
  cells := Function.update s.cells cell ((s.cells cell).configured currentUser estimatedFrameForTExt message)

def step (currentUser : Option Uid) (estimatedFrameForTExt : String → ℚ) (s : Bubbles) :
    BubbleAct → Option (Bubbles × List Unit)
  | .cellForItemAt cell message => some (s.cellForItemAt currentUser estimatedFrameForTExt cell message, [])
  | .zoom act => (Zoom.machine.step s.zoom act).map (fun result => ({ s with zoom := result.1 }, result.2))

def machine (currentUser : Option Uid) (estimatedFrameForTExt : String → ℚ) : Machine Bubbles BubbleAct Unit :=
  ⟨step currentUser estimatedFrameForTExt⟩

def start (isHidden : ViewId → Bool) (before : List Nat) (cells : ViewId → ChatMessengerCell) : Bubbles where
  zoom := Zoom.start isHidden before
  cells := fun id => { cells id with message := none }

end Bubbles

def Zoom.InProgress (s : Zoom) : Prop := s.Zoomed ∨ s.completions ≠ []

instance (s : Zoom) : Decidable s.InProgress := inferInstanceAs (Decidable (_ ∨ _))

structure LooksLike (currentUser : Option Uid) (estimatedFrameForTExt : String → ℚ) (message : Message)
    (cell : ChatMessengerCell) : Prop where
  text : cell.textHidden = message.text.isNone
  color : cell.bubbleColor = if message.imageUrl ≠ none then .clear
    else if message.fromId = currentUser then .blueBubbleClor else .grayBubbleColor
  right : cell.bubbleRightActive = decide (message.fromId = currentUser)
  left : cell.bubbleLeftActive = !decide (message.fromId = currentUser)
  profile : cell.profileHidden = decide (message.fromId = currentUser)
  width : cell.bubbleWidth = (message.text.map (fun text => estimatedFrameForTExt text + 32)).getD 200

-- A message with neither text nor picture goes to a cell that shows none
-- already, zooms do not overlap, and the picture that the end of a zoom shows
-- again is that of a cell whose message has one.
def BubbleKept (s : Bubbles) : BubbleAct → Prop
  | .cellForItemAt cell message =>
      message.text ≠ none ∨ message.imageUrl ≠ none ∨ (s.cells cell).textHidden = true ∧ (s.cells cell).bubbleWidth = 200
  | .zoom (.performZoom view keyWindow) => Apart s.zoom (.performZoom view keyWindow)
  | .zoom (.performZoomOut _) => True
  | .zoom (.animationCompleted _) =>
      ∀ id ∈ s.zoom.startingImageView, ∀ message ∈ (s.cells id).message, message.imageUrl ≠ none

instance (s : Bubbles) : ∀ act, Decidable (BubbleKept s act)
  | .cellForItemAt cell message => inferInstanceAs (Decidable (message.text ≠ none ∨ message.imageUrl ≠ none ∨
      (s.cells cell).textHidden = true ∧ (s.cells cell).bubbleWidth = 200))
  | .zoom (.performZoom _ keyWindow) => inferInstanceAs (Decidable (keyWindow = true ∧ ¬ s.zoom.Zoomed))
  | .zoom (.performZoomOut _) => isTrue trivial
  | .zoom (.animationCompleted _) => inferInstanceAs (Decidable (∀ id ∈ s.zoom.startingImageView,
      ∀ message ∈ (s.cells id).message, message.imageUrl ≠ none))

theorem setup_cell_looks (currentUser : Option Uid) (cell : ChatMessengerCell) (message : Message) :
    ((cell.setupCell currentUser message).bubbleColor = if message.imageUrl ≠ none then .clear
      else if message.fromId = currentUser then .blueBubbleClor else .grayBubbleColor) ∧
    (cell.setupCell currentUser message).bubbleRightActive = decide (message.fromId = currentUser) ∧
    (cell.setupCell currentUser message).bubbleLeftActive = !decide (message.fromId = currentUser) ∧
    (cell.setupCell currentUser message).profileHidden = decide (message.fromId = currentUser) := by
  unfold ChatMessengerCell.setupCell
  cases message.imageUrl <;> by_cases mine : message.fromId = currentUser <;> simp [mine]

theorem setup_cell_text (currentUser : Option Uid) (cell : ChatMessengerCell) (message : Message) :
    (cell.setupCell currentUser message).textHidden = cell.textHidden ∧
      (cell.setupCell currentUser message).bubbleWidth = cell.bubbleWidth ∧
      (cell.setupCell currentUser message).message = cell.message := by
  unfold ChatMessengerCell.setupCell
  cases message.imageUrl <;> by_cases mine : message.fromId = currentUser <;> simp [mine]

theorem configured_looks (currentUser : Option Uid) (estimatedFrameForTExt : String → ℚ) (cell : ChatMessengerCell)
    (message : Message) (shows : message.text ≠ none ∨ message.imageUrl ≠ none ∨
      cell.textHidden = true ∧ cell.bubbleWidth = 200) :
    LooksLike currentUser estimatedFrameForTExt message (cell.configured currentUser estimatedFrameForTExt message) := by
  obtain ⟨color, right, left, profile⟩ :=
    setup_cell_looks currentUser { cell with message := some message, text := message.text } message
  obtain ⟨hidden, width, _⟩ :=
    setup_cell_text currentUser { cell with message := some message, text := message.text } message
  unfold ChatMessengerCell.configured
  cases text : message.text with
  | some body =>
      rw [text] at color right left profile
      exact ⟨by rw [text]; rfl, color, right, left, profile, by rw [text]; rfl⟩
  | none =>
      rw [text] at color right left profile hidden width
      cases image : message.imageUrl with
      | some url => exact ⟨by rw [text]; rfl, color, right, left, profile, by rw [text]; rfl⟩
      | none =>
          obtain ⟨blank, wide⟩ : cell.textHidden = true ∧ cell.bubbleWidth = 200 := by simpa [text, image] using shows
          refine ⟨?_, color, right, left, profile, ?_⟩
          · rw [text]
            exact hidden.trans blank
          · rw [text]
            exact width.trans wide

theorem configured_message (currentUser : Option Uid) (estimatedFrameForTExt : String → ℚ) (cell : ChatMessengerCell)
    (message : Message) : (cell.configured currentUser estimatedFrameForTExt message).message = some message := by
  have kept := (setup_cell_text currentUser { cell with message := some message, text := message.text } message).2.2
  unfold ChatMessengerCell.configured
  split <;> exact kept

structure Bubbled (currentUser : Option Uid) (estimatedFrameForTExt : String → ℚ) (s : Bubbles) : Prop where
  looks : ∀ id message, (s.cells id).message = some message →
    LooksLike currentUser estimatedFrameForTExt message (s.cells id)
  image : ∀ id message, (s.cells id).message = some message →
    ¬ (s.zoom.Zoomed ∧ s.zoom.startingImageView = some id) → s.zoom.isHidden id = message.imageUrl.isNone

theorem bubbled_start (currentUser : Option Uid) (estimatedFrameForTExt : String → ℚ) (isHidden : ViewId → Bool)
    (before : List Nat) (cells : ViewId → ChatMessengerCell) :
    Bubbled currentUser estimatedFrameForTExt (Bubbles.start isHidden before cells) := by
  constructor <;> simp [Bubbles.start]

theorem cell_for_item_same (currentUser : Option Uid) (estimatedFrameForTExt : String → ℚ) (s : Bubbles) (cell : ViewId)
    (message : Message) :
    (s.cellForItemAt currentUser estimatedFrameForTExt cell message).cells cell =
        (s.cells cell).configured currentUser estimatedFrameForTExt message ∧
      (s.cellForItemAt currentUser estimatedFrameForTExt cell message).zoom.isHidden cell = message.imageUrl.isNone := by
  simp [Bubbles.cellForItemAt]

theorem cell_for_item_other (currentUser : Option Uid) (estimatedFrameForTExt : String → ℚ) (s : Bubbles)
    (cell other : ViewId) (message : Message) (different : other ≠ cell) :
    (s.cellForItemAt currentUser estimatedFrameForTExt cell message).cells other = s.cells other ∧
      (s.cellForItemAt currentUser estimatedFrameForTExt cell message).zoom.isHidden other = s.zoom.isHidden other := by
  simp [Bubbles.cellForItemAt, different]

theorem cell_for_item_cases (currentUser : Option Uid) (estimatedFrameForTExt : String → ℚ) (s : Bubbles)
    (cell id : ViewId) (message shown : Message)
    (found : ((s.cellForItemAt currentUser estimatedFrameForTExt cell message).cells id).message = some shown) :
    (id = cell ∧ shown = message) ∨ (id ≠ cell ∧ (s.cells id).message = some shown) := by
  by_cases same : id = cell
  · subst id
    rw [(cell_for_item_same currentUser estimatedFrameForTExt s cell message).1, configured_message] at found
    exact Or.inl ⟨rfl, (Option.some.inj found).symm⟩
  · rw [(cell_for_item_other currentUser estimatedFrameForTExt s cell id message same).1] at found
    exact Or.inr ⟨same, found⟩

theorem bubbled_cell (currentUser : Option Uid) (estimatedFrameForTExt : String → ℚ) (s : Bubbles) (cell : ViewId)
    (message : Message) (bubbled : Bubbled currentUser estimatedFrameForTExt s)
    (kept : BubbleKept s (.cellForItemAt cell message)) :
    Bubbled currentUser estimatedFrameForTExt (s.cellForItemAt currentUser estimatedFrameForTExt cell message) := by
  have same := cell_for_item_same currentUser estimatedFrameForTExt s cell message
  have others := fun id different => cell_for_item_other currentUser estimatedFrameForTExt s cell id message different
  have now := fun id shown => cell_for_item_cases currentUser estimatedFrameForTExt s cell id message shown
  constructor
  · intro id shown found
    rcases now id shown found with ⟨rfl, rfl⟩ | ⟨other, before⟩
    · rw [same.1]
      exact configured_looks currentUser estimatedFrameForTExt (s.cells id) shown kept
    · rw [(others id other).1]
      exact bubbled.looks id shown before
  · intro id shown found free
    rcases now id shown found with ⟨rfl, rfl⟩ | ⟨other, before⟩
    · exact same.2
    · rw [(others id other).2]
      exact bubbled.image id shown before free

theorem bubbled_zoom (currentUser : Option Uid) (estimatedFrameForTExt : String → ℚ) (s : Bubbles) (act : ZoomAct)
    (next : Zoom) (bubbled : Bubbled currentUser estimatedFrameForTExt s) (kept : BubbleKept s (.zoom act))
    (effect : ZoomEffect s.zoom act next) : Bubbled currentUser estimatedFrameForTExt { s with zoom := next } := by
  obtain ⟨looks, image⟩ := bubbled
  cases effect with
  | zoomed view =>
      have calm : ¬ s.zoom.Zoomed := kept.2
      have zooming : (s.zoom.performZoom view true).Zoomed := ⟨s.zoom.zooms, zoomed_perform s.zoom view⟩
      refine ⟨looks, fun id message found apart => ?_⟩
      have different : id ≠ view := fun same => apart ⟨zooming, by simp [Zoom.performZoom, same]⟩
      have hidden : (s.zoom.performZoom view true).isHidden id = s.zoom.isHidden id := by
        simp [Zoom.performZoom, different]
      exact hidden.trans (image id message found (fun busy => calm busy.1))
  | unseen view => exact absurd kept.1 (by decide)
  | tapped zoom here => exact ⟨looks, image⟩
  | completed k zoom waiting =>
      refine ⟨looks, fun id message found _ => ?_⟩
      by_cases starting : s.zoom.startingImageView = some id
      · have picture := kept id starting message found
        refine (completed_shows s.zoom k zoom id starting).trans ?_
        cases image : message.imageUrl with
        | none => exact absurd image picture
        | some url => rfl
      · exact (completed_keeps s.zoom k zoom id starting).trans (image id message found (fun both => starting both.2))

theorem bubbled_step (currentUser : Option Uid) (estimatedFrameForTExt : String → ℚ) (s : Bubbles) (act : BubbleAct)
    (next : Bubbles) (out : List Unit) (bubbled : Bubbled currentUser estimatedFrameForTExt s) (kept : BubbleKept s act)
    (stepped : (Bubbles.machine currentUser estimatedFrameForTExt).step s act = some (next, out)) :
    Bubbled currentUser estimatedFrameForTExt next := by
  cases act with
  | cellForItemAt cell message =>
      cases stepped
      exact bubbled_cell currentUser estimatedFrameForTExt s cell message bubbled kept
  | zoom act =>
      obtain ⟨result, zoomed, same⟩ := Option.map_eq_some_iff.mp stepped
      obtain ⟨rfl, _⟩ := Prod.mk.inj same
      exact bubbled_zoom currentUser estimatedFrameForTExt s act result.1 bubbled kept
        (zoom_step_cases s.zoom result.1 act result.2 zoomed)

theorem bubble_looks_as_its_message (currentUser : Option Uid) (estimatedFrameForTExt : String → ℚ)
    (isHidden : ViewId → Bool) (before : List Nat) (cells : ViewId → ChatMessengerCell) (acts : List BubbleAct)
    (finish : Bubbles) (out : List Unit)
    (kept : (Bubbles.machine currentUser estimatedFrameForTExt).Along BubbleKept (Bubbles.start isHidden before cells) acts)
    (ran : (Bubbles.machine currentUser estimatedFrameForTExt).run (Bubbles.start isHidden before cells) acts =
      some (finish, out)) (calm : ¬ finish.zoom.InProgress) (id : ViewId) (message : Message)
    (configured : (finish.cells id).message = some message) :
    finish.zoom.isHidden id = message.imageUrl.isNone ∧
      LooksLike currentUser estimatedFrameForTExt message (finish.cells id) := by
  have bubbled := Machine.invariant_along (Bubbles.machine currentUser estimatedFrameForTExt)
    (Bubbled currentUser estimatedFrameForTExt) BubbleKept (bubbled_step currentUser estimatedFrameForTExt) acts
    (Bubbles.start isHidden before cells) finish out
    (bubbled_start currentUser estimatedFrameForTExt isHidden before cells) kept ran
  exact ⟨bubbled.image id message configured (fun both => calm (Or.inl both.1)), bubbled.looks id message configured⟩

def pictureMessage : Message := ⟨some "bob", none, some 1600000000, some "ann", some "https://img/1", some 200, some 200⟩

def textMessage : Message := ⟨some "bob", some "hi", some 1600000060, some "ann", none, none, none⟩

def zoomThenReuse : List BubbleAct :=
  [.cellForItemAt 0 pictureMessage, .zoom (.performZoom 0 true), .zoom (.performZoomOut 0), .zoom (.animationCompleted 0),
    .cellForItemAt 0 textMessage]

theorem bubble_looks_as_its_message_reused :
    ∃ finish out, (Bubbles.machine (some "ann") (fun _ => 50)).run (Bubbles.start (fun _ => false) [0] (fun _ => {}))
        zoomThenReuse = some (finish, out) ∧
      finish.zoom.isHidden 0 = true ∧ LooksLike (some "ann") (fun _ => 50) textMessage (finish.cells 0) := by
  exact ⟨_, _, rfl, bubble_looks_as_its_message (some "ann") (fun _ => 50) (fun _ => false) [0] (fun _ => {})
    zoomThenReuse _ _ (by decide +kernel) rfl (by decide) 0 textMessage rfl⟩

def reuseWhileZoomed : List BubbleAct :=
  [.cellForItemAt 0 pictureMessage, .zoom (.performZoom 0 true), .cellForItemAt 0 textMessage, .zoom (.performZoomOut 0),
    .zoom (.animationCompleted 0)]

theorem zoom_out_shows_old_picture :
    ¬ ∀ currentUser estimatedFrameForTExt isHidden before cells acts finish out,
      (Bubbles.machine currentUser estimatedFrameForTExt).run (Bubbles.start isHidden before cells) acts =
        some (finish, out) → ¬ finish.zoom.InProgress → ∀ id message, (finish.cells id).message = some message →
      finish.zoom.isHidden id = message.imageUrl.isNone ∧
        LooksLike currentUser estimatedFrameForTExt message (finish.cells id) := by
  intro all
  have looks := all (some "ann") (fun _ => 50) (fun _ => false) [0] (fun _ => {}) reuseWhileZoomed _ _ rfl (by decide)
    0 textMessage rfl
  exact absurd looks.1 (by decide)

end FirChat
