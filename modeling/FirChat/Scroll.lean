import FirChat.ChatView

set_option autoImplicit false

namespace FirChat

-- items is the count that the view took at its last reload.
structure Scroll where
  chat : ChatView
  items : Nat := 0
  blocks : Nat := 0

inductive ScrollAct where
  | callback (snapshot : Option Dictionary)
  | block
  | keyboardDidShow

structure Scrolled where
  item : Int
  items : Nat
deriving DecidableEq

namespace Scroll

def start (currentUser : Option Uid) : Scroll := { chat := ChatView.start currentUser }

def lastItem (s : Scroll) : Int := s.chat.messages.length - 1

def reloadData (s : Scroll) : Scroll := { s with items := s.chat.messages.length }

-- The callback returns before it queues a block when the snapshot is no dictionary.
def callback (s : Scroll) (snapshot : Option Dictionary) : Scroll :=
  match snapshot with
  | none => s
  | some dictionary => { s with chat := s.chat.append (some dictionary), blocks := s.blocks + 1 }

def handleKeyboardDidShow (s : Scroll) : List Scrolled :=
  if 0 < s.chat.messages.length then [⟨s.lastItem, s.items⟩] else []

def step (s : Scroll) : ScrollAct → Option (Scroll × List Scrolled)
  | .callback snapshot => some (s.callback snapshot, [])
  | .block =>
      if s.blocks = 0 then none
      else some ({ s.reloadData with blocks := s.blocks - 1 }, [⟨s.lastItem, s.reloadData.items⟩])
  | .keyboardDidShow => some (s, s.handleKeyboardDidShow)

def machine : Machine Scroll ScrollAct Scrolled := ⟨step⟩

end Scroll

def Scrolled.InRange (scrolled : Scrolled) : Prop := 0 ≤ scrolled.item ∧ scrolled.item < scrolled.items

def Reloaded (s : Scroll) : ScrollAct → Prop
  | .keyboardDidShow => s.chat.messages = [] ∨ s.items = s.chat.messages.length
  | _ => True

instance (s : Scroll) : ∀ act, Decidable (Reloaded s act)
  | .callback _ => isTrue trivial
  | .block => isTrue trivial
  | .keyboardDidShow => inferInstanceAs (Decidable (s.chat.messages = [] ∨ s.items = s.chat.messages.length))

structure Counted (s : Scroll) : Prop where
  items : s.items ≤ s.chat.messages.length
  blocks : 0 < s.blocks → 0 < s.chat.messages.length
  settled : s.blocks = 0 → s.items = s.chat.messages.length

theorem counted_start (currentUser : Option Uid) : Counted (Scroll.start currentUser) :=
  ⟨Nat.le_refl 0, fun queued => absurd queued (Nat.lt_irrefl 0), fun _ => rfl⟩

theorem counted_callback (s : Scroll) (snapshot : Option Dictionary) (counted : Counted s) :
    Counted (s.callback snapshot) := by
  cases snapshot with
  | none => exact counted
  | some dictionary =>
      have grown : (s.chat.append (some dictionary)).messages.length = s.chat.messages.length + 1 := by
        simp [ChatView.append]
      have items := counted.items
      constructor
      · simp only [Scroll.callback, grown]
        omega
      · simp only [Scroll.callback, grown]
        omega
      · simp [Scroll.callback]

theorem counted_step (s : Scroll) (act : ScrollAct) (next : Scroll) (out : List Scrolled) (counted : Counted s)
    (stepped : Scroll.machine.step s act = some (next, out)) : Counted next := by
  cases act with
  | callback snapshot =>
      cases stepped
      exact counted_callback s snapshot counted
  | block =>
      simp only [Scroll.machine, Scroll.step] at stepped
      split at stepped
      · cases stepped
      · rename_i queued
        cases stepped
        have some := counted.blocks (Nat.pos_of_ne_zero queued)
        exact ⟨Nat.le_refl _, fun _ => some, fun _ => rfl⟩
  | keyboardDidShow =>
      cases stepped
      exact counted

theorem last_item_in_range (s : Scroll) (items : Nat) (bounded : items ≤ s.chat.messages.length)
    (messages : 0 < s.chat.messages.length) :
    (⟨s.lastItem, items⟩ : Scrolled).InRange ↔ items = s.chat.messages.length := by
  simp only [Scrolled.InRange, Scroll.lastItem]
  omega

theorem step_in_range (s : Scroll) (act : ScrollAct) (next : Scroll) (out : List Scrolled) (counted : Counted s)
    (stepped : Scroll.machine.step s act = some (next, out)) : (∀ item ∈ out, item.InRange) ↔ Reloaded s act := by
  cases act with
  | callback snapshot =>
      cases stepped
      exact iff_of_true (by simp) trivial
  | block =>
      simp only [Scroll.machine, Scroll.step] at stepped
      split at stepped
      · cases stepped
      · rename_i queued
        cases stepped
        have messages := counted.blocks (Nat.pos_of_ne_zero queued)
        rw [List.forall_mem_singleton]
        exact iff_of_true ((last_item_in_range s s.chat.messages.length (Nat.le_refl _) messages).mpr rfl) trivial
  | keyboardDidShow =>
      cases stepped
      by_cases messages : 0 < s.chat.messages.length
      · have filled : s.chat.messages ≠ [] := List.ne_nil_of_length_pos messages
        rw [Scroll.handleKeyboardDidShow, if_pos messages, List.forall_mem_singleton,
          last_item_in_range s s.items counted.items messages, Reloaded]
        exact (or_iff_right filled).symm
      · rw [Scroll.handleKeyboardDidShow, if_neg messages]
        refine iff_of_true (by simp) (Or.inl ?_)
        exact List.eq_nil_of_length_eq_zero (Nat.eq_zero_of_not_pos messages)

theorem settled_reloaded (s : Scroll) (act : ScrollAct) (counted : Counted s) (quiet : s.blocks = 0) : Reloaded s act := by
  cases act with
  | callback snapshot => trivial
  | block => trivial
  | keyboardDidShow => exact Or.inr (counted.settled quiet)

theorem scrolls_in_range (currentUser : Option Uid) (acts : List ScrollAct) (finish : Scroll) (out : List Scrolled)
    (ran : Scroll.machine.run (Scroll.start currentUser) acts = some (finish, out)) :
    ((∀ item ∈ out, item.InRange) ↔ Scroll.machine.Along Reloaded (Scroll.start currentUser) acts) ∧
      (finish.blocks = 0 → ∀ act, Reloaded finish act) := by
  have counted := Machine.invariant_run Scroll.machine Counted counted_step acts (Scroll.start currentUser) finish
    out (counted_start currentUser) ran
  refine ⟨?_, fun quiet act => settled_reloaded finish act counted quiet⟩
  exact Machine.outputs_good_iff Scroll.machine Counted Scrolled.InRange Reloaded counted_step step_in_range acts
    (Scroll.start currentUser) finish out (counted_start currentUser) ran

def shownThenKeyboard : List ScrollAct :=
  [.keyboardDidShow, .callback (textRecords "-M1"), .block, .keyboardDidShow]

theorem scrolls_in_range_reloaded :
    ∃ finish out, Scroll.machine.run (Scroll.start (some "ann")) shownThenKeyboard = some (finish, out) ∧
      out = [⟨0, 1⟩, ⟨0, 1⟩] ∧ ∀ item ∈ out, item.InRange :=
  ⟨_, _, rfl, rfl, (scrolls_in_range (some "ann") shownThenKeyboard _ _ rfl).1.mpr (by decide)⟩

-- The keyboard shows between a message and the reload that it has queued.
theorem keyboard_scrolls_out_of_range :
    ¬ ∀ currentUser acts finish out, Scroll.machine.run (Scroll.start currentUser) acts = some (finish, out) →
      ∀ item ∈ out, item.InRange := by
  intro all
  have range := all (some "ann") [.callback (textRecords "-M1"), .keyboardDidShow] _ _ rfl ⟨0, 0⟩ (by decide)
  exact absurd range.2 (by decide)

end FirChat
