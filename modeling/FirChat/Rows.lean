import FirChat.Table

set_option autoImplicit false

namespace FirChat

-- What the code does with a row is what the user saw in it.
def TableOut.AsSeen (currentUser : Option Uid) : TableOut → Prop
  | .indexed row count => row < count
  | .removes chatPartnerId displayed => displayed.partenerId currentUser = some chatPartnerId
  | .opens user displayed => user.id ≠ none ∧ displayed.partenerId currentUser = user.id
  | .trapped trap => trap ≠ .indexOutOfRange

instance (currentUser : Option Uid) : ∀ out : TableOut, Decidable (out.AsSeen currentUser)
  | .indexed row count => inferInstanceAs (Decidable (row < count))
  | .removes _ _ => inferInstanceAs (Decidable (_ = _))
  | .opens _ _ => inferInstanceAs (Decidable (_ ∧ _))
  | .trapped _ => inferInstanceAs (Decidable (_ ≠ _))

-- The firings since the table's last reloadData have left the row's partner where it was.
def SameRow (currentUser : Option Uid) (s : Table) (row : Nat) : Prop :=
  (s.list.messages[row]?).map (fun message => message.partenerId currentUser) =
    (s.loaded[row]?).map (fun message => message.partenerId currentUser)

instance (currentUser : Option Uid) (s : Table) (row : Nat) : Decidable (SameRow currentUser s row) :=
  inferInstanceAs (Decidable (_ = _))

def RowKept (currentUser : Option Uid) (s : Table) (act : TableAct) : Prop := ∀ row ∈ act.row, SameRow currentUser s row

instance (currentUser : Option Uid) (s : Table) (act : TableAct) : Decidable (RowKept currentUser s act) :=
  inferInstanceAs (Decidable (∀ row ∈ act.row, SameRow currentUser s row))

structure Rowed (currentUser : Option Uid) (s : Table) (seen : List TableOut) : Prop where
  settled : s.blocks = 0 → s.list.messages = s.loaded
  cells : ∀ row displayed, s.cells.lookup row = some displayed →
    (s.loaded[row]?).map (fun message => message.partenerId currentUser) = some (displayed.partenerId currentUser)
  selected : ∀ entry ∈ s.selected, entry.2.partenerId currentUser = some entry.1
  seen : ∀ out ∈ seen, out.AsSeen currentUser

theorem rowed_start (currentUser : Option Uid) : Rowed currentUser Table.start [] :=
  ⟨fun _ => rfl, fun _ _ shown => by simp [Table.start] at shown, by simp [Table.start], by simp⟩

theorem fetch_message_messages (currentUser : Option Uid) (snapshot : Option Dictionary) (list : ChatsList) :
    (list.fetchMessage currentUser snapshot).messages = list.messages := by
  unfold ChatsList.fetchMessage
  split
  · rfl
  · split <;> rfl

theorem remove_completed_messages (chatPartnerId : String) (accepted : Bool) (list : ChatsList) :
    (list.removeCompleted chatPartnerId accepted).messages = list.messages := by
  cases accepted <;> rfl

theorem rowed_changed (currentUser : Option Uid) (s : Table) (seen : List TableOut) (list : ChatsList)
    (rowed : Rowed currentUser s seen) (same : list.messages = s.list.messages) :
    Rowed currentUser (s.changed list) (seen ++ []) :=
  ⟨fun quiet => same.trans (rowed.settled quiet), rowed.cells, rowed.selected, by simpa using rowed.seen⟩

theorem rowed_loaded (currentUser : Option Uid) (s next : Table) (seen : List TableOut) (rowed : Rowed currentUser s seen)
    (loaded : next.list.messages = next.loaded) (cleared : next.cells = ∅) (selected : next.selected = s.selected) :
    Rowed currentUser next (seen ++ []) := by
  refine ⟨fun _ => loaded, fun row displayed shown => ?_, selected ▸ rowed.selected, by simpa using rowed.seen⟩
  rw [cleared] at shown
  cases shown

theorem rowed_seen (currentUser : Option Uid) (s : Table) (seen out : List TableOut) (rowed : Rowed currentUser s seen)
    (fresh : ∀ item ∈ out, item.AsSeen currentUser) : Rowed currentUser s (seen ++ out) := by
  refine ⟨rowed.settled, rowed.cells, rowed.selected, fun item member => ?_⟩
  rcases List.mem_append.mp member with before | now
  · exact rowed.seen item before
  · exact fresh item now

theorem looked_up_as_displayed (currentUser : Option Uid) (s : Table) (seen : List TableOut) (row : Nat)
    (displayed message : Message) (rowed : Rowed currentUser s seen) (kept : SameRow currentUser s row)
    (shown : s.cells.lookup row = some displayed) (here : s.list.messages[row]? = some message) :
    displayed.partenerId currentUser = message.partenerId currentUser := by
  rw [SameRow, rowed.cells row displayed shown, here] at kept
  exact (Option.some.inj kept).symm

theorem looked_up_counted (currentUser : Option Uid) (s : Table) (seen : List TableOut) (row : Nat)
    (rowed : Rowed currentUser s seen) (kept : SameRow currentUser s row)
    (known : row < s.loaded.length ∨ ∃ displayed, s.cells.lookup row = some displayed) :
    s.list.messages[row]? ≠ none := by
  intro absent
  rw [SameRow, absent] at kept
  rcases known with counted | ⟨displayed, shown⟩
  · simp [counted] at kept
  · rw [rowed.cells row displayed shown] at kept
    cases kept

theorem looks_as_seen (currentUser : Option Uid) (s : Table) (row : Nat) (message : Message)
    (here : s.list.messages[row]? = some message) : (s.looks row).AsSeen currentUser :=
  (List.getElem?_eq_some_iff.mp here).1

theorem rowed_step (currentUser : Option Uid) (s : Table) (seen : List TableOut) (act : TableAct) (next : Table)
    (out : List TableOut) (rowed : Rowed currentUser s seen) (kept : RowKept currentUser s act)
    (stepped : (Table.machine currentUser).step s act = some (next, out)) : Rowed currentUser next (seen ++ out) := by
  cases table_step_cases currentUser s next act out stepped with
  | fetched snapshot => exact rowed_changed currentUser s seen _ rowed (fetch_message_messages currentUser snapshot s.list)
  | childRemoved key => exact rowed_changed currentUser s seen _ rowed rfl
  | removeCompleted chatPartnerId accepted =>
      exact rowed_changed currentUser s seen _ rowed (remove_completed_messages chatPartnerId accepted s.list)
  | setup => exact rowed_loaded currentUser s _ seen rowed rfl rfl rfl
  | fired values list same sorted =>
      exact ⟨fun quiet => by simp at quiet, rowed.cells, rowed.selected, by simpa using rowed.seen⟩
  | untimed values trap same failed =>
      obtain rfl := handle_reload_data_trap values s.list.timerFired trap failed
      exact rowed_seen currentUser s.trap seen _ ⟨rowed.settled, rowed.cells, rowed.selected, rowed.seen⟩
        (by simp [TableOut.AsSeen])
  | reloaded queued => exact rowed_loaded currentUser s _ seen rowed rfl rfl rfl
  | cell row message counted here =>
      refine rowed_seen currentUser _ seen _ ⟨rowed.settled, ?_, rowed.selected, rowed.seen⟩ ?_
      · intro other displayed shown
        by_cases same : other = row
        · subst other
          rw [AList.lookup_insert] at shown
          obtain rfl := Option.some.inj shown
          have loaded := kept row rfl
          rw [SameRow, here] at loaded
          exact loaded.symm
        · rw [AList.lookup_insert_ne same] at shown
          exact rowed.cells other displayed shown
      · simpa using looks_as_seen currentUser s row message here
  | missing _ row asks known absent =>
      exact absurd absent (looked_up_counted currentUser s seen row rowed (kept row asks) known)
  | idle _ row _ asks silent =>
      rcases silent with rfl | ⟨rfl, bound⟩
      · simpa using rowed
      · refine rowed_seen currentUser s seen _ rowed (fun item member => ?_)
        obtain rfl := List.mem_singleton.mp member
        exact bound
  | removes row displayed message chatPartnerId shown here named =>
      have same := looked_up_as_displayed currentUser s seen row displayed message rowed (kept row rfl) shown here
      refine rowed_seen currentUser s seen _ rowed (fun item member => ?_)
      rcases List.mem_pair.mp member with rfl | rfl
      · exact looks_as_seen currentUser s row message here
      · exact same.trans named
  | selects row displayed message partner shown here named =>
      have same := looked_up_as_displayed currentUser s seen row displayed message rowed (kept row rfl) shown here
      refine rowed_seen currentUser _ seen _ ⟨rowed.settled, rowed.cells, ?_, rowed.seen⟩ ?_
      · intro entry member
        rcases List.mem_append.mp member with before | now
        · exact rowed.selected entry before
        · obtain rfl := List.mem_singleton.mp now
          exact same.trans named
      · simpa using looks_as_seen currentUser s row message here
  | read k snapshot partner displayed waiting =>
      refine rowed_seen currentUser _ seen _ ⟨rowed.settled, rowed.cells, ?_, rowed.seen⟩ ?_
      · exact fun entry member => rowed.selected entry (List.mem_of_mem_eraseIdx member)
      · intro item member
        obtain ⟨user, read, rfl⟩ := Option.map_eq_some_iff.mp (Option.mem_toList.mp member)
        obtain ⟨dictionary, _, rfl⟩ := Option.map_eq_some_iff.mp read
        exact ⟨by simp, rowed.selected (partner, displayed) waiting⟩

theorem settled_row_kept (currentUser : Option Uid) (s : Table) (seen : List TableOut) (act : TableAct)
    (rowed : Rowed currentUser s seen) (quiet : s.blocks = 0) : RowKept currentUser s act := by
  intro row _
  rw [SameRow, rowed.settled quiet]

theorem row_acts_as_seen (currentUser : Option Uid) (acts : List TableAct) (finish : Table) (out : List TableOut)
    (kept : (Table.machine currentUser).Along (RowKept currentUser) Table.start acts)
    (ran : (Table.machine currentUser).run Table.start acts = some (finish, out)) :
    (∀ item ∈ out, item.AsSeen currentUser) ∧ (finish.blocks = 0 → ∀ act, RowKept currentUser finish act) := by
  have rowed := (Table.machine currentUser).history_along (Rowed currentUser) (RowKept currentUser)
    (rowed_step currentUser) acts Table.start finish out (rowed_start currentUser) kept ran
  exact ⟨rowed.seen, fun quiet act => settled_row_kept currentUser finish out act rowed quiet⟩

def textOf (fromId : Uid) (timeStamp : Int) : Dictionary := messageValues "ann" fromId timeStamp (sendMessage "hi")

def twoRows : List TableAct :=
  [.fetched (some (textOf "bob" 100)), .fetched (some (textOf "eve" 200)),
    .timerFires [Message.init (textOf "bob" 100), Message.init (textOf "eve" 200)], .reloadData, .cellForRow 0,
    .cellForRow 1]

theorem row_acts_as_seen_two_rows :
    ∃ finish out, (Table.machine (some "ann")).run Table.start (twoRows ++ [.commitDelete 0]) = some (finish, out) ∧
      (∃ displayed, TableOut.removes "eve" displayed ∈ out) ∧ ∀ item ∈ out, item.AsSeen (some "ann") := by
  refine ⟨_, _, rfl, ⟨Message.init (textOf "eve" 200), by decide +kernel⟩, ?_⟩
  exact (row_acts_as_seen (some "ann") (twoRows ++ [.commitDelete 0]) _ _ (by decide +kernel) rfl).1

-- A new message of bob moves him to the top of the array; the table still shows eve there.
theorem swipe_removes_another_row :
    ¬ ∀ currentUser acts finish out, (Table.machine currentUser).run Table.start acts = some (finish, out) →
      ∀ item ∈ out, item.AsSeen currentUser := by
  intro all
  have seen := all (some "ann") (twoRows ++ [.fetched (some (textOf "bob" 300)),
    .timerFires [Message.init (textOf "bob" 300), Message.init (textOf "eve" 200)], .commitDelete 0]) _ _ rfl
    (.removes "bob" (Message.init (textOf "eve" 200))) (by decide +kernel)
  exact absurd seen (by decide +kernel)

end FirChat
