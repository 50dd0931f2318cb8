import FirChat.ChatsList
import FirChat.Machine
import FirChat.Queue

set_option autoImplicit false

namespace FirChat

-- loaded is messages at the last reloadData, of which the table view keeps the
-- number of rows; cells are the messages of the cells it has asked for since.
structure Table where
  list : ChatsList := {}
  loaded : List Message := []
  cells : AList (fun _ : Nat => Message) := ∅
  blocks : Nat := 0
  selected : List (Uid × Message) := []
  running : Bool := true

inductive TableAct where
  | fetched (snapshot : Option Dictionary)
  | childRemoved (key : String)
  | removeCompleted (chatPartnerId : String) (accepted : Bool)
  | setupNavbarWithUser
  | timerFires (values : List Message)
  | reloadData
  | cellForRow (row : Nat)
  | commitDelete (row : Nat)
  | didSelectRow (row : Nat)
  | userRead (k : Nat) (snapshot : Option Dictionary)

-- displayed is a ghost: the message of the cell that the user saw.
inductive TableOut where
  | indexed (row count : Nat)
  | removes (chatPartnerId : Uid) (displayed : Message)
  | opens (user : User) (displayed : Message)
  | trapped (trap : Trap)
deriving DecidableEq

namespace ChatsList

def selectedUser (partner : Uid) (snapshot : Option Dictionary) : Option User :=
  (asStrings snapshot).map (fun dictionary =>
    ⟨some partner, (dictionary.lookup "name").bind Value.asString, (dictionary.lookup "email").bind Value.asString,
      (dictionary.lookup "profileImageUrl").bind Value.asString⟩)

end ChatsList

namespace Table

def start : Table := {}

def reloadData (s : Table) : Table := { s with loaded := s.list.messages, cells := ∅ }

def changed (s : Table) (list : ChatsList) : Table := { s with list := list }

def trap (s : Table) : Table := { s with running := false }

def looks (s : Table) (row : Nat) : TableOut := .indexed row s.list.messages.length

def handleReloadData (s : Table) (values : List Message) : Table × List TableOut :=
  match s.list.timerFired.handleReloadData values with
  | .error trap => (s.trap, [.trapped trap])
  | .ok list => ({ s.changed list with blocks := s.blocks + 1 }, [])

def cellForRow (s : Table) (row : Nat) : Table × List TableOut :=
  match s.list.messages[row]? with
  | none => (s.trap, [s.looks row, .trapped .indexOutOfRange])
  | some message => ({ s with cells := s.cells.insert row message }, [s.looks row])

-- Nothing is indexed before the guard on the signed-in user.
def commitDelete (currentUser : Option Uid) (s : Table) (row : Nat) (displayed : Message) : Table × List TableOut :=
  match s.list.commitDelete currentUser row with
  | .error trap => (s.trap, [s.looks row, .trapped trap])
  | .ok none => (s, if currentUser = none then [] else [s.looks row])
  | .ok (some (_, chatPartnerId)) => (s, [s.looks row, .removes chatPartnerId displayed])

def didSelectRow (currentUser : Option Uid) (s : Table) (row : Nat) (displayed : Message) : Table × List TableOut :=
  match s.list.didSelectRow currentUser row with
  | .error trap => (s.trap, [s.looks row, .trapped trap])
  | .ok none => (s, [s.looks row])
  | .ok (some partner) => ({ s with selected := s.selected ++ [(partner, displayed)] }, [s.looks row])

def act (currentUser : Option Uid) (s : Table) : TableAct → Option (Table × List TableOut)
  | .fetched snapshot => some (s.changed (s.list.fetchMessage currentUser snapshot), [])
  | .childRemoved key => some (s.changed (s.list.childRemoved key), [])
  | .removeCompleted chatPartnerId accepted => some (s.changed (s.list.removeCompleted chatPartnerId accepted), [])
  | .setupNavbarWithUser => some ((s.changed s.list.setupNavbarWithUser).reloadData, [])
  | .timerFires values =>
      if s.list.timer = some ⟨true⟩ ∧ values.Perm s.list.values then some (s.handleReloadData values) else none
  | .reloadData => if s.blocks = 0 then none else some ({ s.reloadData with blocks := s.blocks - 1 }, [])
  | .cellForRow row => if row < s.loaded.length then some (s.cellForRow row) else none
  | .commitDelete row => (s.cells.lookup row).map (commitDelete currentUser s row)
  | .didSelectRow row => (s.cells.lookup row).map (didSelectRow currentUser s row)
  | .userRead k snapshot =>
      match s.selected[k]? with
      | none => none
      | some (partner, displayed) =>
          some ({ s with selected := s.selected.eraseIdx k },
            ((ChatsList.selectedUser partner snapshot).map (fun user => TableOut.opens user displayed)).toList)

def step (currentUser : Option Uid) (s : Table) (action : TableAct) : Option (Table × List TableOut) :=
  if s.running then s.act currentUser action else none

def machine (currentUser : Option Uid) : Machine Table TableAct TableOut := ⟨step currentUser⟩

end Table

def TableAct.row : TableAct → Option Nat
  | .cellForRow row => some row
  | .commitDelete row => some row
  | .didSelectRow row => some row
  | _ => none

inductive TableEffect (currentUser : Option Uid) (s : Table) : TableAct → Table → List TableOut → Prop where
  | fetched (snapshot : Option Dictionary) :
      TableEffect currentUser s (.fetched snapshot) (s.changed (s.list.fetchMessage currentUser snapshot)) []
  | childRemoved (key : String) :
      TableEffect currentUser s (.childRemoved key) (s.changed (s.list.childRemoved key)) []
  | removeCompleted (chatPartnerId : String) (accepted : Bool) :
      TableEffect currentUser s (.removeCompleted chatPartnerId accepted)
        (s.changed (s.list.removeCompleted chatPartnerId accepted)) []
  | setup : TableEffect currentUser s .setupNavbarWithUser (s.changed s.list.setupNavbarWithUser).reloadData []
  | fired (values : List Message) (list : ChatsList) (same : values.Perm s.list.values)
      (sorted : s.list.timerFired.handleReloadData values = .ok list) :
      TableEffect currentUser s (.timerFires values) { s.changed list with blocks := s.blocks + 1 } []
  | untimed (values : List Message) (trap : Trap) (same : values.Perm s.list.values)
      (failed : s.list.timerFired.handleReloadData values = .error trap) :
      TableEffect currentUser s (.timerFires values) s.trap [.trapped trap]
  | reloaded (queued : s.blocks ≠ 0) :
      TableEffect currentUser s .reloadData { s.reloadData with blocks := s.blocks - 1 } []
  | cell (row : Nat) (message : Message) (counted : row < s.loaded.length) (here : s.list.messages[row]? = some message) :
      TableEffect currentUser s (.cellForRow row) { s with cells := s.cells.insert row message } [s.looks row]
  | missing (act : TableAct) (row : Nat) (asks : act.row = some row)
      (known : row < s.loaded.length ∨ ∃ displayed, s.cells.lookup row = some displayed)
      (absent : s.list.messages[row]? = none) :
      TableEffect currentUser s act s.trap [s.looks row, .trapped .indexOutOfRange]
  | idle (act : TableAct) (row : Nat) (out : List TableOut) (asks : act.row = some row)
      (silent : out = [] ∨ out = [s.looks row] ∧ row < s.list.messages.length) : TableEffect currentUser s act s out
  | removes (row : Nat) (displayed message : Message) (chatPartnerId : Uid)
      (shown : s.cells.lookup row = some displayed) (here : s.list.messages[row]? = some message)
      (named : message.partenerId currentUser = some chatPartnerId) :
      TableEffect currentUser s (.commitDelete row) s [s.looks row, .removes chatPartnerId displayed]
  | selects (row : Nat) (displayed message : Message) (partner : Uid) (shown : s.cells.lookup row = some displayed)
      (here : s.list.messages[row]? = some message) (named : message.partenerId currentUser = some partner) :
      TableEffect currentUser s (.didSelectRow row) { s with selected := s.selected ++ [(partner, displayed)] }
        [s.looks row]
  | read (k : Nat) (snapshot : Option Dictionary) (partner : Uid) (displayed : Message)
      (waiting : (partner, displayed) ∈ s.selected) :
      TableEffect currentUser s (.userRead k snapshot) { s with selected := s.selected.eraseIdx k }
        ((ChatsList.selectedUser partner snapshot).map (fun user => TableOut.opens user displayed)).toList

theorem commit_delete_cases (currentUser : Option Uid) (s : Table) (row : Nat) (displayed : Message)
    (shown : s.cells.lookup row = some displayed) :
    TableEffect currentUser s (.commitDelete row) (s.commitDelete currentUser row displayed).1
      (s.commitDelete currentUser row displayed).2 := by
  unfold Table.commitDelete ChatsList.commitDelete
  cases currentUser with
  | none => exact .idle _ row _ rfl (Or.inl rfl)
  | some uid =>
      cases here : s.list.messages[row]? with
      | none => exact .missing _ row rfl (Or.inr ⟨displayed, shown⟩) here
      | some message =>
          have bound : row < s.list.messages.length := (List.getElem?_eq_some_iff.mp here).1
          cases named : message.partenerId (some uid) with
          | none =>
              simpa [named] using TableEffect.idle (.commitDelete row) row [s.looks row] rfl (Or.inr ⟨rfl, bound⟩)
          | some partner =>
              simpa [named] using TableEffect.removes row displayed message partner shown here named

theorem did_select_row_cases (currentUser : Option Uid) (s : Table) (row : Nat) (displayed : Message)
    (shown : s.cells.lookup row = some displayed) :
    TableEffect currentUser s (.didSelectRow row) (s.didSelectRow currentUser row displayed).1
      (s.didSelectRow currentUser row displayed).2 := by
  unfold Table.didSelectRow ChatsList.didSelectRow
  cases here : s.list.messages[row]? with
  | none => exact .missing _ row rfl (Or.inr ⟨displayed, shown⟩) here
  | some message =>
      have bound : row < s.list.messages.length := (List.getElem?_eq_some_iff.mp here).1
      cases named : message.partenerId currentUser with
      | none => simpa [named] using TableEffect.idle (.didSelectRow row) row [s.looks row] rfl (Or.inr ⟨rfl, bound⟩)
      | some partner => simpa [named] using TableEffect.selects row displayed message partner shown here named

theorem table_step_cases (currentUser : Option Uid) (s next : Table) (act : TableAct) (out : List TableOut)
    (stepped : (Table.machine currentUser).step s act = some (next, out)) : TableEffect currentUser s act next out := by
  change s.step currentUser act = some (next, out) at stepped
  unfold Table.step at stepped
  split at stepped
  case isFalse => cases stepped
  cases act with
  | fetched snapshot => cases stepped; exact .fetched snapshot
  | childRemoved key => cases stepped; exact .childRemoved key
  | removeCompleted chatPartnerId accepted => cases stepped; exact .removeCompleted chatPartnerId accepted
  | setupNavbarWithUser => cases stepped; exact .setup
  | timerFires values =>
      simp only [Table.act] at stepped
      split at stepped
      · rename_i fires
        unfold Table.handleReloadData at stepped
        split at stepped
        · rename_i trap failed
          cases stepped
          exact .untimed values trap fires.2 failed
        · rename_i list sorted
          cases stepped
          exact .fired values list fires.2 sorted
      · cases stepped
  | reloadData =>
      simp only [Table.act] at stepped
      split at stepped
      · cases stepped
      · rename_i queued
        cases stepped
        exact .reloaded queued
  | cellForRow row =>
      simp only [Table.act] at stepped
      split at stepped
      · rename_i counted
        unfold Table.cellForRow at stepped
        split at stepped
        · rename_i absent
          cases stepped
          exact .missing _ row rfl (Or.inl counted) absent
        · rename_i message here
          cases stepped
          exact .cell row message counted here
      · cases stepped
  | commitDelete row =>
      obtain ⟨displayed, shown, ran⟩ := Option.map_eq_some_iff.mp stepped
      have effect := commit_delete_cases currentUser s row displayed shown
      rwa [ran] at effect
  | didSelectRow row =>
      obtain ⟨displayed, shown, ran⟩ := Option.map_eq_some_iff.mp stepped
      have effect := did_select_row_cases currentUser s row displayed shown
      rwa [ran] at effect
  | userRead k snapshot =>
      simp only [Table.act] at stepped
      split at stepped
      · cases stepped
      · rename_i partner displayed waiting
        cases stepped
        exact .read k snapshot partner displayed (List.mem_of_getElem? waiting)

end FirChat
