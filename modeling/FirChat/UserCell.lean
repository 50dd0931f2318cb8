import FirChat.Machine
import FirChat.Message
import FirChat.Queue

set_option autoImplicit false

namespace FirChat

-- Ghosts: the number of the assignment that started a read of users/id, the
-- messages assigned so far, and what each completed read has brought.
structure UserCell where
  textLabel : Option String
  detailTextLabel : Option String
  timeLabel : Option String
  message : Option Message := none
  reads : List (Nat × Uid) := []
  assigned : List Message := []
  answers : List (Nat × Option Dictionary) := []

inductive UserCellAct where
  | setMessage (message : Message)
  | read (k : Nat) (snapshot : Option Dictionary)

def nameOf (dictionary : Dictionary) : Option String := (dictionary.lookup "name").bind Value.asString

namespace UserCell

def reused (textLabel detailTextLabel timeLabel : Option String) : UserCell :=
  ⟨textLabel, detailTextLabel, timeLabel, none, [], [], []⟩

def fetchUserMessageInfo (currentUser : Option Uid) (cell : UserCell) (message : Message) : UserCell :=
  match message.partenerId currentUser with
  | none => cell
  | some id => { cell with reads := cell.reads ++ [(cell.assigned.length, id)] }

-- Without a time stamp the time label is left alone.
def didSet (currentUser : Option Uid) (format : ℚ → String) (cell : UserCell) (message : Message) : UserCell :=
  let assigned := { cell with message := some message, assigned := cell.assigned ++ [message] }
  { fetchUserMessageInfo currentUser assigned message with
    detailTextLabel := message.text
    timeLabel := match message.timeStamp with
      | none => cell.timeLabel
      | some seconds => some (format seconds) }

-- The block of the read: a snapshot that is no [String : String] changes nothing.
def answered (cell : UserCell) (dictionary : Option Dictionary) : UserCell :=
  match dictionary with
  | none => cell
  | some dictionary => { cell with textLabel := nameOf dictionary }

def step (currentUser : Option Uid) (format : ℚ → String) (cell : UserCell) : UserCellAct → Option (UserCell × List Unit)
  | .setMessage message => some (cell.didSet currentUser format message, [])
  | .read k snapshot =>
      match cell.reads[k]? with
      | none => none
      | some (number, _) =>
          some (({ cell with
            reads := cell.reads.eraseIdx k
            answers := cell.answers ++ [(number, asStrings snapshot)] } : UserCell).answered (asStrings snapshot), [])

def machine (currentUser : Option Uid) (format : ℚ → String) : Machine UserCell UserCellAct Unit := ⟨step currentUser format⟩

def partnerRecord (cell : UserCell) : Option Dictionary := (cell.answers.lookup cell.assigned.length).join

def records (cell : UserCell) : List Dictionary := cell.answers.filterMap Prod.snd

def times (cell : UserCell) : List ℚ := cell.assigned.filterMap Message.timeStamp

def Shows (format : ℚ → String) (cell : UserCell) (message : Message) : Prop :=
  cell.textLabel = cell.partnerRecord.bind nameOf ∧ cell.detailTextLabel = message.text ∧
    cell.timeLabel = message.timeStamp.map format

-- The last record to come has the name in the last message's record, and
-- without any record there was no name before.
def NameInOrder (cell : UserCell) (before : Option String) : Prop :=
  match cell.records.getLast? with
  | none => before = none
  | some record => nameOf record = cell.partnerRecord.bind nameOf

def TimeInOrder (cell : UserCell) (message : Message) (before : Option String) : Prop :=
  message.timeStamp ≠ none ∨ cell.times = [] ∧ before = none

end UserCell

structure Labelled (currentUser : Option Uid) (format : ℚ → String) (name time : Option String) (cell : UserCell) :
    Prop where
  last : cell.message = cell.assigned.getLast?
  text : cell.textLabel = (cell.records.getLast?.map nameOf).getD name
  detail : ∀ message ∈ cell.message, cell.detailTextLabel = message.text
  times : cell.timeLabel = (cell.times.getLast?.map format).or time
  answers : ∀ message ∈ cell.message, message.partenerId currentUser ≠ none →
    cell.assigned.length ∈ cell.reads.map Prod.fst ∨ cell.assigned.length ∈ cell.answers.map Prod.fst

theorem labelled_reused (currentUser : Option Uid) (format : ℚ → String) (name detail time : Option String) :
    Labelled currentUser format name time (UserCell.reused name detail time) :=
  ⟨rfl, rfl, by simp [UserCell.reused], rfl, by simp [UserCell.reused]⟩

theorem labelled_did_set (currentUser : Option Uid) (format : ℚ → String) (name time : Option String) (cell : UserCell)
    (message : Message) (labelled : Labelled currentUser format name time cell) :
    Labelled currentUser format name time (cell.didSet currentUser format message) := by
  have fetched (cell : UserCell) : (cell.fetchUserMessageInfo currentUser message).message = cell.message ∧
      (cell.fetchUserMessageInfo currentUser message).assigned = cell.assigned ∧
      (cell.fetchUserMessageInfo currentUser message).answers = cell.answers ∧
      (cell.fetchUserMessageInfo currentUser message).textLabel = cell.textLabel := by
    unfold UserCell.fetchUserMessageInfo
    split <;> exact ⟨rfl, rfl, rfl, rfl⟩
  obtain ⟨kept, assigned, answers, text⟩ :=
    fetched { cell with message := some message, assigned := cell.assigned ++ [message] }
  constructor
  · simp [UserCell.didSet, kept, assigned]
  · simpa [UserCell.didSet, UserCell.records, answers, text] using labelled.text
  · intro last member
    obtain rfl : message = last := by simpa [UserCell.didSet, kept] using member
    rfl
  · cases stamped : message.timeStamp with
    | none => simpa [UserCell.didSet, UserCell.times, assigned, stamped] using labelled.times
    | some seconds => simp [UserCell.didSet, UserCell.times, assigned, stamped]
  · intro last member partner
    obtain rfl : message = last := by simpa [UserCell.didSet, kept] using member
    obtain ⟨id, named⟩ := Option.ne_none_iff_exists'.mp partner
    exact Or.inl (by simp [UserCell.didSet, UserCell.fetchUserMessageInfo, named])

theorem labelled_answered (currentUser : Option Uid) (format : ℚ → String) (name time : Option String) (cell : UserCell)
    (k number : Nat) (id : Uid) (dictionary : Option Dictionary) (waiting : cell.reads[k]? = some (number, id))
    (labelled : Labelled currentUser format name time cell) :
    Labelled currentUser format name time (({ cell with
      reads := cell.reads.eraseIdx k
      answers := cell.answers ++ [(number, dictionary)] } : UserCell).answered dictionary) := by
  have come : ∀ message ∈ cell.message, message.partenerId currentUser ≠ none →
      cell.assigned.length ∈ (cell.reads.eraseIdx k).map Prod.fst ∨
        cell.assigned.length ∈ (cell.answers ++ [(number, dictionary)]).map Prod.fst := by
    intro message member partner
    rcases labelled.answers message member partner with reading | answered
    · obtain ⟨read, inside, same⟩ := List.mem_map.mp reading
      by_cases this : read = (number, id)
      · exact Or.inr (by simp [← same, this])
      · exact Or.inl (List.mem_map.mpr ⟨read, Queue.mem_erase_other cell.reads k _ read waiting this inside, same⟩)
    · exact Or.inr (by simp [List.mem_map.mp answered])
  cases dictionary with
  | none =>
      exact ⟨labelled.last, by simpa [UserCell.answered, UserCell.records] using labelled.text, labelled.detail,
        labelled.times, come⟩
  | some record =>
      exact ⟨labelled.last, by simp [UserCell.answered, UserCell.records], labelled.detail, labelled.times, come⟩

theorem labelled_step (currentUser : Option Uid) (format : ℚ → String) (name time : Option String) (cell : UserCell)
    (act : UserCellAct) (next : UserCell) (out : List Unit)
    (labelled : Labelled currentUser format name time cell)
    (stepped : (UserCell.machine currentUser format).step cell act = some (next, out)) :
    Labelled currentUser format name time next := by
  cases act with
  | setMessage message =>
      cases stepped
      exact labelled_did_set currentUser format name time cell message labelled
  | read k snapshot =>
      simp only [UserCell.machine, UserCell.step] at stepped
      split at stepped
      · cases stepped
      · rename_i number id waiting
        cases stepped
        exact labelled_answered currentUser format name time cell k number id _ waiting labelled

theorem partner_record_mem (cell : UserCell) (record : Dictionary) (found : cell.partnerRecord = some record) :
    record ∈ cell.records := by
  obtain ⟨front, back, here, _⟩ := List.lookup_eq_some_iff.mp (Option.join_eq_some_iff.mp found)
  exact List.mem_filterMap.mpr ⟨(cell.assigned.length, some record), by simp [here], rfl⟩

theorem labelled_name (currentUser : Option Uid) (format : ℚ → String) (name time : Option String) (cell : UserCell)
    (labelled : Labelled currentUser format name time cell) :
    cell.textLabel = cell.partnerRecord.bind nameOf ↔ cell.NameInOrder name := by
  rw [labelled.text, UserCell.NameInOrder]
  cases last : cell.records.getLast? with
  | none =>
      have silent : cell.partnerRecord = none := by
        rw [Option.eq_none_iff_forall_ne_some]
        intro record found
        have member := partner_record_mem cell record found
        rw [List.getLast?_eq_none_iff.mp last] at member
        cases member
      simp [silent]
  | some record => exact Iff.rfl

theorem labelled_time (currentUser : Option Uid) (format : ℚ → String) (name time : Option String) (cell : UserCell)
    (message : Message) (labelled : Labelled currentUser format name time cell) (assigned : cell.message = some message) :
    cell.timeLabel = message.timeStamp.map format ↔ cell.TimeInOrder message time := by
  obtain ⟨earlier, here⟩ := List.getLast?_eq_some_iff.mp (labelled.last.symm.trans assigned)
  rw [labelled.times, UserCell.TimeInOrder]
  cases stamped : message.timeStamp with
  | some seconds =>
      have last : cell.times.getLast? = some seconds := by simp [UserCell.times, here, stamped]
      simp [last]
  | none => simp [Option.or_eq_none_iff]

theorem cell_shows_last_message (currentUser : Option Uid) (format : ℚ → String) (name detail time : Option String)
    (acts : List UserCellAct) (cell : UserCell) (out : List Unit) (message : Message)
    (ran : (UserCell.machine currentUser format).run (UserCell.reused name detail time) acts = some (cell, out))
    (quiet : cell.reads = []) (last : cell.message = some message) :
    (message.partenerId currentUser ≠ none → cell.assigned.length ∈ cell.answers.map Prod.fst) ∧
      (cell.Shows format message ↔ cell.NameInOrder name ∧ cell.TimeInOrder message time) := by
  have labelled := Machine.invariant_run (UserCell.machine currentUser format) (Labelled currentUser format name time)
    (labelled_step currentUser format name time) acts (UserCell.reused name detail time) cell out
    (labelled_reused currentUser format name detail time) ran
  constructor
  · intro partner
    have come := labelled.answers message last partner
    rw [quiet] at come
    exact come.resolve_left (by simp)
  · rw [UserCell.Shows, labelled_name currentUser format name time cell labelled,
      labelled_time currentUser format name time cell message labelled last]
    have text : cell.detailTextLabel = message.text := labelled.detail message last
    simp [text]

def rowMessage (fromId : Uid) : Message := ⟨some fromId, some "hi", some 1600000000, some "ann", none, none, none⟩

def userRecord (name : String) : Option Dictionary := some ((∅ : Dictionary).insert "name" (.string name))

def scrolledSlowly : List UserCellAct :=
  [.setMessage (rowMessage "bob"), .read 0 (userRecord "Bob"), .setMessage (rowMessage "eve"), .read 0 (userRecord "Eve")]

theorem cell_shows_last_message_slowly :
    ∃ cell out, (UserCell.machine (some "ann") (fun _ => "noon")).run (UserCell.reused none none none) scrolledSlowly =
        some (cell, out) ∧ cell.textLabel = some "Eve" ∧ cell.Shows (fun _ => "noon") (rowMessage "eve") :=
  ⟨_, _, rfl, rfl, (cell_shows_last_message (some "ann") (fun _ => "noon") none none none scrolledSlowly _ _
    (rowMessage "eve") rfl rfl rfl).2.mpr ⟨rfl, Or.inl (by decide)⟩⟩

def scrolledQuickly : List UserCellAct :=
  [.setMessage (rowMessage "bob"), .setMessage (rowMessage "eve"), .read 1 (userRecord "Eve"), .read 0 (userRecord "Bob")]

theorem cell_shows_another_name :
    ¬ ∀ currentUser format name detail time acts cell out message,
      (UserCell.machine currentUser format).run (UserCell.reused name detail time) acts = some (cell, out) →
      cell.reads = [] → cell.message = some message → cell.Shows format message := by
  intro all
  have shown := all (some "ann") (fun _ => "noon") none none none scrolledQuickly _ _ (rowMessage "eve") rfl rfl rfl
  exact absurd shown.1 (by decide)

end FirChat
