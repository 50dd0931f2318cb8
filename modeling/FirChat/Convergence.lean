import FirChat.Latest
import FirChat.Reload
import FirChat.RowOrder
import FirChat.Simulation

set_option autoImplicit false

namespace FirChat

structure SameList (records : MsgId → Option Dictionary) (uid : Uid) (s : Session) (t : Table) : Prop where
  formats : Formats records s
  signedIn : s.currentUser = some uid
  list : t.list = s.list
  running : t.running = true

theorem formatted_timed (records : MsgId → Option Dictionary) (entry : Entry) (formatted : Formatted records entry) :
    ∀ record ∈ records entry.id, Timed (Message.init record) := by
  obtain ⟨known, stored, fromId, toId, timeStamp, _, _, hasTime, _⟩ := formatted
  intro record here
  cases stored.symm.trans here
  simp [Timed, Message.init, hasTime, Value.asNumber]

theorem session_simulates_table (records : MsgId → Option Dictionary) (uid : Uid) :
    (Session.machine records).Simulates (Table.machine (some uid)) (SameList records uid) (fun _ act => act.Stays uid)
      (fun _ act => act.Brings Timed) (fun _ => none) := by
  intro s t act next out same stays stepped
  have formats := formats_step records s act next out same.formats stepped
  have silent : out.filterMap (fun _ => (none : Option TableOut)) = [] := List.filterMap_eq_nil_iff.mpr (fun _ _ => rfl)
  rw [silent]
  -- The table does nothing, or makes the one move that changes its list in the same way.
  have rests (user : next.currentUser = some uid) (list : next.list = s.list) :
      ∃ moves last, (Table.machine (some uid)).run t moves = some (last, []) ∧
        (Table.machine (some uid)).Along (fun _ move => move.Brings Timed) t moves ∧ SameList records uid next last :=
    ⟨[], t, rfl, trivial, ⟨formats, user, same.list.trans list.symm, same.running⟩⟩
  have moves (move : TableAct) (last : Table) (moved : t.act (some uid) move = some (last, []))
      (brings : move.Brings Timed) (user : next.currentUser = some uid) (list : last.list = next.list)
      (running : last.running = true) :
      ∃ moves last, (Table.machine (some uid)).run t moves = some (last, []) ∧
        (Table.machine (some uid)).Along (fun _ move => move.Brings Timed) t moves ∧ SameList records uid next last := by
    have ran : (Table.machine (some uid)).step t move = some (last, []) := by
      change t.step (some uid) move = some (last, [])
      rw [Table.step, if_pos same.running, moved]
    obtain ⟨made, allowed⟩ := Machine.matched_move (Table.machine (some uid)) (fun _ move => move.Brings Timed) t last move
      [] ran brings
    exact ⟨[move], last, made, allowed, ⟨formats, user, list, running⟩⟩
  cases session_step_cases records s next act out stepped with
  | signIn other =>
      obtain rfl : other = uid := stays
      exact rests rfl rfl
  | signOut => exact stays.elim
  | setup =>
      refine moves .setupNavbarWithUser _ rfl trivial ?_ ?_ same.running
      · unfold Session.setup
        split <;> exact same.signedIn
      · unfold Session.setup
        rw [← same.list]
        split <;> rfl
  | messageIndexed => exact rests same.signedIn rfl
  | conversationRemoved => exact rests same.signedIn rfl
  | indexWrite => exact rests same.signedIn rfl
  | swipeDelete => exact rests same.signedIn rfl
  | unswiped => exact rests same.signedIn rfl
  | verdict => exact rests same.signedIn rfl
  | value => exact rests same.signedIn rfl
  | deliver k front back event =>
      cases event with
      | partnerAdded => exact rests same.signedIn rfl
      | messageAdded => exact rests same.signedIn rfl
      | partnerRemoved owner partner =>
          exact moves (.childRemoved partner) _ rfl trivial same.signedIn
            (congrArg (ChatsList.childRemoved partner) same.list) same.running
  | complete k partner accepted =>
      exact moves (.removeCompleted partner accepted) _ rfl trivial same.signedIn
        (congrArg (ChatsList.removeCompleted partner accepted) same.list) same.running
  | single k fetch waiting _ _ filed =>
      cases filed
      refine moves (.fetched (records fetch.id)) _ rfl ?_ same.signedIn ?_ same.running
      · exact formatted_timed records _ (same.formats.fetches fetch (List.mem_of_getElem? waiting))
      · change t.list.fetchMessage (some uid) (records fetch.id) = s.list.fetchMessage s.currentUser (records fetch.id)
        rw [same.list, same.signedIn]
  | timerFires values list =>
      change s.step records (.timerFires values) = _ at stepped
      simp only [Session.step] at stepped
      split at stepped
      · rename_i fires
        split at stepped
        · cases stepped
        · rename_i sorted
          cases stepped
          refine moves (.timerFires values) { t.changed list with blocks := t.blocks + 1 } ?_ trivial same.signedIn rfl
            same.running
          simp only [Table.act, Table.handleReloadData, same.list, if_pos fires, sorted]
      · cases stepped

theorem session_debounced (records : MsgId → Option Dictionary) (uid : Uid) (actions : List SessionAct) (s : Session)
    (out : List Notice) (stays : ∀ act ∈ actions, act.Stays uid)
    (ran : (Session.machine records).run (Session.start (some uid)) actions = some (s, out)) :
    Filed Timed uid s.list.messageDict ∧ UpToDate BySeconds uid s.list := by
  have staying := Machine.along_of_forall (Session.machine records) (fun _ act => act.Stays uid) actions
    (fun _ => stays) (Session.start (some uid))
  obtain ⟨moves, t, moved, brings, same⟩ := Machine.simulates_run (Session.machine records) (Table.machine (some uid))
    (SameList records uid) (fun _ act => act.Stays uid) (fun _ act => act.Brings Timed) (fun _ => none)
    (session_simulates_table records uid) actions (Session.start (some uid)) s Table.start out
    ⟨formats_start records (some uid), rfl, rfl, rfl⟩ staying ran
  have debounced := debounced_run Timed uid (fun _ here => here) moves t _
    (Machine.forall_of_along _ (fun move => move.Brings Timed) moves Table.start t _ moved brings) moved
  exact ⟨same.list ▸ debounced.filed, same.list ▸ debounced.shown⟩

theorem tracked_run (records : MsgId → Option Dictionary) (uid : Uid) (actions : List SessionAct) (s : Session)
    (out : List Notice) (stays : ∀ act ∈ actions, act.Stays uid)
    (ordered : (Session.machine records).Along Session.InOrder (Session.start (some uid)) actions)
    (timely : (Session.machine records).Along (Session.Timely uid) (Session.start (some uid)) actions)
    (ran : (Session.machine records).run (Session.start (some uid)) actions = some (s, out)) : s.Tracked uid := by
  have staying := Machine.along_of_forall (Session.machine records) (fun _ act => act.Stays uid) actions
    (fun _ => stays) (Session.start (some uid))
  have along := Machine.along_and _ _ _ _ _ staying (Machine.along_and _ _ _ _ _ ordered timely)
  exact (Machine.invariant_along (Session.machine records) (fun s => Formats records s ∧ s.Attended uid ∧ s.Tracked uid) _
    (fun s act next out holds cond stepped => ⟨formats_step records s act next out holds.1 stepped,
      attended_step records uid s next act out holds.2.1 cond.1 stepped,
      tracked_step records uid s next act out holds.1 holds.2.1 holds.2.2 cond.2.1 cond.2.2 stepped⟩)
    actions (Session.start (some uid)) s out
    ⟨formats_start records (some uid), attended_start uid, tracked_start uid⟩ along ran).2.2

theorem quiet_messages (uid : Uid) (s : Session) (tracked : s.Tracked uid) (quiet : s.Quiet)
    (filed : Filed Timed uid s.list.messageDict) (shown : Shown BySeconds uid s.list) :
    (s.list.messages.map (fun message => message.partenerId (some uid))).Perm
      ((UserMessages.partners s.userMessages uid).map some) := by
  have keys : s.list.messageDict.keys.Perm (UserMessages.partners s.userMessages uid) := by
    refine (List.perm_ext_iff_of_nodup s.list.messageDict.keys_nodup (List.nodup_dedup _)).mpr (fun partner => ?_)
    change partner ∈ s.list.messageDict.keys ↔ partner ∈ UserMessages.partners s.userMessages uid
    rw [mem_partners_shows]
    exact quiet_rows uid s tracked quiet partner
  have rows := shown.all.map (fun message => message.partenerId (some uid))
  rw [filed_partners Timed uid s.list filed] at rows
  exact rows.trans (keys.map some)

-- What the next reloadData displays: a row for each conversation, the latest second first.
theorem rows_at_rest (records : MsgId → Option Dictionary) (uid : Uid) (actions : List SessionAct) (s : Session)
    (out : List Notice) (stays : ∀ act ∈ actions, act.Stays uid)
    (ordered : (Session.machine records).Along Session.InOrder (Session.start (some uid)) actions)
    (timely : (Session.machine records).Along (Session.Timely uid) (Session.start (some uid)) actions)
    (ran : (Session.machine records).run (Session.start (some uid)) actions = some (s, out)) (quiet : s.Quiet)
    (idle : s.list.timer ≠ some ⟨true⟩) :
    (s.list.messages.map (fun message => message.partenerId (some uid))).Perm
        ((UserMessages.partners s.userMessages uid).map some) ∧ s.list.messages.Pairwise BySeconds := by
  have tracked := tracked_run records uid actions s out stays ordered timely ran
  obtain ⟨filed, current⟩ := session_debounced records uid actions s out stays ran
  have shown := current.resolve_left idle
  exact ⟨quiet_messages uid s tracked quiet filed shown, shown.sorted⟩

def secondText : Message := Message.init (messageValues "ann" "bob" 1600000060 (sendMessage "hello"))

def followedText : List SessionAct :=
  [.setupNavbarWithUser, .messageIndexed ⟨"ann", "bob", "-M1"⟩, .deliver 0, .deliver 0, .value 0, .single 0,
    .timerFires [firstText], .messageIndexed ⟨"ann", "bob", "-M2"⟩, .deliver 0, .value 0, .single 0,
    .timerFires [secondText]]

def foundText : List SessionAct :=
  [.messageIndexed ⟨"ann", "bob", "-M2"⟩, .messageIndexed ⟨"ann", "bob", "-M1"⟩, .setupNavbarWithUser, .deliver 0,
    .deliver 1, .deliver 0, .value 0, .single 0, .value 0, .single 0, .timerFires [secondText]]

theorem rows_at_rest_followed :
    ∃ s out, (Session.machine textRecords).run (Session.start (some "ann")) followedText = some (s, out) ∧
      UserMessages.partners s.userMessages "ann" = ["bob"] ∧
      (s.list.messages.map (fun message => message.partenerId (some "ann"))).Perm [some "bob"] := by
  refine ⟨_, _, rfl, rfl, (rows_at_rest textRecords "ann" followedText _ _ ?_ ?_ ?_ rfl ?_ ?_).1⟩
  · simp [followedText, SessionAct.Stays]
  · refine Machine.along_of_forall _ _ _ (fun s act member => in_order_first s act ?_) _
    intro k same
    obtain rfl := same
    simpa [followedText] using member
  · decide +kernel
  · exact ⟨by decide, rfl, rfl, rfl, fun _ _ => List.not_mem_nil⟩
  · decide

-- A run of a ChatsList to a state of rest in which the latest message of every
-- conversation was also filed last.
structure Rested (records : MsgId → Option Dictionary) (uid : Uid) (actions : List SessionAct) (s : Session)
    (out : List Notice) : Prop where
  undisturbed : ∀ act ∈ actions, act.Undisturbed uid
  ran : (Session.machine records).run (Session.start (some uid)) actions = some (s, out)
  quiet : s.Quiet
  idle : s.list.timer ≠ some ⟨true⟩
  latest : LatestLast records s uid out

-- No two messages of the user that read differently are of one second.
def SecondsDiffer (records : MsgId → Option Dictionary) (uid : Uid) (index : UserMessages) : Prop :=
  ∀ p q first second early late, (⟨uid, p, first⟩ : Entry) ∈ index → (⟨uid, q, second⟩ : Entry) ∈ index →
    records first = some early → records second = some late →
    ChatsList.timeOf (Message.init early) = ChatsList.timeOf (Message.init late) → Message.init early = Message.init late

theorem rested_row (records : MsgId → Option Dictionary) (uid : Uid) (actions : List SessionAct) (s : Session)
    (out : List Notice) (rested : Rested records uid actions s out) (partner : Uid) (message : Message)
    (row : s.list.messageDict.lookup partner = some message) :
    ∃ id record, (⟨uid, partner, id⟩ : Entry) ∈ s.userMessages ∧ records id = some record ∧
      message = Message.init record ∧ Greatest records s uid partner message.timeStamp := by
  obtain ⟨_, growing⟩ := undisturbed_run records uid actions s out rested.undisturbed rested.ran
  obtain ⟨id, record, filed, stored, rfl, there⟩ := growing.rows partner message row
  obtain ⟨last, known, same, kept, greatest⟩ := rested.latest partner ⟨id, there⟩
  cases filed.symm.trans same
  cases stored.symm.trans kept
  exact ⟨id, record, there, stored, rfl, greatest⟩

theorem rested_same_row (records : MsgId → Option Dictionary) (uid : Uid) (first second : List SessionAct)
    (s t : Session) (out later : List Notice) (rested : Rested records uid first s out)
    (other : Rested records uid second t later)
    (same : ∀ partner id, (⟨uid, partner, id⟩ : Entry) ∈ s.userMessages ↔ (⟨uid, partner, id⟩ : Entry) ∈ t.userMessages)
    (differ : SecondsDiffer records uid s.userMessages) (partner : Uid) (message : Message)
    (row : s.list.messageDict.lookup partner = some message) : t.list.messageDict.lookup partner = some message := by
  obtain ⟨id, record, there, stored, rfl, greatest⟩ := rested_row records uid first s out rested partner message row
  obtain ⟨tracked, _⟩ := undisturbed_run records uid second t later other.undisturbed other.ran
  have present := (quiet_rows uid t tracked other.quiet partner).mpr ⟨id, (same partner id).mp there⟩
  obtain ⟨shown, found⟩ := Option.isSome_iff_exists.mp (AList.lookup_isSome.mpr present)
  obtain ⟨also, known, here, kept, rfl, most⟩ := rested_row records uid second t later other partner shown found
  obtain ⟨late, early, isLate, isEarly, bound⟩ := greatest also known ((same partner also).mpr here) kept
  obtain ⟨last, first, isLast, isFirst, limit⟩ := most id record ((same partner id).mp there) stored
  cases isLate.symm.trans isFirst
  cases isEarly.symm.trans isLast
  have equal : (Message.init record).timeStamp = (Message.init known).timeStamp := by
    rw [isLate, isEarly, le_antisymm limit bound]
  rw [differ partner partner id also record known there ((same partner also).mpr here) stored kept
    (by rw [ChatsList.timeOf, ChatsList.timeOf, equal])]
  exact found

theorem devices_converge (records : MsgId → Option Dictionary) (uid : Uid) (first second : List SessionAct)
    (s t : Session) (out later : List Notice) (rested : Rested records uid first s out)
    (other : Rested records uid second t later)
    (same : ∀ partner id, (⟨uid, partner, id⟩ : Entry) ∈ s.userMessages ↔ (⟨uid, partner, id⟩ : Entry) ∈ t.userMessages)
    (differ : SecondsDiffer records uid s.userMessages) : s.list.messages = t.list.messages := by
  have across : SecondsDiffer records uid t.userMessages := fun p q one two early late there here =>
    differ p q one two early late ((same p one).mpr there) ((same q two).mpr here)
  obtain ⟨_, current⟩ := session_debounced records uid first s out
    (fun act member => undisturbed_stays uid act (rested.undisturbed act member)) rested.ran
  obtain ⟨_, also⟩ := session_debounced records uid second t later
    (fun act member => undisturbed_stays uid act (other.undisturbed act member)) other.ran
  have shown := current.resolve_left rested.idle
  have shownToo := also.resolve_left other.idle
  have dict : s.list.messageDict.entries.Perm t.list.messageDict.entries := by
    refine List.lookup_ext s.list.messageDict.nodupKeys t.list.messageDict.nodupKeys (fun partner message => ⟨?_, ?_⟩)
    · exact rested_same_row records uid first second s t out later rested other same differ partner message
    · exact rested_same_row records uid second first t s later out other rested (fun p id => (same p id).symm) across
        partner message
  have values : s.list.values.Perm t.list.values := by
    unfold ChatsList.values
    exact dict.map _
  have rows := (shown.all.trans values).trans shownToo.all.symm
  refine (Sorting.sorted_eq_of_injective ChatsList.timeOf _ _ shownToo.sorted shown.sorted rows.symm ?_).symm
  intro m1 member1 m2 member2 tied
  have from_ (message : Message) (member : message ∈ s.list.messages) :
      ∃ partner id record, (⟨uid, partner, id⟩ : Entry) ∈ s.userMessages ∧ records id = some record ∧
        message = Message.init record := by
    obtain ⟨entry, inside, rfl⟩ := List.mem_map.mp (shown.all.mem_iff.mp member)
    obtain ⟨id, record, there, stored, read, _⟩ := rested_row records uid first s out rested entry.1 entry.2
      (AList.mem_lookup_iff.mpr inside)
    exact ⟨entry.1, id, record, there, stored, read⟩
  obtain ⟨p, one, early, there, stored, rfl⟩ := from_ m1 member1
  obtain ⟨q, two, late, here, kept, rfl⟩ := from_ m2 member2
  exact differ p q one two early late there here stored kept tied

theorem text_entries (index : UserMessages) (partner : Uid) (id : MsgId)
    (texts : ∀ entry ∈ index, entry = ⟨"ann", "bob", "-M1"⟩ ∨ entry = ⟨"ann", "bob", "-M2"⟩)
    (there : (⟨"ann", partner, id⟩ : Entry) ∈ index) : partner = "bob" ∧ (id = "-M1" ∨ id = "-M2") := by
  rcases texts _ there with same | same <;> cases same
  · exact ⟨rfl, Or.inl rfl⟩
  · exact ⟨rfl, Or.inr rfl⟩

theorem rested_texts (actions : List SessionAct) (s : Session) (out : List Notice)
    (undisturbed : ∀ act ∈ actions, act.Undisturbed "ann")
    (ran : (Session.machine textRecords).run (Session.start (some "ann")) actions = some (s, out)) (quiet : s.Quiet)
    (idle : s.list.timer ≠ some ⟨true⟩) (last : lastFiled "bob" out = some "-M2")
    (texts : ∀ entry ∈ s.userMessages, entry = ⟨"ann", "bob", "-M1"⟩ ∨ entry = ⟨"ann", "bob", "-M2"⟩) :
    Rested textRecords "ann" actions s out := by
  refine ⟨undisturbed, ran, quiet, idle, fun partner given => ?_⟩
  obtain ⟨id, there⟩ := given
  obtain ⟨rfl, _⟩ := text_entries s.userMessages partner id texts there
  refine ⟨"-M2", _, last, rfl, fun other record found stored => ?_⟩
  rcases (text_entries s.userMessages "bob" other texts found).2 with rfl | rfl <;> cases stored <;>
    exact ⟨_, _, rfl, rfl, by decide⟩

theorem devices_converge_texts :
    ∃ s t out later, (Session.machine textRecords).run (Session.start (some "ann")) followedText = some (s, out) ∧
      (Session.machine textRecords).run (Session.start (some "ann")) foundText = some (t, later) ∧
      s.list.messages = t.list.messages := by
  have followed := rested_texts followedText _ _ (by simp [followedText, SessionAct.Undisturbed]) rfl
    ⟨by decide, rfl, rfl, rfl, fun _ _ => List.not_mem_nil⟩ (by decide) rfl (by decide)
  have found := rested_texts foundText _ _ (by simp [foundText, SessionAct.Undisturbed]) rfl
    ⟨by decide, rfl, rfl, rfl, fun _ _ => List.not_mem_nil⟩ (by decide) rfl (by decide)
  refine ⟨_, _, _, _, rfl, rfl, devices_converge textRecords "ann" _ _ _ _ _ _ followed found ?_ ?_⟩
  · intro partner id
    change _ ∈ [(⟨"ann", "bob", "-M1"⟩ : Entry), ⟨"ann", "bob", "-M2"⟩] ↔
      _ ∈ [(⟨"ann", "bob", "-M2"⟩ : Entry), ⟨"ann", "bob", "-M1"⟩]
    simp [or_comm]
  · intro p q first second early late there here stored kept tied
    have texts : ∀ entry ∈ [(⟨"ann", "bob", "-M1"⟩ : Entry), ⟨"ann", "bob", "-M2"⟩],
        entry = ⟨"ann", "bob", "-M1"⟩ ∨ entry = ⟨"ann", "bob", "-M2"⟩ := by decide
    rcases (text_entries _ p first texts there).2 with rfl | rfl <;>
      rcases (text_entries _ q second texts here).2 with rfl | rfl <;> cases stored <;> cases kept <;>
      first | rfl | exact absurd tied (by decide)

end FirChat
