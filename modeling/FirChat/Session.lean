import FirChat.Integrity
import FirChat.Optimistic

set_option autoImplicit false

namespace FirChat

inductive IndexWrite where
  | add (entry : Entry)
  | remove (owner partner : Uid)
deriving DecidableEq

def UserMessages.applyWrite (index : UserMessages) : IndexWrite → UserMessages
  | .add entry => index.add entry
  | .remove owner partner => index.remove owner partner

-- A child event that is on its way to a listener of user-messages/owner (the
-- first two) or of user-messages/owner/partner.
inductive ChildEvent where
  | partnerAdded (owner partner : Uid)
  | partnerRemoved (owner partner : Uid)
  | messageAdded (owner partner : Uid) (id : MsgId)
deriving DecidableEq

def ChildEvent.owner : ChildEvent → Uid
  | .partnerAdded owner _ => owner
  | .partnerRemoved owner _ => owner
  | .messageAdded owner _ _ => owner

inductive FetchStage where
  | value
  | single
deriving DecidableEq

-- A call of fetchMessage that waits for one of its two nested callbacks. Only
-- id is data of the source; owner and partner tell which listener made it. The
-- outer observer stays attached but a stored record never changes, so it fires once.
structure Fetch where
  owner : Uid
  partner : Uid
  id : MsgId
  stage : FetchStage
deriving DecidableEq

-- One ChatsList with its listeners. owner is a ghost: the user at the latest
-- setupNavbarWithUser. Listeners are only ever added.
structure Session where
  currentUser : Option Uid
  owner : Option Uid := none
  list : ChatsList := {}
  index : Replica UserMessages IndexWrite := ⟨[], []⟩
  listeners : List Uid := []
  conversations : List (Uid × Uid) := []
  events : List ChildEvent := []
  fetches : List Fetch := []
  completions : List (Uid × Bool) := []

-- messageIndexed and conversationRemoved are the doing of other devices.
inductive SessionAct where
  | signIn (uid : Uid)
  | signOut
  | setupNavbarWithUser
  | messageIndexed (entry : Entry)
  | conversationRemoved (owner partner : Uid)
  | indexWrite (entry : Entry)
  | swipeDelete (row : Nat)
  | verdict (accepted : Bool)
  | deliver (k : Nat)
  | value (k : Nat)
  | single (k : Nat)
  | complete (k : Nat)
  | timerFires (values : List Message)

inductive Notice where
  | filed (fetch : Fetch) (owner currentUser : Option Uid) (key : Uid)
  | alerted
deriving DecidableEq

def raised (listeners : List Uid) (conversations : List (Uid × Uid)) (old new : UserMessages) : List ChildEvent :=
  listeners.flatMap (fun owner =>
    ((UserMessages.partners old owner).filter (fun partner => decide (partner ∉ UserMessages.partners new owner))).map
        (ChildEvent.partnerRemoved owner) ++
      ((UserMessages.partners new owner).filter (fun partner => decide (partner ∉ UserMessages.partners old owner))).map
        (ChildEvent.partnerAdded owner)) ++
  conversations.flatMap (fun path =>
    ((UserMessages.conversation new path.1 path.2).filter
      (fun id => decide (id ∉ UserMessages.conversation old path.1 path.2))).map (ChildEvent.messageAdded path.1 path.2))

def Formatted (records : MsgId → Option Dictionary) (entry : Entry) : Prop :=
  ∃ record, records entry.id = some record ∧ WellFormed entry.owner entry.partner record

namespace Session

def start (currentUser : Option Uid) : Session := { currentUser := currentUser }

def userMessages (s : Session) : UserMessages := s.index.view UserMessages.applyWrite

def indexed (s : Session) (index : Replica UserMessages IndexWrite) : Session :=
  { s with
    index := index
    events := s.events ++ raised s.listeners s.conversations s.userMessages (index.view UserMessages.applyWrite) }

-- setupNavbarWithUser, which ends in observeUserMessages. A new listener gets
-- the children that are there.
def setup (s : Session) : Session :=
  let cleared := { s with list := s.list.setupNavbarWithUser, owner := s.currentUser }
  match s.currentUser with
  | none => cleared
  | some uid =>
      { cleared with
        listeners := s.listeners ++ [uid]
        events := s.events ++ (UserMessages.partners s.userMessages uid).map (ChildEvent.partnerAdded uid) }

def handle (s : Session) : ChildEvent → Session
  | .partnerAdded owner partner =>
      { s with
        conversations := s.conversations ++ [(owner, partner)]
        events := s.events ++
          (UserMessages.conversation s.userMessages owner partner).map (ChildEvent.messageAdded owner partner) }
  | .partnerRemoved _ partner => { s with list := s.list.childRemoved partner }
  | .messageAdded owner partner id => { s with fetches := s.fetches ++ [⟨owner, partner, id, .value⟩] }

def file (s : Session) (fetch : Fetch) (snapshot : Option Dictionary) : Session × List Notice :=
  ({ s with list := s.list.fetchMessage s.currentUser snapshot },
    ((snapshot.bind (fun dictionary => (ChatsList.fetchedMessage dictionary).partenerId s.currentUser)).map
      (Notice.filed fetch s.owner s.currentUser)).toList)

def decided (s : Session) (write : IndexWrite) (accepted : Bool) (index : Replica UserMessages IndexWrite) : Session :=
  { s.indexed index with
    completions := s.completions ++
      match write with
      | .add _ => []
      | .remove _ partner => [(partner, accepted)] }

def step (records : MsgId → Option Dictionary) (s : Session) : SessionAct → Option (Session × List Notice)
  | .signIn uid => some ({ s with currentUser := some uid }, [])
  | .signOut => some ({ s with currentUser := none }, [])
  | .setupNavbarWithUser => some (s.setup, [])
  | .messageIndexed entry =>
      if (records entry.id).any (wellFormed entry.owner entry.partner) then
        some (s.indexed (s.index.receive UserMessages.applyWrite (.add entry)), [])
      else none
  | .conversationRemoved owner partner =>
      some (s.indexed (s.index.receive UserMessages.applyWrite (.remove owner partner)), [])
  | .indexWrite entry =>
      if (records entry.id).any (wellFormed entry.owner entry.partner) then
        some (s.indexed (s.index.issue (.add entry)), [])
      else none
  | .swipeDelete row =>
      match s.list.commitDelete s.currentUser row with
      | .error _ => none
      | .ok none => some (s, [])
      | .ok (some (uid, chatPartnerId)) => some (s.indexed (s.index.issue (.remove uid chatPartnerId)), [])
  | .verdict accepted =>
      match s.index.decide UserMessages.applyWrite accepted with
      | none => none
      | some (write, index) => some (s.decided write accepted index, [])
  | .deliver k =>
      match s.events[k]? with
      | none => none
      | some event => some (({ s with events := s.events.eraseIdx k }).handle event, [])
  | .value k =>
      match s.fetches[k]? with
      | some ⟨owner, partner, id, .value⟩ =>
          some ({ s with fetches := s.fetches.set k ⟨owner, partner, id, .single⟩ }, [])
      | _ => none
  | .single k =>
      match s.fetches[k]? with
      | some ⟨owner, partner, id, .single⟩ =>
          some (({ s with fetches := s.fetches.eraseIdx k }).file ⟨owner, partner, id, .single⟩ (records id))
      | _ => none
  | .complete k =>
      match s.completions[k]? with
      | none => none
      | some (chatPartnerId, accepted) =>
          some ({ s with
            completions := s.completions.eraseIdx k
            list := s.list.removeCompleted chatPartnerId accepted }, if accepted then [] else [.alerted])
  | .timerFires values =>
      if s.list.timer = some ⟨true⟩ ∧ values.Perm s.list.values then
        match s.list.timerFired.handleReloadData values with
        | .error _ => none
        | .ok list => some ({ s with list := list }, [])
      else none

def machine (records : MsgId → Option Dictionary) : Machine Session SessionAct Notice := ⟨step records⟩

end Session

-- All that one action can do to a session. An event leaves the queue from
-- between those before it and those behind it.
inductive SessionEffect (records : MsgId → Option Dictionary) (s : Session) :
    SessionAct → Session → List Notice → Prop where
  | signIn (uid : Uid) : SessionEffect records s (.signIn uid) { s with currentUser := some uid } []
  | signOut : SessionEffect records s .signOut { s with currentUser := none } []
  | setup : SessionEffect records s .setupNavbarWithUser s.setup []
  | messageIndexed (entry : Entry) (formatted : Formatted records entry) :
      SessionEffect records s (.messageIndexed entry) (s.indexed (s.index.receive UserMessages.applyWrite (.add entry))) []
  | conversationRemoved (owner partner : Uid) :
      SessionEffect records s (.conversationRemoved owner partner)
        (s.indexed (s.index.receive UserMessages.applyWrite (.remove owner partner))) []
  | indexWrite (entry : Entry) (formatted : Formatted records entry) :
      SessionEffect records s (.indexWrite entry) (s.indexed (s.index.issue (.add entry))) []
  | swipeDelete (row : Nat) (uid partner : Uid) (signedIn : s.currentUser = some uid) :
      SessionEffect records s (.swipeDelete row) (s.indexed (s.index.issue (.remove uid partner))) []
  | unswiped (row : Nat) : SessionEffect records s (.swipeDelete row) s []
  | verdict (accepted : Bool) (write : IndexWrite) (index : Replica UserMessages IndexWrite)
      (oldest : s.index.decide UserMessages.applyWrite accepted = some (write, index)) :
      SessionEffect records s (.verdict accepted) (s.decided write accepted index) []
  | deliver (k : Nat) (front back : List ChildEvent) (event : ChildEvent) (queued : s.events = front ++ event :: back)
      (here : s.events[k]? = some event) (before : front = s.events.take k) :
      SessionEffect records s (.deliver k) (({ s with events := front ++ back }).handle event) []
  | value (k : Nat) (fetch : Fetch) (waiting : s.fetches[k]? = some fetch) :
      SessionEffect records s (.value k) { s with fetches := s.fetches.set k { fetch with stage := .single } } []
  | single (k : Nat) (fetch : Fetch) (waiting : s.fetches[k]? = some fetch) (next : Session) (out : List Notice)
      (filed : ({ s with fetches := s.fetches.eraseIdx k }).file fetch (records fetch.id) = (next, out)) :
      SessionEffect records s (.single k) next out
  | complete (k : Nat) (partner : Uid) (accepted : Bool) (out : List Notice)
      (waiting : s.completions[k]? = some (partner, accepted)) (alerts : ∀ notice ∈ out, notice = .alerted) :
      SessionEffect records s (.complete k) ({ s with
        completions := s.completions.eraseIdx k
        list := s.list.removeCompleted partner accepted }) out
  | timerFires (values : List Message) (list : ChatsList) (same : list.messageDict = s.list.messageDict) :
      SessionEffect records s (.timerFires values) { s with list := list } []

theorem formatted_of_guard (records : MsgId → Option Dictionary) (entry : Entry)
    (passed : (records entry.id).any (wellFormed entry.owner entry.partner) = true) : Formatted records entry := by
  cases found : records entry.id with
  | none => simp [found] at passed
  | some record =>
      rw [found] at passed
      exact ⟨record, found, (well_formed_iff entry.owner entry.partner record).mp passed⟩

theorem session_step_cases (records : MsgId → Option Dictionary) (s next : Session) (act : SessionAct)
    (out : List Notice) (stepped : s.step records act = some (next, out)) : SessionEffect records s act next out := by
  cases act with
  | signIn uid => cases stepped; exact .signIn uid
  | signOut => cases stepped; exact .signOut
  | setupNavbarWithUser => cases stepped; exact .setup
  | messageIndexed entry =>
      simp only [Session.step] at stepped
      split at stepped
      · rename_i passed
        cases stepped
        exact .messageIndexed entry (formatted_of_guard records entry passed)
      · cases stepped
  | conversationRemoved owner partner => cases stepped; exact .conversationRemoved owner partner
  | indexWrite entry =>
      simp only [Session.step] at stepped
      split at stepped
      · rename_i passed
        cases stepped
        exact .indexWrite entry (formatted_of_guard records entry passed)
      · cases stepped
  | swipeDelete row =>
      simp only [Session.step] at stepped
      split at stepped
      · cases stepped
      · cases stepped; exact .unswiped row
      · rename_i uid partner removed
        cases stepped
        exact .swipeDelete row uid partner (commit_delete_owner s.currentUser row s.list uid partner removed)
  | verdict accepted =>
      simp only [Session.step] at stepped
      split at stepped
      · cases stepped
      · rename_i write index oldest
        cases stepped
        exact .verdict accepted write index oldest
  | deliver k =>
      simp only [Session.step] at stepped
      split at stepped
      · cases stepped
      · rename_i event queued
        obtain ⟨bound, here⟩ := List.getElem?_eq_some_iff.mp queued
        cases stepped
        rw [List.eraseIdx_eq_take_drop_succ]
        refine .deliver k (s.events.take k) (s.events.drop (k + 1)) event ?_ queued rfl
        rw [← here, List.getElem_cons_drop, List.take_append_drop]
  | value k =>
      simp only [Session.step] at stepped
      split at stepped
      · rename_i owner partner id waiting
        cases stepped
        exact .value k ⟨owner, partner, id, .value⟩ waiting
      · cases stepped
  | single k =>
      simp only [Session.step] at stepped
      split at stepped
      · rename_i owner partner id waiting
        exact .single k ⟨owner, partner, id, .single⟩ waiting next out (Option.some.inj stepped)
      · cases stepped
  | complete k =>
      simp only [Session.step] at stepped
      split at stepped
      · cases stepped
      · rename_i partner accepted waiting
        cases stepped
        exact .complete k partner accepted _ waiting (by cases accepted <;> simp)
  | timerFires values =>
      simp only [Session.step] at stepped
      split at stepped
      · split at stepped
        · cases stepped
        · rename_i list ran
          cases stepped
          refine .timerFires values list ?_
          rw [handle_reload_data_dict values _ list ran, timer_fired_dict]
      · cases stepped

@[simp] theorem partner_added_raised (listeners : List Uid) (conversations : List (Uid × Uid)) (old new : UserMessages)
    (owner partner : Uid) :
    .partnerAdded owner partner ∈ raised listeners conversations old new ↔
      owner ∈ listeners ∧ partner ∈ UserMessages.partners new owner ∧ partner ∉ UserMessages.partners old owner := by
  simp only [raised, List.mem_append, List.mem_flatMap, List.mem_map, List.mem_filter, decide_eq_true_eq, reduceCtorEq,
    and_false, exists_false, or_false, false_or, ChildEvent.partnerAdded.injEq]
  constructor
  · intro given
    obtain ⟨_, listening, _, added, rfl, rfl⟩ := given
    exact ⟨listening, added⟩
  · intro given
    obtain ⟨listening, added⟩ := given
    exact ⟨owner, listening, partner, added, rfl, rfl⟩

@[simp] theorem partner_removed_raised (listeners : List Uid) (conversations : List (Uid × Uid))
    (old new : UserMessages) (owner partner : Uid) :
    .partnerRemoved owner partner ∈ raised listeners conversations old new ↔
      owner ∈ listeners ∧ partner ∈ UserMessages.partners old owner ∧ partner ∉ UserMessages.partners new owner := by
  simp only [raised, List.mem_append, List.mem_flatMap, List.mem_map, List.mem_filter, decide_eq_true_eq, reduceCtorEq,
    and_false, exists_false, or_false, ChildEvent.partnerRemoved.injEq]
  constructor
  · intro given
    obtain ⟨_, listening, _, removed, rfl, rfl⟩ := given
    exact ⟨listening, removed⟩
  · intro given
    obtain ⟨listening, removed⟩ := given
    exact ⟨owner, listening, partner, removed, rfl, rfl⟩

@[simp] theorem message_added_raised (listeners : List Uid) (conversations : List (Uid × Uid)) (old new : UserMessages)
    (owner partner : Uid) (id : MsgId) :
    .messageAdded owner partner id ∈ raised listeners conversations old new ↔
      (owner, partner) ∈ conversations ∧ (⟨owner, partner, id⟩ : Entry) ∈ new ∧ (⟨owner, partner, id⟩ : Entry) ∉ old := by
  simp only [raised, List.mem_append, List.mem_flatMap, List.mem_map, List.mem_filter, decide_eq_true_eq, reduceCtorEq,
    and_false, exists_false, or_false, false_or, ChildEvent.messageAdded.injEq, mem_conversation]
  constructor
  · intro given
    obtain ⟨⟨_, _⟩, following, _, added, rfl, rfl, rfl⟩ := given
    exact ⟨following, added⟩
  · intro given
    obtain ⟨following, added⟩ := given
    exact ⟨(owner, partner), following, id, added, rfl, rfl, rfl⟩

structure Formats (records : MsgId → Option Dictionary) (s : Session) : Prop where
  server : ∀ entry ∈ s.index.server, Formatted records entry
  pending : ∀ entry, .add entry ∈ s.index.pending → Formatted records entry
  events : ∀ owner partner id, .messageAdded owner partner id ∈ s.events → Formatted records ⟨owner, partner, id⟩
  fetches : ∀ fetch ∈ s.fetches, Formatted records ⟨fetch.owner, fetch.partner, fetch.id⟩

theorem formats_start (records : MsgId → Option Dictionary) (currentUser : Option Uid) :
    Formats records (Session.start currentUser) where
  server := by simp [Session.start]
  pending := by simp [Session.start]
  events := by simp [Session.start]
  fetches := by simp [Session.start]

theorem formatted_view (records : MsgId → Option Dictionary) (index : Replica UserMessages IndexWrite)
    (server : ∀ entry ∈ index.server, Formatted records entry)
    (pending : ∀ entry, .add entry ∈ index.pending → Formatted records entry) :
    ∀ entry ∈ index.view UserMessages.applyWrite, Formatted records entry := by
  refine Replica.view_of_server UserMessages.applyWrite index (fun data => ∀ entry ∈ data, Formatted records entry) server ?_
  intro data write issued good entry member
  cases write with
  | add added =>
      rcases (mem_add data added entry).mp member with old | rfl
      · exact good entry old
      · exact pending entry issued
  | remove owner partner => exact good entry ((mem_remove data owner partner entry).mp member).1

theorem formats_indexed (records : MsgId → Option Dictionary) (s : Session) (formats : Formats records s)
    (index : Replica UserMessages IndexWrite) (server : ∀ entry ∈ index.server, Formatted records entry)
    (pending : ∀ entry, .add entry ∈ index.pending → Formatted records entry) : Formats records (s.indexed index) where
  server := server
  pending := pending
  events := fun owner partner id member => by
    rcases List.mem_append.mp member with old | new
    · exact formats.events owner partner id old
    · exact formatted_view records index server pending _ ((message_added_raised _ _ _ _ _ _ _).mp new).2.1
  fetches := formats.fetches

theorem formats_step (records : MsgId → Option Dictionary) (s : Session) (act : SessionAct) (next : Session)
    (out : List Notice) (formats : Formats records s)
    (stepped : (Session.machine records).step s act = some (next, out)) : Formats records next := by
  have received (entry : Entry) (formatted : Formatted records entry) :
      ∀ other ∈ s.index.server.add entry, Formatted records other := fun other member =>
    ((mem_add _ _ _).mp member).elim (formats.server other) (fun same => same ▸ formatted)
  have issued (write : IndexWrite) (good : ∀ entry, write = .add entry → Formatted records entry) :
      ∀ other, .add other ∈ s.index.pending ++ [write] → Formatted records other := fun other member =>
    (List.mem_append.mp member).elim (formats.pending other) (fun new => good other (List.mem_singleton.mp new).symm)
  cases session_step_cases records s next act out stepped with
  | signIn uid => exact ⟨formats.server, formats.pending, formats.events, formats.fetches⟩
  | signOut => exact ⟨formats.server, formats.pending, formats.events, formats.fetches⟩
  | setup =>
      unfold Session.setup
      split
      · exact ⟨formats.server, formats.pending, formats.events, formats.fetches⟩
      · refine ⟨formats.server, formats.pending, fun owner partner id member => ?_, formats.fetches⟩
        exact formats.events owner partner id (by simpa using member)
  | messageIndexed entry formatted =>
      exact formats_indexed records s formats _ (received entry formatted) formats.pending
  | conversationRemoved owner partner =>
      exact formats_indexed records s formats _
        (fun entry member => formats.server entry ((mem_remove _ _ _ _).mp member).1) formats.pending
  | indexWrite entry formatted =>
      exact formats_indexed records s formats _ formats.server
        (issued (.add entry) (fun other same => by cases same; exact formatted))
  | swipeDelete row uid partner _ =>
      exact formats_indexed records s formats _ formats.server (issued (.remove uid partner) (by simp))
  | unswiped row => exact formats
  | verdict accepted write index oldest =>
      obtain ⟨pending, server⟩ := Replica.decide_cases UserMessages.applyWrite s.index index accepted write oldest
      have left : ∀ entry, .add entry ∈ index.pending → Formatted records entry := fun entry member =>
        formats.pending entry (pending ▸ List.mem_cons_of_mem write member)
      have stored : ∀ entry ∈ index.server, Formatted records entry := by
        intro entry member
        rw [server] at member
        cases accepted with
        | false => exact formats.server entry member
        | true =>
            cases write with
            | add added =>
                exact received added (formats.pending added (pending ▸ List.mem_cons_self)) entry member
            | remove owner partner => exact formats.server entry ((mem_remove _ _ _ _).mp member).1
      obtain ⟨a, b, c, d⟩ := formats_indexed records s formats index stored left
      exact ⟨a, b, c, d⟩
  | deliver k front back event queued =>
      have kept : ∀ other ∈ front ++ back, other ∈ s.events := fun other member =>
        queued ▸ Queue.mem_of_rest front back event other member
      cases event with
      | partnerAdded owner partner =>
          refine ⟨formats.server, formats.pending, fun w p id member => ?_, formats.fetches⟩
          rcases List.mem_append.mp member with old | new
          · exact formats.events w p id (kept _ old)
          · obtain ⟨found, inside, same⟩ := List.mem_map.mp new
            cases same
            exact formatted_view records s.index formats.server formats.pending _ ((mem_conversation _ _ _ _).mp inside)
      | partnerRemoved owner partner =>
          exact ⟨formats.server, formats.pending, fun w p id member => formats.events w p id (kept _ member),
            formats.fetches⟩
      | messageAdded owner partner id =>
          have here := formats.events owner partner id (by simp [queued])
          exact ⟨formats.server, formats.pending, fun w p other member => formats.events w p other (kept _ member),
            Queue.forall_behind _ s.fetches ⟨owner, partner, id, .value⟩ formats.fetches here⟩
  | value k fetch waiting =>
      have here := formats.fetches fetch (List.mem_of_getElem? waiting)
      exact ⟨formats.server, formats.pending, formats.events,
        Queue.forall_set _ s.fetches k { fetch with stage := .single } formats.fetches here⟩
  | single k fetch waiting _ _ filed =>
      cases filed
      exact ⟨formats.server, formats.pending, formats.events, fun other member =>
        formats.fetches other (List.mem_of_mem_eraseIdx member)⟩
  | complete => exact ⟨formats.server, formats.pending, formats.events, formats.fetches⟩
  | timerFires => exact ⟨formats.server, formats.pending, formats.events, formats.fetches⟩

-- What a single-event callback does when the record is there: it files the
-- message under the key that holds for the user signed in now.
theorem file_formatted (records : MsgId → Option Dictionary) (s next : Session) (fetch : Fetch) (out : List Notice)
    (formatted : Formatted records ⟨fetch.owner, fetch.partner, fetch.id⟩)
    (filed : s.file fetch (records fetch.id) = (next, out)) :
    ∃ record key list, records fetch.id = some record ∧ WellFormed fetch.owner fetch.partner record ∧
      (Message.init record).partenerId s.currentUser = some key ∧ next = { s with list := list } ∧
      list.messageDict = s.list.messageDict.insert key (Message.init record) ∧
      out = [.filed fetch s.owner s.currentUser key] := by
  obtain ⟨record, stored, formed⟩ := formatted
  obtain ⟨key, named⟩ := fetch_message_files_some fetch.owner fetch.partner record s.currentUser formed
  rw [stored] at filed
  simp only [Session.file, Option.bind_some, named, Option.map_some, Option.toList_some] at filed
  cases filed
  have same : (Message.init record).partenerId s.currentUser = some key := named
  refine ⟨record, key, _, stored, formed, same, rfl, ?_, rfl⟩
  simp only [ChatsList.fetchMessage, fetched_message_eq, same, ChatsList.reload]

-- The guard on arriving entries is no restriction: in every run of the whole
-- system an indexed message has its record.
theorem run_formatted (actions : List Action) (s : System) (out : List Output)
    (ran : System.machine.run System.initial actions = some (s, out)) :
    ∀ entry ∈ s.db.index, Formatted (fun id => s.db.messages.lookup id) entry := fun entry member =>
  have ledger := ledger_run actions s out ran
  backed_record s out ledger entry (ledger_backed_index s out ledger entry member)

def textRecords (id : MsgId) : Option Dictionary :=
  if id = "-M1" then some (messageValues "bob" "ann" 1600000000 (sendMessage "hi"))
  else if id = "-M2" then some (messageValues "ann" "bob" 1600000060 (sendMessage "hello"))
  else none

def firstText : Message := ⟨some "ann", some "hi", some 1600000000, some "bob", none, none, none⟩

end FirChat
