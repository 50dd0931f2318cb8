import FirChat.Deletion

set_option autoImplicit false

namespace FirChat

-- The user stays signed in, no conversation is deleted and no write is rejected.
def SessionAct.Undisturbed (uid : Uid) : SessionAct → Prop
  | .signIn other => other = uid
  | .signOut => False
  | .conversationRemoved _ _ => False
  | .swipeDelete _ => False
  | .verdict accepted => accepted = true
  | _ => True

theorem undisturbed_stays (uid : Uid) (act : SessionAct) (undisturbed : act.Undisturbed uid) : act.Stays uid := by
  cases act <;> trivial

def Notice.idUnder (partner : Uid) : Notice → Option MsgId
  | .filed fetch _ _ _ => if fetch.partner = partner then some fetch.id else none
  | .alerted => none

def lastFiled (partner : Uid) (out : List Notice) : Option MsgId := (out.filterMap (Notice.idUnder partner)).getLast?

def Greatest (records : MsgId → Option Dictionary) (s : Session) (uid partner : Uid) (time : Option ℚ) : Prop :=
  ∀ id record, (⟨uid, partner, id⟩ : Entry) ∈ s.userMessages → records id = some record →
    ∃ latest other, time = some latest ∧ (Message.init record).timeStamp = some other ∧ other ≤ latest

def ShowsLatest (records : MsgId → Option Dictionary) (s : Session) (uid : Uid) : Prop :=
  (∀ partner, partner ∈ s.list.messageDict ↔ ∃ id, (⟨uid, partner, id⟩ : Entry) ∈ s.userMessages) ∧
  (∀ partner message, s.list.messageDict.lookup partner = some message →
    (∃ id record, (⟨uid, partner, id⟩ : Entry) ∈ s.userMessages ∧ records id = some record ∧
      message = Message.init record) ∧ Greatest records s uid partner message.timeStamp)

def LatestLast (records : MsgId → Option Dictionary) (s : Session) (uid : Uid) (out : List Notice) : Prop :=
  ∀ partner, (∃ id, (⟨uid, partner, id⟩ : Entry) ∈ s.userMessages) →
    ∃ id record, lastFiled partner out = some id ∧ records id = some record ∧
      Greatest records s uid partner (Message.init record).timeStamp

-- The index only grows, all that is under way is about entries in it, and a row
-- is the message that was filed last.
structure Growing (records : MsgId → Option Dictionary) (uid : Uid) (s : Session) (seen : List Notice) : Prop where
  deletes : ∀ owner partner, .remove owner partner ∉ s.index.pending
  removals : ∀ owner partner, .partnerRemoved owner partner ∉ s.events
  completions : s.completions = []
  events : ∀ owner partner id, .messageAdded owner partner id ∈ s.events → (⟨owner, partner, id⟩ : Entry) ∈ s.userMessages
  fetches : ∀ fetch ∈ s.fetches, (⟨fetch.owner, fetch.partner, fetch.id⟩ : Entry) ∈ s.userMessages
  rows : ∀ partner message, s.list.messageDict.lookup partner = some message →
    ∃ id record, lastFiled partner seen = some id ∧ records id = some record ∧ message = Message.init record ∧
      (⟨uid, partner, id⟩ : Entry) ∈ s.userMessages

theorem growing_start (records : MsgId → Option Dictionary) (uid : Uid) :
    Growing records uid (Session.start (some uid)) [] where
  deletes := by simp [Session.start]
  removals := by simp [Session.start]
  completions := rfl
  events := by simp [Session.start]
  fetches := by simp [Session.start]
  rows := by simp [Session.start]

theorem last_filed_append (partner : Uid) (seen : List Notice) (notice : Notice) :
    lastFiled partner (seen ++ [notice]) = (notice.idUnder partner).or (lastFiled partner seen) := by
  rw [lastFiled, List.filterMap_append, List.getLast?_append]
  cases named : notice.idUnder partner <;> simp [named, lastFiled]

theorem view_adds (index : Replica UserMessages IndexWrite) (entry : Entry)
    (deletes : ∀ owner partner, .remove owner partner ∉ index.pending) :
    entry ∈ index.view UserMessages.applyWrite ↔ entry ∈ index.server ∨ .add entry ∈ index.pending := by
  obtain ⟨server, pending⟩ := index
  unfold Replica.view
  dsimp only at deletes ⊢
  induction pending generalizing server with
  | nil => simp
  | cons write rest ih =>
      rw [List.foldl_cons, ih _ (fun owner partner member => deletes owner partner (List.mem_cons_of_mem write member))]
      cases write with
      | remove owner partner => exact absurd List.mem_cons_self (deletes owner partner)
      | add added =>
          change entry ∈ server.add added ∨ _ ↔ _
          rw [mem_add, List.mem_cons, IndexWrite.add.injEq, or_assoc]

theorem growing_indexed (records : MsgId → Option Dictionary) (uid : Uid) (s : Session) (seen : List Notice)
    (growing : Growing records uid s seen) (index : Replica UserMessages IndexWrite)
    (deletes : ∀ owner partner, .remove owner partner ∉ index.pending)
    (grows : ∀ entry ∈ s.userMessages, entry ∈ index.view UserMessages.applyWrite) :
    Growing records uid (s.indexed index) seen where
  deletes := deletes
  removals := fun owner partner member => by
    rcases List.mem_append.mp member with old | new
    · exact growing.removals owner partner old
    · obtain ⟨_, before, gone⟩ := (partner_removed_raised _ _ _ _ _ _).mp new
      obtain ⟨id, there⟩ := (mem_partners _ _ _).mp before
      exact gone ((mem_partners _ _ _).mpr ⟨id, grows _ there⟩)
  completions := growing.completions
  events := fun owner partner id member => by
    rcases List.mem_append.mp member with old | new
    · exact grows _ (growing.events owner partner id old)
    · exact ((message_added_raised _ _ _ _ _ _ _).mp new).2.1
  fetches := fun fetch member => grows _ (growing.fetches fetch member)
  rows := fun partner message found => by
    obtain ⟨id, record, last, stored, same, there⟩ := growing.rows partner message found
    exact ⟨id, record, last, stored, same, grows _ there⟩

-- Nothing is ever removed, so every order of delivery is in order and no
-- callback comes too late.
theorem growing_timely (records : MsgId → Option Dictionary) (uid : Uid) (s : Session) (seen : List Notice)
    (act : SessionAct) (attended : s.Attended uid) (growing : Growing records uid s seen) :
    s.InOrder act ∧ s.Timely uid act := by
  have added (event : ChildEvent) (member : event ∈ s.events) (about : event.row ≠ none) :
      ∃ partner, event = .partnerAdded uid partner := by
    have mine := attended.events event member
    cases event with
    | partnerAdded owner partner => exact ⟨partner, by rw [← mine]; rfl⟩
    | partnerRemoved owner partner => exact absurd member (growing.removals owner partner)
    | messageAdded owner partner id => exact absurd rfl about
  cases act with
  | deliver k =>
      refine ⟨fun event here earlier member about same => ?_, trivial⟩
      obtain ⟨partner, rfl⟩ := added event (List.mem_of_getElem? here) about
      obtain ⟨other, rfl⟩ := added earlier (List.mem_of_mem_take member) (by rw [same]; exact about)
      rw [ChildEvent.row, ChildEvent.row, Option.some.injEq] at same
      rw [same]
  | single k =>
      refine ⟨trivial, fun fetch waiting => Or.inl ⟨fetch.id, ?_⟩⟩
      have member := List.mem_of_getElem? waiting
      exact attended.fetches fetch member ▸ growing.fetches fetch member
  | complete k =>
      refine ⟨trivial, fun partner waiting => ?_⟩
      simp [growing.completions] at waiting
  | conversationRemoved owner partner =>
      refine ⟨trivial, fun _ row => Or.inl ?_⟩
      obtain ⟨message, found⟩ := Option.isSome_iff_exists.mp (AList.lookup_isSome.mpr row)
      obtain ⟨id, _, _, _, _, there⟩ := growing.rows partner message found
      exact ⟨id, there⟩
  | _ => exact ⟨trivial, trivial⟩

theorem growing_step (records : MsgId → Option Dictionary) (uid : Uid) (s : Session) (seen : List Notice)
    (act : SessionAct) (next : Session) (out : List Notice) (formats : Formats records s) (attended : s.Attended uid)
    (growing : Growing records uid s seen) (undisturbed : act.Undisturbed uid)
    (stepped : (Session.machine records).step s act = some (next, out)) : Growing records uid next (seen ++ out) := by
  have ⟨deletes, removals, completions, events, fetches, rows⟩ := growing
  cases session_step_cases records s next act out stepped with
  | signIn => rw [List.append_nil]; exact ⟨deletes, removals, completions, events, fetches, rows⟩
  | signOut => exact undisturbed.elim
  | setup =>
      rw [List.append_nil]
      simp only [Session.setup, attended.signedIn]
      refine ⟨deletes, fun owner partner member => ?_, completions, fun owner partner id member => ?_, fetches,
        fun partner message found => ?_⟩
      · exact removals owner partner (by simpa using member)
      · exact events owner partner id (by simpa using member)
      · cases found
  | messageIndexed entry =>
      rw [List.append_nil]
      refine growing_indexed records uid s seen growing _ deletes (fun other member => ?_)
      refine (view_adds (s.index.receive UserMessages.applyWrite (.add entry)) other deletes).mpr ?_
      exact ((view_adds s.index other deletes).mp member).imp_left (fun old => (mem_add _ _ _).mpr (Or.inl old))
  | indexWrite entry =>
      have kept : ∀ owner partner, .remove owner partner ∉ (s.index.issue (.add entry)).pending := by
        intro owner partner member
        exact deletes owner partner (by simpa [Replica.issue] using member)
      rw [List.append_nil]
      refine growing_indexed records uid s seen growing _ kept (fun other member => ?_)
      rw [view_adds _ _ kept]
      exact ((view_adds s.index other deletes).mp member).imp_right (List.mem_append_left _)
  | conversationRemoved => exact undisturbed.elim
  | swipeDelete => exact undisturbed.elim
  | unswiped => exact undisturbed.elim
  | verdict accepted write index oldest =>
      obtain rfl : accepted = true := undisturbed
      obtain ⟨pending, _⟩ := Replica.decide_cases UserMessages.applyWrite s.index index true write oldest
      have kept (owner partner : Uid) (member : .remove owner partner ∈ index.pending) : False :=
        deletes owner partner (pending ▸ List.mem_cons_of_mem write member)
      have same := Replica.view_accept UserMessages.applyWrite s.index index write oldest
      have after := growing_indexed records uid s seen growing index kept (fun entry member => same ▸ member)
      rw [List.append_nil]
      refine ⟨after.deletes, after.removals, ?_, after.events, after.fetches, after.rows⟩
      cases write with
      | add entry => exact (List.append_nil _).trans completions
      | remove owner partner => exact absurd (pending ▸ List.mem_cons_self) (deletes owner partner)
  | deliver k front back event queued =>
      have kept : ∀ other ∈ front ++ back, other ∈ s.events := fun other member =>
        queued ▸ Queue.mem_of_rest front back event other member
      rw [List.append_nil]
      cases event with
      | partnerAdded owner partner =>
          refine ⟨deletes, fun w p member => ?_, completions, fun w p id member => ?_, fetches, rows⟩
          · rcases List.mem_append.mp member with old | new
            · exact removals w p (kept _ old)
            · simp at new
          · rcases List.mem_append.mp member with old | new
            · exact events w p id (kept _ old)
            · obtain ⟨found, inside, same⟩ := List.mem_map.mp new
              cases same
              exact (mem_conversation _ _ _ _).mp inside
      | partnerRemoved owner partner => exact absurd (by simp [queued]) (removals owner partner)
      | messageAdded owner partner id =>
          have here := events owner partner id (by simp [queued])
          exact ⟨deletes, fun w p member => removals w p (kept _ member), completions,
            fun w p other member => events w p other (kept _ member),
            Queue.forall_behind _ s.fetches ⟨owner, partner, id, .value⟩ fetches here, rows⟩
  | value k fetch waiting =>
      rw [List.append_nil]
      have here := fetches fetch (List.mem_of_getElem? waiting)
      exact ⟨deletes, removals, completions, events,
        Queue.forall_set _ s.fetches k { fetch with stage := .single } fetches here, rows⟩
  | single k fetch waiting _ _ filed =>
      have member := List.mem_of_getElem? waiting
      have mine := attended.fetches fetch member
      obtain ⟨record, list, stored, rfl, inserted, rfl⟩ := file_attended records uid s next k fetch out attended
        (formats.fetches fetch member) member filed
      refine ⟨deletes, removals, completions, events, fun other inside => fetches other (List.mem_of_mem_eraseIdx inside),
        fun partner message found => ?_⟩
      change list.messageDict.lookup partner = some message at found
      rw [inserted] at found
      by_cases same : partner = fetch.partner
      · subst partner
        rw [AList.lookup_insert] at found
        refine ⟨fetch.id, record, ?_, stored, (Option.some.inj found).symm, mine ▸ fetches fetch member⟩
        rw [last_filed_append, Notice.idUnder, if_pos rfl, Option.some_or]
      · rw [AList.lookup_insert_ne same] at found
        rw [last_filed_append, Notice.idUnder, if_neg (Ne.symm same), Option.none_or]
        exact rows partner message found
  | complete k partner accepted _ waiting => simp [completions] at waiting
  | timerFires values list same =>
      rw [List.append_nil]
      exact ⟨deletes, removals, completions, events, fetches, fun partner message found =>
        rows partner message (same ▸ found)⟩

theorem undisturbed_run (records : MsgId → Option Dictionary) (uid : Uid) (actions : List SessionAct) (s : Session)
    (out : List Notice) (undisturbed : ∀ act ∈ actions, act.Undisturbed uid)
    (ran : (Session.machine records).run (Session.start (some uid)) actions = some (s, out)) :
    s.Tracked uid ∧ Growing records uid s out := by
  exact (Machine.history_forall (Session.machine records)
    (fun s seen => Formats records s ∧ s.Attended uid ∧ s.Tracked uid ∧ Growing records uid s seen)
    (fun act => act.Undisturbed uid)
    (fun s seen act next later holds calm stepped => by
      obtain ⟨formats, attended, tracked, growing⟩ := holds
      obtain ⟨ordered, timely⟩ := growing_timely records uid s seen act attended growing
      exact ⟨formats_step records s act next later formats stepped,
        attended_step records uid s next act later attended (undisturbed_stays uid act calm) stepped,
        tracked_step records uid s next act later formats attended tracked ordered timely stepped,
        growing_step records uid s seen act next later formats attended growing calm stepped⟩)
    actions (Session.start (some uid)) s out
    ⟨formats_start records (some uid), attended_start uid, tracked_start uid, growing_start records uid⟩
    undisturbed ran).2.2

theorem shows_latest_iff (records : MsgId → Option Dictionary) (uid : Uid) (actions : List SessionAct) (s : Session)
    (out : List Notice) (undisturbed : ∀ act ∈ actions, act.Undisturbed uid)
    (ran : (Session.machine records).run (Session.start (some uid)) actions = some (s, out)) (quiet : s.Quiet) :
    ShowsLatest records s uid ↔ LatestLast records s uid out := by
  obtain ⟨tracked, growing⟩ := undisturbed_run records uid actions s out undisturbed ran
  have shown := quiet_rows uid s tracked quiet
  constructor
  · rintro ⟨_, latest⟩ partner there
    obtain ⟨message, found⟩ := Option.isSome_iff_exists.mp (AList.lookup_isSome.mpr ((shown partner).mpr there))
    obtain ⟨id, record, last, stored, rfl, _⟩ := growing.rows partner message found
    exact ⟨id, record, last, stored, (latest partner _ found).2⟩
  · intro last
    refine ⟨shown, fun partner message found => ?_⟩
    obtain ⟨id, record, filed, stored, rfl, there⟩ := growing.rows partner message found
    refine ⟨⟨id, record, there, stored, rfl⟩, ?_⟩
    obtain ⟨other, known, same, kept, greatest⟩ := last partner ⟨id, there⟩
    cases filed.symm.trans same
    cases stored.symm.trans kept
    exact greatest

def textsInOrder : List SessionAct :=
  [.setupNavbarWithUser, .messageIndexed ⟨"ann", "bob", "-M1"⟩, .messageIndexed ⟨"ann", "bob", "-M2"⟩, .deliver 0,
    .deliver 0, .deliver 0, .value 0, .single 0, .value 0, .single 0]

theorem shows_latest_in_order :
    ∃ s out, (Session.machine textRecords).run (Session.start (some "ann")) textsInOrder = some (s, out) ∧
      ShowsLatest textRecords s "ann" := by
  refine ⟨_, _, rfl, (shows_latest_iff textRecords "ann" textsInOrder _ _ ?_ rfl ?_).mpr ?_⟩
  · simp [textsInOrder, SessionAct.Undisturbed]
  · exact ⟨by decide, rfl, rfl, rfl, fun _ _ => List.not_mem_nil⟩
  · intro partner given
    obtain ⟨id, there⟩ := given
    change _ ∈ [(⟨"ann", "bob", "-M1"⟩ : Entry), ⟨"ann", "bob", "-M2"⟩] at there
    have bob : partner = "bob" := by
      simp only [List.mem_cons, Entry.mk.injEq, List.not_mem_nil, or_false] at there
      exact there.elim (fun same => same.2.1) (fun same => same.2.1)
    rw [bob]
    refine ⟨"-M2", _, rfl, rfl, fun other record found stored => ?_⟩
    change _ ∈ [(⟨"ann", "bob", "-M1"⟩ : Entry), ⟨"ann", "bob", "-M2"⟩] at found
    simp only [List.mem_cons, Entry.mk.injEq, true_and, List.not_mem_nil, or_false] at found
    rcases found with rfl | rfl <;> cases stored <;> exact ⟨_, _, rfl, rfl, by decide⟩

-- Both callbacks of the older text come last.
def textsOutOfOrder : List SessionAct :=
  [.setupNavbarWithUser, .messageIndexed ⟨"ann", "bob", "-M1"⟩, .messageIndexed ⟨"ann", "bob", "-M2"⟩, .deliver 0,
    .deliver 0, .deliver 0, .value 1, .single 1, .value 0, .single 0]

theorem older_text_is_shown :
    ∃ s out, (Session.machine textRecords).run (Session.start (some "ann")) textsOutOfOrder = some (s, out) ∧
      (∀ act ∈ textsOutOfOrder, act.Undisturbed "ann") ∧ s.Quiet ∧ s.list.messageDict.lookup "bob" = some firstText ∧
      ¬ ShowsLatest textRecords s "ann" := by
  refine ⟨_, _, rfl, ?_, ?_, rfl, fun latest => ?_⟩
  · simp [textsOutOfOrder, SessionAct.Undisturbed]
  · exact ⟨by decide, rfl, rfl, rfl, fun _ _ => List.not_mem_nil⟩
  · obtain ⟨late, early, same, other, bound⟩ := (latest.2 "bob" firstText rfl).2 "-M2" _ (by decide) rfl
    cases same
    cases other
    exact absurd bound (by decide)

end FirChat
