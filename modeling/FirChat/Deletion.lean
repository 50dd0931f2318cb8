import FirChat.Session

set_option autoImplicit false

namespace FirChat

namespace ChildEvent

def row : ChildEvent → Option Uid
  | .partnerAdded _ partner => some partner
  | .partnerRemoved _ partner => some partner
  | .messageAdded _ _ _ => none

def brings (owner partner : Uid) : ChildEvent → Bool
  | .messageAdded uid other _ => decide (uid = owner ∧ other = partner)
  | _ => false

def concerns (partner : Uid) (event : ChildEvent) : Bool := event.row == some partner

end ChildEvent

theorem brings_iff (events : List ChildEvent) (owner partner : Uid) :
    (∃ event ∈ events, event.brings owner partner = true) ↔ ∃ id, .messageAdded owner partner id ∈ events := by
  constructor
  · intro given
    obtain ⟨event, member, brings⟩ := given
    cases event with
    | messageAdded uid other id =>
        obtain ⟨rfl, rfl⟩ := of_decide_eq_true brings
        exact ⟨id, member⟩
    | partnerAdded uid other => cases brings
    | partnerRemoved uid other => cases brings
  · intro given
    obtain ⟨id, member⟩ := given
    exact ⟨_, member, decide_eq_true ⟨rfl, rfl⟩⟩

def SessionAct.Stays (uid : Uid) : SessionAct → Prop
  | .signIn other => other = uid
  | .signOut => False
  | _ => True

namespace Session

def Shows (s : Session) (uid partner : Uid) : Prop := ∃ id, (⟨uid, partner, id⟩ : Entry) ∈ s.userMessages

-- A removal of the row that is still to come: its childRemoved event, its
-- accepted completion, or a delete that the server has yet to decide and that
-- is not the delete of an empty conversation.
def Leaving (s : Session) (uid partner : Uid) : Prop :=
  .partnerRemoved uid partner ∈ s.events ∨ (partner, true) ∈ s.completions ∨
    (.remove uid partner ∈ s.index.pending ∧ ∃ id, (⟨uid, partner, id⟩ : Entry) ∈ s.index.server)

def Coming (s : Session) (uid partner : Uid) : Prop :=
  .partnerAdded uid partner ∈ s.events ∨ (∃ id, .messageAdded uid partner id ∈ s.events) ∨
    ∃ fetch ∈ s.fetches, fetch.partner = partner

instance (s : Session) (uid partner : Uid) : Decidable (s.Shows uid partner) :=
  inferInstanceAs (Decidable (∃ id, (⟨uid, partner, id⟩ : Entry) ∈ s.userMessages))

instance (s : Session) (uid partner : Uid) : Decidable (s.Leaving uid partner) := inferInstanceAs (Decidable (_ ∨ _ ∨ _))

instance (s : Session) (uid partner : Uid) : Decidable (s.Coming uid partner) :=
  have : Decidable (∃ id, .messageAdded uid partner id ∈ s.events) :=
    decidable_of_iff (∃ event ∈ s.events, event.brings uid partner = true) (brings_iff s.events uid partner)
  inferInstanceAs (Decidable (_ ∨ _ ∨ _))

-- Firebase raises the child events of one row in order: an event only
-- overtakes events of other rows, and copies of itself.
def InOrder (s : Session) : SessionAct → Prop
  | .deliver k => ∀ event, s.events[k]? = some event → ∀ earlier ∈ s.events.take k,
      event.row ≠ none → earlier.row = event.row → earlier = event
  | _ => True

-- No late fetch puts a row back whose conversation is gone for good, no late
-- completion takes a row away that nothing will put back, and another device
-- removes no conversation whose row is there only by such a fetch.
def Timely (uid : Uid) (s : Session) : SessionAct → Prop
  | .single k => ∀ fetch, s.fetches[k]? = some fetch → s.Shows uid fetch.partner ∨ s.Leaving uid fetch.partner
  | .complete k => ∀ partner, s.completions[k]? = some (partner, true) → ¬ s.Shows uid partner ∨ s.Coming uid partner
  | .conversationRemoved owner partner => owner = uid → partner ∈ s.list.messageDict →
      s.Shows uid partner ∨ .partnerRemoved uid partner ∈ s.events ∨ (partner, true) ∈ s.completions
  | _ => True

instance (uid : Uid) (s : Session) (act : SessionAct) : Decidable (s.Timely uid act) :=
  match act with
  | .single k => inferInstanceAs (Decidable (∀ fetch ∈ s.fetches[k]?, _ ∨ _))
  | .complete k =>
      decidable_of_iff (∀ completion ∈ s.completions[k]?, completion.2 = true →
          ¬ s.Shows uid completion.1 ∨ s.Coming uid completion.1)
        ⟨fun every _ here => every _ here rfl, fun every ⟨_, _⟩ here landed => every _ (landed ▸ here)⟩
  | .conversationRemoved owner partner => inferInstanceAs (Decidable (owner = uid → partner ∈ s.list.messageDict → _ ∨ _ ∨ _))
  | .signIn _ | .signOut | .setupNavbarWithUser | .messageIndexed _ | .indexWrite _ | .swipeDelete _ | .verdict _
  | .deliver _ | .value _ | .timerFires _ => isTrue trivial

structure Quiet (s : Session) : Prop where
  attached : s.listeners ≠ []
  events : s.events = []
  fetches : s.fetches = []
  completions : s.completions = []
  deletes : ∀ owner partner, .remove owner partner ∉ s.index.pending

structure Attended (uid : Uid) (s : Session) : Prop where
  signedIn : s.currentUser = some uid
  listeners : ∀ owner ∈ s.listeners, owner = uid
  conversations : ∀ path ∈ s.conversations, path.1 = uid
  events : ∀ event ∈ s.events, event.owner = uid
  fetches : ∀ fetch ∈ s.fetches, fetch.owner = uid
  deletes : ∀ owner partner, .remove owner partner ∈ s.index.pending → owner = uid
  unattached : s.listeners = [] → s.list.messageDict = ∅ ∧ s.events = [] ∧ s.fetches = [] ∧ s.conversations = []

end Session

theorem attended_start (uid : Uid) : (Session.start (some uid)).Attended uid where
  signedIn := rfl
  listeners := by simp [Session.start]
  conversations := by simp [Session.start]
  events := by simp [Session.start]
  fetches := by simp [Session.start]
  deletes := by simp [Session.start]
  unattached := fun _ => ⟨rfl, rfl, rfl, rfl⟩

theorem raised_owner (listeners : List Uid) (conversations : List (Uid × Uid)) (old new : UserMessages) (uid : Uid)
    (listening : ∀ owner ∈ listeners, owner = uid) (following : ∀ path ∈ conversations, path.1 = uid) :
    ∀ event ∈ raised listeners conversations old new, event.owner = uid := by
  intro event member
  cases event with
  | partnerAdded owner partner => exact listening owner ((partner_added_raised _ _ _ _ _ _).mp member).1
  | partnerRemoved owner partner => exact listening owner ((partner_removed_raised _ _ _ _ _ _).mp member).1
  | messageAdded owner partner id => exact following _ ((message_added_raised _ _ _ _ _ _ _).mp member).1

theorem raised_nobody (old new : UserMessages) : raised [] [] old new = [] := rfl

theorem attended_indexed (uid : Uid) (s : Session) (attended : s.Attended uid)
    (index : Replica UserMessages IndexWrite) (deletes : ∀ owner partner, .remove owner partner ∈ index.pending → owner = uid)
    (completions : List (Uid × Bool)) : ({ s.indexed index with completions := completions } : Session).Attended uid where
  signedIn := attended.signedIn
  listeners := attended.listeners
  conversations := attended.conversations
  events := fun event member => (List.mem_append.mp member).elim (attended.events event)
    (raised_owner _ _ _ _ uid attended.listeners attended.conversations event)
  fetches := attended.fetches
  deletes := deletes
  unattached := fun none => by
    obtain ⟨dict, events, fetches, conversations⟩ := attended.unattached none
    refine ⟨dict, ?_, fetches, conversations⟩
    have nobody : s.listeners = [] := none
    simp only [Session.indexed, events, nobody, conversations, raised_nobody, List.append_nil]

theorem attended_step (records : MsgId → Option Dictionary) (uid : Uid) (s next : Session) (act : SessionAct)
    (out : List Notice) (attended : s.Attended uid) (stays : act.Stays uid)
    (stepped : (Session.machine records).step s act = some (next, out)) : next.Attended uid := by
  obtain ⟨signedIn, listeners, conversations, events, fetches, deletes, unattached⟩ := attended
  cases session_step_cases records s next act out stepped with
  | signIn other =>
      obtain rfl : other = uid := stays
      exact ⟨rfl, listeners, conversations, events, fetches, deletes, unattached⟩
  | signOut => exact stays.elim
  | setup =>
      simp only [Session.setup, signedIn]
      refine ⟨rfl, Queue.forall_behind _ s.listeners uid listeners rfl, conversations, fun event member => ?_, fetches,
        deletes, by simp⟩
      · rcases List.mem_append.mp member with old | new
        · exact events event old
        · obtain ⟨_, _, rfl⟩ := List.mem_map.mp new
          rfl
  | messageIndexed entry =>
      exact attended_indexed uid s ⟨signedIn, listeners, conversations, events, fetches, deletes, unattached⟩
        (s.index.receive UserMessages.applyWrite (.add entry)) deletes s.completions
  | conversationRemoved owner partner =>
      exact attended_indexed uid s ⟨signedIn, listeners, conversations, events, fetches, deletes, unattached⟩
        (s.index.receive UserMessages.applyWrite (.remove owner partner)) deletes s.completions
  | indexWrite entry =>
      refine attended_indexed uid s ⟨signedIn, listeners, conversations, events, fetches, deletes, unattached⟩
        (s.index.issue (.add entry)) (fun owner partner member => ?_) s.completions
      exact deletes owner partner (by simpa [Replica.issue] using member)
  | swipeDelete row owner partner mine =>
      refine attended_indexed uid s ⟨signedIn, listeners, conversations, events, fetches, deletes, unattached⟩
        (s.index.issue (.remove owner partner)) (fun other key member => ?_) s.completions
      rcases List.mem_append.mp member with old | new
      · exact deletes other key old
      · cases List.mem_singleton.mp new
        exact Option.some.inj (mine.symm.trans signedIn)
  | unswiped row => exact ⟨signedIn, listeners, conversations, events, fetches, deletes, unattached⟩
  | verdict accepted write index oldest =>
      obtain ⟨pending, _⟩ := Replica.decide_cases UserMessages.applyWrite s.index index accepted write oldest
      exact attended_indexed uid s ⟨signedIn, listeners, conversations, events, fetches, deletes, unattached⟩ index
        (fun owner partner member => deletes owner partner (pending ▸ List.mem_cons_of_mem write member)) _
  | deliver k front back event queued =>
      have mine : event.owner = uid := events event (by simp [queued])
      have kept : ∀ other ∈ front ++ back, other.owner = uid := fun other member =>
        events other (queued ▸ Queue.mem_of_rest front back event other member)
      have attached : s.listeners ≠ [] := fun none => by
        have silent := (unattached none).2.1
        rw [queued] at silent
        simp at silent
      cases event with
      | partnerAdded owner partner =>
          refine ⟨signedIn, listeners, Queue.forall_behind _ s.conversations (owner, partner) conversations mine,
            fun other member => ?_, fetches, deletes, fun none => absurd none attached⟩
          · rcases List.mem_append.mp member with old | new
            · exact kept other old
            · obtain ⟨_, _, rfl⟩ := List.mem_map.mp new
              exact mine
      | partnerRemoved owner partner =>
          exact ⟨signedIn, listeners, conversations, kept, fetches, deletes, fun none => absurd none attached⟩
      | messageAdded owner partner id =>
          exact ⟨signedIn, listeners, conversations, kept,
            Queue.forall_behind _ s.fetches ⟨owner, partner, id, .value⟩ fetches mine, deletes,
            fun none => absurd none attached⟩
  | value k fetch waiting =>
      have attached : s.listeners ≠ [] := fun none => by simp [(unattached none).2.2.1] at waiting
      exact ⟨signedIn, listeners, conversations, events,
        Queue.forall_set _ s.fetches k { fetch with stage := .single } fetches
          (fetches fetch (List.mem_of_getElem? waiting)), deletes, fun none => absurd none attached⟩
  | single k fetch waiting _ _ filed =>
      have attached : s.listeners ≠ [] := fun none => by simp [(unattached none).2.2.1] at waiting
      cases filed
      exact ⟨signedIn, listeners, conversations, events, fun other member =>
        fetches other (List.mem_of_mem_eraseIdx member), deletes, fun none => absurd none attached⟩
  | complete k partner accepted _ waiting =>
      refine ⟨signedIn, listeners, conversations, events, fetches, deletes, fun none => ?_⟩
      obtain ⟨dict, rest⟩ := unattached none
      refine ⟨?_, rest⟩
      cases accepted with
      | false => exact dict
      | true =>
          change s.list.messageDict.erase partner = ∅
          rw [dict]
          rfl
  | timerFires values list same =>
      exact ⟨signedIn, listeners, conversations, events, fetches, deletes, fun none => by
        rw [same]
        exact unattached none⟩

theorem file_attended (records : MsgId → Option Dictionary) (uid : Uid) (s next : Session) (k : Nat) (fetch : Fetch)
    (out : List Notice) (attended : s.Attended uid) (formatted : Formatted records ⟨fetch.owner, fetch.partner, fetch.id⟩)
    (member : fetch ∈ s.fetches)
    (filed : ({ s with fetches := s.fetches.eraseIdx k } : Session).file fetch (records fetch.id) = (next, out)) :
    ∃ record list, records fetch.id = some record ∧ next = { s with fetches := s.fetches.eraseIdx k, list := list } ∧
      list.messageDict = s.list.messageDict.insert fetch.partner (Message.init record) ∧
      out = [.filed fetch s.owner s.currentUser fetch.partner] := by
  obtain ⟨record, key, list, stored, formed, named, after, inserted, noticed⟩ := file_formatted records _ next fetch out
    formatted filed
  have signedIn : s.currentUser = some fetch.owner := by rw [attended.signedIn, attended.fetches fetch member]
  have same : key = fetch.partner := by
    rw [signedIn, well_formed_partner fetch.owner fetch.partner record formed] at named
    exact (Option.some.inj named).symm
  subst key
  exact ⟨record, list, stored, after, inserted, noticed⟩

structure Session.Tracked (uid : Uid) (s : Session) : Prop where
  rows : ∀ partner ∈ s.list.messageDict, s.Shows uid partner ∨ s.Leaving uid partner
  shown : s.listeners ≠ [] → ∀ partner, s.Shows uid partner → partner ∈ s.list.messageDict ∨ s.Coming uid partner
  order : ∀ partner, s.Shows uid partner →
    (s.events.filter (ChildEvent.concerns partner)).getLast? ≠ some (.partnerRemoved uid partner)

theorem tracked_start (uid : Uid) : (Session.start (some uid)).Tracked uid where
  rows := by simp [Session.start]
  shown := fun attached => absurd rfl attached
  order := by simp [Session.start]

theorem mem_partners_shows (s : Session) (uid partner : Uid) :
    partner ∈ UserMessages.partners s.userMessages uid ↔ s.Shows uid partner := mem_partners _ _ _

theorem tracked_indexed (uid : Uid) (s : Session) (attended : s.Attended uid) (tracked : s.Tracked uid)
    (index : Replica UserMessages IndexWrite) (completions : List (Uid × Bool))
    (kept : ∀ completion ∈ s.completions, completion ∈ completions)
    (held : ∀ partner ∈ s.list.messageDict, .remove uid partner ∈ s.index.pending →
      (∃ id, (⟨uid, partner, id⟩ : Entry) ∈ s.index.server) → s.Shows uid partner ∨ (s.indexed index).Shows uid partner ∨
        ({ s.indexed index with completions := completions } : Session).Leaving uid partner) :
    ({ s.indexed index with completions := completions } : Session).Tracked uid := by
  have listening (attached : s.listeners ≠ []) : uid ∈ s.listeners := by
    obtain ⟨owner, member⟩ := List.exists_mem_of_ne_nil _ attached
    exact attended.listeners owner member ▸ member
  have appears (attached : s.listeners ≠ []) (partner : Uid) (before : ¬ s.Shows uid partner)
      (now : (s.indexed index).Shows uid partner) : .partnerAdded uid partner ∈
        raised s.listeners s.conversations s.userMessages (index.view UserMessages.applyWrite) :=
    (partner_added_raised _ _ _ _ _ _).mpr ⟨listening attached, (mem_partners _ _ _).mpr now,
      fun old => before ((mem_partners_shows s uid partner).mp old)⟩
  constructor
  · intro partner row
    have attached : s.listeners ≠ [] := fun none => by
      change partner ∈ s.list.messageDict at row
      rw [(attended.unattached none).1] at row
      cases row
    have vanishes (before : s.Shows uid partner) (gone : ¬ (s.indexed index).Shows uid partner) :
        .partnerRemoved uid partner ∈ (s.indexed index).events :=
      List.mem_append_right _ ((partner_removed_raised _ _ _ _ _ _).mpr ⟨listening attached,
        (mem_partners_shows s uid partner).mpr before, fun new => gone ((mem_partners _ _ _).mp new)⟩)
    by_cases now : (s.indexed index).Shows uid partner
    · exact Or.inl now
    · rcases tracked.rows partner row with before | leaving | completing | ⟨deleting, stored⟩
      · exact Or.inr (Or.inl (vanishes before now))
      · exact Or.inr (Or.inl (List.mem_append_left _ leaving))
      · exact Or.inr (Or.inr (Or.inl (kept _ completing)))
      · rcases held partner row deleting stored with before | settled
        · exact Or.inr (Or.inl (vanishes before now))
        · exact settled
  · intro attached partner now
    by_cases before : s.Shows uid partner
    · rcases tracked.shown attached partner before with row | added | ⟨id, message⟩ | fetching
      · exact Or.inl row
      · exact Or.inr (Or.inl (List.mem_append_left _ added))
      · exact Or.inr (Or.inr (Or.inl ⟨id, List.mem_append_left _ message⟩))
      · exact Or.inr (Or.inr (Or.inr fetching))
    · exact Or.inr (Or.inl (List.mem_append_right _ (appears attached partner before now)))
  · intro partner now last
    change ((s.events ++ raised _ _ _ _).filter _).getLast? = _ at last
    rw [List.filter_append, List.getLast?_append] at last
    by_cases silent : (raised s.listeners s.conversations s.userMessages (index.view UserMessages.applyWrite)).filter
        (ChildEvent.concerns partner) = []
    · rw [silent, List.getLast?_nil, Option.none_or] at last
      by_cases before : s.Shows uid partner
      · exact tracked.order partner before last
      · have attached : s.listeners ≠ [] := fun none => by simp [(attended.unattached none).2.1] at last
        have added : .partnerAdded uid partner ∈ List.filter (ChildEvent.concerns partner) _ :=
          List.mem_filter.mpr ⟨appears attached partner before now, beq_self_eq_true (some partner)⟩
        rw [silent] at added
        cases added
    · obtain ⟨event, final⟩ := Option.ne_none_iff_exists'.mp (fun none => silent (List.getLast?_eq_none_iff.mp none))
      rw [final, Option.some_or] at last
      cases last
      have removed := (List.mem_filter.mp (List.mem_of_getLast? final)).1
      exact ((partner_removed_raised _ _ _ _ _ _).mp removed).2.2 ((mem_partners _ _ _).mpr now)

theorem order_delivered (uid partner : Uid) (front back : List ChildEvent) (event : ChildEvent)
    (overtaken : event.concerns partner = true → ∀ earlier ∈ front, earlier.concerns partner = true → earlier = event)
    (last : ((front ++ event :: back).filter (ChildEvent.concerns partner)).getLast? ≠ some (.partnerRemoved uid partner)) :
    ((front ++ back).filter (ChildEvent.concerns partner)).getLast? ≠ some (.partnerRemoved uid partner) := by
  intro final
  apply last
  rw [List.filter_append, List.getLast?_append] at final ⊢
  by_cases about : event.concerns partner = true
  · rw [List.filter_cons_of_pos about]
    cases behind : (back.filter (ChildEvent.concerns partner)).getLast? with
    | some latest =>
        rw [behind, Option.some_or] at final
        rw [List.getLast?_cons, behind, Option.getD_some, Option.some_or]
        exact final
    | none =>
        -- Only copies of the event were before it.
        rw [behind, Option.none_or] at final
        obtain ⟨inside, same⟩ := List.mem_filter.mp (List.mem_of_getLast? final)
        rw [List.getLast?_cons, behind, Option.getD_none, Option.some_or, overtaken about _ inside same]
  · rwa [List.filter_cons_of_neg about]

-- Behind a removal of a row that is there again, the event that adds it waits.
theorem added_behind (uid partner : Uid) (front back : List ChildEvent) (events : ∀ event ∈ back, event.owner = uid)
    (last : ((front ++ .partnerRemoved uid partner :: back).filter (ChildEvent.concerns partner)).getLast? ≠
      some (.partnerRemoved uid partner)) : .partnerAdded uid partner ∈ back := by
  have about : (ChildEvent.partnerRemoved uid partner).concerns partner = true := beq_self_eq_true (some partner)
  rw [List.filter_append, List.getLast?_append, List.filter_cons_of_pos about, List.getLast?_cons, Option.some_or] at last
  cases behind : (back.filter (ChildEvent.concerns partner)).getLast? with
  | none =>
      rw [behind] at last
      exact absurd rfl last
  | some latest =>
      rw [behind, Option.getD_some] at last
      obtain ⟨inside, about⟩ := List.mem_filter.mp (List.mem_of_getLast? behind)
      have mine := events latest inside
      cases latest with
      | partnerAdded owner other =>
          obtain rfl : other = partner := beq_iff_eq.mp about
          obtain rfl : owner = uid := mine
          exact inside
      | partnerRemoved owner other =>
          obtain rfl : other = partner := beq_iff_eq.mp about
          obtain rfl : owner = uid := mine
          exact absurd rfl last
      | messageAdded owner other id => cases about

theorem tracked_deliver (uid : Uid) (s : Session) (attended : s.Attended uid) (tracked : s.Tracked uid)
    (front back : List ChildEvent) (event : ChildEvent) (queued : s.events = front ++ event :: back)
    (ordered : ∀ earlier ∈ front, event.row ≠ none → earlier.row = event.row → earlier = event) :
    (({ s with events := front ++ back } : Session).handle event).Tracked uid := by
  have remains (other : ChildEvent) (member : other ∈ s.events) (different : other ≠ event) : other ∈ front ++ back :=
    (Queue.mem_cases front back event other (queued ▸ member)).resolve_left different
  have mine (other : ChildEvent) (member : other ∈ event :: back) : other.owner = uid :=
    attended.events other (queued ▸ List.mem_append_right front member)
  have order (partner : Uid) (now : s.Shows uid partner) :
      ((front ++ back).filter (ChildEvent.concerns partner)).getLast? ≠ some (.partnerRemoved uid partner) :=
    order_delivered uid partner front back event (fun about earlier member same => by
      have row : event.row = some partner := beq_iff_eq.mp about
      exact ordered earlier member (by simp [row]) (row ▸ beq_iff_eq.mp same)) (queued ▸ tracked.order partner now)
  cases event with
  | partnerAdded owner added =>
      obtain rfl : uid = owner := (mine _ List.mem_cons_self).symm
      have fresh (partner : Uid) : List.filter (ChildEvent.concerns partner)
          ((UserMessages.conversation s.userMessages uid added).map (ChildEvent.messageAdded uid added)) = [] := by
        simp [ChildEvent.concerns, ChildEvent.row]
      constructor
      · intro partner row
        rcases tracked.rows partner row with now | leaving | rest
        · exact Or.inl now
        · exact Or.inr (Or.inl (List.mem_append_left _ (remains _ leaving (by simp))))
        · exact Or.inr (Or.inr rest)
      · intro attached partner now
        by_cases same : partner = added
        · obtain ⟨id, member⟩ := now
          refine Or.inr (Or.inr (Or.inl ⟨id, List.mem_append_right _ ?_⟩))
          exact List.mem_map.mpr ⟨id, (mem_conversation _ _ _ _).mpr (same ▸ member), by rw [same]⟩
        · rcases tracked.shown attached partner now with row | waiting | ⟨id, message⟩ | fetching
          · exact Or.inl row
          · exact Or.inr (Or.inl (List.mem_append_left _ (remains _ waiting (by simpa using same))))
          · exact Or.inr (Or.inr (Or.inl ⟨id, List.mem_append_left _ (remains _ message (by simp))⟩))
          · exact Or.inr (Or.inr (Or.inr fetching))
      · intro partner now
        change (List.filter _ (front ++ back ++ (UserMessages.conversation s.userMessages uid added).map _)).getLast? ≠ _
        rw [List.filter_append, fresh partner, List.append_nil]
        exact order partner now
  | messageAdded owner added id =>
      obtain rfl : uid = owner := (mine _ List.mem_cons_self).symm
      constructor
      · intro partner row
        rcases tracked.rows partner row with now | leaving | rest
        · exact Or.inl now
        · exact Or.inr (Or.inl (remains _ leaving (by simp)))
        · exact Or.inr (Or.inr rest)
      · intro attached partner now
        by_cases same : partner = added
        · exact Or.inr (Or.inr (Or.inr ⟨⟨uid, added, id, .value⟩, by simp [Session.handle], same.symm⟩))
        · rcases tracked.shown attached partner now with row | waiting | ⟨other, message⟩ | ⟨fetch, member, shape⟩
          · exact Or.inl row
          · exact Or.inr (Or.inl (remains _ waiting (by simp)))
          · exact Or.inr (Or.inr (Or.inl ⟨other, remains _ message (by simp [same])⟩))
          · exact Or.inr (Or.inr (Or.inr ⟨fetch, List.mem_append_left _ member, shape⟩))
      · exact order
  | partnerRemoved owner removed =>
      obtain rfl : uid = owner := (mine _ List.mem_cons_self).symm
      constructor
      · intro partner row
        obtain ⟨different, before⟩ := AList.mem_erase.mp row
        rcases tracked.rows partner before with now | leaving | rest
        · exact Or.inl now
        · exact Or.inr (Or.inl (remains _ leaving (by simpa using different)))
        · exact Or.inr (Or.inr rest)
      · intro attached partner now
        by_cases same : partner = removed
        · subst partner
          refine Or.inr (Or.inl (List.mem_append_right _ ?_))
          exact added_behind uid removed front back (fun other member => mine other (List.mem_cons_of_mem _ member))
            (queued ▸ tracked.order removed now)
        · rcases tracked.shown attached partner now with row | waiting | ⟨id, message⟩ | fetching
          · exact Or.inl (AList.mem_erase.mpr ⟨same, row⟩)
          · exact Or.inr (Or.inl (remains _ waiting (by simp)))
          · exact Or.inr (Or.inr (Or.inl ⟨id, remains _ message (by simp)⟩))
          · exact Or.inr (Or.inr (Or.inr fetching))
      · exact order

theorem apply_write_keeps (index : UserMessages) (write : IndexWrite) (entry : Entry) (member : entry ∈ index)
    (other : write ≠ .remove entry.owner entry.partner) : entry ∈ index.applyWrite write := by
  cases write with
  | add added => exact (mem_add _ _ _).mpr (Or.inl member)
  | remove owner partner =>
      refine (mem_remove _ _ _ _).mpr ⟨member, ?_⟩
      intro given
      obtain ⟨rfl, rfl⟩ := given
      exact other rfl

theorem set_stage_partner (fetches : List Fetch) (k : Nat) (fetch : Fetch) (waiting : fetches[k]? = some fetch)
    (other : Fetch) (member : other ∈ fetches) :
    ∃ moved ∈ fetches.set k { fetch with stage := .single }, moved.partner = other.partner := by
  obtain ⟨bound, _⟩ := List.getElem?_eq_some_iff.mp waiting
  obtain ⟨i, there⟩ := List.mem_iff_getElem?.mp member
  by_cases same : i = k
  · subst i
    cases waiting.symm.trans there
    exact ⟨_, List.mem_set bound _, rfl⟩
  · exact ⟨other, List.mem_iff_getElem?.mpr ⟨i, by rw [List.getElem?_set_ne (Ne.symm same)]; exact there⟩, rfl⟩

theorem tracked_setup (uid : Uid) (s : Session) (attended : s.Attended uid) : s.setup.Tracked uid := by
  simp only [Session.setup, attended.signedIn]
  have added (partner : Uid) (now : s.Shows uid partner) : .partnerAdded uid partner ∈
      (UserMessages.partners s.userMessages uid).map (ChildEvent.partnerAdded uid) :=
    List.mem_map.mpr ⟨partner, (mem_partners_shows s uid partner).mpr now, rfl⟩
  constructor
  · intro partner row
    cases row
  · exact fun _ partner now => Or.inr (Or.inl (List.mem_append_right _ (added partner now)))
  · intro partner now last
    rw [List.filter_append, List.getLast?_append] at last
    cases final : (((UserMessages.partners s.userMessages uid).map (ChildEvent.partnerAdded uid)).filter
        (ChildEvent.concerns partner)).getLast? with
    | some event =>
        rw [final, Option.some_or] at last
        cases last
        obtain ⟨_, _, same⟩ := List.mem_map.mp (List.mem_filter.mp (List.mem_of_getLast? final)).1
        cases same
    | none =>
        have member : .partnerAdded uid partner ∈ List.filter (ChildEvent.concerns partner) _ :=
          List.mem_filter.mpr ⟨added partner now, beq_self_eq_true (some partner)⟩
        rw [List.getLast?_eq_none_iff.mp final] at member
        cases member

theorem verdict_held (uid : Uid) (s : Session) (accepted : Bool) (write : IndexWrite)
    (index : Replica UserMessages IndexWrite)
    (oldest : s.index.decide UserMessages.applyWrite accepted = some (write, index)) (partner : Uid)
    (deleting : .remove uid partner ∈ s.index.pending) (stored : ∃ id, (⟨uid, partner, id⟩ : Entry) ∈ s.index.server) :
    (s.indexed index).Shows uid partner ∨ (s.decided write accepted index).Leaving uid partner := by
  obtain ⟨pending, server⟩ := Replica.decide_cases UserMessages.applyWrite s.index index accepted write oldest
  obtain ⟨id, member⟩ := stored
  by_cases same : write = .remove uid partner
  · subst same
    cases accepted with
    | true => exact Or.inr (Or.inr (Or.inl (List.mem_append_right _ List.mem_cons_self)))
    | false =>
        have kept : (⟨uid, partner, id⟩ : Entry) ∈ index.server := server ▸ member
        by_cases again : .remove uid partner ∈ index.pending
        · exact Or.inr (Or.inr (Or.inr ⟨again, id, kept⟩))
        · refine Or.inl ⟨id, Replica.view_of_server UserMessages.applyWrite index (fun data => _ ∈ data) kept ?_⟩
          exact fun data other issued present => apply_write_keeps data other _ present (fun remove => again (remove ▸ issued))
  · have waits : .remove uid partner ∈ index.pending := by
      rw [pending] at deleting
      exact (List.mem_cons.mp deleting).resolve_left (Ne.symm same)
    refine Or.inr (Or.inr (Or.inr ⟨waits, id, ?_⟩))
    change _ ∈ index.server
    rw [server]
    cases accepted with
    | false => exact member
    | true => exact apply_write_keeps s.index.server write _ member same

theorem tracked_step (records : MsgId → Option Dictionary) (uid : Uid) (s next : Session) (act : SessionAct)
    (out : List Notice) (formats : Formats records s) (attended : s.Attended uid) (tracked : s.Tracked uid)
    (ordered : s.InOrder act) (timely : s.Timely uid act)
    (stepped : (Session.machine records).step s act = some (next, out)) : next.Tracked uid := by
  cases session_step_cases records s next act out stepped with
  | signIn => exact ⟨tracked.rows, tracked.shown, tracked.order⟩
  | signOut => exact ⟨tracked.rows, tracked.shown, tracked.order⟩
  | setup => exact tracked_setup uid s attended
  | messageIndexed entry =>
      refine tracked_indexed uid s attended tracked (s.index.receive UserMessages.applyWrite (.add entry)) s.completions
        (fun _ member => member) (fun partner _ deleting stored => ?_)
      obtain ⟨id, member⟩ := stored
      exact Or.inr (Or.inr (Or.inr (Or.inr ⟨deleting, id, (mem_add _ _ _).mpr (Or.inl member)⟩)))
  | conversationRemoved owner removed =>
      refine tracked_indexed uid s attended tracked (s.index.receive UserMessages.applyWrite (.remove owner removed))
        s.completions (fun _ member => member) (fun partner row deleting stored => ?_)
      by_cases same : uid = owner ∧ partner = removed
      · obtain ⟨rfl, rfl⟩ := same
        rcases timely rfl row with before | leaving | completing
        · exact Or.inl before
        · exact Or.inr (Or.inr (Or.inl (List.mem_append_left _ leaving)))
        · exact Or.inr (Or.inr (Or.inr (Or.inl completing)))
      · obtain ⟨id, member⟩ := stored
        exact Or.inr (Or.inr (Or.inr (Or.inr ⟨deleting, id, (mem_remove _ _ _ _).mpr ⟨member, same⟩⟩)))
  | indexWrite entry =>
      exact tracked_indexed uid s attended tracked (s.index.issue (.add entry)) s.completions (fun _ member => member)
        (fun partner _ deleting stored => Or.inr (Or.inr (Or.inr (Or.inr ⟨List.mem_append_left _ deleting, stored⟩))))
  | swipeDelete row owner removed =>
      exact tracked_indexed uid s attended tracked (s.index.issue (.remove owner removed)) s.completions
        (fun _ member => member)
        (fun partner _ deleting stored => Or.inr (Or.inr (Or.inr (Or.inr ⟨List.mem_append_left _ deleting, stored⟩))))
  | unswiped => exact tracked
  | verdict accepted write index oldest =>
      exact tracked_indexed uid s attended tracked index _ (fun _ member => List.mem_append_left _ member)
        (fun partner _ deleting stored => Or.inr (verdict_held uid s accepted write index oldest partner deleting stored))
  | deliver k front back event queued here before =>
      subst front
      exact tracked_deliver uid s attended tracked _ back event queued
        (ordered event here)
  | value k fetch waiting =>
      refine ⟨tracked.rows, fun attached partner now => ?_, tracked.order⟩
      rcases tracked.shown attached partner now with row | added | message | ⟨other, member, shape⟩
      · exact Or.inl row
      · exact Or.inr (Or.inl added)
      · exact Or.inr (Or.inr (Or.inl message))
      · obtain ⟨moved, inside, same⟩ := set_stage_partner s.fetches k fetch waiting other member
        exact Or.inr (Or.inr (Or.inr ⟨moved, inside, same.trans shape⟩))
  | single k fetch waiting _ _ filed =>
      have member := List.mem_of_getElem? waiting
      obtain ⟨record, list, _, rfl, inserted, _⟩ := file_attended records uid s next k fetch out attended
        (formats.fetches fetch member) member filed
      constructor
      · intro partner row
        change partner ∈ list.messageDict at row
        rw [inserted] at row
        rcases (AList.mem_insert _).mp row with rfl | old
        · exact timely fetch waiting
        · exact tracked.rows partner old
      · intro attached partner now
        change partner ∈ list.messageDict ∨ _
        rw [inserted, AList.mem_insert]
        by_cases same : partner = fetch.partner
        · exact Or.inl (Or.inl same)
        · rcases tracked.shown attached partner now with row | added | message | ⟨other, member, shape⟩
          · exact Or.inl (Or.inr row)
          · exact Or.inr (Or.inl added)
          · exact Or.inr (Or.inr (Or.inl message))
          · refine Or.inr (Or.inr (Or.inr ⟨other, Queue.mem_erase_other s.fetches k fetch other waiting ?_ member, shape⟩))
            intro same
            obtain rfl := same
            exact same shape.symm
      · exact tracked.order
  | complete k removed accepted _ waiting =>
      have other_completion (partner : Uid) (different : (partner, true) ≠ (removed, accepted))
          (member : (partner, true) ∈ s.completions) : (partner, true) ∈ s.completions.eraseIdx k :=
        Queue.mem_erase_other s.completions k _ _ waiting different member
      cases accepted with
      | false =>
          refine ⟨fun partner row => ?_, tracked.shown, tracked.order⟩
          rcases tracked.rows partner row with now | leaving | completing | deleting
          · exact Or.inl now
          · exact Or.inr (Or.inl leaving)
          · exact Or.inr (Or.inr (Or.inl (other_completion partner (by simp) completing)))
          · exact Or.inr (Or.inr (Or.inr deleting))
      | true =>
          refine ⟨fun partner row => ?_, fun attached partner now => ?_, tracked.order⟩
          · obtain ⟨different, before⟩ := AList.mem_erase.mp row
            rcases tracked.rows partner before with now | leaving | completing | deleting
            · exact Or.inl now
            · exact Or.inr (Or.inl leaving)
            · exact Or.inr (Or.inr (Or.inl (other_completion partner (by simpa using different) completing)))
            · exact Or.inr (Or.inr (Or.inr deleting))
          · by_cases same : partner = removed
            · subst partner
              exact Or.inr ((timely removed waiting).resolve_left (fun absent => absent now))
            · exact (tracked.shown attached partner now).imp_left (fun row => AList.mem_erase.mpr ⟨same, row⟩)
  | timerFires values list same =>
      exact ⟨fun partner row => tracked.rows partner (same ▸ row),
        fun attached partner now => same ▸ tracked.shown attached partner now, tracked.order⟩

theorem in_order_first (s : Session) (act : SessionAct) (first : ∀ k, act = .deliver k → k = 0) : s.InOrder act := by
  cases act with
  | deliver k =>
      obtain rfl := first k rfl
      exact fun _ _ _ member => absurd member List.not_mem_nil
  | _ => trivial

theorem quiet_rows (uid : Uid) (s : Session) (tracked : s.Tracked uid) (quiet : s.Quiet)
    (partner : Uid) : partner ∈ s.list.messageDict ↔ s.Shows uid partner := by
  constructor
  · intro row
    rcases tracked.rows partner row with now | leaving | completing | deleting
    · exact now
    · rw [quiet.events] at leaving
      cases leaving
    · rw [quiet.completions] at completing
      cases completing
    · exact absurd deleting.1 (quiet.deletes uid partner)
  · intro now
    rcases tracked.shown quiet.attached partner now with row | added | ⟨id, message⟩ | ⟨fetch, member, _⟩
    · exact row
    · rw [quiet.events] at added
      cases added
    · rw [quiet.events] at message
      cases message
    · rw [quiet.fetches] at member
      cases member

theorem rows_follow_conversations (records : MsgId → Option Dictionary) (uid : Uid) (actions : List SessionAct)
    (s : Session) (out : List Notice)
    (ran : (Session.machine records).run (Session.start (some uid)) actions = some (s, out))
    (stays : ∀ act ∈ actions, act.Stays uid)
    (ordered : (Session.machine records).Along Session.InOrder (Session.start (some uid)) actions)
    (timely : (Session.machine records).Along (Session.Timely uid) (Session.start (some uid)) actions)
    (quiet : s.Quiet) (partner : Uid) :
    partner ∈ s.list.messageDict ↔ ∃ id, (⟨uid, partner, id⟩ : Entry) ∈ s.userMessages := by
  have staying := Machine.along_of_forall (Session.machine records) (fun _ act => act.Stays uid) actions
    (fun _ => stays) (Session.start (some uid))
  have along := Machine.along_and _ _ _ _ _ staying (Machine.along_and _ _ _ _ _ ordered timely)
  have holds := Machine.invariant_along (Session.machine records)
    (fun s => Formats records s ∧ s.Attended uid ∧ s.Tracked uid) _
    (fun s act next out holds cond stepped => ⟨formats_step records s act next out holds.1 stepped,
      attended_step records uid s next act out holds.2.1 cond.1 stepped,
      tracked_step records uid s next act out holds.1 holds.2.1 holds.2.2 cond.2.1 cond.2.2 stepped⟩)
    actions (Session.start (some uid)) s out
    ⟨formats_start records (some uid), attended_start uid, tracked_start uid⟩ along ran
  exact quiet_rows uid s holds.2.2 quiet partner

def conversationDeleted : List SessionAct :=
  [.setupNavbarWithUser, .messageIndexed ⟨"ann", "bob", "-M1"⟩, .deliver 0, .deliver 0, .value 0, .single 0,
    .timerFires [firstText], .swipeDelete 0, .deliver 0, .verdict true, .complete 0]

theorem rows_follow_conversations_deleted :
    ∃ s out, (Session.machine textRecords).run (Session.start (some "ann")) conversationDeleted = some (s, out) ∧
      s.userMessages = [] ∧ "bob" ∉ s.list.messageDict := by
  refine ⟨_, _, rfl, rfl, fun row => ?_⟩
  have shown := (rows_follow_conversations textRecords "ann" conversationDeleted _ _ rfl ?_ ?_ ?_ ?_ "bob").mp row
  · obtain ⟨_, member⟩ := shown
    exact List.not_mem_nil member
  · simp [conversationDeleted, SessionAct.Stays]
  · refine Machine.along_of_forall _ _ _ (fun s act member => in_order_first s act ?_) _
    intro k same
    obtain rfl := same
    simpa [conversationDeleted] using member
  · decide +kernel
  · exact ⟨by decide, rfl, rfl, rfl, fun _ _ => List.not_mem_nil⟩

-- The answer is still being fetched when ann deletes the conversation; both its
-- callbacks come after the accepted delete.
def fetchAfterDelete : List SessionAct :=
  [.setupNavbarWithUser, .messageIndexed ⟨"ann", "bob", "-M1"⟩, .deliver 0, .deliver 0, .value 0, .single 0,
    .timerFires [firstText], .messageIndexed ⟨"ann", "bob", "-M2"⟩, .deliver 0, .swipeDelete 0, .deliver 0,
    .verdict true, .complete 0, .value 0, .single 0]

theorem late_fetch_restores_row :
    ∃ s out, (Session.machine textRecords).run (Session.start (some "ann")) fetchAfterDelete = some (s, out) ∧
      (∀ act ∈ fetchAfterDelete, act.Stays "ann") ∧
      (Session.machine textRecords).Along Session.InOrder (Session.start (some "ann")) fetchAfterDelete ∧ s.Quiet ∧
      ¬ ∀ partner, partner ∈ s.list.messageDict ↔ ∃ id, (⟨"ann", partner, id⟩ : Entry) ∈ s.userMessages := by
  refine ⟨_, _, rfl, by simp [fetchAfterDelete, SessionAct.Stays], ?_, ?_, fun same => ?_⟩
  · refine Machine.along_of_forall _ _ _ (fun s act member => in_order_first s act ?_) _
    intro k same
    obtain rfl := same
    simpa [fetchAfterDelete] using member
  · exact ⟨by decide, rfl, rfl, rfl, fun _ _ => List.not_mem_nil⟩
  · obtain ⟨_, member⟩ := (same "bob").mp (by decide)
    exact List.not_mem_nil member

end FirChat
