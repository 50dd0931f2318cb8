import FirChat.Session

set_option autoImplicit false

namespace FirChat

namespace Session

def Row (s : Session) (key : Uid) (message : Message) : Prop :=
  ∃ uid fromId toId, s.owner = some uid ∧ message.fromId = some fromId ∧ message.toId = some toId ∧
    ({fromId, toId} : Set Uid) = {uid, key}

def OwnRows (s : Session) : Prop := ∀ key message, s.list.messageDict.lookup key = some message → s.Row key message

-- The user for whom the listener of a database event was attached.
def listenerOf (s : Session) : SessionAct → Option Uid
  | .deliver k => s.events[k]?.map ChildEvent.owner
  | .value k | .single k => s.fetches[k]?.map Fetch.owner
  | _ => none

-- An earlier user, or one who has signed out.
def Foreign (s : Session) (uid : Uid) : Prop := ¬ (s.owner = some uid ∧ s.currentUser = some uid)

def AddsNothing (records : MsgId → Option Dictionary) (s : Session) (act : SessionAct) : Prop :=
  ∀ uid next out, s.listenerOf act = some uid → s.Foreign uid → s.step records act = some (next, out) →
    ∀ key ∈ next.list.messageDict, key ∈ s.list.messageDict

-- The message goes over a row that is there, under which it belongs in the list.
def Replaces (records : MsgId → Option Dictionary) (s : Session) (fetch : Fetch) : Prop :=
  ∃ record key, records fetch.id = some record ∧ (Message.init record).partenerId s.currentUser = some key ∧
    key ∈ s.list.messageDict ∧ s.Row key (Message.init record)

def Mine (records : MsgId → Option Dictionary) (s : Session) : SessionAct → Prop
  | .single k => ∀ fetch, s.fetches[k]? = some fetch → s.Foreign fetch.owner → s.Replaces records fetch
  | _ => True

end Session

def Isolated (records : MsgId → Option Dictionary) (start : Session) (actions : List SessionAct) : Prop :=
  (Session.machine records).Always Session.OwnRows start actions ∧
    (Session.machine records).Along (Session.AddsNothing records) start actions

theorem own_rows_start (currentUser : Option Uid) : (Session.start currentUser).OwnRows :=
  fun _ _ found => by simp [Session.start] at found

theorem well_formed_row (s : Session) (uid partner : Uid) (record : Dictionary) (owner : s.owner = some uid)
    (formed : WellFormed uid partner record) : s.Row partner (Message.init record) := by
  obtain ⟨fromId, toId, _, hasFrom, hasTo, _, pair⟩ := formed
  exact ⟨uid, fromId, toId, owner, by simp [Message.init, hasFrom, Value.asString],
    by simp [Message.init, hasTo, Value.asString], (participants_iff_pair fromId toId uid partner).mp pair⟩

-- A step that files nothing only drops rows.
theorem own_rows_quiet (records : MsgId → Option Dictionary) (s next : Session) (act : SessionAct) (out : List Notice)
    (stepped : s.step records act = some (next, out)) (own : s.OwnRows) (owner : next.owner = s.owner)
    (rows : ∀ key message, next.list.messageDict.lookup key = some message →
      s.list.messageDict.lookup key = some message) : next.OwnRows ∧ s.AddsNothing records act := by
  refine ⟨fun key message found => ?_, fun uid other noticed _ _ ran key member => ?_⟩
  · obtain ⟨uid, fromId, toId, same, shape⟩ := own key message (rows key message found)
    exact ⟨uid, fromId, toId, owner.trans same, shape⟩
  · cases stepped.symm.trans ran
    obtain ⟨message, found⟩ := Option.isSome_iff_exists.mp (AList.lookup_isSome.mpr member)
    exact AList.lookup_isSome.mp (by rw [rows key message found]; rfl)

theorem erased_rows (dict : AList (fun _ : String => Message)) (partner key : Uid) (message : Message)
    (found : (dict.erase partner).lookup key = some message) : dict.lookup key = some message := by
  by_cases same : key = partner
  · subst key
    rw [AList.lookup_erase] at found
    cases found
  · rwa [AList.lookup_erase_ne same] at found

theorem single_own_rows_iff (records : MsgId → Option Dictionary) (s next : Session) (k : Nat) (fetch : Fetch)
    (out : List Notice) (formatted : Formatted records ⟨fetch.owner, fetch.partner, fetch.id⟩) (own : s.OwnRows)
    (waiting : s.fetches[k]? = some fetch) (stepped : s.step records (.single k) = some (next, out))
    (filed : ({ s with fetches := s.fetches.eraseIdx k }).file fetch (records fetch.id) = (next, out)) :
    next.OwnRows ∧ s.AddsNothing records (.single k) ↔ s.Mine records (.single k) := by
  obtain ⟨record, key, list, stored, formed, named, rfl, inserted, _⟩ := file_formatted records _ next fetch out formatted
    filed
  have rows (right : s.Row key (Message.init record)) :
      ({ s with fetches := s.fetches.eraseIdx k, list := list } : Session).OwnRows := by
    intro other message found
    change list.messageDict.lookup other = some message at found
    rw [inserted] at found
    by_cases same : other = key
    · subst other
      rw [AList.lookup_insert] at found
      cases found
      exact right
    · rw [AList.lookup_insert_ne same] at found
      exact own other message found
  constructor
  · intro given other found foreign
    obtain ⟨right, adds⟩ := given
    cases waiting.symm.trans found
    have there : key ∈ list.messageDict := inserted ▸ (AList.mem_insert _).mpr (Or.inl rfl)
    have row := right key (Message.init record) (by rw [inserted, AList.lookup_insert])
    have known : s.listenerOf (.single k) = some fetch.owner := by simp [Session.listenerOf, waiting]
    exact ⟨record, key, stored, named, adds fetch.owner _ out known foreign stepped key there, row⟩
  · intro mine
    by_cases foreign : s.Foreign fetch.owner
    · obtain ⟨known, under, here, same, before, right⟩ := mine fetch waiting foreign
      cases stored.symm.trans here
      cases named.symm.trans same
      refine ⟨rows right, fun uid later noticed _ _ ran added member => ?_⟩
      cases stepped.symm.trans ran
      change added ∈ list.messageDict at member
      rw [inserted] at member
      rcases (AList.mem_insert _).mp member with rfl | old
      · exact before
      · exact old
    · obtain ⟨owner, signedIn⟩ := not_not.mp foreign
      rw [show ({ s with fetches := s.fetches.eraseIdx k } : Session).currentUser = some fetch.owner from signedIn,
        well_formed_partner fetch.owner fetch.partner record formed] at named
      cases named
      refine ⟨rows (well_formed_row s fetch.owner _ record owner formed), fun uid later noticed found wrong => ?_⟩
      rw [Session.listenerOf, waiting] at found
      cases found
      exact absurd wrong foreign

theorem own_rows_step_iff (records : MsgId → Option Dictionary) (s : Session) (act : SessionAct) (next : Session)
    (out : List Notice) (formats : Formats records s) (own : s.OwnRows)
    (stepped : (Session.machine records).step s act = some (next, out)) :
    next.OwnRows ∧ s.AddsNothing records act ↔ s.Mine records act := by
  have quiet := own_rows_quiet records s next act out stepped own
  cases session_step_cases records s next act out stepped with
  | single k fetch waiting _ _ filed =>
      exact single_own_rows_iff records s next k fetch out (formats.fetches fetch (List.mem_of_getElem? waiting)) own
        waiting stepped filed
  | setup =>
      have empty : s.setup.list.messageDict = ∅ := by
        unfold Session.setup
        split <;> rfl
      refine iff_of_true ⟨fun key message found => ?_, fun uid _ _ known => by cases known⟩ trivial
      rw [empty, AList.lookup_empty] at found
      cases found
  | deliver k front back event =>
      refine iff_of_true ?_ trivial
      cases event with
      | partnerAdded => exact quiet rfl (fun _ _ found => found)
      | messageAdded => exact quiet rfl (fun _ _ found => found)
      | partnerRemoved owner partner => exact quiet rfl (fun key message => erased_rows _ partner key message)
  | complete k partner accepted =>
      refine iff_of_true (quiet rfl (fun key message found => ?_)) trivial
      cases accepted with
      | false => exact found
      | true => exact erased_rows _ partner key message found
  | timerFires values list same =>
      refine iff_of_true (quiet rfl (fun key message found => ?_)) trivial
      rwa [← same]
  | _ => exact iff_of_true (quiet rfl (fun _ _ found => found)) trivial

def textFetching : List SessionAct :=
  [.setupNavbarWithUser, .messageIndexed ⟨"ann", "bob", "-M1"⟩, .deliver 0, .deliver 0, .value 0]

def fetchAfterSignOut : List SessionAct := textFetching ++ [.signOut, .single 0]

end FirChat
