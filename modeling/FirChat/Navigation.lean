import FirChat.Deletion
import FirChat.Isolation
import FirChat.SignUp

set_option autoImplicit false

namespace FirChat

-- In front of a ChatsList there may be a contact list or a chat, which never log out.
inductive Front where
  | signIn
  | signUp
  | chats
deriving DecidableEq

-- reading is the user whose record fetchUserAndSetUpNavBarTitle waits for.
structure ChatsPage where
  session : Session
  reading : Option Uid
  titleView : Option User := none

-- Each segue to the chats presents a new ChatsList and none is ever dismissed,
-- so the older ones live on below the last. currentUser is Firebase's, one for
-- the app; the sessions hold copies of it.
structure Navigation where
  currentUser : Option Uid := none
  front : Front := .signIn
  lists : List ChatsPage := []

-- UIKit ignores the segues of a covered screen, so showChats is of the one in front.
inductive NavigationAct where
  | authenticated (uid : Uid)
  | showSignUp
  | dismissSignUp
  | showChats
  | handleLogOut (thrown : Bool)
  | userRead (n : Nat) (found : Bool)
  | list (n : Nat) (act : SessionAct)

def SessionAct.isOwn : SessionAct → Bool
  | .signIn _ => false
  | .signOut => false
  | .setupNavbarWithUser => false
  | _ => true

namespace ChatsPage

def viewDidLoad (currentUser : Option Uid) : ChatsPage := ⟨Session.start currentUser, currentUser, none⟩

def authState (currentUser : Option Uid) (page : ChatsPage) : ChatsPage :=
  { page with session := { page.session with currentUser := currentUser } }

-- The user that fetchUserAndSetUpNavBarTitle builds; it leaves the id out.
def titleUser (snapshot : Option Dictionary) : Option User :=
  (asStrings snapshot).map (fun dictionary =>
    { name := (dictionary.lookup "name").bind Value.asString
      email := (dictionary.lookup "email").bind Value.asString
      profileImageUrl := (dictionary.lookup "profileImageUrl").bind Value.asString })

def userRead (page : ChatsPage) (snapshot : Option Dictionary) : ChatsPage :=
  match titleUser snapshot with
  | none => { page with reading := none }
  | some user => { session := page.session.setup, reading := none, titleView := some user }

end ChatsPage

namespace Navigation

def start : Navigation := {}

def authState (s : Navigation) (currentUser : Option Uid) : Navigation :=
  { s with currentUser := currentUser, lists := s.lists.map (ChatsPage.authState currentUser) }

-- Without a user checkIfUserIsLogged performs handleLogOut right away.
def showChats (s : Navigation) : Navigation :=
  { s with
    lists := s.lists ++ [ChatsPage.viewDidLoad s.currentUser]
    front := if s.currentUser.isSome then .chats else .signIn }

def step (records : MsgId → Option Dictionary) (profiles : Uid → Option Dictionary) (s : Navigation) :
    NavigationAct → Option (Navigation × List (Nat × Notice))
  | .authenticated uid => some (s.authState (some uid), [])
  | .showSignUp => if s.front = .signIn then some ({ s with front := .signUp }, []) else none
  | .dismissSignUp => if s.front = .signUp then some ({ s with front := .signIn }, []) else none
  | .showChats => if s.front = .chats then none else some (s.showChats, [])
  | .handleLogOut thrown =>
      if s.front = .chats then
        -- The segue is performed although signOut has thrown.
        some ({ s.authState (if thrown then s.currentUser else none) with front := .signIn }, [])
      else none
  | .userRead n found =>
      match s.lists[n]? with
      | some ⟨session, some uid, titleView⟩ =>
          let snapshot := if found then profiles uid else none
          some ({ s with lists := s.lists.set n (ChatsPage.userRead ⟨session, some uid, titleView⟩ snapshot) }, [])
      | _ => none
  | .list n act =>
      match s.lists[n]? with
      | none => none
      | some page =>
          if act.isOwn then
            (page.session.step records act).map (fun result =>
              ({ s with lists := s.lists.set n { page with session := result.1 } }, result.2.map (Prod.mk n)))
          else none

def machine (records : MsgId → Option Dictionary) (profiles : Uid → Option Dictionary) :
    Machine Navigation NavigationAct (Nat × Notice) := ⟨step records profiles⟩

-- Nobody else is signed in while a ChatsList is in front.
def Settled (s : Navigation) : NavigationAct → Prop
  | .authenticated uid => s.front = .chats → s.currentUser = some uid
  | _ => True

instance (s : Navigation) (act : NavigationAct) : Decidable (s.Settled act) :=
  match act with
  | .authenticated uid => inferInstanceAs (Decidable (s.front = .chats → s.currentUser = some uid))
  | .showSignUp | .dismissSignUp | .showChats | .handleLogOut _ | .userRead _ _ | .list _ _ => isTrue trivial

end Navigation

inductive NavigationEffect (records : MsgId → Option Dictionary) (profiles : Uid → Option Dictionary) (s : Navigation) :
    NavigationAct → Navigation → List (Nat × Notice) → Prop where
  | authenticated (uid : Uid) : NavigationEffect records profiles s (.authenticated uid) (s.authState (some uid)) []
  | signing (act : NavigationAct) (front : Front) (covered : front ≠ .chats) :
      NavigationEffect records profiles s act { s with front := front } []
  | showChats (covered : s.front ≠ .chats) : NavigationEffect records profiles s .showChats s.showChats []
  | handleLogOut (thrown : Bool) (currentUser : Option Uid) :
      NavigationEffect records profiles s (.handleLogOut thrown) { s.authState currentUser with front := .signIn } []
  | userRead (n : Nat) (found : Bool) (session : Session) (reader : Uid) (titleView : Option User)
      (here : s.lists[n]? = some ⟨session, some reader, titleView⟩) :
      NavigationEffect records profiles s (.userRead n found)
        { s with lists := s.lists.set n (ChatsPage.userRead ⟨session, some reader, titleView⟩
          (if found then profiles reader else none)) } []
  | list (n : Nat) (act : SessionAct) (page : ChatsPage) (session : Session) (notices : List Notice)
      (here : s.lists[n]? = some page) (own : act.isOwn = true)
      (ran : page.session.step records act = some (session, notices)) :
      NavigationEffect records profiles s (.list n act)
        { s with lists := s.lists.set n { page with session := session } } (notices.map (Prod.mk n))

theorem navigation_step_cases (records : MsgId → Option Dictionary) (profiles : Uid → Option Dictionary)
    (s next : Navigation) (act : NavigationAct) (out : List (Nat × Notice))
    (stepped : s.step records profiles act = some (next, out)) : NavigationEffect records profiles s act next out := by
  cases act with
  | authenticated uid => cases stepped; exact .authenticated uid
  | showSignUp =>
      simp only [Navigation.step] at stepped
      split at stepped
      · cases stepped; exact .signing _ .signUp (by simp)
      · cases stepped
  | dismissSignUp =>
      simp only [Navigation.step] at stepped
      split at stepped
      · cases stepped; exact .signing _ .signIn (by simp)
      · cases stepped
  | showChats =>
      simp only [Navigation.step] at stepped
      split at stepped
      · cases stepped
      · rename_i covered
        cases stepped
        exact .showChats covered
  | handleLogOut thrown =>
      simp only [Navigation.step] at stepped
      split at stepped
      · cases stepped; exact .handleLogOut thrown _
      · cases stepped
  | userRead n found =>
      simp only [Navigation.step] at stepped
      split at stepped
      · rename_i session reader titleView here
        cases stepped
        exact .userRead n found session reader titleView here
      · cases stepped
  | list n act =>
      simp only [Navigation.step] at stepped
      split at stepped
      · cases stepped
      · rename_i page here
        split at stepped
        · rename_i own
          obtain ⟨⟨session, notices⟩, ran, same⟩ := Option.map_eq_some_iff.mp stepped
          cases same
          exact .list n act page session notices here own ran
        · cases stepped

def noticed (n : Nat) (seen : List (Nat × Notice)) : List Notice :=
  (seen.filter (fun notice => notice.1 = n)).map Prod.snd

@[simp] theorem mem_noticed (n : Nat) (seen : List (Nat × Notice)) (notice : Notice) :
    notice ∈ noticed n seen ↔ (n, notice) ∈ seen := by
  simp only [noticed, List.mem_map, List.mem_filter, decide_eq_true_eq]
  constructor
  · rintro ⟨⟨_, _⟩, ⟨member, rfl⟩, rfl⟩
    exact member
  · exact fun member => ⟨(n, notice), ⟨member, rfl⟩, rfl⟩

theorem noticed_same (n : Nat) (seen : List (Nat × Notice)) (out : List Notice) :
    noticed n (seen ++ out.map (Prod.mk n)) = noticed n seen ++ out := by
  have whole : (out.map (Prod.mk n)).filter (fun notice => notice.1 = n) = out.map (Prod.mk n) :=
    List.filter_eq_self.mpr (by simp)
  rw [noticed, List.filter_append, List.map_append, whole, List.map_map]
  simp [noticed, Function.comp_def]

theorem noticed_other (n m : Nat) (seen : List (Nat × Notice)) (out : List Notice) (other : m ≠ n) :
    noticed m (seen ++ out.map (Prod.mk n)) = noticed m seen := by
  have nothing : (out.map (Prod.mk n)).filter (fun notice => notice.1 = m) = [] :=
    List.filter_eq_nil_iff.mpr (by simp [other.symm])
  rw [noticed, List.filter_append, nothing, List.append_nil, noticed]

theorem noticed_unnumbered (n : Nat) (seen : List (Nat × Notice)) (numbered : ∀ notice ∈ seen, notice.1 < n) :
    noticed n seen = [] := by
  refine List.eq_nil_iff_forall_not_mem.mpr (fun notice member => ?_)
  exact Nat.lt_irrefl n (numbered _ ((mem_noticed n seen notice).mp member))

structure Paged (good : ChatsPage → List Notice → Prop) (lists : List ChatsPage)
    (seen : List (Nat × Notice)) : Prop where
  numbered : ∀ notice ∈ seen, notice.1 < lists.length
  pages : ∀ n page, lists[n]? = some page → good page (noticed n seen)

theorem paged_append (good : ChatsPage → List Notice → Prop) (lists : List ChatsPage) (page : ChatsPage)
    (seen : List (Nat × Notice)) (paged : Paged good lists seen) (fresh : good page []) :
    Paged good (lists ++ [page]) seen where
  numbered := fun notice member => by
    rw [List.length_append]
    exact Nat.lt_add_right 1 (paged.numbered notice member)
  pages := fun n other here => by
    rcases Nat.lt_trichotomy n lists.length with before | rfl | beyond
    · rw [List.getElem?_append_left before] at here
      exact paged.pages n other here
    · rw [List.getElem?_concat_length] at here
      cases here
      rwa [noticed_unnumbered lists.length seen paged.numbered]
    · rw [List.getElem?_eq_none (by rw [List.length_append]; exact beyond)] at here
      cases here

theorem paged_map (good : ChatsPage → List Notice → Prop) (change : ChatsPage → ChatsPage)
    (lists : List ChatsPage) (seen : List (Nat × Notice)) (paged : Paged good lists seen)
    (keeps : ∀ page out, good page out → good (change page) out) : Paged good (lists.map change) seen where
  numbered := by simpa using paged.numbered
  pages := fun n page here => by
    rw [List.getElem?_map, Option.map_eq_some_iff] at here
    obtain ⟨old, there, rfl⟩ := here
    exact keeps old _ (paged.pages n old there)

theorem paged_set (good : ChatsPage → List Notice → Prop) (lists : List ChatsPage) (n : Nat)
    (page next : ChatsPage) (seen : List (Nat × Notice)) (out : List Notice) (paged : Paged good lists seen)
    (here : lists[n]? = some page) (stepped : good page (noticed n seen) → good next (noticed n seen ++ out)) :
    Paged good (lists.set n next) (seen ++ out.map (Prod.mk n)) where
  numbered := fun notice member => by
    rw [List.length_set]
    rcases List.mem_append.mp member with old | new
    · exact paged.numbered notice old
    · obtain ⟨_, _, rfl⟩ := List.mem_map.mp new
      exact (List.getElem?_eq_some_iff.mp here).1
  pages := fun m other there => by
    by_cases same : m = n
    · subst m
      rw [List.getElem?_set_self (List.getElem?_eq_some_iff.mp here).1] at there
      cases there
      rw [noticed_same]
      exact stepped (paged.pages n page here)
    · rw [List.getElem?_set_ne (fun equal => same equal.symm)] at there
      rw [noticed_other n m seen out same]
      exact paged.pages m other there

structure TopList (records : MsgId → Option Dictionary) (profiles : Uid → Option Dictionary) (uid : Uid)
    (page : ChatsPage) : Prop where
  formats : Formats records page.session
  attended : page.session.Attended uid
  own : page.session.OwnRows
  owner : page.session.listeners ≠ [] → page.session.owner = some uid
  reading : ∀ other, page.reading = some other → other = uid
  title : ∀ user, page.titleView = some user → ChatsPage.titleUser (profiles uid) = some user

theorem top_list_start (records : MsgId → Option Dictionary) (profiles : Uid → Option Dictionary) (uid : Uid) :
    TopList records profiles uid (ChatsPage.viewDidLoad (some uid)) where
  formats := formats_start records (some uid)
  attended := attended_start uid
  own := own_rows_start (some uid)
  owner := fun attached => absurd rfl attached
  reading := fun other same => (Option.some.inj same).symm
  title := fun user none => by cases none

-- Only setupNavbarWithUser changes the owner of a list or attaches a listener.
theorem own_step_keeps (records : MsgId → Option Dictionary) (s next : Session) (act : SessionAct) (out : List Notice)
    (different : act ≠ .setupNavbarWithUser) (stepped : s.step records act = some (next, out)) :
    next.owner = s.owner ∧ next.listeners = s.listeners := by
  cases session_step_cases records s next act out stepped with
  | setup => exact absurd rfl different
  | deliver k front back event => cases event <;> exact ⟨rfl, rfl⟩
  | single k fetch waiting _ _ filed => cases filed; exact ⟨rfl, rfl⟩
  | _ => exact ⟨rfl, rfl⟩

theorem top_list_session (records : MsgId → Option Dictionary) (profiles : Uid → Option Dictionary) (uid : Uid)
    (page : ChatsPage) (out : List Notice) (act : SessionAct) (next : Session) (reading : Option Uid)
    (titleView : Option User) (top : TopList records profiles uid page) (stays : act.Stays uid)
    (stepped : page.session.step records act = some (next, out)) (read : ∀ other, reading = some other → other = uid)
    (title : ∀ user, titleView = some user → ChatsPage.titleUser (profiles uid) = some user) :
    TopList records profiles uid ⟨next, reading, titleView⟩ := by
  have attended := top.attended
  -- A fetch waits only where a listener is attached, so its owner is the user.
  have mine : page.session.Mine records act := by
    cases act with
    | single k =>
        intro fetch waiting foreign
        have member := List.mem_of_getElem? waiting
        have attached : page.session.listeners ≠ [] := fun none => by
          rw [(attended.unattached none).2.2.1] at member
          cases member
        refine absurd ?_ foreign
        rw [attended.fetches fetch member]
        exact ⟨top.owner attached, attended.signedIn⟩
    | _ => trivial
  have formats := formats_step records page.session act next out top.formats stepped
  have own := ((own_rows_step_iff records page.session act next out top.formats top.own stepped).mpr mine).1
  refine ⟨formats, attended_step records uid page.session next act out attended stays stepped, own, fun attached => ?_,
    read, title⟩
  by_cases setup : act = .setupNavbarWithUser
  · subst act
    cases stepped
    simp only [Session.setup, attended.signedIn]
  · obtain ⟨owner, listeners⟩ := own_step_keeps records page.session next act out setup stepped
    change next.listeners ≠ [] at attached
    rw [listeners] at attached
    exact owner.trans (top.owner attached)

theorem own_stays (uid : Uid) (act : SessionAct) (own : act.isOwn = true) : act.Stays uid := by
  cases act with
  | signIn => cases own
  | signOut => cases own
  | _ => trivial

theorem own_not_setup (act : SessionAct) (own : act.isOwn = true) : act ≠ .setupNavbarWithUser := by
  intro same
  subst act
  cases own

theorem top_list_read (records : MsgId → Option Dictionary) (profiles : Uid → Option Dictionary) (uid : Uid)
    (session : Session) (reader : Uid) (titleView : Option User) (found : Bool)
    (top : TopList records profiles uid ⟨session, some reader, titleView⟩) :
    TopList records profiles uid
      (ChatsPage.userRead ⟨session, some reader, titleView⟩ (if found then profiles reader else none)) := by
  obtain rfl := top.reading reader rfl
  unfold ChatsPage.userRead
  split
  · exact ⟨top.formats, top.attended, top.own, top.owner, fun other none => (by cases none), top.title⟩
  · rename_i user built
    cases found with
    | false => cases built
    | true =>
        refine top_list_session records profiles reader _ [] .setupNavbarWithUser session.setup none (some user) top trivial
          rfl (fun other none => (by cases none)) (fun other same => ?_)
        cases same
        exact built

structure InFront (records : MsgId → Option Dictionary) (profiles : Uid → Option Dictionary) (s : Navigation) : Prop where
  signedIn : s.front = .chats → s.currentUser ≠ none ∧ s.lists ≠ []
  top : ∀ n page uid, s.lists[n]? = some page → s.front = .chats → s.currentUser = some uid → n + 1 = s.lists.length →
    TopList records profiles uid page

theorem in_front_start (records : MsgId → Option Dictionary) (profiles : Uid → Option Dictionary) :
    InFront records profiles Navigation.start where
  signedIn := fun shown => by cases shown
  top := fun n page uid here => by cases here

theorem in_front_set (records : MsgId → Option Dictionary) (profiles : Uid → Option Dictionary) (s : Navigation) (n : Nat)
    (page next : ChatsPage) (inFront : InFront records profiles s) (here : s.lists[n]? = some page)
    (changed : ∀ uid, TopList records profiles uid page → TopList records profiles uid next) :
    InFront records profiles { s with lists := s.lists.set n next } := by
  refine ⟨fun shown => ⟨(inFront.signedIn shown).1, by simpa using (inFront.signedIn shown).2⟩, ?_⟩
  intro m other uid there shown user last
  change (s.lists.set n next)[m]? = some other at there
  change m + 1 = (s.lists.set n next).length at last
  rw [List.length_set] at last
  by_cases same : n = m
  · subst m
    rw [List.getElem?_set_self (List.getElem?_eq_some_iff.mp here).1] at there
    cases there
    exact changed uid (inFront.top n page uid here shown user last)
  · rw [List.getElem?_set_ne same] at there
    exact inFront.top m other uid there shown user last

theorem in_front_step (records : MsgId → Option Dictionary) (profiles : Uid → Option Dictionary) (s : Navigation)
    (act : NavigationAct) (next : Navigation) (out : List (Nat × Notice)) (inFront : InFront records profiles s)
    (settled : s.Settled act) (stepped : (Navigation.machine records profiles).step s act = some (next, out)) :
    InFront records profiles next := by
  cases navigation_step_cases records profiles s next act out stepped with
  | authenticated uid =>
      refine ⟨fun shown => ⟨Option.some_ne_none uid, ?_⟩, fun n page other here shown user last => ?_⟩
      · simpa [Navigation.authState] using (inFront.signedIn shown).2
      · cases user
        simp only [Navigation.authState, List.getElem?_map, List.length_map, Option.map_eq_some_iff] at here last
        obtain ⟨old, there, rfl⟩ := here
        have kept := inFront.top n old uid there shown (settled shown) last
        exact top_list_session records profiles uid old [] (.signIn uid) _ old.reading old.titleView kept rfl rfl
          kept.reading kept.title
  | signing _ front covered =>
      exact ⟨fun shown => absurd shown covered, fun n page uid here shown => absurd shown covered⟩
  | showChats covered =>
      refine ⟨fun shown => ⟨fun nobody => ?_, by simp [Navigation.showChats]⟩, fun n page uid here shown user last => ?_⟩
      · simp only [Navigation.showChats] at shown nobody
        rw [nobody] at shown
        cases shown
      · simp only [Navigation.showChats, List.length_append, List.length_singleton, Nat.add_right_cancel_iff] at here last
        change s.currentUser = some uid at user
        rw [last, List.getElem?_concat_length, user] at here
        cases here
        exact top_list_start records profiles uid
  | handleLogOut thrown currentUser =>
      exact ⟨fun shown => (by cases shown), fun n page uid here shown => (by cases shown)⟩
  | userRead n found session reader titleView here =>
      exact in_front_set records profiles s n _ _ inFront here
        (fun uid => top_list_read records profiles uid session reader titleView found)
  | list n act page session notices here own ran =>
      exact in_front_set records profiles s n page _ inFront here (fun uid kept =>
        top_list_session records profiles uid page notices act session page.reading page.titleView kept
          (own_stays uid act own) ran kept.reading kept.title)

-- However often users sign in and out, and whatever still arrives for the lists
-- that are covered, the list in front belongs to the user who is signed in: its
-- title, its listeners, its rows and the deletes it has asked for.
theorem list_in_front_is_the_users (records : MsgId → Option Dictionary) (profiles : Uid → Option Dictionary)
    (acts : List NavigationAct) (s : Navigation) (out : List (Nat × Notice))
    (settled : (Navigation.machine records profiles).Along Navigation.Settled Navigation.start acts)
    (ran : (Navigation.machine records profiles).run Navigation.start acts = some (s, out)) (shown : s.front = .chats) :
    ∃ uid page, s.currentUser = some uid ∧ s.lists.getLast? = some page ∧ page.session.currentUser = some uid ∧
      (∀ user, page.titleView = some user → ChatsPage.titleUser (profiles uid) = some user) ∧
      (∀ owner ∈ page.session.listeners, owner = uid) ∧
      (∀ key message, page.session.list.messageDict.lookup key = some message →
        ∃ fromId toId, message.fromId = some fromId ∧ message.toId = some toId ∧
          ({fromId, toId} : Set Uid) = {uid, key}) ∧
      (∀ owner partner, .remove owner partner ∈ page.session.index.pending → owner = uid) := by
  obtain ⟨signedIn, top⟩ := Machine.invariant_along (Navigation.machine records profiles) (InFront records profiles)
    Navigation.Settled (in_front_step records profiles) acts Navigation.start s out (in_front_start records profiles)
    settled ran
  obtain ⟨somebody, presented⟩ := signedIn shown
  obtain ⟨uid, user⟩ := Option.ne_none_iff_exists'.mp somebody
  have positive := List.length_pos_iff.mpr presented
  have last : s.lists.getLast? = s.lists[s.lists.length - 1]? := List.getLast?_eq_getElem?
  obtain ⟨page, here⟩ : ∃ page, s.lists[s.lists.length - 1]? = some page :=
    ⟨_, List.getElem?_eq_getElem (Nat.sub_lt positive Nat.one_pos)⟩
  have front := top _ page uid here shown user (Nat.sub_add_cancel positive)
  refine ⟨uid, page, user, last.trans here, front.attended.signedIn, front.title, front.attended.listeners,
    fun key message found => ?_, front.attended.deletes⟩
  obtain ⟨owner, fromId, toId, owned, sender, recipient, pair⟩ := front.own key message found
  have attached : page.session.listeners ≠ [] := fun none => by
    rw [(front.attended.unattached none).1, AList.lookup_empty] at found
    cases found
  obtain rfl := Option.some.inj (owned.symm.trans (front.owner attached))
  exact ⟨fromId, toId, sender, recipient, pair⟩

def usersInTurn : List NavigationAct :=
  [.authenticated "ann", .showChats, .userRead 0 true, .list 0 (.messageIndexed ⟨"ann", "bob", "-M1"⟩),
    .list 0 (.deliver 0), .list 0 (.deliver 0), .list 0 (.value 0), .handleLogOut false, .authenticated "carl",
    .showChats, .userRead 1 true, .list 0 (.single 0)]

def navigationProfiles (uid : Uid) : Option Dictionary :=
  if uid = "ann" then some (profileValues "Ann" "ann@mail" "https://img/ann")
  else if uid = "carl" then some (profileValues "Carl" "carl@mail" "https://img/carl")
  else none

theorem list_in_front_is_carls :
    ∃ s out page, (Navigation.machine textRecords navigationProfiles).run Navigation.start usersInTurn = some (s, out) ∧
      s.lists.length = 2 ∧ s.lists.getLast? = some page ∧ page.titleView.bind User.name = some "Carl" ∧
      ∀ owner ∈ page.session.listeners, owner = "carl" := by
  have settled : (Navigation.machine textRecords navigationProfiles).Along Navigation.Settled Navigation.start
      usersInTurn := by decide +kernel
  obtain ⟨uid, page, user, last, _, _, listeners, _⟩ := list_in_front_is_the_users textRecords navigationProfiles
    usersInTurn _ _ settled rfl rfl
  cases user
  cases last
  exact ⟨_, _, _, rfl, rfl, rfl, rfl, listeners⟩

structure SetUpOnce (records : MsgId → Option Dictionary) (page : ChatsPage) (out : List Notice) : Prop where
  formats : Formats records page.session
  reading : page.reading ≠ none → page.session.owner = none
  listeners : page.session.listeners = page.session.owner.toList
  conversations : ∀ path ∈ page.session.conversations, page.session.owner = some path.1
  events : ∀ event ∈ page.session.events, page.session.owner = some event.owner
  fetches : ∀ fetch ∈ page.session.fetches, page.session.owner = some fetch.owner
  filed : ∀ fetch owner currentUser key, .filed fetch owner currentUser key ∈ out →
    page.session.owner = some fetch.owner ∧ owner = some fetch.owner ∧ (currentUser = owner → key = fetch.partner)

theorem set_up_once_start (records : MsgId → Option Dictionary) (currentUser : Option Uid) :
    SetUpOnce records (ChatsPage.viewDidLoad currentUser) [] where
  formats := formats_start records currentUser
  reading := fun _ => rfl
  listeners := rfl
  conversations := fun path member => by cases member
  events := fun event member => by cases member
  fetches := fun fetch member => by cases member
  filed := fun fetch owner currentUser key member => by cases member

theorem raised_attached (listeners : List Uid) (conversations : List (Uid × Uid)) (old new : UserMessages)
    (event : ChildEvent) (member : event ∈ raised listeners conversations old new) :
    event.owner ∈ listeners ∨ ∃ path ∈ conversations, path.1 = event.owner := by
  cases event with
  | partnerAdded owner partner => exact Or.inl ((partner_added_raised _ _ _ _ _ _).mp member).1
  | partnerRemoved owner partner => exact Or.inl ((partner_removed_raised _ _ _ _ _ _).mp member).1
  | messageAdded owner partner id => exact Or.inr ⟨_, ((message_added_raised _ _ _ _ _ _ _).mp member).1, rfl⟩

theorem set_up_once_quiet (records : MsgId → Option Dictionary) (page : ChatsPage) (seen out : List Notice)
    (next : Session) (once : SetUpOnce records page seen) (formats : Formats records next)
    (owner : next.owner = page.session.owner) (listeners : next.listeners = page.session.listeners)
    (conversations : ∀ path ∈ next.conversations, page.session.owner = some path.1)
    (events : ∀ event ∈ next.events, page.session.owner = some event.owner)
    (fetches : ∀ fetch ∈ next.fetches, page.session.owner = some fetch.owner)
    (filed : ∀ fetch user currentUser key, .filed fetch user currentUser key ∈ out →
      page.session.owner = some fetch.owner ∧ user = some fetch.owner ∧ (currentUser = user → key = fetch.partner)) :
    SetUpOnce records { page with session := next } (seen ++ out) where
  formats := formats
  reading := fun waiting => owner.trans (once.reading waiting)
  listeners := by rw [listeners, once.listeners, owner]
  conversations := fun path member => owner.trans (conversations path member)
  events := fun event member => owner.trans (events event member)
  fetches := fun fetch member => owner.trans (fetches fetch member)
  filed := fun fetch user currentUser key member => by
    rw [owner]
    rcases List.mem_append.mp member with old | new
    · exact once.filed fetch user currentUser key old
    · exact filed fetch user currentUser key new

theorem raised_owned (records : MsgId → Option Dictionary) (page : ChatsPage) (seen : List Notice)
    (once : SetUpOnce records page seen) (new : UserMessages) :
    ∀ event ∈ page.session.events ++
        raised page.session.listeners page.session.conversations page.session.userMessages new,
      page.session.owner = some event.owner := by
  intro event member
  rcases List.mem_append.mp member with old | new
  · exact once.events event old
  · rcases raised_attached _ _ _ _ event new with listening | ⟨path, following, same⟩
    · rw [once.listeners, Option.mem_toList] at listening
      exact listening
    · rw [← same]
      exact once.conversations path following

theorem filed_owned (records : MsgId → Option Dictionary) (s next : Session) (fetch : Fetch) (out : List Notice)
    (owned : s.owner = some fetch.owner) (formatted : Formatted records ⟨fetch.owner, fetch.partner, fetch.id⟩)
    (filed : s.file fetch (records fetch.id) = (next, out)) :
    ∀ other user currentUser key, .filed other user currentUser key ∈ out →
      s.owner = some other.owner ∧ user = some other.owner ∧ (currentUser = user → key = other.partner) := by
  obtain ⟨record, key, list, _, formed, named, _, _, rfl⟩ := file_formatted records s next fetch out formatted filed
  intro other user currentUser found member
  cases List.mem_singleton.mp member
  refine ⟨owned, owned, fun same => ?_⟩
  rw [same, owned, well_formed_partner fetch.owner fetch.partner record formed] at named
  exact (Option.some.inj named).symm

theorem set_up_once_own (records : MsgId → Option Dictionary) (page : ChatsPage) (seen out : List Notice)
    (act : SessionAct) (next : Session) (once : SetUpOnce records page seen) (different : act ≠ .setupNavbarWithUser)
    (stepped : page.session.step records act = some (next, out)) :
    SetUpOnce records { page with session := next } (seen ++ out) := by
  have formats := formats_step records page.session act next out once.formats stepped
  obtain ⟨owner, listeners⟩ := own_step_keeps records page.session next act out different stepped
  have quiet := set_up_once_quiet records page seen out next once formats owner listeners
  cases session_step_cases records page.session next act out stepped with
  | setup => exact absurd rfl different
  | signIn uid => exact quiet once.conversations once.events once.fetches (by simp)
  | signOut => exact quiet once.conversations once.events once.fetches (by simp)
  | messageIndexed entry => exact quiet once.conversations (raised_owned records page seen once _) once.fetches (by simp)
  | conversationRemoved owner partner =>
      exact quiet once.conversations (raised_owned records page seen once _) once.fetches (by simp)
  | indexWrite entry => exact quiet once.conversations (raised_owned records page seen once _) once.fetches (by simp)
  | swipeDelete row => exact quiet once.conversations (raised_owned records page seen once _) once.fetches (by simp)
  | unswiped row => exact quiet once.conversations once.events once.fetches (by simp)
  | verdict accepted => exact quiet once.conversations (raised_owned records page seen once _) once.fetches (by simp)
  | deliver k front back event queued =>
      have mine := once.events event (by simp [queued])
      have kept : ∀ other ∈ front ++ back, page.session.owner = some other.owner := fun other member =>
        once.events other (queued ▸ Queue.mem_of_rest front back event other member)
      cases event with
      | partnerAdded user partner =>
          refine quiet (Queue.forall_behind _ _ (user, partner) once.conversations mine) (fun other member => ?_)
            once.fetches (by simp)
          rcases List.mem_append.mp member with old | new
          · exact kept other old
          · obtain ⟨_, _, rfl⟩ := List.mem_map.mp new
            exact mine
      | partnerRemoved user partner => exact quiet once.conversations kept once.fetches (by simp)
      | messageAdded user partner id =>
          refine quiet once.conversations kept (fun fetch member => ?_) (by simp)
          rcases List.mem_append.mp member with old | new
          · exact once.fetches fetch old
          · cases List.mem_singleton.mp new
            exact mine
  | value k fetch waiting =>
      exact quiet once.conversations once.events (Queue.forall_set _ _ k { fetch with stage := .single } once.fetches
        (once.fetches fetch (List.mem_of_getElem? waiting))) (by simp)
  | single k fetch waiting _ _ filed =>
      have member := List.mem_of_getElem? waiting
      have noticed := filed_owned records { page.session with fetches := page.session.fetches.eraseIdx k } next fetch out
        (once.fetches fetch member) (once.formats.fetches fetch member) filed
      cases filed
      exact quiet once.conversations once.events
        (fun other rest => once.fetches other (List.mem_of_mem_eraseIdx rest)) noticed
  | complete k partner accepted _ waiting alerts =>
      refine quiet once.conversations once.events once.fetches (fun fetch user currentUser key member => ?_)
      cases alerts _ member
  | timerFires values list => exact quiet once.conversations once.events once.fetches (by simp)

theorem set_up_once_read (records : MsgId → Option Dictionary) (page : ChatsPage) (seen : List Notice)
    (snapshot : Option Dictionary) (once : SetUpOnce records page seen) (reading : page.reading ≠ none) :
    SetUpOnce records (page.userRead snapshot) (seen ++ []) := by
  rw [List.append_nil]
  unfold ChatsPage.userRead
  split
  · exact ⟨once.formats, fun none => absurd rfl none, once.listeners, once.conversations, once.events, once.fetches,
      once.filed⟩
  · -- Nothing was attached before, so nothing of another user is on the way.
    have nobody := once.reading reading
    have formats := formats_step records page.session .setupNavbarWithUser _ _ once.formats rfl
    have unowned (uid : Uid) : page.session.owner ≠ some uid := by
      rw [nobody]
      exact (Option.some_ne_none uid).symm
    have conversations (path : Uid × Uid) : path ∉ page.session.conversations :=
      fun member => unowned path.1 (once.conversations path member)
    have events (event : ChildEvent) : event ∉ page.session.events :=
      fun member => unowned event.owner (once.events event member)
    have fetches (fetch : Fetch) : fetch ∉ page.session.fetches :=
      fun member => unowned fetch.owner (once.fetches fetch member)
    have filed (fetch : Fetch) (owner currentUser : Option Uid) (key : Uid) :
        .filed fetch owner currentUser key ∉ seen := fun member =>
      unowned fetch.owner (once.filed fetch owner currentUser key member).1
    have alone := once.listeners
    rw [nobody, Option.toList_none] at alone
    revert formats
    unfold Session.setup
    split
    · rename_i signedOut
      exact fun formats => ⟨formats, fun none => absurd rfl none, by simp [alone, signedOut],
        fun path member => (conversations path member).elim, fun event member => (events event member).elim,
        fun fetch member => (fetches fetch member).elim,
        fun fetch owner currentUser key member => (filed fetch owner currentUser key member).elim⟩
    · rename_i uid signedIn
      refine fun formats => ⟨formats, fun none => absurd rfl none, by simp [alone, signedIn],
        fun path member => (conversations path member).elim, fun event member => ?_,
        fun fetch member => (fetches fetch member).elim,
        fun fetch owner currentUser key member => (filed fetch owner currentUser key member).elim⟩
      rcases List.mem_append.mp member with old | new
      · exact absurd old (events event)
      · obtain ⟨_, _, rfl⟩ := List.mem_map.mp new
        exact signedIn

theorem set_up_once_step (records : MsgId → Option Dictionary) (profiles : Uid → Option Dictionary) (s : Navigation)
    (seen : List (Nat × Notice)) (act : NavigationAct) (next : Navigation) (out : List (Nat × Notice))
    (paged : Paged (SetUpOnce records) s.lists seen)
    (stepped : (Navigation.machine records profiles).step s act = some (next, out)) :
    Paged (SetUpOnce records) next.lists (seen ++ out) := by
  have signed (currentUser : Option Uid) :
      Paged (SetUpOnce records) (s.lists.map (ChatsPage.authState currentUser)) seen := by
    refine paged_map _ _ s.lists seen paged (fun page old once => ?_)
    obtain ⟨formats, reading, listeners, conversations, events, fetches, filed⟩ := once
    exact ⟨⟨formats.server, formats.pending, formats.events, formats.fetches⟩, reading, listeners, conversations, events,
      fetches, filed⟩
  cases navigation_step_cases records profiles s next act out stepped with
  | authenticated uid =>
      rw [List.append_nil]
      exact signed (some uid)
  | signing => rwa [List.append_nil]
  | showChats =>
      rw [List.append_nil]
      exact paged_append _ s.lists _ seen paged (set_up_once_start records s.currentUser)
  | handleLogOut thrown currentUser =>
      rw [List.append_nil]
      exact signed currentUser
  | userRead n found session reader titleView here =>
      exact paged_set _ s.lists n _ _ seen [] paged here
        (fun once => set_up_once_read records _ _ _ once (Option.some_ne_none reader))
  | list n act page session notices here own ran =>
      exact paged_set _ s.lists n _ _ seen notices paged here
        (fun once => set_up_once_own records page _ notices act session once (own_not_setup act own) ran)

-- Whoever signs in later, also on a list that is covered: a ChatsList gets one
-- listener at most, what it files was fetched for that listener's user, and the
-- key is wrong only where another user, or none, is signed in by then.
theorem lists_are_set_up_once (records : MsgId → Option Dictionary) (profiles : Uid → Option Dictionary)
    (acts : List NavigationAct) (s : Navigation) (out : List (Nat × Notice))
    (ran : (Navigation.machine records profiles).run Navigation.start acts = some (s, out)) :
    (∀ page ∈ s.lists, page.session.listeners = page.session.owner.toList) ∧
    (∀ n fetch owner currentUser key, (n, .filed fetch owner currentUser key) ∈ out →
      ∃ page, s.lists[n]? = some page ∧ page.session.owner = some fetch.owner ∧ owner = some fetch.owner ∧
        (currentUser = owner → key = fetch.partner)) := by
  have paged := Machine.run_history (Navigation.machine records profiles)
    (fun s seen => Paged (SetUpOnce records) s.lists seen) (set_up_once_step records profiles) acts
    Navigation.start s out ⟨by simp, fun n page here => by cases here⟩ ran
  constructor
  · intro page member
    obtain ⟨n, here⟩ := List.mem_iff_getElem?.mp member
    exact (paged.pages n page here).listeners
  · intro n fetch owner currentUser key member
    have here := List.getElem?_eq_getElem (paged.numbered _ member)
    exact ⟨_, here, (paged.pages n _ here).filed fetch owner currentUser key ((mem_noticed _ _ _).mpr member)⟩

theorem lists_are_set_up_once_in_turn :
    ∃ s out, (Navigation.machine textRecords navigationProfiles).run Navigation.start usersInTurn = some (s, out) ∧
      out = [(0, .filed ⟨"ann", "bob", "-M1", .single⟩ (some "ann") (some "carl") "ann")] ∧
      ∀ page ∈ s.lists, page.session.listeners = page.session.owner.toList :=
  ⟨_, _, rfl, rfl, (lists_are_set_up_once textRecords navigationProfiles usersInTurn _ _ rfl).1⟩

end FirChat
