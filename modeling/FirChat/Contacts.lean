import FirChat.Payload
import FirChat.SignUp

set_option autoImplicit false

namespace FirChat

-- uid is in no label: it says whose row this is where two users have one name.
structure ContactCell where
  uid : Option Uid
  textLabel : Option String
  detailTextLabel : Option String
  picture : Option String
deriving DecidableEq

-- told are the children of users that the listener has got. The table view
-- counts its rows at a reload; dismissals wait, each with the cell that was tapped.
structure Contacts where
  signUps : SignUps
  told : List Uid := []
  users : List User := []
  loaded : Nat := 0
  cells : AList (fun _ : Nat => ContactCell) := ∅
  blocks : Nat := 0
  dismissals : List (Nat × ContactCell) := []
  running : Bool := true

-- The table view may count its rows by itself as well, as when it first appears.
inductive ContactsAct where
  | signUp (act : SignUpAct)
  | childAdded (uid : Uid)
  | layout
  | reloadData
  | cellForRow (row : Nat) (dequeued : ContactCell)
  | didSelectRow (row : Nat)
  | dismissed (k : Nat)

inductive ContactsOut where
  | indexed (row count : Nat)
  | opens (user : User) (tapped : ContactCell)
  | trapped (trap : Trap)
deriving DecidableEq

namespace Contacts

def start : Contacts := { signUps := SignUps.empty }

def load (s : Contacts) : Contacts := { s with loaded := s.users.length, cells := ∅ }

def trap (s : Contacts) : Contacts := { s with running := false }

def looks (s : Contacts) (row : Nat) : ContactsOut := .indexed row s.users.length

def fetched (s : Contacts) (uid : Uid) : Contacts :=
  let told := { s with told := s.told ++ [uid] }
  match fetchUsers uid (s.signUps.users.lookup uid) with
  | none => told
  | some user => { told with users := s.users ++ [user], blocks := s.blocks + 1 }

def cellForRow (s : Contacts) (row : Nat) (dequeued : ContactCell) : Contacts × List ContactsOut :=
  match s.users[row]? with
  | none => (s.trap, [s.looks row, .trapped .indexOutOfRange])
  | some user =>
      let cell : ContactCell := ⟨user.id, user.name, user.email, user.profileImageUrl.or dequeued.picture⟩
      ({ s with cells := s.cells.insert row cell }, [s.looks row])

-- The completion of dismiss looks the row up; messagesVC is set by handleNewMessage.
def dismissed (s : Contacts) (row : Nat) (tapped : ContactCell) : Contacts × List ContactsOut :=
  match s.users[row]? with
  | none => (s.trap, [s.looks row, .trapped .indexOutOfRange])
  | some user => (s, [s.looks row, .opens user tapped])

def act (s : Contacts) : ContactsAct → Option (Contacts × List ContactsOut)
  | .signUp action => (s.signUps.step action).map (fun result => ({ s with signUps := result.1 }, []))
  | .childAdded uid => if uid ∈ s.signUps.users ∧ uid ∉ s.told then some (s.fetched uid, []) else none
  | .layout => some (s.load, [])
  | .reloadData => if s.blocks = 0 then none else some ({ s.load with blocks := s.blocks - 1 }, [])
  | .cellForRow row dequeued => if row < s.loaded then some (s.cellForRow row dequeued) else none
  | .didSelectRow row =>
      (s.cells.lookup row).map (fun tapped => ({ s with dismissals := s.dismissals ++ [(row, tapped)] }, []))
  | .dismissed k =>
      match s.dismissals[k]? with
      | none => none
      | some (row, tapped) => some (({ s with dismissals := s.dismissals.eraseIdx k } : Contacts).dismissed row tapped)

def step (s : Contacts) (action : ContactsAct) : Option (Contacts × List ContactsOut) :=
  if s.running then s.act action else none

def machine : Machine Contacts ContactsAct ContactsOut := ⟨step⟩

end Contacts

def ContactCell.Shows (cell : ContactCell) (user : User) : Prop :=
  cell.uid = user.id ∧ cell.textLabel = user.name ∧ cell.detailTextLabel = user.email ∧
    (user.profileImageUrl ≠ none → cell.picture = user.profileImageUrl)

def ContactsOut.Fine : ContactsOut → Prop
  | .indexed row count => row < count
  | .opens user tapped => tapped.Shows user
  | .trapped _ => False

def userOf (users : AList (fun _ : Uid => Dictionary)) (uid : Uid) : Option User := fetchUsers uid (users.lookup uid)

-- Users are only ever appended, so what was displayed in a row stays there.
structure Listed (s : Contacts) (seen : List ContactsOut) : Prop where
  signing : Signing s.signUps
  told : s.told.Nodup ∧ ∀ uid ∈ s.told, uid ∈ s.signUps.users
  users : s.users = s.told.filterMap (userOf s.signUps.users)
  cells : ∀ row cell, s.cells.lookup row = some cell → ∃ user, s.users[row]? = some user ∧ cell.Shows user
  dismissals : ∀ waiting ∈ s.dismissals, ∃ user, s.users[waiting.1]? = some user ∧ waiting.2.Shows user
  loaded : s.loaded ≤ s.users.length
  blocks : s.blocks = 0 → s.loaded = s.users.length
  fine : ∀ notice ∈ seen, notice.Fine

theorem listed_start : Listed Contacts.start [] where
  signing := signing_empty
  told := by simp [Contacts.start]
  users := rfl
  cells := by simp [Contacts.start]
  dismissals := by simp [Contacts.start]
  loaded := by simp [Contacts.start]
  blocks := fun _ => rfl
  fine := by simp

theorem sign_up_keeps_profile (s next : SignUps) (act : SignUpAct) (out : List SignUpNotice) (signing : Signing s)
    (stepped : SignUps.machine.step s act = some (next, out)) (uid : Uid) (present : uid ∈ s.users) :
    next.users.lookup uid = s.users.lookup uid := by
  cases sign_up_step_cases s next act out stepped with
  | registered k email fresh values front back here =>
      have missing := (signing.attempts ⟨email, .register fresh values⟩ (by simp [here]) fresh rfl).2
      refine AList.lookup_insert_ne (fun same => ?_)
      rw [same] at present
      exact AList.lookup_eq_none.mp missing present
  | _ => rfl

theorem user_of_congr (old new : AList (fun _ : Uid => Dictionary)) (told : List Uid)
    (same : ∀ uid ∈ told, new.lookup uid = old.lookup uid) : told.filterMap (userOf new) = told.filterMap (userOf old) :=
  List.filterMap_congr (fun uid member => by rw [userOf, userOf, same uid member])

theorem shows_loaded (user : User) (dequeued : ContactCell) :
    ContactCell.Shows ⟨user.id, user.name, user.email, user.profileImageUrl.or dequeued.picture⟩ user := by
  refine ⟨rfl, rfl, rfl, fun present => ?_⟩
  obtain ⟨url, given⟩ := Option.ne_none_iff_exists'.mp present
  simp [given]

theorem listed_fetched (s : Contacts) (seen : List ContactsOut) (listed : Listed s seen) (uid : Uid)
    (present : uid ∈ s.signUps.users) (untold : uid ∉ s.told) : Listed (s.fetched uid) seen := by
  obtain ⟨signing, told, users, cells, dismissals, loaded, blocks, fine⟩ := listed
  have distinct : (s.told ++ [uid]).Nodup := List.nodup_append'.mpr ⟨told.1, List.nodup_singleton uid, by simpa using untold⟩
  have there := Queue.forall_behind (fun uid => uid ∈ s.signUps.users) s.told uid told.2 present
  have shown : (s.told ++ [uid]).filterMap (userOf s.signUps.users) =
      s.users ++ (fetchUsers uid (s.signUps.users.lookup uid)).toList := by
    rw [List.filterMap_append, ← users]
    cases fetched : fetchUsers uid (s.signUps.users.lookup uid) <;> simp [userOf, fetched]
  have stays (row : Nat) (user : User) (more : List User) (here : s.users[row]? = some user) :
      (s.users ++ more)[row]? = some user := by
    rw [List.getElem?_append_left (List.getElem?_eq_some_iff.mp here).1, here]
  unfold Contacts.fetched
  cases fetched : fetchUsers uid (s.signUps.users.lookup uid) with
  | none =>
      rw [fetched, Option.toList_none, List.append_nil] at shown
      exact ⟨signing, ⟨distinct, there⟩, shown.symm, cells, dismissals, loaded, blocks, fine⟩
  | some user =>
      rw [fetched, Option.toList_some] at shown
      refine ⟨signing, ⟨distinct, there⟩, shown.symm, fun row cell here => ?_, fun waiting member => ?_, ?_, ?_, fine⟩
      · obtain ⟨other, inside, shows⟩ := cells row cell here
        exact ⟨other, stays row other [user] inside, shows⟩
      · obtain ⟨other, inside, shows⟩ := dismissals waiting member
        exact ⟨other, stays waiting.1 other [user] inside, shows⟩
      · exact Nat.le_trans loaded (by simp)
      · exact fun empty => absurd empty (Nat.succ_ne_zero _)

theorem listed_step (s : Contacts) (seen : List ContactsOut) (act : ContactsAct) (next : Contacts)
    (out : List ContactsOut) (listed : Listed s seen) (stepped : Contacts.machine.step s act = some (next, out)) :
    Listed next (seen ++ out) := by
  change s.step act = some (next, out) at stepped
  unfold Contacts.step at stepped
  split at stepped
  case isFalse => cases stepped
  cases act with
  | signUp action =>
      obtain ⟨⟨signUps, notices⟩, ran, same⟩ := Option.map_eq_some_iff.mp stepped
      cases same
      obtain ⟨signing, told, users, cells, dismissals, loaded, blocks, fine⟩ := listed
      have keeps := sign_up_keeps_profile s.signUps signUps action notices signing ran
      have same : ∀ uid ∈ s.told, signUps.users.lookup uid = s.signUps.users.lookup uid :=
        fun uid member => keeps uid (told.2 uid member)
      refine ⟨signing_step s.signUps signUps action notices signing ran, ⟨told.1, fun uid member => ?_⟩, ?_, cells,
        dismissals, loaded, blocks, by simpa using fine⟩
      · rw [← AList.lookup_isSome, same uid member]
        exact AList.lookup_isSome.mpr (told.2 uid member)
      · exact users.trans (user_of_congr _ _ s.told same).symm
  | childAdded uid =>
      simp only [Contacts.act] at stepped
      split at stepped
      · rename_i news
        cases stepped
        rw [List.append_nil]
        exact listed_fetched s seen listed uid news.1 news.2
      · cases stepped
  | layout =>
      cases stepped
      rw [List.append_nil]
      exact ⟨listed.signing, listed.told, listed.users, by simp [Contacts.load], listed.dismissals, Nat.le_refl _,
        fun _ => rfl, listed.fine⟩
  | reloadData =>
      simp only [Contacts.act] at stepped
      split at stepped
      · cases stepped
      · cases stepped
        rw [List.append_nil]
        exact ⟨listed.signing, listed.told, listed.users, by simp [Contacts.load], listed.dismissals, Nat.le_refl _,
          fun _ => rfl, listed.fine⟩
  | cellForRow row dequeued =>
      simp only [Contacts.act] at stepped
      split at stepped
      · rename_i counted
        have bound := Nat.lt_of_lt_of_le counted listed.loaded
        have here := List.getElem?_eq_getElem bound
        rw [Contacts.cellForRow, here] at stepped
        cases stepped
        obtain ⟨signing, told, users, cells, dismissals, loaded, blocks, fine⟩ := listed
        refine ⟨signing, told, users, fun other cell found => ?_, dismissals, loaded, blocks,
          Queue.forall_behind ContactsOut.Fine seen _ fine bound⟩
        by_cases same : other = row
        · subst other
          rw [AList.lookup_insert] at found
          cases found
          exact ⟨_, here, shows_loaded _ dequeued⟩
        · rw [AList.lookup_insert_ne same] at found
          exact cells other cell found
      · cases stepped
  | didSelectRow row =>
      obtain ⟨tapped, shown, same⟩ := Option.map_eq_some_iff.mp stepped
      cases same
      rw [List.append_nil]
      exact ⟨listed.signing, listed.told, listed.users, listed.cells,
        Queue.forall_behind _ s.dismissals (row, tapped) listed.dismissals (listed.cells row tapped shown), listed.loaded,
        listed.blocks, listed.fine⟩
  | dismissed k =>
      simp only [Contacts.act] at stepped
      split at stepped
      · cases stepped
      · rename_i row tapped waiting
        obtain ⟨user, here, shows⟩ := listed.dismissals (row, tapped) (List.mem_of_getElem? waiting)
        have bound : row < s.users.length := (List.getElem?_eq_some_iff.mp here).1
        simp only [Contacts.dismissed, here] at stepped
        cases stepped
        obtain ⟨signing, told, users, cells, dismissals, loaded, blocks, fine⟩ := listed
        refine ⟨signing, told, users, cells, fun other member => dismissals other (List.mem_of_mem_eraseIdx member), loaded,
          blocks, fun notice member => ?_⟩
        rcases List.mem_append.mp member with old | new
        · exact fine notice old
        · rcases List.mem_cons.mp new with rfl | last
          · exact bound
          · rw [List.mem_singleton.mp last]
            exact shows

theorem listed_run (acts : List ContactsAct) (s : Contacts) (out : List ContactsOut)
    (ran : Contacts.machine.run Contacts.start acts = some (s, out)) : Listed s out :=
  Machine.run_history Contacts.machine Listed listed_step acts Contacts.start s out listed_start ran

-- However the users come in and the reloads are delayed, no lookup is out of
-- range and the chat that opens is with the user whose row was tapped.
theorem contact_opens_as_seen (acts : List ContactsAct) (s : Contacts) (out : List ContactsOut)
    (ran : Contacts.machine.run Contacts.start acts = some (s, out)) : ∀ notice ∈ out, notice.Fine :=
  (listed_run acts s out ran).fine

def tappedWhileLoading : List ContactsAct :=
  signUpTwice.map .signUp ++ [.signUp (.signUpPressed "Bob" "bob@mail" "secret" "secret"),
    .signUp (.createUser 0 (some "bob") true), .signUp (.putData 0 true),
    .signUp (.downloadURL 0 false (some "https://img/2") "Bob"), .signUp (.register 0 true), .childAdded "ann",
    .reloadData, .cellForRow 0 ⟨none, none, none, none⟩, .childAdded "bob", .didSelectRow 0, .reloadData, .dismissed 0]

theorem contact_opens_as_seen_tapped :
    ∃ s out, Contacts.machine.run Contacts.start tappedWhileLoading = some (s, out) ∧
      ∀ user tapped, .opens user tapped ∈ out → tapped.uid = user.id := by
  refine ⟨_, _, rfl, fun user tapped opened => ?_⟩
  exact (contact_opens_as_seen tappedWhileLoading _ _ rfl _ opened).1

theorem profiles_shown (users : AList (fun _ : Uid => Dictionary)) (told : List Uid)
    (profiles : ∀ uid ∈ told, ∃ record, users.lookup uid = some record ∧ Profile uid record) :
    (told.filterMap (userOf users)).map User.id = told.map some := by
  induction told with
  | nil => rfl
  | cons uid rest ih =>
      obtain ⟨record, stored, name, email, imageUrl, _, _, _, read⟩ := profiles uid List.mem_cons_self
      have shown : userOf users uid = some ⟨some uid, some name, some email, some imageUrl⟩ := by
        rw [userOf, stored, read]
      rw [List.filterMap_cons_some shown, List.map_cons, List.map_cons,
        ih (fun other member => profiles other (List.mem_cons_of_mem uid member))]

-- Once the listener has got all the children, everyone who has registered is in
-- the list once, with the profile that the sign-up stored; nobody else is.
theorem contacts_show_registered (acts : List ContactsAct) (s : Contacts) (out : List ContactsOut)
    (ran : Contacts.machine.run Contacts.start acts = some (s, out)) (told : ∀ uid ∈ s.signUps.users, uid ∈ s.told) :
    (s.users.map User.id).Perm (s.signUps.users.keys.map some) ∧
    (∀ uid record, s.signUps.users.lookup uid = some record →
      ∃ name email imageUrl, record.lookup "name" = some (.string name) ∧ record.lookup "email" = some (.string email) ∧
        record.lookup "profileImageUrl" = some (.string imageUrl) ∧
        (⟨some uid, some name, some email, some imageUrl⟩ : User) ∈ s.users) ∧
    (s.blocks = 0 → s.loaded = s.signUps.users.keys.length) := by
  have listed := listed_run acts s out ran
  have profiles : ∀ uid ∈ s.told, ∃ record, s.signUps.users.lookup uid = some record ∧ Profile uid record := by
    intro uid member
    obtain ⟨record, stored⟩ := Option.isSome_iff_exists.mp (AList.lookup_isSome.mpr (listed.told.2 uid member))
    exact ⟨record, stored, listed.signing.profiles uid record stored⟩
  have names : s.users.map User.id = s.told.map some := by rw [listed.users, profiles_shown s.signUps.users s.told profiles]
  have everyone : s.told.Perm s.signUps.users.keys :=
    (List.perm_ext_iff_of_nodup listed.told.1 s.signUps.users.keys_nodup).mpr
      (fun uid => ⟨listed.told.2 uid, told uid⟩)
  refine ⟨names ▸ everyone.map some, fun uid record stored => ?_, fun quiet => ?_⟩
  · obtain ⟨name, email, imageUrl, hasName, hasEmail, hasUrl, read⟩ := listed.signing.profiles uid record stored
    refine ⟨name, email, imageUrl, hasName, hasEmail, hasUrl, ?_⟩
    rw [listed.users]
    exact List.mem_filterMap.mpr ⟨uid, told uid (AList.lookup_isSome.mp (by rw [stored]; rfl)), by rw [userOf, stored, read]⟩
  · have count := congrArg List.length names
    rw [List.length_map, List.length_map] at count
    rw [listed.blocks quiet, count, everyone.length_eq]

theorem contacts_show_registered_tapped :
    ∃ s out, Contacts.machine.run Contacts.start tappedWhileLoading = some (s, out) ∧ s.loaded = 2 ∧
      (s.users.map User.id).Perm [some "bob", some "ann"] := by
  refine ⟨_, _, rfl, rfl, (contacts_show_registered tappedWhileLoading _ _ rfl ?_).1⟩
  decide

end FirChat
