import FirChat.Machine
import FirChat.Message
import FirChat.Queue
import Mathlib.Data.List.Nodup

set_option autoImplicit false

namespace FirChat

inductive SignUpStage where
  | createUser
  | putData (uid : Uid)
  | downloadURL (uid : Uid)
  | register (uid : Uid) (values : Dictionary)

structure Attempt where
  email : String
  stage : SignUpStage

def Attempt.uid (attempt : Attempt) : Option Uid :=
  match attempt.stage with
  | .createUser => none
  | .putData uid => some uid
  | .downloadURL uid => some uid
  | .register uid _ => some uid

structure SignUps where
  accounts : List (String × Uid)
  users : AList (fun _ : Uid => Dictionary)
  attempts : List Attempt

inductive SignUpAct where
  | signUpPressed (name email password cPassword : String)
  | createUser (k : Nat) (uid : Option Uid) (encodes : Bool)
  | putData (k : Nat) (stored : Bool)
  | downloadURL (k : Nat) (error : Bool) (imageUrl : Option String) (name : String)
  | register (k : Nat) (accepted : Bool)

-- ended tells that an attempt is over without a profile, with the account it
-- leaves behind; alerted whether the user is told.
inductive SignUpNotice where
  | refused
  | ended (email : String) (account : Option Uid) (alerted : Bool)
  | registered (uid : Uid)
deriving DecidableEq

def profileValues (name email imageUrl : String) : Dictionary :=
  (((∅ : Dictionary).insert "name" (.string name)).insert "email" (.string email)).insert
    "profileImageUrl" (.string imageUrl)

-- ContactsList.fetchUsers: the whole snapshot is cast to [String : String].
def fetchUsers (key : Uid) (snapshot : Option Dictionary) : Option User :=
  match snapshot with
  | none => none
  | some dictionary =>
      if dictionary.entries.all (fun entry => entry.2.asString.isSome) then
        some ⟨some key, (dictionary.lookup "name").bind Value.asString, (dictionary.lookup "email").bind Value.asString,
          (dictionary.lookup "profileImageUrl").bind Value.asString⟩
      else none

namespace SignUps

def empty : SignUps := ⟨[], ∅, []⟩

def moveTo (s : SignUps) (k : Nat) (attempt : Attempt) (stage : SignUpStage) : SignUps :=
  { s with attempts := s.attempts.set k { attempt with stage := stage } }

def finish (s : SignUps) (k : Nat) : SignUps := { s with attempts := s.attempts.eraseIdx k }

-- createUser succeeds only for an e-mail that has no account. After it, each
-- failure just returns: the account stays.
def step (s : SignUps) : SignUpAct → Option (SignUps × List SignUpNotice)
  | .signUpPressed name email password cPassword =>
      if name ≠ "" ∧ password = cPassword then some ({ s with attempts := s.attempts ++ [⟨email, .createUser⟩] }, [])
      else some (s, [.refused])
  | .createUser k uid encodes =>
      match s.attempts[k]? with
      | some ⟨email, .createUser⟩ =>
          match uid with
          | none => some (s.finish k, [.ended email none true])
          | some uid =>
              if (∀ account ∈ s.accounts, account.1 ≠ email ∧ account.2 ≠ uid) then
                let created := { s with accounts := s.accounts ++ [(email, uid)] }
                if encodes then some (created.moveTo k ⟨email, .createUser⟩ (.putData uid), [])
                else some (created.finish k, [.ended email (some uid) false])
              else none
      | _ => none
  | .putData k stored =>
      match s.attempts[k]? with
      | some ⟨email, .putData uid⟩ =>
          if stored then some (s.moveTo k ⟨email, .putData uid⟩ (.downloadURL uid), [])
          else some (s.finish k, [.ended email (some uid) true])
      | _ => none
  | .downloadURL k error imageUrl name =>
      match s.attempts[k]? with
      | some ⟨email, .downloadURL uid⟩ =>
          match error, imageUrl with
          | true, _ => some (s.finish k, [.ended email (some uid) true])
          | false, none => some (s.finish k, [.ended email (some uid) false])
          | false, some imageUrl =>
              some (s.moveTo k ⟨email, .downloadURL uid⟩ (.register uid (profileValues name email imageUrl)), [])
      | _ => none
  | .register k accepted =>
      match s.attempts[k]? with
      | some ⟨email, .register uid values⟩ =>
          if accepted then
            some ({ s.finish k with users := s.users.insert uid (values ∪ (s.users.lookup uid).getD ∅) }, [.registered uid])
          else some (s.finish k, [.ended email (some uid) true])
      | _ => none

def machine : Machine SignUps SignUpAct SignUpNotice := ⟨step⟩

end SignUps

def SignUpAct.Succeeds : SignUpAct → Prop
  | .signUpPressed _ _ _ _ => True
  | .createUser _ uid encodes => uid ≠ none → encodes = true
  | .putData _ stored => stored = true
  | .downloadURL _ error imageUrl _ => error = false ∧ imageUrl ≠ none
  | .register _ accepted => accepted = true

def Profile (uid : Uid) (record : Dictionary) : Prop :=
  ∃ name email imageUrl, record.lookup "name" = some (.string name) ∧ record.lookup "email" = some (.string email) ∧
    record.lookup "profileImageUrl" = some (.string imageUrl) ∧
    fetchUsers uid (some record) = some ⟨some uid, some name, some email, some imageUrl⟩

def AllRegistered (s : SignUps) (out : List SignUpNotice) : Prop :=
  (∀ account ∈ s.accounts, ∃ record, s.users.lookup account.2 = some record ∧ Profile account.2 record) ∧
  (∀ email uid alerted, .ended email (some uid) alerted ∈ out → (email, uid) ∉ s.accounts)

inductive SignUpEffect (s : SignUps) : SignUpAct → SignUps → List SignUpNotice → Prop where
  | refused (name email password cPassword : String) :
      SignUpEffect s (.signUpPressed name email password cPassword) s [.refused]
  | pressed (name email password cPassword : String) :
      SignUpEffect s (.signUpPressed name email password cPassword)
        { s with attempts := s.attempts ++ [⟨email, .createUser⟩] } []
  | failed (k : Nat) (encodes : Bool) (email : String) (front back : List Attempt)
      (here : s.attempts = front ++ ⟨email, .createUser⟩ :: back) :
      SignUpEffect s (.createUser k none encodes) { s with attempts := front ++ back } [.ended email none true]
  | created (k : Nat) (email : String) (uid : Uid) (front back : List Attempt)
      (here : s.attempts = front ++ ⟨email, .createUser⟩ :: back) (fresh : ∀ account ∈ s.accounts, account.2 ≠ uid) :
      SignUpEffect s (.createUser k (some uid) true)
        ⟨s.accounts ++ [(email, uid)], s.users, front ++ ⟨email, .putData uid⟩ :: back⟩ []
  | unencoded (k : Nat) (email : String) (uid : Uid) (front back : List Attempt)
      (here : s.attempts = front ++ ⟨email, .createUser⟩ :: back) (fresh : ∀ account ∈ s.accounts, account.2 ≠ uid) :
      SignUpEffect s (.createUser k (some uid) false)
        ⟨s.accounts ++ [(email, uid)], s.users, front ++ back⟩ [.ended email (some uid) false]
  | moved (act : SignUpAct) (attempt next : Attempt) (uid : Uid) (front back : List Attempt)
      (here : s.attempts = front ++ attempt :: back) (succeeds : act.Succeeds) (before : attempt.uid = some uid)
      (after : next.uid = some uid) (email : next.email = attempt.email)
      (values : ∀ uid values, next.stage = .register uid values →
        ∃ name email imageUrl, values = profileValues name email imageUrl) :
      SignUpEffect s act { s with attempts := front ++ next :: back } []
  | lost (act : SignUpAct) (attempt : Attempt) (uid : Uid) (alerted : Bool) (front back : List Attempt)
      (here : s.attempts = front ++ attempt :: back) (fails : ¬ act.Succeeds) (named : attempt.uid = some uid) :
      SignUpEffect s act { s with attempts := front ++ back } [.ended attempt.email (some uid) alerted]
  | registered (k : Nat) (email : String) (uid : Uid) (values : Dictionary) (front back : List Attempt)
      (here : s.attempts = front ++ ⟨email, .register uid values⟩ :: back) :
      SignUpEffect s (.register k true)
        ⟨s.accounts, s.users.insert uid (values ∪ (s.users.lookup uid).getD ∅), front ++ back⟩ [.registered uid]

theorem sign_up_step_cases (s next : SignUps) (act : SignUpAct) (out : List SignUpNotice)
    (stepped : s.step act = some (next, out)) : SignUpEffect s act next out := by
  cases act with
  | signUpPressed name email password cPassword =>
      simp only [SignUps.step] at stepped
      split at stepped
      · cases stepped; exact .pressed name email password cPassword
      · cases stepped; exact .refused name email password cPassword
  | createUser k uid encodes =>
      simp only [SignUps.step] at stepped
      split at stepped
      · rename_i email waiting
        obtain ⟨front, back, here, erased, set⟩ := Queue.split_at s.attempts k _ waiting
        cases uid with
        | none =>
            cases stepped
            rw [SignUps.finish, erased]
            exact .failed k encodes email front back here
        | some uid =>
            dsimp only at stepped
            split at stepped
            · rename_i unused
              have fresh : ∀ account ∈ s.accounts, account.2 ≠ uid := fun account member => (unused account member).2
              cases encodes with
              | true =>
                  cases stepped
                  rw [SignUps.moveTo, set]
                  exact .created k email uid front back here fresh
              | false =>
                  cases stepped
                  rw [SignUps.finish, erased]
                  exact .unencoded k email uid front back here fresh
            · cases stepped
      · cases stepped
  | putData k stored =>
      simp only [SignUps.step] at stepped
      split at stepped
      · rename_i email uid waiting
        obtain ⟨front, back, here, erased, set⟩ := Queue.split_at s.attempts k _ waiting
        cases stored with
        | true =>
            cases stepped
            rw [SignUps.moveTo, set]
            exact .moved _ _ _ uid front back here rfl rfl rfl rfl (fun _ _ registering => by cases registering)
        | false =>
            cases stepped
            rw [SignUps.finish, erased]
            exact .lost _ _ uid true front back here (by simp [SignUpAct.Succeeds]) rfl
      · cases stepped
  | downloadURL k error imageUrl name =>
      simp only [SignUps.step] at stepped
      split at stepped
      · rename_i email uid waiting
        obtain ⟨front, back, here, erased, set⟩ := Queue.split_at s.attempts k _ waiting
        split at stepped
        · cases stepped
          rw [SignUps.finish, erased]
          exact .lost _ _ uid true front back here (by simp [SignUpAct.Succeeds]) rfl
        · cases stepped
          rw [SignUps.finish, erased]
          exact .lost _ _ uid false front back here (by simp [SignUpAct.Succeeds]) rfl
        · rename_i url
          cases stepped
          rw [SignUps.moveTo, set]
          refine .moved _ _ _ uid front back here (by simp [SignUpAct.Succeeds]) rfl rfl rfl (fun _ _ registering => ?_)
          cases registering
          exact ⟨name, email, url, rfl⟩
      · cases stepped
  | register k accepted =>
      simp only [SignUps.step] at stepped
      split at stepped
      · rename_i email uid values waiting
        obtain ⟨front, back, here, erased, set⟩ := Queue.split_at s.attempts k _ waiting
        cases accepted with
        | true =>
            cases stepped
            rw [SignUps.finish, erased]
            exact .registered k email uid values front back here
        | false =>
            cases stepped
            rw [SignUps.finish, erased]
            exact .lost _ _ uid true front back here (by simp [SignUpAct.Succeeds]) rfl
      · cases stepped

structure Signing (s : SignUps) : Prop where
  attempts : ∀ attempt ∈ s.attempts, ∀ uid, attempt.uid = some uid →
    (attempt.email, uid) ∈ s.accounts ∧ s.users.lookup uid = none
  distinct : (s.attempts.filterMap Attempt.uid).Nodup
  values : ∀ attempt ∈ s.attempts, ∀ uid values, attempt.stage = .register uid values →
    ∃ name email imageUrl, values = profileValues name email imageUrl
  known : ∀ uid record, s.users.lookup uid = some record → ∃ email, (email, uid) ∈ s.accounts
  profiles : ∀ uid record, s.users.lookup uid = some record → Profile uid record

theorem profile_values (uid : Uid) (name email imageUrl : String) : Profile uid (profileValues name email imageUrl) :=
  ⟨name, email, imageUrl, rfl, rfl, rfl, rfl⟩

theorem signing_empty : Signing SignUps.empty where
  attempts := by simp [SignUps.empty]
  distinct := by simp [SignUps.empty]
  values := by simp [SignUps.empty]
  known := by simp [SignUps.empty]
  profiles := by simp [SignUps.empty]

theorem signing_over (s : SignUps) (signing : Signing s) (front back : List Attempt) (attempt : Attempt)
    (here : s.attempts = front ++ attempt :: back) : Signing { s with attempts := front ++ back } := by
  have kept (other : Attempt) (member : other ∈ front ++ back) : other ∈ s.attempts :=
    here ▸ Queue.mem_of_rest front back attempt other member
  refine ⟨fun other member => signing.attempts other (kept other member), ?_,
    fun other member => signing.values other (kept other member), signing.known, signing.profiles⟩
  have sub : (front ++ back).Sublist s.attempts := here ▸ (List.sublist_cons_self attempt back).append_left front
  exact (sub.filterMap Attempt.uid).nodup signing.distinct

theorem signing_moved (s : SignUps) (signing : Signing s) (front back : List Attempt) (attempt next : Attempt) (uid : Uid)
    (here : s.attempts = front ++ attempt :: back) (before : attempt.uid = some uid) (after : next.uid = some uid)
    (email : next.email = attempt.email) (values : ∀ uid values, next.stage = .register uid values →
      ∃ name email imageUrl, values = profileValues name email imageUrl) :
    Signing { s with attempts := front ++ next :: back } := by
  have others (other : Attempt) (member : other ∈ front ++ next :: back) : other = next ∨ other ∈ s.attempts :=
    (Queue.mem_cases front back next other member).imp_right
      (fun old => here ▸ Queue.mem_of_rest front back attempt other old)
  constructor
  · intro other member found named
    rcases others other member with rfl | old
    · rw [email]
      exact signing.attempts attempt (by simp [here]) found (before.trans (after.symm.trans named))
    · exact signing.attempts other old found named
  · have same : (front ++ next :: back).filterMap Attempt.uid = s.attempts.filterMap Attempt.uid := by
      rw [here, List.filterMap_append, List.filterMap_append, List.filterMap_cons_some after,
        List.filterMap_cons_some before]
    exact same ▸ signing.distinct
  · intro other member found record registering
    rcases others other member with rfl | old
    · exact values found record registering
    · exact signing.values other old found record registering
  · exact signing.known
  · exact signing.profiles

theorem signing_alone (s : SignUps) (signing : Signing s) (front back : List Attempt) (attempt : Attempt) (uid : Uid)
    (here : s.attempts = front ++ attempt :: back) (named : attempt.uid = some uid) :
    ∀ other ∈ front ++ back, other.uid ≠ some uid := by
  intro other inside same
  have nodup := signing.distinct
  rw [here, List.filterMap_append, List.filterMap_cons_some named, List.nodup_middle, List.nodup_cons,
    ← List.filterMap_append] at nodup
  exact nodup.1 (List.mem_filterMap.mpr ⟨other, inside, same⟩)

theorem signing_step (s next : SignUps) (act : SignUpAct) (out : List SignUpNotice) (signing : Signing s)
    (stepped : SignUps.machine.step s act = some (next, out)) : Signing next := by
  have grown (email : String) (uid : Uid) (front back : List Attempt)
      (here : s.attempts = front ++ ⟨email, .createUser⟩ :: back) :
      Signing ⟨s.accounts ++ [(email, uid)], s.users, front ++ back⟩ := by
    obtain ⟨attempts, distinct, values, known, profiles⟩ := signing_over s signing front back _ here
    refine ⟨fun other member found named => ?_, distinct, values, fun found record stored => ?_, profiles⟩
    · obtain ⟨account, fresh⟩ := attempts other member found named
      exact ⟨List.mem_append_left _ account, fresh⟩
    · exact (known found record stored).imp fun _ account => List.mem_append_left _ account
  cases sign_up_step_cases s next act out stepped with
  | refused => exact signing
  | pressed name email password cPassword =>
      refine ⟨Queue.forall_behind _ s.attempts _ signing.attempts (fun uid named => ?_), ?_,
        Queue.forall_behind _ s.attempts _ signing.values (fun uid values registering => ?_), signing.known,
        signing.profiles⟩
      · cases named
      · rw [List.filterMap_append]
        exact (List.append_nil _).symm ▸ signing.distinct
      · cases registering
  | failed k encodes email front back here => exact signing_over s signing front back _ here
  | unencoded k email uid front back here => exact grown email uid front back here
  | created k email uid front back here fresh =>
      obtain ⟨attempts, distinct, values, known, profiles⟩ := grown email uid front back here
      have unused (other : Attempt) (member : other ∈ front ++ back) : other.uid ≠ some uid := fun named => by
        obtain ⟨account, _⟩ := (signing_over s signing front back _ here).attempts other member uid named
        exact fresh _ account rfl
      have others := Queue.mem_cases front back ⟨email, .putData uid⟩
      refine ⟨fun other member found named => ?_, ?_, fun other member found record registering => ?_, known, profiles⟩
      · rcases others other member with rfl | old
        · cases named
          refine ⟨by simp, ?_⟩
          cases stored : s.users.lookup uid with
          | none => rfl
          | some record => exact (signing.known uid record stored).elim fun _ account => absurd rfl (fresh _ account)
        · exact attempts other old found named
      · have added : (⟨email, .putData uid⟩ : Attempt).uid = some uid := rfl
        rw [List.filterMap_append, List.filterMap_cons_some added, List.nodup_middle, List.nodup_cons,
          ← List.filterMap_append]
        refine ⟨fun member => ?_, distinct⟩
        obtain ⟨other, inside, named⟩ := List.mem_filterMap.mp member
        exact unused other inside named
      · rcases others other member with rfl | old
        · cases registering
        · exact values other old found record registering
  | moved _ attempt moved uid front back here _ before after email values =>
      exact signing_moved s signing front back attempt moved uid here before after email values
  | lost _ attempt uid alerted front back here => exact signing_over s signing front back attempt here
  | registered k email uid values front back here =>
      obtain ⟨attempts, distinct, kept, known, profiles⟩ := signing_over s signing front back _ here
      have member : (⟨email, .register uid values⟩ : Attempt) ∈ s.attempts := by simp [here]
      obtain ⟨account, fresh⟩ := signing.attempts _ member uid rfl
      obtain ⟨name, address, imageUrl, rfl⟩ := signing.values _ member uid values rfl
      have unused := signing_alone s signing front back _ uid here rfl
      rw [fresh, Option.getD_none, AList.union_empty]
      refine ⟨fun other inside found named => ?_, distinct, kept, fun found record stored => ?_,
        fun found record stored => ?_⟩
      · obtain ⟨owned, missing⟩ := attempts other inside found named
        have different : found ≠ uid := fun same => unused other inside (same ▸ named)
        exact ⟨owned, by rw [AList.lookup_insert_ne different]; exact missing⟩
      · by_cases same : found = uid
        · exact ⟨email, same ▸ account⟩
        · rw [AList.lookup_insert_ne same] at stored
          exact known found record stored
      · by_cases same : found = uid
        · subst found
          rw [AList.lookup_insert] at stored
          cases stored
          exact profile_values uid name address imageUrl
        · rw [AList.lookup_insert_ne same] at stored
          exact profiles found record stored

structure Complete (s : SignUps) (seen : List SignUpNotice) : Prop where
  accounts : ∀ account ∈ s.accounts,
    (∃ attempt ∈ s.attempts, attempt.uid = some account.2) ∨ ∃ record, s.users.lookup account.2 = some record
  ended : ∀ email uid alerted, .ended email (some uid) alerted ∉ seen

theorem complete_step (s : SignUps) (seen : List SignUpNotice) (act : SignUpAct) (next : SignUps)
    (out : List SignUpNotice) (complete : Complete s seen) (succeeds : act.Succeeds)
    (stepped : SignUps.machine.step s act = some (next, out)) : Complete next (seen ++ out) := by
  obtain ⟨accounts, ended⟩ := complete
  have others (front back : List Attempt) (attempt : Attempt) (here : s.attempts = front ++ attempt :: back)
      (uid : Uid) (different : attempt.uid ≠ some uid) (found : ∃ other ∈ s.attempts, other.uid = some uid) :
      ∃ other ∈ front ++ back, other.uid = some uid := by
    obtain ⟨other, member, named⟩ := found
    rcases Queue.mem_cases front back attempt other (here ▸ member) with rfl | inside
    · exact absurd named different
    · exact ⟨other, inside, named⟩
  cases sign_up_step_cases s next act out stepped with
  | refused => exact ⟨accounts, by simpa using ended⟩
  | pressed name email password cPassword =>
      refine ⟨fun account member => ?_, by simpa using ended⟩
      exact (accounts account member).imp_left fun ⟨attempt, inside, named⟩ =>
        ⟨attempt, List.mem_append_left _ inside, named⟩
  | failed k encodes email front back here =>
      refine ⟨fun account member => ?_, by simpa using ended⟩
      exact (accounts account member).imp_left (others front back _ here account.2 (by simp [Attempt.uid]))
  | unencoded => exact absurd (succeeds (by simp)) (by simp)
  | created k email uid front back here =>
      refine ⟨fun account member => ?_, by simpa using ended⟩
      rcases List.mem_append.mp member with old | new
      · refine (accounts account old).imp_left fun found => ?_
        obtain ⟨other, inside, named⟩ := others front back _ here account.2 (by simp [Attempt.uid]) found
        exact ⟨other, Queue.mem_of_rest front back _ other inside, named⟩
      · cases List.mem_singleton.mp new
        exact Or.inl ⟨⟨email, .putData uid⟩, by simp, rfl⟩
  | moved _ attempt moved uid front back here _ before after =>
      refine ⟨fun account member => ?_, by simpa using ended⟩
      refine (accounts account member).imp_left fun found => ?_
      by_cases same : account.2 = uid
      · exact ⟨moved, by simp, by rw [after, same]⟩
      · obtain ⟨other, inside, named⟩ := others front back attempt here account.2
          (by rw [before]; simpa using Ne.symm same) found
        exact ⟨other, Queue.mem_of_rest front back _ other inside, named⟩
  | lost _ _ _ _ _ _ _ fails => exact absurd succeeds fails
  | registered k email uid values front back here =>
      refine ⟨fun account member => ?_, by simpa using ended⟩
      by_cases same : account.2 = uid
      · exact Or.inr ⟨_, by rw [same, AList.lookup_insert]⟩
      · refine (accounts account member).imp (others front back _ here account.2 (by simpa [Attempt.uid] using Ne.symm same))
          (fun stored => ?_)
        rwa [AList.lookup_insert_ne same]

def Abandoned (s : SignUps) : Prop :=
  ∃ account ∈ s.accounts, s.users.lookup account.2 = none ∧ ∀ attempt ∈ s.attempts, attempt.uid ≠ some account.2

theorem abandoned_marks (s next : SignUps) (act : SignUpAct) (out : List SignUpNotice) (signing : Signing s)
    (fails : ¬ act.Succeeds) (stepped : SignUps.machine.step s act = some (next, out)) : Abandoned next := by
  cases sign_up_step_cases s next act out stepped with
  | refused => exact absurd trivial fails
  | pressed => exact absurd trivial fails
  | failed => exact absurd (fun named => absurd rfl named) fails
  | created => exact absurd (fun _ => rfl) fails
  | registered => exact absurd rfl fails
  | moved _ _ _ _ _ _ _ succeeds => exact absurd succeeds fails
  | unencoded k email uid front back here fresh =>
      refine ⟨(email, uid), by simp, ?_, fun attempt member named => ?_⟩
      · cases stored : s.users.lookup uid with
        | none => rfl
        | some record => exact (signing.known uid record stored).elim fun _ account => absurd rfl (fresh _ account)
      · obtain ⟨account, _⟩ := (signing_over s signing front back _ here).attempts attempt member uid named
        exact fresh _ account rfl
  | lost _ attempt uid alerted front back here _ named =>
      obtain ⟨account, missing⟩ := signing.attempts attempt (by simp [here]) uid named
      exact ⟨(attempt.email, uid), account, missing, signing_alone s signing front back attempt uid here named⟩

theorem abandoned_persists (s next : SignUps) (act : SignUpAct) (out : List SignUpNotice) (abandoned : Abandoned s)
    (stepped : SignUps.machine.step s act = some (next, out)) : Abandoned next := by
  obtain ⟨account, member, missing, unattended⟩ := abandoned
  have left (front back : List Attempt) (attempt : Attempt) (here : s.attempts = front ++ attempt :: back) :
      ∀ other ∈ front ++ back, other.uid ≠ some account.2 := fun other inside =>
    unattended other (here ▸ Queue.mem_of_rest front back attempt other inside)
  have replaced (front back : List Attempt) (attempt other : Attempt) (here : s.attempts = front ++ attempt :: back)
      (different : other.uid ≠ some account.2) : ∀ found ∈ front ++ other :: back, found.uid ≠ some account.2 := by
    intro found inside
    rcases Queue.mem_cases front back other found inside with rfl | old
    · exact different
    · exact left front back attempt here found old
  cases sign_up_step_cases s next act out stepped with
  | refused => exact ⟨account, member, missing, unattended⟩
  | pressed name email password cPassword =>
      refine ⟨account, member, missing, fun attempt inside => ?_⟩
      rcases List.mem_append.mp inside with old | new
      · exact unattended attempt old
      · cases List.mem_singleton.mp new
        simp [Attempt.uid]
  | failed k encodes email front back here => exact ⟨account, member, missing, left front back _ here⟩
  | unencoded k email uid front back here =>
      exact ⟨account, List.mem_append_left _ member, missing, left front back _ here⟩
  | created k email uid front back here fresh =>
      refine ⟨account, List.mem_append_left _ member, missing, replaced front back _ _ here ?_⟩
      simpa [Attempt.uid] using Ne.symm (fresh account member)
  | moved _ attempt moved uid front back here _ before after =>
      refine ⟨account, member, missing, replaced front back attempt moved here ?_⟩
      rw [after, ← before]
      exact unattended attempt (by simp [here])
  | lost _ attempt uid alerted front back here => exact ⟨account, member, missing, left front back attempt here⟩
  | registered k email uid values front back here =>
      have different : account.2 ≠ uid := fun same =>
        unattended ⟨email, .register uid values⟩ (by simp [here]) (by rw [same]; rfl)
      exact ⟨account, member, by rw [AList.lookup_insert_ne different]; exact missing, left front back _ here⟩

theorem all_registered_iff (actions : List SignUpAct) (s : SignUps) (out : List SignUpNotice)
    (ran : SignUps.machine.run SignUps.empty actions = some (s, out)) (quiet : s.attempts = []) :
    AllRegistered s out ↔ ∀ act ∈ actions, act.Succeeds := by
  constructor
  · intro registered
    refine Machine.forall_of_along SignUps.machine SignUpAct.Succeeds actions SignUps.empty s out ran ?_
    refine Machine.along_of_unmarked SignUps.machine (fun s _ => Signing s) (fun s _ => Abandoned s) _
      (fun s _ act next later signing => signing_step s next act later signing)
      (fun s _ act next later signing => abandoned_marks s next act later signing)
      (fun s _ act next later _ => abandoned_persists s next act later) actions SignUps.empty s [] out signing_empty ran ?_
    intro given
    obtain ⟨account, member, missing, _⟩ := given
    obtain ⟨record, stored, _⟩ := registered.1 account member
    rw [missing] at stored
    cases stored
  · intro succeeds
    obtain ⟨signing, complete⟩ := Machine.history_forall SignUps.machine
      (fun s seen => Signing s ∧ Complete s seen) SignUpAct.Succeeds
      (fun s seen act next later holds smooth stepped => ⟨signing_step s next act later holds.1 stepped,
        complete_step s seen act next later holds.2 smooth stepped⟩)
      actions SignUps.empty s out ⟨signing_empty, by simp [SignUps.empty], by simp⟩ succeeds ran
    refine ⟨fun account member => ?_, fun email uid alerted ended => absurd ended (complete.ended email uid alerted)⟩
    rcases complete.accounts account member with ⟨attempt, working, _⟩ | ⟨record, stored⟩
    · rw [quiet] at working
      cases working
    · exact ⟨record, stored, signing.profiles account.2 record stored⟩

def signUpTwice : List SignUpAct :=
  [.signUpPressed "Ann" "ann@mail" "secret" "secret", .createUser 0 none true,
    .signUpPressed "Ann" "ann@mail" "secret" "secret", .createUser 0 (some "ann") true, .putData 0 true,
    .downloadURL 0 false (some "https://img/1") "Ann", .register 0 true]

theorem all_registered_twice :
    ∃ s out, SignUps.machine.run SignUps.empty signUpTwice = some (s, out) ∧ s.accounts = [("ann@mail", "ann")] ∧
      AllRegistered s out := by
  refine ⟨_, _, rfl, rfl, (all_registered_iff signUpTwice _ _ rfl rfl).mpr ?_⟩
  simp [signUpTwice, SignUpAct.Succeeds]

def signUpAbandoned : List SignUpAct :=
  [.signUpPressed "Ann" "ann@mail" "secret" "secret", .createUser 0 (some "ann") true, .putData 0 false,
    .signUpPressed "Ann" "ann@mail" "secret" "secret", .createUser 0 none true]

theorem account_without_profile :
    ∃ s out, SignUps.machine.run SignUps.empty signUpAbandoned = some (s, out) ∧ s.attempts = [] ∧
      s.accounts = [("ann@mail", "ann")] ∧ s.users.lookup "ann" = none ∧ ¬ AllRegistered s out := by
  refine ⟨_, _, rfl, rfl, rfl, rfl, fun registered => ?_⟩
  exact registered.2 "ann@mail" "ann" true (by decide) (by decide)

end FirChat
