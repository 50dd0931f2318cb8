import FirChat.SignUp
import Mathlib.Data.List.InsertIdx

set_option autoImplicit false

namespace FirChat

structure SignUpForm (Image : Type) where
  name : String
  email : String
  password : String
  cPassword : String
  picture : Image
deriving DecidableEq

-- pressed and uploaded are ghosts: the screen when signUpPressed passed its
-- guards, and the picture whose data was uploaded.
structure FormAttempt (Image : Type) where
  attempt : Attempt
  pressed : SignUpForm Image
  uploaded : Option Image

structure SignUpScreen (Image : Type) where
  form : SignUpForm Image
  accounts : List (String × Uid) := []
  users : AList (fun _ : Uid => Dictionary) := ∅
  attempts : List (FormAttempt Image) := []

inductive SignUpScreenAct (Image : Type) where
  | edit (form : SignUpForm Image)
  | signUpPressed
  | createUser (k : Nat) (uid : Option Uid)
  | putData (k : Nat) (stored : Bool)
  | downloadURL (k : Nat) (error : Bool) (imageUrl : Option String)
  | register (k : Nat) (accepted : Bool)

structure ProfileWrite (Image : Type) where
  uid : Uid
  values : Dictionary
  uploaded : Option Image
  pressed : SignUpForm Image

namespace SignUpScreen

variable {Image : Type}

def start (form : SignUpForm Image) : SignUpScreen Image := { form := form }

def set (s : SignUpScreen Image) (k : Nat) (found : FormAttempt Image) : SignUpScreen Image :=
  { s with attempts := s.attempts.set k found }

def finish (s : SignUpScreen Image) (k : Nat) : SignUpScreen Image := { s with attempts := s.attempts.eraseIdx k }

-- The e-mail is captured by the press, the picture is read when the account has
-- been created and the name when the picture's URL has come.
def step (encodes : Image → Bool) (s : SignUpScreen Image) :
    SignUpScreenAct Image → Option (SignUpScreen Image × List (ProfileWrite Image))
  | .edit form => some ({ s with form := form }, [])
  | .signUpPressed =>
      if s.form.name ≠ "" ∧ s.form.password = s.form.cPassword then
        some ({ s with attempts := s.attempts ++ [⟨⟨s.form.email, .createUser⟩, s.form, none⟩] }, [])
      else some (s, [])
  | .createUser k uid =>
      match s.attempts[k]? with
      | some ⟨⟨email, .createUser⟩, pressed, _⟩ =>
          match uid with
          | none => some (s.finish k, [])
          | some uid =>
              if (∀ account ∈ s.accounts, account.1 ≠ email ∧ account.2 ≠ uid) then
                let created := { s with accounts := s.accounts ++ [(email, uid)] }
                if encodes s.form.picture then
                  some (created.set k ⟨⟨email, .putData uid⟩, pressed, some s.form.picture⟩, [])
                else some (created.finish k, [])
              else none
      | _ => none
  | .putData k stored =>
      match s.attempts[k]? with
      | some ⟨⟨email, .putData uid⟩, pressed, uploaded⟩ =>
          if stored then some (s.set k ⟨⟨email, .downloadURL uid⟩, pressed, uploaded⟩, []) else some (s.finish k, [])
      | _ => none
  | .downloadURL k error imageUrl =>
      match s.attempts[k]? with
      | some ⟨⟨email, .downloadURL uid⟩, pressed, uploaded⟩ =>
          match error, imageUrl with
          | true, _ => some (s.finish k, [])
          | false, none => some (s.finish k, [])
          | false, some imageUrl =>
              let values := profileValues s.form.name email imageUrl
              some (s.set k ⟨⟨email, .register uid values⟩, pressed, uploaded⟩, [⟨uid, values, uploaded, pressed⟩])
      | _ => none
  | .register k accepted =>
      match s.attempts[k]? with
      | some ⟨⟨_, .register uid values⟩, _, _⟩ =>
          if accepted then
            some ({ s.finish k with users := s.users.insert uid (values ∪ (s.users.lookup uid).getD ∅) }, [])
          else some (s.finish k, [])
      | _ => none

def machine (encodes : Image → Bool) : Machine (SignUpScreen Image) (SignUpScreenAct Image) (ProfileWrite Image) :=
  ⟨step encodes⟩

def signUps (s : SignUpScreen Image) : SignUps := ⟨s.accounts, s.users, s.attempts.map FormAttempt.attempt⟩

def reads (encodes : Image → Bool) (form : SignUpForm Image) : SignUpScreenAct Image → Option SignUpAct
  | .edit _ => none
  | .signUpPressed => some (.signUpPressed form.name form.email form.password form.cPassword)
  | .createUser k uid => some (.createUser k uid (encodes form.picture))
  | .putData k stored => some (.putData k stored)
  | .downloadURL k error imageUrl => some (.downloadURL k error imageUrl form.name)
  | .register k accepted => some (.register k accepted)

end SignUpScreen

namespace SignUpScreen

variable {Image : Type}

@[simp] theorem signUps_finish (s : SignUpScreen Image) (k : Nat) : (s.finish k).signUps = s.signUps.finish k := by
  simp [signUps, finish, SignUps.finish, List.eraseIdx_map]

@[simp] theorem signUps_set (s : SignUpScreen Image) (k : Nat) (found : FormAttempt Image) :
    (s.set k found).signUps = { s.signUps with attempts := s.signUps.attempts.set k found.attempt } := by
  simp [signUps, set, List.map_set]

end SignUpScreen

inductive ScreenEffect {Image : Type} (encodes : Image → Bool) (s : SignUpScreen Image) :
    SignUpScreenAct Image → SignUpScreen Image → List (ProfileWrite Image) → Prop where
  | edit (form : SignUpForm Image) : ScreenEffect encodes s (.edit form) { s with form := form } []
  | refused : ScreenEffect encodes s .signUpPressed s []
  | pressed (named : s.form.name ≠ "") :
      ScreenEffect encodes s .signUpPressed
        { s with attempts := s.attempts ++ [⟨⟨s.form.email, .createUser⟩, s.form, none⟩] } []
  | ended (act : SignUpScreenAct Image) (k : Nat) (accounts : List (String × Uid)) (sub : s.accounts ⊆ accounts)
      (other : ∀ k imageUrl, act ≠ .downloadURL k false (some imageUrl)) :
      ScreenEffect encodes s act { s.finish k with accounts := accounts } []
  | moved (act : SignUpScreenAct Image) (k : Nat) (found next : FormAttempt Image) (accounts : List (String × Uid))
      (sub : s.accounts ⊆ accounts) (here : s.attempts[k]? = some found) (pressed : next.pressed = found.pressed)
      (email : next.attempt.email = found.attempt.email) (early : ∀ uid values, next.attempt.stage ≠ .register uid values)
      (other : ∀ k imageUrl, act ≠ .downloadURL k false (some imageUrl)) :
      ScreenEffect encodes s act { s.set k next with accounts := accounts } []
  | issued (k : Nat) (imageUrl : String) (found : FormAttempt Image) (uid : Uid) (here : s.attempts[k]? = some found)
      (stage : found.attempt.stage = .downloadURL uid) :
      ScreenEffect encodes s (.downloadURL k false (some imageUrl))
        (s.set k { found with
          attempt := ⟨found.attempt.email, .register uid (profileValues s.form.name found.attempt.email imageUrl)⟩ })
        [⟨uid, profileValues s.form.name found.attempt.email imageUrl, found.uploaded, found.pressed⟩]
  | registered (k : Nat) (found : FormAttempt Image) (uid : Uid) (values : Dictionary) (here : s.attempts[k]? = some found)
      (stage : found.attempt.stage = .register uid values) :
      ScreenEffect encodes s (.register k true)
        { s.finish k with users := s.users.insert uid (values ∪ (s.users.lookup uid).getD ∅) } []

theorem screen_step_cases {Image : Type} (encodes : Image → Bool) (s next : SignUpScreen Image)
    (act : SignUpScreenAct Image) (out : List (ProfileWrite Image))
    (stepped : (SignUpScreen.machine encodes).step s act = some (next, out)) : ScreenEffect encodes s act next out := by
  change s.step encodes act = some (next, out) at stepped
  cases act with
  | edit form => cases stepped; exact .edit form
  | signUpPressed =>
      simp only [SignUpScreen.step] at stepped
      split at stepped
      · rename_i passed
        cases stepped
        exact .pressed passed.1
      · cases stepped
        exact .refused
  | createUser k uid =>
      simp only [SignUpScreen.step] at stepped
      split at stepped
      · rename_i email pressed uploaded waiting
        cases uid with
        | none =>
            cases stepped
            exact .ended _ k s.accounts (List.Subset.refl _) (by simp)
        | some uid =>
            have grown : s.accounts ⊆ s.accounts ++ [(email, uid)] := List.subset_append_left _ _
            dsimp only at stepped
            split at stepped
            · split at stepped
              · cases stepped
                exact .moved _ k _ ⟨⟨email, .putData uid⟩, pressed, some s.form.picture⟩ _ grown waiting rfl rfl
                  (by simp) (by simp)
              · cases stepped
                exact .ended _ k _ grown (by simp)
            · cases stepped
      · cases stepped
  | putData k stored =>
      simp only [SignUpScreen.step] at stepped
      split at stepped
      · rename_i email uid pressed uploaded waiting
        split at stepped
        · cases stepped
          exact .moved _ k _ ⟨⟨email, .downloadURL uid⟩, pressed, uploaded⟩ s.accounts (List.Subset.refl _) waiting rfl rfl
            (by simp) (by simp)
        · cases stepped
          exact .ended _ k s.accounts (List.Subset.refl _) (by simp)
      · cases stepped
  | downloadURL k error imageUrl =>
      simp only [SignUpScreen.step] at stepped
      split at stepped
      · rename_i email uid pressed uploaded waiting
        split at stepped
        · cases stepped
          exact .ended _ k s.accounts (List.Subset.refl _) (by simp)
        · cases stepped
          exact .ended _ k s.accounts (List.Subset.refl _) (by simp)
        · rename_i url
          cases stepped
          exact .issued k url _ uid waiting rfl
      · cases stepped
  | register k accepted =>
      simp only [SignUpScreen.step] at stepped
      split at stepped
      · rename_i email uid values pressed uploaded waiting
        split at stepped
        · rename_i agreed
          obtain rfl : accepted = true := agreed
          cases stepped
          exact .registered k _ uid values waiting rfl
        · cases stepped
          exact .ended _ k s.accounts (List.Subset.refl _) (by simp)
      · cases stepped

theorem sign_ups_waiting {Image : Type} (s : SignUpScreen Image) (k : Nat) (found : FormAttempt Image)
    (here : s.attempts[k]? = some found) : s.signUps.attempts[k]? = some found.attempt := by
  simp [SignUpScreen.signUps, here]

-- The screen is a client of the sign-ups: every step is one of theirs, with the
-- arguments read from the fields as they are at that moment, or only an edit.
theorem screen_simulates {Image : Type} (encodes : Image → Bool) (s next : SignUpScreen Image)
    (act : SignUpScreenAct Image) (out : List (ProfileWrite Image))
    (stepped : (SignUpScreen.machine encodes).step s act = some (next, out)) :
    match SignUpScreen.reads encodes s.form act with
    | none => next.signUps = s.signUps
    | some read => ∃ notices, SignUps.machine.step s.signUps read = some (next.signUps, notices) := by
  change s.step encodes act = some (next, out) at stepped
  cases act with
  | edit form =>
      cases stepped
      rfl
  | signUpPressed =>
      simp only [SignUpScreen.step] at stepped
      simp only [SignUpScreen.reads, SignUps.machine, SignUps.step]
      split at stepped
      · rename_i passed
        cases stepped
        exact ⟨[], by simp [passed, SignUpScreen.signUps]⟩
      · rename_i failed
        cases stepped
        exact ⟨[.refused], by rw [if_neg failed]⟩
  | createUser k uid =>
      simp only [SignUpScreen.step] at stepped
      split at stepped
      · rename_i email pressed uploaded waiting
        have base := sign_ups_waiting s k _ waiting
        simp only [SignUpScreen.reads, SignUps.machine, SignUps.step, base]
        cases uid with
        | none =>
            cases stepped
            exact ⟨_, by rw [SignUpScreen.signUps_finish]⟩
        | some uid =>
            dsimp only at stepped
            split at stepped
            · rename_i unused
              have free : ∀ account ∈ s.signUps.accounts, account.1 ≠ email ∧ account.2 ≠ uid := unused
              dsimp only
              rw [if_pos free]
              split at stepped
              · rename_i encoded
                cases stepped
                exact ⟨[], by rw [if_pos encoded, SignUpScreen.signUps_set]; rfl⟩
              · rename_i unencoded
                cases stepped
                exact ⟨[.ended email (some uid) false], by simp [unencoded]; rfl⟩
            · cases stepped
      · cases stepped
  | putData k stored =>
      simp only [SignUpScreen.step] at stepped
      split at stepped
      · rename_i email uid pressed uploaded waiting
        have base := sign_ups_waiting s k _ waiting
        simp only [SignUpScreen.reads, SignUps.machine, SignUps.step, base]
        split at stepped
        · rename_i kept
          cases stepped
          exact ⟨[], by simp [kept, SignUps.moveTo]⟩
        · rename_i failed
          cases stepped
          exact ⟨[.ended email (some uid) true], by simp [failed]⟩
      · cases stepped
  | downloadURL k error imageUrl =>
      simp only [SignUpScreen.step] at stepped
      split at stepped
      · rename_i email uid pressed uploaded waiting
        have base := sign_ups_waiting s k _ waiting
        simp only [SignUpScreen.reads, SignUps.machine, SignUps.step, base]
        split at stepped
        · cases stepped
          exact ⟨[.ended email (some uid) true], by simp⟩
        · cases stepped
          exact ⟨[.ended email (some uid) false], by simp⟩
        · cases stepped
          exact ⟨[], by simp [SignUps.moveTo]⟩
      · cases stepped
  | register k accepted =>
      simp only [SignUpScreen.step] at stepped
      split at stepped
      · rename_i email uid values pressed uploaded waiting
        have base := sign_ups_waiting s k _ waiting
        simp only [SignUpScreen.reads, SignUps.machine, SignUps.step, base]
        split at stepped
        · rename_i agreed
          cases stepped
          exact ⟨[.registered uid], by simp [agreed, ← SignUpScreen.signUps_finish]; rfl⟩
        · rename_i refused
          cases stepped
          exact ⟨[.ended email (some uid) true], by simp [refused]⟩
      · cases stepped

def ProfileWrite.AsPressed {Image : Type} (write : ProfileWrite Image) : Prop :=
  write.values.lookup "name" = some (.string write.pressed.name) ∧
    write.values.lookup "email" = some (.string write.pressed.email) ∧ write.uploaded = some write.pressed.picture

-- When the picture's URL comes, the name field is as at the press, and so was
-- the picture when its data was taken.
def FieldsKept {Image : Type} (s : SignUpScreen Image) : SignUpScreenAct Image → Prop
  | .downloadURL k false (some _) =>
      ∀ found ∈ s.attempts[k]?, s.form.name = found.pressed.name ∧ found.uploaded = some found.pressed.picture
  | _ => True

instance {Image : Type} [DecidableEq Image] (s : SignUpScreen Image) (act : SignUpScreenAct Image) :
    Decidable (FieldsKept s act) :=
  match act with
  | .downloadURL k false (some _) => inferInstanceAs (Decidable (∀ found ∈ s.attempts[k]?,
      s.form.name = found.pressed.name ∧ found.uploaded = some found.pressed.picture))
  | .downloadURL _ false none => isTrue trivial
  | .downloadURL _ true _ => isTrue trivial
  | .edit _ => isTrue trivial
  | .signUpPressed => isTrue trivial
  | .createUser _ _ => isTrue trivial
  | .putData _ _ => isTrue trivial
  | .register _ _ => isTrue trivial

def Captured {Image : Type} (s : SignUpScreen Image) : Prop :=
  ∀ found ∈ s.attempts, found.attempt.email = found.pressed.email ∧ found.pressed.name ≠ ""

theorem captured_step {Image : Type} (encodes : Image → Bool) (s : SignUpScreen Image) (act : SignUpScreenAct Image)
    (next : SignUpScreen Image) (out : List (ProfileWrite Image)) (captured : Captured s)
    (stepped : (SignUpScreen.machine encodes).step s act = some (next, out)) : Captured next := by
  have set (k : Nat) (fresh : FormAttempt Image) (kept : fresh.attempt.email = fresh.pressed.email ∧ fresh.pressed.name ≠ "") :
      ∀ found ∈ s.attempts.set k fresh, found.attempt.email = found.pressed.email ∧ found.pressed.name ≠ "" := by
    intro found member
    rcases List.mem_or_eq_of_mem_set member with old | rfl
    · exact captured found old
    · exact kept
  cases screen_step_cases encodes s next act out stepped with
  | edit form => exact captured
  | refused => exact captured
  | pressed named =>
      intro found member
      rcases List.mem_append.mp member with old | new
      · exact captured found old
      · obtain rfl := List.mem_singleton.mp new
        exact ⟨rfl, named⟩
  | ended _ k accounts sub other => exact fun found member => captured found (List.mem_of_mem_eraseIdx member)
  | moved _ k found fresh accounts sub here pressed email early other =>
      refine set k fresh ?_
      rw [email, pressed]
      exact captured found (List.mem_of_getElem? here)
  | issued k imageUrl found uid here stage => exact set k _ (captured found (List.mem_of_getElem? here))
  | registered k found uid values here stage =>
      exact fun other member => captured other (List.mem_of_mem_eraseIdx member)

theorem profile_values_lookup (name email imageUrl : String) :
    (profileValues name email imageUrl).lookup "name" = some (.string name) ∧
      (profileValues name email imageUrl).lookup "email" = some (.string email) :=
  ⟨rfl, rfl⟩

theorem fields_kept_other {Image : Type} (s : SignUpScreen Image) (act : SignUpScreenAct Image)
    (other : ∀ k imageUrl, act ≠ .downloadURL k false (some imageUrl)) : FieldsKept s act := by
  unfold FieldsKept
  split
  · rename_i k imageUrl
    exact absurd rfl (other k imageUrl)
  · trivial

theorem step_as_pressed {Image : Type} (encodes : Image → Bool) (s : SignUpScreen Image) (act : SignUpScreenAct Image)
    (next : SignUpScreen Image) (out : List (ProfileWrite Image)) (captured : Captured s)
    (stepped : (SignUpScreen.machine encodes).step s act = some (next, out)) :
    (∀ write ∈ out, write.AsPressed) ↔ FieldsKept s act := by
  cases screen_step_cases encodes s next act out stepped with
  | edit form => exact iff_of_true (by simp) trivial
  | refused => exact iff_of_true (by simp) trivial
  | pressed named => exact iff_of_true (by simp) trivial
  | ended _ k accounts sub other => exact iff_of_true (by simp) (fields_kept_other s act other)
  | moved _ k found fresh accounts sub here pressed email early other =>
      exact iff_of_true (by simp) (fields_kept_other s act other)
  | issued k imageUrl found uid here stage =>
      have kept := (captured found (List.mem_of_getElem? here)).1
      obtain ⟨name, email⟩ := profile_values_lookup s.form.name found.pressed.email imageUrl
      rw [List.forall_mem_singleton, kept]
      simp only [ProfileWrite.AsPressed, FieldsKept, name, email, here, Option.mem_def, Option.some.injEq,
        Value.string.injEq, forall_eq', true_and]
  | registered k found uid values here stage => exact iff_of_true (by simp) trivial

-- Each profile on its way or stored is one that the screen has written, to the
-- account made with the e-mail of the press.
structure Traced {Image : Type} (s : SignUpScreen Image) (seen : List (ProfileWrite Image)) : Prop where
  signing : Signing s.signUps
  captured : Captured s
  written : ∀ write ∈ seen, write.pressed.name ≠ "" ∧ write.values.lookup "email" = some (.string write.pressed.email) ∧
    (write.pressed.email, write.uid) ∈ s.accounts
  registering : ∀ found ∈ s.attempts, ∀ uid values, found.attempt.stage = .register uid values →
    ∃ write ∈ seen, write.uid = uid ∧ write.values = values
  stored : ∀ uid record, s.users.lookup uid = some record → ∃ write ∈ seen, write.uid = uid ∧ write.values = record

theorem traced_start {Image : Type} (form : SignUpForm Image) : Traced (SignUpScreen.start form) [] where
  signing := signing_empty
  captured := by simp [Captured, SignUpScreen.start]
  written := by simp
  registering := by simp [SignUpScreen.start]
  stored := by simp [SignUpScreen.start]

theorem screen_signing {Image : Type} (encodes : Image → Bool) (s next : SignUpScreen Image)
    (act : SignUpScreenAct Image) (out : List (ProfileWrite Image)) (signing : Signing s.signUps)
    (stepped : (SignUpScreen.machine encodes).step s act = some (next, out)) : Signing next.signUps := by
  have simulated := screen_simulates encodes s next act out stepped
  split at simulated
  · rw [simulated]
    exact signing
  · rename_i read _
    obtain ⟨notices, base⟩ := simulated
    exact signing_step s.signUps next.signUps read notices signing base

theorem attempt_account {Image : Type} (s : SignUpScreen Image) (found : FormAttempt Image) (uid : Uid)
    (signing : Signing s.signUps) (captured : Captured s) (member : found ∈ s.attempts)
    (named : found.attempt.uid = some uid) :
    (found.pressed.email, uid) ∈ s.accounts ∧ s.users.lookup uid = none := by
  rw [← (captured found member).1]
  exact signing.attempts found.attempt (List.mem_map_of_mem member) uid named

theorem traced_step {Image : Type} (encodes : Image → Bool) (s : SignUpScreen Image) (seen : List (ProfileWrite Image))
    (act : SignUpScreenAct Image) (next : SignUpScreen Image) (out : List (ProfileWrite Image)) (traced : Traced s seen)
    (stepped : (SignUpScreen.machine encodes).step s act = some (next, out)) : Traced next (seen ++ out) := by
  have signing := screen_signing encodes s next act out traced.signing stepped
  have captured := captured_step encodes s act next out traced.captured stepped
  have kept (write : ProfileWrite Image) (member : write ∈ seen) (accounts : List (String × Uid))
      (sub : s.accounts ⊆ accounts) : write.pressed.name ≠ "" ∧
        write.values.lookup "email" = some (.string write.pressed.email) ∧ (write.pressed.email, write.uid) ∈ accounts :=
    (traced.written write member).imp_right (fun rest => rest.imp_right (fun account => sub account))
  cases screen_step_cases encodes s next act out stepped with
  | edit form =>
      rw [List.append_nil]
      exact ⟨signing, captured, traced.written, traced.registering, traced.stored⟩
  | refused => simpa using traced
  | pressed named =>
      refine ⟨signing, captured, by simpa using traced.written, ?_, by simpa using traced.stored⟩
      intro found member uid values stage
      rcases List.mem_append.mp member with old | new
      · simpa using traced.registering found old uid values stage
      · obtain rfl := List.mem_singleton.mp new
        cases stage
  | ended _ k accounts sub other =>
      rw [List.append_nil]
      exact ⟨signing, captured, fun write member => kept write member accounts sub,
        fun found member => traced.registering found (List.mem_of_mem_eraseIdx member), traced.stored⟩
  | moved _ k found fresh accounts sub here pressed email early other =>
      rw [List.append_nil]
      refine ⟨signing, captured, fun write member => kept write member accounts sub, ?_, traced.stored⟩
      intro item member uid values stage
      rcases List.mem_or_eq_of_mem_set member with old | rfl
      · exact traced.registering item old uid values stage
      · exact absurd stage (early uid values)
  | issued k imageUrl found uid here stage =>
      have member := List.mem_of_getElem? here
      obtain ⟨email, named⟩ := traced.captured found member
      have account := (attempt_account s found uid traced.signing traced.captured member (by rw [Attempt.uid, stage])).1
      refine ⟨signing, captured, ?_, ?_, ?_⟩
      · intro write member
        rcases List.mem_append.mp member with old | new
        · exact traced.written write old
        · obtain rfl := List.mem_singleton.mp new
          rw [email]
          exact ⟨named, rfl, account⟩
      · intro item member uid' values registering
        rcases List.mem_or_eq_of_mem_set member with old | rfl
        · obtain ⟨write, issued, same⟩ := traced.registering item old uid' values registering
          exact ⟨write, List.mem_append_left _ issued, same⟩
        · cases registering
          exact ⟨_, List.mem_append_right _ (List.mem_singleton_self _), rfl, rfl⟩
      · intro uid' record stored
        obtain ⟨write, issued, same⟩ := traced.stored uid' record stored
        exact ⟨write, List.mem_append_left _ issued, same⟩
  | registered k found uid values here stage =>
      have member := List.mem_of_getElem? here
      have missing := (attempt_account s found uid traced.signing traced.captured member (by rw [Attempt.uid, stage])).2
      rw [List.append_nil]
      refine ⟨signing, captured, traced.written,
        fun item member => traced.registering item (List.mem_of_mem_eraseIdx member), ?_⟩
      intro uid' record stored
      rw [missing, Option.getD_none, AList.union_empty] at stored
      by_cases same : uid' = uid
      · subst uid'
        rw [AList.lookup_insert] at stored
        obtain rfl := Option.some.inj stored
        exact traced.registering found member uid values stage
      · rw [AList.lookup_insert_ne same] at stored
        exact traced.stored uid' record stored

def annForm : SignUpForm String := ⟨"Ann", "ann@mail", "secret", "secret", "ann.jpg"⟩

def signUpUnedited : List (SignUpScreenAct String) :=
  [.signUpPressed, .createUser 0 (some "u1"), .putData 0 true, .downloadURL 0 false (some "https://img/1"), .register 0 true]

def signUpWiped : List (SignUpScreenAct String) :=
  [.signUpPressed, .createUser 0 (some "u1"), .edit { annForm with name := "" }, .putData 0 true,
    .downloadURL 0 false (some "https://img/1"), .register 0 true]

end FirChat
