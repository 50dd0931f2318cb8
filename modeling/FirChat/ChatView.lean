import FirChat.Session
import Mathlib.Data.List.Perm.Basic
import Mathlib.Data.List.Sort
import Mathlib.Data.String.Basic

set_option autoImplicit false

namespace FirChat

structure ChatView where
  currentUser : Option Uid
  user : Option User := none
  listener : Option (Uid × Uid) := none
  indexed : List MsgId := []
  reads : List MsgId := []
  messages : List Message := []

inductive ChatViewAct where
  | signIn (uid : Uid)
  | signOut
  | setUser (user : User)
  | childAdded (id : MsgId)
  | single (k : Nat)

namespace ChatView

def start (currentUser : Option Uid) : ChatView := { currentUser := currentUser }

-- The uid and the partner's id are captured when the listener is attached.
def observeMessages (s : ChatView) : ChatView :=
  match s.currentUser, s.user.bind User.id with
  | some uid, some toId => { s with listener := some (uid, toId) }
  | _, _ => s

def append (s : ChatView) (snapshot : Option Dictionary) : ChatView :=
  match snapshot with
  | none => s
  | some dictionary => { s with messages := s.messages ++ [Message.init dictionary] }

-- The user is set once. Children come in the order of their keys, each with a
-- record of the conversation; an output is the id that a callback has appended.
def step (records : MsgId → Option Dictionary) (s : ChatView) : ChatViewAct → Option (ChatView × List MsgId)
  | .signIn uid => some ({ s with currentUser := some uid }, [])
  | .signOut => some ({ s with currentUser := none }, [])
  | .setUser user =>
      match s.user with
      | some _ => none
      | none => some (({ s with user := some user } : ChatView).observeMessages, [])
  | .childAdded id =>
      match s.listener with
      | none => none
      | some (uid, toId) =>
          if (records id).any (wellFormed uid toId) = true ∧ ∀ earlier ∈ s.indexed, earlier < id then
            some ({ s with indexed := s.indexed ++ [id], reads := s.reads ++ [id] }, [])
          else none
  | .single k =>
      match s.reads[k]? with
      | none => none
      | some id => some (({ s with reads := s.reads.eraseIdx k } : ChatView).append (records id), [id])

def machine (records : MsgId → Option Dictionary) : Machine ChatView ChatViewAct MsgId := ⟨step records⟩

-- The screen shows the indexed messages, in the order of their keys and each one once.
def KeyOrder (records : MsgId → Option Dictionary) (s : ChatView) : Prop :=
  s.messages.map some = s.indexed.map (fun id => (records id).map Message.init)

def OldestFirst (_ : ChatView) : ChatViewAct → Prop
  | .single k => k = 0
  | _ => True

def ReadsApart (records : MsgId → Option Dictionary) (s : ChatView) : Prop :=
  ∀ first ∈ s.indexed, ∀ second ∈ s.indexed, (records first).map Message.init = (records second).map Message.init →
    first = second

end ChatView

@[simp] theorem append_indexed (s : ChatView) (snapshot : Option Dictionary) :
    (s.append snapshot).indexed = s.indexed := by
  cases snapshot <;> rfl

@[simp] theorem append_listener (s : ChatView) (snapshot : Option Dictionary) :
    (s.append snapshot).listener = s.listener := by
  cases snapshot <;> rfl

@[simp] theorem append_reads (s : ChatView) (snapshot : Option Dictionary) : (s.append snapshot).reads = s.reads := by
  cases snapshot <;> rfl

inductive ChatViewEffect (records : MsgId → Option Dictionary) (s : ChatView) :
    ChatViewAct → ChatView → List MsgId → Prop where
  | quiet (act : ChatViewAct) (next : ChatView) (indexed : next.indexed = s.indexed) (reads : next.reads = s.reads)
      (messages : next.messages = s.messages) (other : ∀ k, act ≠ .single k) : ChatViewEffect records s act next []
  | childAdded (id : MsgId) (record : Dictionary) (stored : records id = some record)
      (later : ∀ earlier ∈ s.indexed, earlier < id) :
      ChatViewEffect records s (.childAdded id) { s with indexed := s.indexed ++ [id], reads := s.reads ++ [id] } []
  | single (k : Nat) (id : MsgId) (waiting : s.reads[k]? = some id) :
      ChatViewEffect records s (.single k) (({ s with reads := s.reads.eraseIdx k } : ChatView).append (records id)) [id]

theorem chat_view_step_cases (records : MsgId → Option Dictionary) (s next : ChatView) (act : ChatViewAct)
    (out : List MsgId) (stepped : s.step records act = some (next, out)) : ChatViewEffect records s act next out := by
  cases act with
  | signIn uid => cases stepped; exact .quiet _ _ rfl rfl rfl (by simp)
  | signOut => cases stepped; exact .quiet _ _ rfl rfl rfl (by simp)
  | setUser user =>
      simp only [ChatView.step] at stepped
      split at stepped
      · cases stepped
      · cases stepped
        unfold ChatView.observeMessages
        split <;> exact .quiet _ _ rfl rfl rfl (by simp)
  | childAdded id =>
      simp only [ChatView.step] at stepped
      split at stepped
      · cases stepped
      · split at stepped
        · rename_i passed
          cases stepped
          cases stored : records id with
          | none => simp [stored] at passed
          | some record => exact .childAdded id record stored passed.2
        · cases stepped
  | single k =>
      simp only [ChatView.step] at stepped
      split at stepped
      · cases stepped
      · rename_i id waiting
        cases stepped
        exact .single k id waiting

structure Reading (records : MsgId → Option Dictionary) (s : ChatView) (seen : List MsgId) : Prop where
  sorted : s.indexed.Pairwise (· < ·)
  readsSorted : s.reads.Pairwise (· < ·)
  all : (seen ++ s.reads).Perm s.indexed
  stored : ∀ id ∈ s.indexed, ∃ record, records id = some record
  shown : s.messages.map some = seen.map (fun id => (records id).map Message.init)

theorem reading_start (records : MsgId → Option Dictionary) (currentUser : Option Uid) :
    Reading records (ChatView.start currentUser) [] :=
  ⟨List.Pairwise.nil, List.Pairwise.nil, List.Perm.refl _, by simp [ChatView.start], rfl⟩

theorem reading_step (records : MsgId → Option Dictionary) (s : ChatView) (seen : List MsgId) (act : ChatViewAct)
    (next : ChatView) (out : List MsgId) (reading : Reading records s seen)
    (stepped : (ChatView.machine records).step s act = some (next, out)) : Reading records next (seen ++ out) := by
  obtain ⟨sorted, readsSorted, all, stored, shown⟩ := reading
  cases chat_view_step_cases records s next act out stepped with
  | quiet _ _ indexed reads messages =>
      rw [List.append_nil]
      exact ⟨indexed ▸ sorted, reads ▸ readsSorted, by rw [indexed, reads]; exact all, indexed ▸ stored, messages ▸ shown⟩
  | childAdded id record found later =>
      rw [List.append_nil]
      have behind : ∀ earlier ∈ s.reads, earlier < id := fun earlier member =>
        later earlier (all.mem_iff.mp (List.mem_append_right seen member))
      refine ⟨List.pairwise_append.mpr ⟨sorted, List.pairwise_singleton _ _, by simpa using later⟩,
        List.pairwise_append.mpr ⟨readsSorted, List.pairwise_singleton _ _, by simpa using behind⟩, ?_, ?_, shown⟩
      · rw [← List.append_assoc]
        exact all.append_right [id]
      · exact Queue.forall_behind _ s.indexed id stored ⟨record, found⟩
  | single k id waiting =>
      obtain ⟨bound, rfl⟩ := List.getElem?_eq_some_iff.mp waiting
      have moved : (seen ++ [s.reads[k]] ++ s.reads.eraseIdx k).Perm s.indexed := by
        rw [List.append_assoc, List.singleton_append]
        exact ((List.getElem_cons_eraseIdx_perm bound).append_left seen).trans all
      obtain ⟨record, found⟩ := stored s.reads[k] (moved.mem_iff.mp (by simp))
      rw [found]
      refine ⟨sorted, readsSorted.sublist (List.eraseIdx_sublist _ k), moved, stored, ?_⟩
      simp only [ChatView.append, List.map_append, shown, List.map_cons, List.map_nil, found, Option.map_some]

theorem in_turn_step (records : MsgId → Option Dictionary) (s : ChatView) (seen : List MsgId) (act : ChatViewAct)
    (next : ChatView) (out : List MsgId) (inTurn : seen ++ s.reads = s.indexed) (oldest : s.OldestFirst act)
    (stepped : (ChatView.machine records).step s act = some (next, out)) : (seen ++ out) ++ next.reads = next.indexed := by
  cases chat_view_step_cases records s next act out stepped with
  | quiet _ _ indexed reads => rw [List.append_nil, indexed, reads, inTurn]
  | childAdded id record =>
      rw [List.append_nil, ← List.append_assoc]
      exact congrArg (· ++ [id]) inTurn
  | single k id waiting =>
      obtain rfl : k = 0 := oldest
      cases reads : s.reads with
      | nil => simp [reads] at waiting
      | cons first rest =>
          rw [reads, List.getElem?_cons_zero] at waiting
          cases waiting
          rw [reads] at inTurn
          simpa [reads] using inTurn

-- A callback that overtakes another one breaks the order of the keys.
theorem overtaken_marks (records : MsgId → Option Dictionary) (s : ChatView) (seen : List MsgId) (act : ChatViewAct)
    (next : ChatView) (out : List MsgId) (reading : Reading records s seen) (overtakes : ¬ s.OldestFirst act)
    (stepped : (ChatView.machine records).step s act = some (next, out)) : ¬ (seen ++ out) <+: next.indexed := by
  cases chat_view_step_cases records s next act out stepped with
  | quiet _ _ _ _ _ other =>
      cases act with
      | single k => exact absurd rfl (other k)
      | _ => exact absurd trivial overtakes
  | childAdded => exact absurd trivial overtakes
  | single k id waiting =>
      rw [append_indexed]
      intro given
      obtain ⟨rest, split⟩ := given
      rw [List.append_assoc, List.singleton_append] at split
      have left : s.reads.Perm (id :: rest) := (List.perm_append_left_iff seen).mp (split ▸ reading.all)
      have sorted : (id :: rest).Pairwise (· < ·) := (List.pairwise_append.mp (split ▸ reading.sorted)).2.1
      have equal : s.reads = id :: rest := left.eq_of_pairwise
        (fun a b _ _ less greater => absurd greater (lt_asymm less)) reading.readsSorted sorted
      obtain ⟨bound, here⟩ := List.getElem?_eq_some_iff.mp waiting
      have first : 0 < s.reads.length := Nat.lt_of_le_of_lt (Nat.zero_le k) bound
      have before := List.pairwise_iff_getElem.mp reading.readsSorted 0 k first bound (Nat.pos_of_ne_zero overtakes)
      have head : s.reads[0] = id := by simp only [equal, List.getElem_cons_zero]
      rw [head, here] at before
      exact lt_irrefl id before

theorem overtaken_persists (records : MsgId → Option Dictionary) (s : ChatView) (seen : List MsgId) (act : ChatViewAct)
    (next : ChatView) (out : List MsgId) (reading : Reading records s seen) (broken : ¬ seen <+: s.indexed)
    (stepped : (ChatView.machine records).step s act = some (next, out)) : ¬ (seen ++ out) <+: next.indexed := by
  have short : seen.length ≤ s.indexed.length := by
    rw [← reading.all.length_eq, List.length_append]
    exact Nat.le_add_right _ _
  intro restored
  have early : seen <+: next.indexed := (List.prefix_append seen out).trans restored
  cases chat_view_step_cases records s next act out stepped with
  | quiet _ _ indexed => exact broken (indexed ▸ early)
  | childAdded id record => exact broken (List.prefix_of_prefix_length_le early (List.prefix_append _ _) short)
  | single k id waiting =>
      rw [append_indexed] at early
      exact broken early

theorem messages_in_key_order (records : MsgId → Option Dictionary) (currentUser : Option Uid)
    (actions : List ChatViewAct) (s : ChatView) (out : List MsgId)
    (ran : (ChatView.machine records).run (ChatView.start currentUser) actions = some (s, out)) (quiet : s.reads = []) :
    ((ChatView.machine records).Along ChatView.OldestFirst (ChatView.start currentUser) actions → s.KeyOrder records) ∧
    (s.ReadsApart records → s.KeyOrder records →
      (ChatView.machine records).Along ChatView.OldestFirst (ChatView.start currentUser) actions) := by
  have reading := Machine.run_history (ChatView.machine records) (Reading records) (reading_step records) actions
    (ChatView.start currentUser) s out (reading_start records currentUser) ran
  constructor
  · intro along
    have inTurn := Machine.history_along (ChatView.machine records) (fun s seen => seen ++ s.reads = s.indexed)
      ChatView.OldestFirst (in_turn_step records) actions (ChatView.start currentUser) s out rfl along ran
    rw [quiet, List.append_nil] at inTurn
    rw [ChatView.KeyOrder, reading.shown, inTurn]
  · intro apart shown
    refine Machine.along_of_unmarked (ChatView.machine records) (Reading records) (fun s seen => ¬ seen <+: s.indexed)
      ChatView.OldestFirst (reading_step records) (overtaken_marks records) (overtaken_persists records) actions
      (ChatView.start currentUser) s [] out (reading_start records currentUser) ran (not_not.mpr ?_)
    have all := reading.all
    rw [quiet, List.append_nil] at all
    have reads := reading.shown.symm.trans shown
    have same : out = s.indexed := by
      refine List.ext_getElem all.length_eq (fun i left right => ?_)
      refine apart _ (all.mem_iff.mp (List.getElem_mem left)) _ (List.getElem_mem right) ?_
      simpa [left, right] using congrArg (fun messages => messages[i]?) reads
    exact same ▸ List.prefix_rfl

theorem same_keys_same_messages (records : MsgId → Option Dictionary) (s t : ChatView) (keys : s.indexed = t.indexed)
    (first : s.KeyOrder records) (second : t.KeyOrder records) : s.messages = t.messages := by
  refine List.map_injective_iff.mpr (Option.some_injective Message) ?_
  rw [first, second, keys]

def chatInOrder : List ChatViewAct :=
  [.setUser { id := some "bob" }, .childAdded "-M1", .childAdded "-M2", .single 0, .single 0]

theorem messages_in_key_order_in_order :
    ∃ s out, (ChatView.machine textRecords).run (ChatView.start (some "ann")) chatInOrder = some (s, out) ∧
      s.messages.map Message.text = [some "hi", some "hello"] ∧ s.KeyOrder textRecords := by
  refine ⟨_, _, rfl, rfl, (messages_in_key_order textRecords (some "ann") chatInOrder _ _ rfl rfl).1 ?_⟩
  refine Machine.along_of_forall _ _ _ (fun s act member => ?_) _
  simp only [chatInOrder, List.mem_cons, List.not_mem_nil, or_false] at member
  rcases member with rfl | rfl | rfl | rfl | rfl <;> trivial

def chatOutOfOrder : List ChatViewAct :=
  [.setUser { id := some "bob" }, .childAdded "-M1", .childAdded "-M2", .single 1, .single 0]

theorem answer_is_shown_first :
    ∃ s out, (ChatView.machine textRecords).run (ChatView.start (some "ann")) chatOutOfOrder = some (s, out) ∧
      s.reads = [] ∧ s.messages.map Message.text = [some "hello", some "hi"] ∧ ¬ s.KeyOrder textRecords := by
  refine ⟨_, _, rfl, rfl, rfl, fun shown => ?_⟩
  exact absurd (congrArg (List.map (Option.map Message.text)) shown) (by decide)

end FirChat
