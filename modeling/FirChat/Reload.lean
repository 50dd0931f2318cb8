import FirChat.Sorting
import FirChat.Table

set_option autoImplicit false

namespace FirChat

def Filed (good : Message → Prop) (uid : Uid) (dict : AList (fun _ : String => Message)) : Prop :=
  ∀ key message, dict.lookup key = some message → message.partenerId (some uid) = some key ∧ good message

-- The array shows the whole dictionary in the given order, one row per partner.
structure Shown (order : Message → Message → Prop) (uid : Uid) (list : ChatsList) : Prop where
  all : list.messages.Perm list.values
  sorted : list.messages.Pairwise order
  distinct : (list.messages.map (fun message => message.partenerId (some uid))).Nodup

def UpToDate (order : Message → Message → Prop) (uid : Uid) (list : ChatsList) : Prop :=
  list.timer = some ⟨true⟩ ∨ Shown order uid list

def BySeconds (m1 m2 : Message) : Prop := ChatsList.timeOf m2 ≤ ChatsList.timeOf m1

def ByTimeStamp (m1 m2 : Message) : Prop := ∀ t1 ∈ m1.timeStamp, ∀ t2 ∈ m2.timeStamp, t2 ≤ t1

def Timed (message : Message) : Prop := message.timeStamp ≠ none

-- What sendMessageWithProperties writes: an Int, which has 64 bits.
def WholeSeconds (message : Message) : Prop :=
  ∃ seconds : Int, ChatsList.intMin ≤ seconds ∧ seconds ≤ ChatsList.intMax ∧ message.timeStamp = some (seconds : ℚ)

def TableAct.Brings (good : Message → Prop) : TableAct → Prop
  | .fetched snapshot => ∀ dictionary ∈ snapshot, good (Message.init dictionary)
  | _ => True

theorem filed_empty (good : Message → Prop) (uid : Uid) : Filed good uid ∅ := by
  intro key message stored
  simp at stored

theorem filed_erase (good : Message → Prop) (uid : Uid) (dict : AList (fun _ : String => Message)) (gone : String)
    (filed : Filed good uid dict) : Filed good uid (dict.erase gone) := by
  intro key message stored
  by_cases same : key = gone
  · rw [same, AList.lookup_erase] at stored
    cases stored
  · rw [AList.lookup_erase_ne same] at stored
    exact filed key message stored

theorem filed_insert (good : Message → Prop) (uid : Uid) (dict : AList (fun _ : String => Message)) (partner : String)
    (fresh : Message) (filed : Filed good uid dict) (named : fresh.partenerId (some uid) = some partner)
    (brings : good fresh) : Filed good uid (dict.insert partner fresh) := by
  intro key message stored
  by_cases same : key = partner
  · subst key
    rw [AList.lookup_insert] at stored
    obtain rfl := Option.some.inj stored
    exact ⟨named, brings⟩
  · rw [AList.lookup_insert_ne same] at stored
    exact filed key message stored

theorem filed_entry (good : Message → Prop) (uid : Uid) (dict : AList (fun _ : String => Message))
    (entry : Sigma (fun _ : String => Message)) (filed : Filed good uid dict) (member : entry ∈ dict.entries) :
    entry.2.partenerId (some uid) = some entry.1 ∧ good entry.2 :=
  filed entry.1 entry.2 (AList.mem_lookup_iff.mpr member)

theorem filed_values (good : Message → Prop) (uid : Uid) (list : ChatsList) (filed : Filed good uid list.messageDict)
    (message : Message) (member : message ∈ list.values) : good message := by
  obtain ⟨entry, stored, rfl⟩ := List.mem_map.mp member
  exact (filed_entry good uid list.messageDict entry filed stored).2

theorem filed_partners (good : Message → Prop) (uid : Uid) (list : ChatsList)
    (filed : Filed good uid list.messageDict) :
    list.values.map (fun message => message.partenerId (some uid)) = list.messageDict.keys.map some := by
  simp only [ChatsList.values, AList.keys, List.keys, List.map_map]
  apply List.map_congr_left
  intro entry member
  exact (filed_entry good uid list.messageDict entry filed member).1

theorem values_distinct (good : Message → Prop) (uid : Uid) (list : ChatsList)
    (filed : Filed good uid list.messageDict) :
    (list.values.map (fun message => message.partenerId (some uid))).Nodup := by
  rw [filed_partners good uid list filed]
  exact list.messageDict.keys_nodup.map (Option.some_injective _)

theorem handle_reload_data_shows (good : Message → Prop) (uid : Uid) (list next : ChatsList) (values : List Message)
    (filed : Filed good uid list.messageDict) (same : values.Perm list.values)
    (sorted : list.timerFired.handleReloadData values = .ok next) : Shown BySeconds uid next := by
  unfold ChatsList.handleReloadData at sorted
  split at sorted
  case isTrue => cases sorted
  cases sorted
  have all := (Sorting.by_key_perm ChatsList.timeOf values).trans same
  have ordered := Sorting.by_key_sorted ChatsList.timeOf values
  exact ⟨all, ordered, (all.map _).nodup_iff.mpr (values_distinct good uid list filed)⟩

theorem handle_reload_data_sorts (list : ChatsList) (values : List Message)
    (timed : ∀ message ∈ list.values, Timed message) (same : values.Perm list.values) :
    list.handleReloadData values = .ok { list with messages := Sorting.byKey ChatsList.timeOf values } := by
  have present : ¬ (2 ≤ values.length ∧ ∃ message ∈ values, message.timeStamp = none) := by
    intro missing
    obtain ⟨_, message, member, untimed⟩ := missing
    exact timed message (same.mem_iff.mp member) untimed
  rw [ChatsList.handleReloadData, if_neg present]
  rfl

theorem handle_reload_data_timed (good : Message → Prop) (uid : Uid) (list : ChatsList) (values : List Message)
    (trap : Trap) (timed : ∀ message, good message → Timed message) (filed : Filed good uid list.messageDict)
    (same : values.Perm list.values) : list.timerFired.handleReloadData values ≠ .error trap := by
  have known : ∀ message ∈ list.timerFired.values, Timed message := fun message member =>
    timed message (filed_values good uid list filed message member)
  rw [handle_reload_data_sorts list.timerFired values known same]
  simp

theorem fetch_message_filed (good : Message → Prop) (uid : Uid) (snapshot : Option Dictionary) (list : ChatsList)
    (brings : ∀ dictionary ∈ snapshot, good (Message.init dictionary)) (filed : Filed good uid list.messageDict) :
    Filed good uid (list.fetchMessage (some uid) snapshot).messageDict := by
  unfold ChatsList.fetchMessage
  split
  · exact filed
  · rename_i dictionary
    split
    · exact filed
    · rename_i partner named
      exact filed_insert good uid list.messageDict partner _ filed named (brings dictionary rfl)

theorem fetch_message_pending (currentUser : Option Uid) (snapshot : Option Dictionary) (list : ChatsList) :
    list.fetchMessage currentUser snapshot = list ∨ (list.fetchMessage currentUser snapshot).timer = some ⟨true⟩ := by
  unfold ChatsList.fetchMessage
  split
  · exact Or.inl rfl
  · split <;> exact Or.inr rfl

theorem remove_completed_filed (good : Message → Prop) (uid : Uid) (chatPartnerId : String) (accepted : Bool)
    (list : ChatsList) (filed : Filed good uid list.messageDict) :
    Filed good uid (list.removeCompleted chatPartnerId accepted).messageDict := by
  cases accepted with
  | true => exact filed_erase good uid list.messageDict chatPartnerId filed
  | false => exact filed

theorem remove_completed_pending (chatPartnerId : String) (accepted : Bool) (list : ChatsList) :
    list.removeCompleted chatPartnerId accepted = list ∨
      (list.removeCompleted chatPartnerId accepted).timer = some ⟨true⟩ := by
  cases accepted with
  | true => exact Or.inr rfl
  | false => exact Or.inl rfl

-- A reset leaves the timer as it is: a pending one will show the empty dictionary.
theorem setup_shows (order : Message → Message → Prop) (uid : Uid) (list : ChatsList) :
    Shown order uid list.setupNavbarWithUser :=
  ⟨List.Perm.refl _, List.Pairwise.nil, List.nodup_nil⟩

structure Debounced (good : Message → Prop) (uid : Uid) (s : Table) (seen : List TableOut) : Prop where
  filed : Filed good uid s.list.messageDict
  shown : UpToDate BySeconds uid s.list
  calm : TableOut.trapped .timeStampIsNil ∉ seen

theorem debounced_start (good : Message → Prop) (uid : Uid) : Debounced good uid Table.start [] :=
  ⟨filed_empty good uid, Or.inr ⟨List.Perm.refl _, List.Pairwise.nil, List.nodup_nil⟩, by simp⟩

theorem up_to_date_kept (uid : Uid) (list next : ChatsList) (shown : UpToDate BySeconds uid list)
    (pending : next = list ∨ next.timer = some ⟨true⟩) : UpToDate BySeconds uid next := by
  rcases pending with rfl | armed
  · exact shown
  · exact Or.inl armed

theorem debounced_step (good : Message → Prop) (uid : Uid) (timed : ∀ message, good message → Timed message)
    (s : Table) (seen : List TableOut) (act : TableAct) (next : Table) (out : List TableOut)
    (debounced : Debounced good uid s seen) (brings : act.Brings good)
    (stepped : (Table.machine (some uid)).step s act = some (next, out)) : Debounced good uid next (seen ++ out) := by
  obtain ⟨filed, shown, calm⟩ := debounced
  cases table_step_cases (some uid) s next act out stepped with
  | fetched snapshot =>
      exact ⟨fetch_message_filed good uid snapshot s.list brings filed,
        up_to_date_kept uid s.list _ shown (fetch_message_pending (some uid) snapshot s.list), by simpa using calm⟩
  | childRemoved key =>
      exact ⟨filed_erase good uid s.list.messageDict key filed, Or.inl rfl, by simpa using calm⟩
  | removeCompleted chatPartnerId accepted =>
      exact ⟨remove_completed_filed good uid chatPartnerId accepted s.list filed,
        up_to_date_kept uid s.list _ shown (remove_completed_pending chatPartnerId accepted s.list), by simpa using calm⟩
  | setup => exact ⟨filed_empty good uid, Or.inr (setup_shows BySeconds uid s.list), by simpa using calm⟩
  | fired values list same sorted =>
      have dict := handle_reload_data_dict values s.list.timerFired list sorted
      exact ⟨dict ▸ filed, Or.inr (handle_reload_data_shows good uid s.list list values filed same sorted),
        by simpa using calm⟩
  | untimed values trap same failed =>
      exact absurd failed (handle_reload_data_timed good uid s.list values trap timed filed same)
  | reloaded queued => exact ⟨filed, shown, by simpa using calm⟩
  | cell row message counted here => exact ⟨filed, shown, by simpa [Table.looks] using calm⟩
  | missing act row asks known absent => exact ⟨filed, shown, by simpa [Table.looks] using calm⟩
  | idle act row out asks silent =>
      refine ⟨filed, shown, ?_⟩
      rcases silent with rfl | ⟨rfl, _⟩ <;> simpa [Table.looks] using calm
  | removes row displayed message chatPartnerId shown' here named =>
      exact ⟨filed, shown, by simpa [Table.looks] using calm⟩
  | selects row displayed message partner shown' here named => exact ⟨filed, shown, by simpa [Table.looks] using calm⟩
  | read k snapshot partner displayed waiting =>
      refine ⟨filed, shown, ?_⟩
      cases ChatsList.selectedUser partner snapshot <;> simpa using calm

theorem debounced_run (good : Message → Prop) (uid : Uid) (timed : ∀ message, good message → Timed message)
    (acts : List TableAct) (finish : Table) (out : List TableOut) (brings : ∀ act ∈ acts, act.Brings good)
    (ran : (Table.machine (some uid)).run Table.start acts = some (finish, out)) : Debounced good uid finish out :=
  Machine.history_forall (Table.machine (some uid)) (Debounced good uid) (fun act => act.Brings good)
    (debounced_step good uid timed) acts Table.start finish out (debounced_start good uid) brings ran

theorem int_value_whole (seconds : Int) (lower : ChatsList.intMin ≤ seconds) (upper : seconds ≤ ChatsList.intMax) :
    ChatsList.intValue (seconds : ℚ) = seconds := by
  simp [ChatsList.intValue, lower, upper]

example : ChatsList.intValue 100000000000000000000 = ChatsList.intValue 200000000000000000000 := by decide

theorem whole_seconds_timed (message : Message) (whole : WholeSeconds message) : Timed message := by
  obtain ⟨seconds, _, _, written⟩ := whole
  simp [Timed, written]

theorem whole_seconds_order (m1 m2 : Message) (first : WholeSeconds m1) (second : WholeSeconds m2)
    (order : BySeconds m1 m2) : ByTimeStamp m1 m2 := by
  obtain ⟨s1, lower1, upper1, written1⟩ := first
  obtain ⟨s2, lower2, upper2, written2⟩ := second
  intro t1 here1 t2 here2
  rw [written1] at here1
  rw [written2] at here2
  obtain rfl := Option.some.inj here1
  obtain rfl := Option.some.inj here2
  simpa [BySeconds, ChatsList.timeOf, written1, written2, int_value_whole s1 lower1 upper1,
    int_value_whole s2 lower2 upper2] using order

theorem shown_by_time_stamp (uid : Uid) (list : ChatsList) (filed : Filed WholeSeconds uid list.messageDict)
    (shown : Shown BySeconds uid list) : Shown ByTimeStamp uid list := by
  have whole : ∀ message ∈ list.messages, WholeSeconds message := fun message member =>
    filed_values WholeSeconds uid list filed message (shown.all.mem_iff.mp member)
  exact ⟨shown.all, shown.sorted.imp_of_mem (fun first second order =>
    whole_seconds_order _ _ (whole _ first) (whole _ second) order), shown.distinct⟩

theorem reload_loses_no_update (uid : Uid) (acts : List TableAct) (finish : Table) (out : List TableOut)
    (timed : ∀ act ∈ acts, act.Brings Timed)
    (ran : (Table.machine (some uid)).run Table.start acts = some (finish, out)) :
    UpToDate BySeconds uid finish.list ∧ TableOut.trapped .timeStampIsNil ∉ out ∧
      ((∀ act ∈ acts, act.Brings WholeSeconds) → UpToDate ByTimeStamp uid finish.list) := by
  have debounced := debounced_run Timed uid (fun _ here => here) acts finish out timed ran
  refine ⟨debounced.shown, debounced.calm, ?_⟩
  intro whole
  have counted := debounced_run WholeSeconds uid whole_seconds_timed acts finish out whole ran
  rcases counted.shown with pending | shown
  · exact Or.inl pending
  · exact Or.inr (shown_by_time_stamp uid finish.list counted.filed shown)

def textRecord (fromId toId text : String) (timeStamp : ℚ) : Dictionary :=
  (((∅ : Dictionary).insert "fromId" (.string fromId)).insert "toId" (.string toId)).insert "text" (.string text)
    |>.insert "timeStamp" (.number timeStamp)

-- Two messages of one second, from senders that write fractions of it.
def fractions : List TableAct :=
  [.fetched (some (textRecord "bob" "ann" "hi" (6 / 5))), .fetched (some (textRecord "eve" "ann" "hello" (3 / 2))),
    .timerFires [Message.init (textRecord "bob" "ann" "hi" (6 / 5)), Message.init (textRecord "eve" "ann" "hello" (3 / 2))]]

theorem fractions_timed : ∀ act ∈ fractions, act.Brings Timed := by
  intro act member
  simp only [fractions, List.mem_cons, List.not_mem_nil, or_false] at member
  rcases member with rfl | rfl | rfl
  · intro dictionary here
    cases here
    simp [Timed, Message.init, textRecord, Value.asNumber]
  · intro dictionary here
    cases here
    simp [Timed, Message.init, textRecord, Value.asNumber]
  · trivial

theorem fractions_run :
    ((Table.machine (some "ann")).run Table.start fractions).map
        (fun result => (result.1.list.timer, result.1.list.messages.map Message.timeStamp)) =
      some (some ⟨false⟩, [some (6 / 5), some (3 / 2)]) := by decide +kernel

theorem reload_loses_no_update_fractions :
    ∃ finish out, (Table.machine (some "ann")).run Table.start fractions = some (finish, out) ∧
      UpToDate BySeconds "ann" finish.list := by
  obtain ⟨⟨finish, out⟩, ran, _⟩ := Option.map_eq_some_iff.mp fractions_run
  exact ⟨finish, out, ran, (reload_loses_no_update "ann" fractions finish out fractions_timed ran).1⟩

theorem fractions_out_of_order :
    ¬ ∀ uid acts finish out, (∀ act ∈ acts, act.Brings Timed) →
      (Table.machine (some uid)).run Table.start acts = some (finish, out) →
      UpToDate ByTimeStamp uid finish.list ∧ TableOut.trapped .timeStampIsNil ∉ out := by
  intro all
  obtain ⟨⟨finish, out⟩, ran, result⟩ := Option.map_eq_some_iff.mp fractions_run
  obtain ⟨idle, rows⟩ := Prod.mk.inj result
  rcases (all "ann" fractions finish out fractions_timed ran).1 with pending | shown
  · rw [idle] at pending
    cases pending
  · have sorted : (finish.list.messages.map Message.timeStamp).Pairwise (fun t1 t2 => ∀ a ∈ t1, ∀ b ∈ t2, b ≤ a) :=
      List.pairwise_map.mpr shown.sorted
    rw [rows] at sorted
    have later := (List.pairwise_cons.mp sorted).1 (some (3 / 2)) (by simp) (6 / 5) rfl (3 / 2) rfl
    exact absurd later (by decide +kernel)

end FirChat
