import FirChat.Reload
import FirChat.Rows

set_option autoImplicit false

namespace FirChat

theorem sent_time_stamp (toId fromId : Uid) (seconds : Int) (payload : Payload) :
    (Message.init (messageValues toId fromId seconds payload.properties)).timeStamp = some (seconds : ℚ) := by
  obtain ⟨noTo, noFrom, noTime⟩ := payload_names_no_header payload
  rw [Message.init, (header_lookup toId fromId seconds payload.properties noTo noFrom noTime).2.2]
  rfl

def SecondsApart (list : ChatsList) : Prop :=
  ∀ m1 ∈ list.values, ∀ m2 ∈ list.values, ChatsList.timeOf m1 = ChatsList.timeOf m2 → m1 = m2

theorem rows_ordered_by_second (list : ChatsList) (timed : ∀ message ∈ list.values, Timed message) :
    (∀ first second : List Message, first.Perm list.values → second.Perm list.values →
      ∃ one two, list.handleReloadData first = .ok one ∧ list.handleReloadData second = .ok two ∧
        one.messages.Perm two.messages ∧ one.messages.Pairwise BySeconds ∧ two.messages.Pairwise BySeconds ∧
        one.messages.map ChatsList.timeOf = two.messages.map ChatsList.timeOf ∧
        (one.messages = two.messages ↔
          ∀ seconds, Sorting.ofKey ChatsList.timeOf seconds first = Sorting.ofKey ChatsList.timeOf seconds second)) ∧
    ((∀ (first second : List Message) (one two : ChatsList), first.Perm list.values → second.Perm list.values →
        list.handleReloadData first = .ok one → list.handleReloadData second = .ok two → one.messages = two.messages) ↔
      SecondsApart list) := by
  have sorts := fun values same => handle_reload_data_sorts list values timed same
  refine ⟨fun first second firstSame secondSame => ?_, ?_⟩
  · have firstSorted := Sorting.by_key_sorted ChatsList.timeOf first
    have secondSorted := Sorting.by_key_sorted ChatsList.timeOf second
    have perm : (Sorting.byKey ChatsList.timeOf first).Perm (Sorting.byKey ChatsList.timeOf second) :=
      ((Sorting.by_key_perm ChatsList.timeOf first).trans firstSame).trans
        ((Sorting.by_key_perm ChatsList.timeOf second).trans secondSame).symm
    exact ⟨_, _, sorts first firstSame, sorts second secondSame, perm, firstSorted, secondSorted,
      Sorting.sorted_keys ChatsList.timeOf _ _ firstSorted secondSorted perm,
      Sorting.by_key_eq_iff ChatsList.timeOf first second⟩
  · rw [SecondsApart, ← Sorting.by_key_function_iff]
    constructor
    · intro function first second firstSame secondSame
      exact function first second _ _ firstSame secondSame (sorts first firstSame) (sorts second secondSame)
    · intro function first second one two firstSame secondSame firstRan secondRan
      obtain rfl := Except.ok.inj ((sorts first firstSame).symm.trans firstRan)
      obtain rfl := Except.ok.inj ((sorts second secondSame).symm.trans secondRan)
      exact function first second firstSame secondSame

def twoConversations (bobSeconds eveSeconds : Int) : ChatsList :=
  (ChatsList.fetchMessage (some "ann") (some (textOf "bob" bobSeconds)) {}).fetchMessage (some "ann")
    (some (textOf "eve" eveSeconds))

theorem two_conversations_whole (bobSeconds eveSeconds : Int)
    (bobInt : ChatsList.intMin ≤ bobSeconds ∧ bobSeconds ≤ ChatsList.intMax)
    (eveInt : ChatsList.intMin ≤ eveSeconds ∧ eveSeconds ≤ ChatsList.intMax) :
    ∀ message ∈ (twoConversations bobSeconds eveSeconds).values, WholeSeconds message := by
  have sent (fromId : Uid) (seconds : Int) (fits : ChatsList.intMin ≤ seconds ∧ seconds ≤ ChatsList.intMax) :
      ∀ dictionary ∈ some (textOf fromId seconds), WholeSeconds (Message.init dictionary) := by
    intro dictionary here
    obtain rfl := Option.some.inj here
    exact ⟨seconds, fits.1, fits.2, sent_time_stamp "ann" fromId seconds (.text "hi")⟩
  have bob := fetch_message_filed WholeSeconds "ann" (some (textOf "bob" bobSeconds)) {} (sent "bob" bobSeconds bobInt)
    (filed_empty WholeSeconds "ann")
  have eve := fetch_message_filed WholeSeconds "ann" (some (textOf "eve" eveSeconds)) _ (sent "eve" eveSeconds eveInt) bob
  exact filed_values WholeSeconds "ann" (twoConversations bobSeconds eveSeconds) eve

theorem rows_ordered_by_second_apart :
    SecondsApart (twoConversations 100 200) ∧
      ∀ (first second : List Message) (one two : ChatsList), first.Perm (twoConversations 100 200).values →
        second.Perm (twoConversations 100 200).values → (twoConversations 100 200).handleReloadData first = .ok one →
        (twoConversations 100 200).handleReloadData second = .ok two → one.messages = two.messages := by
  have timed : ∀ message ∈ (twoConversations 100 200).values, Timed message := fun message member =>
    whole_seconds_timed message (two_conversations_whole 100 200 (by decide) (by decide) message member)
  have apart : SecondsApart (twoConversations 100 200) := by
    unfold SecondsApart
    decide +kernel
  exact ⟨apart, (rows_ordered_by_second (twoConversations 100 200) timed).2.mpr apart⟩

-- The last messages of bob and eve are of one second, and the dictionary is
-- enumerated one way and the other.
theorem tied_rows_swap :
    ¬ ∀ (list : ChatsList) (first second : List Message) (one two : ChatsList),
      (∀ message ∈ list.values, WholeSeconds message) → first.Perm list.values → second.Perm list.values →
      list.handleReloadData first = .ok one → list.handleReloadData second = .ok two → one.messages = two.messages := by
  intro all
  have same := all (twoConversations 100 100) (twoConversations 100 100).values (twoConversations 100 100).values.reverse
    _ _ (two_conversations_whole 100 100 (by decide) (by decide)) (List.Perm.refl _) (List.reverse_perm _) rfl rfl
  exact absurd same (by decide +kernel)

-- From any reachable state without a pending timer, a further reload of the
-- same conversations keeps the second of each row, and the rows if no two share one.
theorem reload_keeps_rows (uid : Uid) (acts : List TableAct) (s : Table) (out : List TableOut)
    (timed : ∀ act ∈ acts, act.Brings Timed)
    (ran : (Table.machine (some uid)).run Table.start acts = some (s, out)) (idle : s.list.timer ≠ some ⟨true⟩)
    (again next : ChatsList) (values : List Message) (unchanged : again.messageDict = s.list.messageDict)
    (same : values.Perm again.values) (sorted : again.handleReloadData values = .ok next) :
    next.messages.map ChatsList.timeOf = s.list.messages.map ChatsList.timeOf ∧
      (SecondsApart s.list → next.messages = s.list.messages) := by
  have debounced := debounced_run Timed uid (fun _ here => here) acts s out timed ran
  have shown := debounced.shown.resolve_left idle
  have contents : again.values = s.list.values := by rw [ChatsList.values, unchanged, ChatsList.values]
  rw [contents] at same
  have known : ∀ message ∈ again.values, Timed message := by
    rw [contents]
    exact filed_values Timed uid s.list debounced.filed
  have result := (handle_reload_data_sorts again values known (contents ▸ same)).symm.trans sorted
  obtain rfl := Except.ok.inj result
  have rows := (Sorting.by_key_perm ChatsList.timeOf values).trans (same.trans shown.all.symm)
  have ordered := Sorting.by_key_sorted ChatsList.timeOf values
  refine ⟨Sorting.sorted_keys ChatsList.timeOf _ _ ordered shown.sorted rows, fun apart => ?_⟩
  refine Sorting.sorted_eq_of_injective ChatsList.timeOf _ _ ordered shown.sorted rows ?_
  intro m1 member1 m2 member2
  exact apart m1 (shown.all.mem_iff.mp member1) m2 (shown.all.mem_iff.mp member2)

def rowsLoaded : List TableAct :=
  [.fetched (some (textOf "bob" 100)), .fetched (some (textOf "eve" 200)), .timerFires (twoConversations 100 200).values]

theorem reload_keeps_rows_loaded :
    ∃ s out next, (Table.machine (some "ann")).run Table.start rowsLoaded = some (s, out) ∧
      s.list.handleReloadData s.list.values.reverse = .ok next ∧ next.messages = s.list.messages := by
  have timed (fromId : Uid) (seconds : Int) : ∀ dictionary ∈ some (textOf fromId seconds),
      Timed (Message.init dictionary) := by
    intro dictionary here
    obtain rfl := Option.some.inj here
    rw [Timed, textOf]
    exact sent_time_stamp "ann" fromId seconds (.text "hi") ▸ Option.some_ne_none _
  have brings : ∀ act ∈ rowsLoaded, act.Brings Timed := by
    intro act member
    simp only [rowsLoaded, List.mem_cons, List.not_mem_nil, or_false] at member
    rcases member with rfl | rfl | rfl
    · exact timed "bob" 100
    · exact timed "eve" 200
    · trivial
  have kept := reload_keeps_rows "ann" rowsLoaded _ _ brings rfl (by decide +kernel) _ _ _ rfl (List.reverse_perm _) rfl
  refine ⟨_, _, _, rfl, rfl, kept.2 ?_⟩
  unfold SecondsApart
  decide +kernel

end FirChat
