import FirChat.Network

set_option autoImplicit false

namespace FirChat

-- An index write exists only after the server has accepted its message.
def Known (seen : List Output) (me : ClientId) : Write → Prop
  | .message send => ∃ origin, .composed me send origin ∈ seen
  | .senderIndex send => (∃ origin, .composed me send origin ∈ seen) ∧ .decided me (.message send) true ∈ seen
  | .recipientIndex send => (∃ origin, .composed me send origin ∈ seen) ∧ .decided me (.message send) true ∈ seen
  | .remove _ _ => True

def Write.posted : Write → Option Send
  | .message send => some send
  | .senderIndex _ => none
  | .recipientIndex _ => none
  | .remove _ _ => none

def Output.inert : Output → Bool
  | .composed _ _ _ => false
  | .issued _ _ => true
  | .decided _ _ _ => false
  | .alerted _ _ => true

def Backed (seen : List Output) (entry : Entry) : Prop :=
  ∃ me send, .decided me (.message send) true ∈ seen ∧ (entry = send.senderEntry ∨ entry = send.recipientEntry)

structure Ledger (s : System) (seen : List Output) : Prop where
  keys : ∀ me send origin, .composed me send origin ∈ seen → send.id ∈ s.keys
  once : ∀ me send origin me' send' origin', .composed me send origin ∈ seen → .composed me' send' origin' ∈ seen →
    send.id = send'.id → me = me' ∧ send = send'
  values : ∀ me send origin, .composed me send origin ∈ seen →
    ∃ (payload : Payload) (seconds : Int), send.values = messageValues send.toId send.fromId seconds payload.properties
  outbox : ∀ me, ∀ write ∈ (s.clients me).outbox, Known seen me write
  decided : ∀ me write accepted, .decided me write accepted ∈ seen → Known seen me write
  completions : ∀ me send accepted, .message send accepted ∈ (s.clients me).completions →
    .decided me (.message send) accepted ∈ seen
  waiting : ∀ me send accepted, .message send ∈ (s.clients me).outbox → .decided me (.message send) accepted ∉ seen
  distinct : ∀ me, ((s.clients me).outbox.filterMap Write.posted).Nodup
  stored : ∀ id record, s.db.messages.lookup id = some record ↔
    ∃ me send, .decided me (.message send) true ∈ seen ∧ send.id = id ∧ record = send.values
  indexed : ∀ entry ∈ s.db.index, ∃ me send,
    (.decided me (.senderIndex send) true ∈ seen ∧ entry = send.senderEntry) ∨
      (.decided me (.recipientIndex send) true ∈ seen ∧ entry = send.recipientEntry)
  reads : ∀ me, ∀ entry ∈ (s.clients me).reads, Backed seen entry

theorem mem_posted (writes : List Write) (send : Send) :
    send ∈ writes.filterMap Write.posted ↔ .message send ∈ writes := by
  rw [List.mem_filterMap]
  constructor
  · intro given
    obtain ⟨write, member, posted⟩ := given
    cases write <;> simp only [Write.posted, Option.some.injEq, reduceCtorEq] at posted
    exact posted ▸ member
  · exact fun member => ⟨_, member, rfl⟩

theorem known_mono (seen out : List Output) (me : ClientId) (write : Write) (known : Known seen me write) :
    Known (seen ++ out) me write := by
  have grow (output : Output) (member : output ∈ seen) : output ∈ seen ++ out := List.mem_append_left out member
  cases write with
  | message send => exact known.imp fun origin member => grow _ member
  | senderIndex send => exact ⟨known.1.imp fun origin member => grow _ member, grow _ known.2⟩
  | recipientIndex send => exact ⟨known.1.imp fun origin member => grow _ member, grow _ known.2⟩
  | remove owner partner => trivial

theorem backed_mono (seen out : List Output) (entry : Entry) (backed : Backed seen entry) :
    Backed (seen ++ out) entry := by
  obtain ⟨me, send, decided, shape⟩ := backed
  exact ⟨me, send, List.mem_append_left out decided, shape⟩

theorem inert_composed (seen out : List Output) (me : ClientId) (send : Send) (origin : Origin)
    (inert : ∀ output ∈ out, output.inert = true) :
    .composed me send origin ∈ seen ++ out ↔ .composed me send origin ∈ seen := by
  rw [List.mem_append]
  exact ⟨fun member => member.resolve_right (fun later => by cases inert _ later), Or.inl⟩

theorem inert_decided (seen out : List Output) (me : ClientId) (write : Write) (accepted : Bool)
    (inert : ∀ output ∈ out, output.inert = true) :
    .decided me write accepted ∈ seen ++ out ↔ .decided me write accepted ∈ seen := by
  rw [List.mem_append]
  exact ⟨fun member => member.resolve_right (fun later => by cases inert _ later), Or.inl⟩

theorem ledger_initial : Ledger System.initial [] where
  keys := by simp
  once := by simp
  values := by simp
  outbox := by simp [System.initial]
  decided := by simp
  completions := by simp [System.initial]
  waiting := by simp
  distinct := by simp [System.initial]
  stored := by simp [System.initial, Database.empty]
  indexed := by simp [System.initial, Database.empty]
  reads := by simp [System.initial]

theorem view_index (writes : List Write) (db : Database) (entry : Entry)
    (visible : entry ∈ (writes.foldl Database.apply db).index) :
    entry ∈ db.index ∨ ∃ send, (.senderIndex send ∈ writes ∧ entry = send.senderEntry) ∨
      (.recipientIndex send ∈ writes ∧ entry = send.recipientEntry) := by
  induction writes generalizing db with
  | nil => exact Or.inl visible
  | cons write tail ih =>
      rcases ih (db.apply write) visible with here | ⟨send, later⟩
      · cases write with
        | message send => exact Or.inl here
        | senderIndex send =>
            rcases (mem_add _ _ _).mp here with old | fresh
            · exact Or.inl old
            · exact Or.inr ⟨send, Or.inl ⟨List.mem_cons_self, fresh⟩⟩
        | recipientIndex send =>
            rcases (mem_add _ _ _).mp here with old | fresh
            · exact Or.inl old
            · exact Or.inr ⟨send, Or.inr ⟨List.mem_cons_self, fresh⟩⟩
        | remove owner partner => exact Or.inl ((mem_remove _ _ _ _).mp here).1
      · refine Or.inr ⟨send, later.imp (fun found => ?_) (fun found => ?_)⟩
        · exact ⟨List.mem_cons_of_mem write found.1, found.2⟩
        · exact ⟨List.mem_cons_of_mem write found.1, found.2⟩

theorem ledger_backed_index (s : System) (seen : List Output) (ledger : Ledger s seen) (entry : Entry)
    (member : entry ∈ s.db.index) : Backed seen entry := by
  obtain ⟨me, send, sender | recipient⟩ := ledger.indexed entry member
  · exact ⟨me, send, (ledger.decided me _ true sender.1).2, Or.inl sender.2⟩
  · exact ⟨me, send, (ledger.decided me _ true recipient.1).2, Or.inr recipient.2⟩

theorem ledger_backed_view (s : System) (seen : List Output) (ledger : Ledger s seen) (me : ClientId) (entry : Entry)
    (visible : entry ∈ ((s.clients me).view s.db).index) : Backed seen entry := by
  rcases view_index (s.clients me).outbox s.db entry visible with stored | ⟨send, sender | recipient⟩
  · exact ledger_backed_index s seen ledger entry stored
  · exact ⟨me, send, (ledger.outbox me _ sender.1).2, Or.inl sender.2⟩
  · exact ⟨me, send, (ledger.outbox me _ recipient.1).2, Or.inr recipient.2⟩

theorem ledger_inert (s : System) (seen out : List Output) (ledger : Ledger s seen) (me : ClientId) (client : Client)
    (keys : List MsgId) (kept : ∀ key ∈ s.keys, key ∈ keys) (inert : ∀ output ∈ out, output.inert = true)
    (outbox : ∀ write ∈ client.outbox, write ∈ (s.clients me).outbox ∨ Known seen me write)
    (posted : client.outbox.filterMap Write.posted = (s.clients me).outbox.filterMap Write.posted)
    (completions : ∀ completion ∈ client.completions, completion ∈ (s.clients me).completions)
    (reads : ∀ entry ∈ client.reads, Backed seen entry) :
    Ledger ⟨s.db, keys, Function.update s.clients me client⟩ (seen ++ out) := by
  have same_posted (other : ClientId) :
      (Function.update s.clients me client other).outbox.filterMap Write.posted =
        (s.clients other).outbox.filterMap Write.posted := by
    by_cases same : other = me
    · subst other
      simpa only [Function.update_self] using posted
    · rw [Function.update_of_ne same]
  constructor
  · intro other send origin member
    exact kept _ (ledger.keys other send origin ((inert_composed seen out other send origin inert).mp member))
  · intro a send origin b send' origin' left right
    rw [inert_composed seen out _ _ _ inert] at left right
    exact ledger.once a send origin b send' origin' left right
  · intro other send origin member
    rw [inert_composed seen out _ _ _ inert] at member
    exact ledger.values other send origin member
  · refine (Function.forall_update_iff s.clients (p := fun other c => ∀ write ∈ c.outbox, Known _ other write)).mpr
      ⟨fun write member => ?_, fun other _ write member => known_mono seen out other write (ledger.outbox other write member)⟩
    exact known_mono seen out me write ((outbox write member).elim (ledger.outbox me write) id)
  · intro other write accepted member
    rw [inert_decided seen out _ _ _ inert] at member
    exact known_mono seen out other write (ledger.decided other write accepted member)
  · refine (Function.forall_update_iff s.clients (p := fun other c => ∀ send accepted,
      .message send accepted ∈ c.completions → .decided other (.message send) accepted ∈ seen ++ out)).mpr
      ⟨fun send accepted member => ?_, fun other _ send accepted member => ?_⟩
    · exact List.mem_append_left out (ledger.completions me send accepted (completions _ member))
    · exact List.mem_append_left out (ledger.completions other send accepted member)
  · intro other send accepted member
    rw [inert_decided seen out _ _ _ inert]
    apply ledger.waiting other send accepted
    rwa [← mem_posted, ← same_posted other, mem_posted]
  · intro other
    rw [same_posted other]
    exact ledger.distinct other
  · intro id record
    simp only [inert_decided seen out _ _ _ inert]
    exact ledger.stored id record
  · intro entry member
    obtain ⟨other, send, shape⟩ := ledger.indexed entry member
    exact ⟨other, send, by simpa only [inert_decided seen out _ _ _ inert] using shape⟩
  · exact (Function.forall_update_iff s.clients (p := fun _ c => ∀ entry ∈ c.reads, Backed (seen ++ out) entry)).mpr
      ⟨fun entry member => backed_mono seen out entry (reads entry member),
        fun other _ entry member => backed_mono seen out entry (ledger.reads other entry member)⟩

-- A fresh key keeps the new message apart from everything composed before.
theorem ledger_post (s : System) (seen : List Output) (ledger : Ledger s seen) (me : ClientId) (client : Client)
    (keys : List MsgId) (kept : ∀ key ∈ s.keys, key ∈ keys) (send : Send) (origin : Origin) (payload : Payload)
    (seconds : Int) (taken : send.id ∈ keys) (fresh : send.id ∉ s.keys)
    (values : send.values = messageValues send.toId send.fromId seconds payload.properties)
    (outbox : client.outbox = (s.clients me).outbox ++ [.message send])
    (completions : client.completions = (s.clients me).completions) (reads : client.reads = (s.clients me).reads) :
    Ledger ⟨s.db, keys, Function.update s.clients me client⟩ (seen ++ [.composed me send origin]) := by
  have unseen (other : ClientId) (start : Origin) : .composed other send start ∉ seen := fun member =>
    fresh (ledger.keys other send start member)
  have absent : .message send ∉ (s.clients me).outbox := fun member =>
    (ledger.outbox me _ member).elim fun start composed => unseen me start composed
  have same_decided (other : ClientId) (write : Write) (accepted : Bool) :
      .decided other write accepted ∈ seen ++ [.composed me send origin] ↔ .decided other write accepted ∈ seen := by
    simp
  constructor
  · intro other sent start member
    rcases List.mem_append.mp member with old | new
    · exact kept _ (ledger.keys other sent start old)
    · cases List.mem_singleton.mp new
      exact taken
  · intro a first start b second start' left right same
    rcases List.mem_append.mp left with oldLeft | newLeft
    · rcases List.mem_append.mp right with oldRight | newRight
      · exact ledger.once a first start b second start' oldLeft oldRight same
      · cases List.mem_singleton.mp newRight
        exact absurd (same ▸ ledger.keys a first start oldLeft) fresh
    · cases List.mem_singleton.mp newLeft
      rcases List.mem_append.mp right with oldRight | newRight
      · exact absurd (same ▸ ledger.keys b second start' oldRight) fresh
      · cases List.mem_singleton.mp newRight
        exact ⟨rfl, rfl⟩
  · intro other sent start member
    rcases List.mem_append.mp member with old | new
    · exact ledger.values other sent start old
    · cases List.mem_singleton.mp new
      exact ⟨payload, seconds, values⟩
  · refine (Function.forall_update_iff s.clients (p := fun other c => ∀ write ∈ c.outbox, Known _ other write)).mpr
      ⟨fun write member => ?_, fun other _ write member => known_mono seen _ other write (ledger.outbox other write member)⟩
    rw [outbox] at member
    rcases List.mem_append.mp member with old | new
    · exact known_mono seen _ me write (ledger.outbox me write old)
    · cases List.mem_singleton.mp new
      exact ⟨origin, by simp⟩
  · intro other write accepted member
    exact known_mono seen _ other write (ledger.decided other write accepted ((same_decided _ _ _).mp member))
  · refine (Function.forall_update_iff s.clients (p := fun other c => ∀ sent accepted,
      .message sent accepted ∈ c.completions → .decided other (.message sent) accepted ∈ seen ++ _)).mpr
      ⟨fun sent accepted member => ?_, fun other _ sent accepted member => ?_⟩
    · exact (same_decided _ _ _).mpr (ledger.completions me sent accepted (completions ▸ member))
    · exact (same_decided _ _ _).mpr (ledger.completions other sent accepted member)
  · refine (Function.forall_update_iff s.clients (p := fun other c => ∀ sent accepted,
      .message sent ∈ c.outbox → .decided other (.message sent) accepted ∉ seen ++ _)).mpr
      ⟨fun sent accepted member => ?_, fun other _ sent accepted member => ?_⟩
    · rw [same_decided]
      rw [outbox] at member
      rcases List.mem_append.mp member with old | new
      · exact ledger.waiting me sent accepted old
      · cases List.mem_singleton.mp new
        intro known
        exact (ledger.decided me _ accepted known).elim fun start composed => unseen me start composed
    · rw [same_decided]
      exact ledger.waiting other sent accepted member
  · refine (Function.forall_update_iff s.clients (p := fun _ c => (c.outbox.filterMap Write.posted).Nodup)).mpr
      ⟨?_, fun other _ => ledger.distinct other⟩
    rw [outbox, List.filterMap_append]
    refine List.Nodup.append (ledger.distinct me) (List.nodup_singleton send) ?_
    intro other old new
    obtain rfl : other = send := List.mem_singleton.mp new
    exact absent ((mem_posted _ _).mp old)
  · intro id record
    simp only [same_decided]
    exact ledger.stored id record
  · intro entry member
    obtain ⟨other, sent, shape⟩ := ledger.indexed entry member
    exact ⟨other, sent, by simpa only [same_decided] using shape⟩
  · refine (Function.forall_update_iff s.clients (p := fun _ c => ∀ entry ∈ c.reads, Backed (seen ++ _) entry)).mpr
      ⟨fun entry member => backed_mono seen _ entry (ledger.reads me entry (reads ▸ member)),
        fun other _ entry member => backed_mono seen _ entry (ledger.reads other entry member)⟩

theorem decided_once (writes : List Write) (k : Nat) (send : Send) (here : writes[k]? = some (.message send))
    (distinct : (writes.filterMap Write.posted).Nodup) : .message send ∉ writes.eraseIdx k := by
  obtain ⟨bound, value⟩ := List.getElem?_eq_some_iff.mp here
  have perm := (List.getElem_cons_eraseIdx_perm bound).filterMap Write.posted
  rw [value] at perm
  have split := perm.nodup_iff.mpr distinct
  change (send :: (writes.eraseIdx k).filterMap Write.posted).Nodup at split
  rw [List.nodup_cons, mem_posted] at split
  exact split.1

theorem undecided_not_stored (s : System) (seen : List Output) (ledger : Ledger s seen) (me : ClientId) (send : Send)
    (member : .message send ∈ (s.clients me).outbox) : s.db.messages.lookup send.id = none := by
  cases found : s.db.messages.lookup send.id with
  | none => rfl
  | some record =>
      obtain ⟨other, stored, decided, same, _⟩ := (ledger.stored send.id record).mp found
      obtain ⟨origin, composed⟩ := ledger.outbox me _ member
      obtain ⟨origin', composed'⟩ := ledger.decided other _ true decided
      obtain ⟨rfl, rfl⟩ := ledger.once other stored origin' me send origin composed' composed same
      exact absurd decided (ledger.waiting other stored true member)

theorem stored_verdict (s : System) (seen : List Output) (ledger : Ledger s seen) (me : ClientId) (accepted : Bool)
    (write : Write) (member : write ∈ (s.clients me).outbox) (id : MsgId) (record : Dictionary) :
    (if accepted then s.db.apply write else s.db).messages.lookup id = some record ↔
      ∃ other send, .decided other (.message send) true ∈ seen ++ [.decided me write accepted] ∧ send.id = id ∧
        record = send.values := by
  by_cases landed : accepted = true ∧ ∃ send, write = .message send
  · obtain ⟨rfl, send, rfl⟩ := landed
    have fresh := undecided_not_stored s seen ledger me send member
    rw [if_pos rfl, apply_message_fresh s.db send fresh id]
    constructor
    · intro found
      split at found
      · rename_i same
        exact ⟨me, send, by simp, same.symm, (Option.some.inj found).symm⟩
      · obtain ⟨other, sent, decided, shape⟩ := (ledger.stored id record).mp found
        exact ⟨other, sent, List.mem_append_left _ decided, shape⟩
    · intro given
      obtain ⟨other, sent, decided, rfl, rfl⟩ := given
      rcases List.mem_append.mp decided with old | now
      · have found := (ledger.stored sent.id sent.values).mpr ⟨other, sent, old, rfl, rfl⟩
        have different : sent.id ≠ send.id := by
          intro same
          rw [same, fresh] at found
          cases found
        rw [if_neg different, found]
      · cases List.mem_singleton.mp now
        rw [if_pos rfl]
  · have messages : (if accepted then s.db.apply write else s.db).messages = s.db.messages := by
      cases accepted with
      | false => rfl
      | true => exact apply_keeps_messages s.db write (fun send same => landed ⟨rfl, send, same⟩)
    have same_decided (other : ClientId) (send : Send) :
        .decided other (.message send) true ∈ seen ++ [.decided me write accepted] ↔
          .decided other (.message send) true ∈ seen := by
      rw [List.mem_append]
      refine ⟨fun decided => decided.resolve_right fun now => ?_, Or.inl⟩
      cases List.mem_singleton.mp now
      exact landed ⟨rfl, send, rfl⟩
    simp only [messages, same_decided]
    exact ledger.stored id record

theorem indexed_verdict (s : System) (seen : List Output) (ledger : Ledger s seen) (me : ClientId) (accepted : Bool)
    (write : Write) (entry : Entry) (member : entry ∈ (if accepted then s.db.apply write else s.db).index) :
    ∃ other send,
      (.decided other (.senderIndex send) true ∈ seen ++ [.decided me write accepted] ∧ entry = send.senderEntry) ∨
        (.decided other (.recipientIndex send) true ∈ seen ++ [.decided me write accepted] ∧
          entry = send.recipientEntry) := by
  have earlier (old : entry ∈ s.db.index) : ∃ other send,
      (.decided other (.senderIndex send) true ∈ seen ++ [.decided me write accepted] ∧ entry = send.senderEntry) ∨
        (.decided other (.recipientIndex send) true ∈ seen ++ [.decided me write accepted] ∧
          entry = send.recipientEntry) := by
    obtain ⟨other, send, shape⟩ := ledger.indexed entry old
    exact ⟨other, send, shape.imp (And.imp_left (List.mem_append_left _)) (And.imp_left (List.mem_append_left _))⟩
  cases accepted with
  | false => exact earlier member
  | true =>
      cases write with
      | message send => exact earlier member
      | senderIndex send =>
          rcases (mem_add _ _ _).mp member with old | now
          · exact earlier old
          · exact ⟨me, send, Or.inl ⟨by simp, now⟩⟩
      | recipientIndex send =>
          rcases (mem_add _ _ _).mp member with old | now
          · exact earlier old
          · exact ⟨me, send, Or.inr ⟨by simp, now⟩⟩
      | remove owner partner => exact earlier ((mem_remove _ _ _ _).mp member).1

theorem ledger_verdict (s : System) (seen : List Output) (ledger : Ledger s seen) (me : ClientId) (k : Nat)
    (accepted : Bool) (write : Write) (waiting : (s.clients me).outbox[k]? = some write) :
    Ledger ⟨if accepted then s.db.apply write else s.db, s.keys,
      Function.update s.clients me ((s.clients me).decided k write accepted)⟩ (seen ++ [.decided me write accepted]) := by
  have member : write ∈ (s.clients me).outbox := List.mem_of_getElem? waiting
  have grow (output : Output) (old : output ∈ seen) : output ∈ seen ++ [.decided me write accepted] :=
    List.mem_append_left _ old
  have same_composed (other : ClientId) (send : Send) (origin : Origin) :
      .composed other send origin ∈ seen ++ [.decided me write accepted] ↔ .composed other send origin ∈ seen := by simp
  constructor
  · intro other send origin composed
    exact ledger.keys other send origin ((same_composed _ _ _).mp composed)
  · intro a send origin b send' origin' left right
    exact ledger.once a send origin b send' origin' ((same_composed _ _ _).mp left) ((same_composed _ _ _).mp right)
  · intro other send origin composed
    exact ledger.values other send origin ((same_composed _ _ _).mp composed)
  · exact (Function.forall_update_iff s.clients (p := fun other c => ∀ write ∈ c.outbox, Known _ other write)).mpr
      ⟨fun other kept => known_mono seen _ me other (ledger.outbox me other (List.mem_of_mem_eraseIdx kept)),
        fun other _ write kept => known_mono seen _ other write (ledger.outbox other write kept)⟩
  · intro other decided verdict old
    rcases List.mem_append.mp old with before | now
    · exact known_mono seen _ other decided (ledger.decided other decided verdict before)
    · cases List.mem_singleton.mp now
      exact known_mono seen _ me write (ledger.outbox me write member)
  · refine (Function.forall_update_iff s.clients (p := fun other c => ∀ send verdict,
      .message send verdict ∈ c.completions → .decided other (.message send) verdict ∈ seen ++ _)).mpr
      ⟨fun send verdict ready => ?_, fun other _ send verdict ready => grow _ (ledger.completions other send verdict ready)⟩
    rcases List.mem_append.mp ready with old | new
    · exact grow _ (ledger.completions me send verdict old)
    · cases write <;> simp only [Write.completions, List.mem_singleton, List.not_mem_nil, reduceCtorEq,
        Completion.message.injEq] at new
      obtain ⟨rfl, rfl⟩ := new
      simp
  · refine (Function.forall_update_iff s.clients (p := fun other c => ∀ send verdict,
      .message send ∈ c.outbox → .decided other (.message send) verdict ∉ seen ++ _)).mpr
      ⟨fun send verdict kept decided => ?_, fun other different send verdict kept decided => ?_⟩
    · rcases List.mem_append.mp decided with old | now
      · exact ledger.waiting me send verdict (List.mem_of_mem_eraseIdx kept) old
      · cases List.mem_singleton.mp now
        exact decided_once _ k send waiting (ledger.distinct me) kept
    · rcases List.mem_append.mp decided with old | now
      · exact ledger.waiting other send verdict kept old
      · cases List.mem_singleton.mp now
        exact different rfl
  · exact (Function.forall_update_iff s.clients (p := fun _ c => (c.outbox.filterMap Write.posted).Nodup)).mpr
      ⟨((List.eraseIdx_sublist _ k).filterMap Write.posted).nodup (ledger.distinct me),
        fun other _ => ledger.distinct other⟩
  · exact fun id record => stored_verdict s seen ledger me accepted write member id record
  · exact fun entry found => indexed_verdict s seen ledger me accepted write entry found
  · exact (Function.forall_update_iff s.clients (p := fun _ c => ∀ entry ∈ c.reads, Backed (seen ++ _) entry)).mpr
      ⟨fun entry read => backed_mono seen _ entry (ledger.reads me entry read),
        fun other _ entry read => backed_mono seen _ entry (ledger.reads other entry read)⟩

theorem ledger_step (s : System) (seen : List Output) (action : Action) (next : System) (out : List Output)
    (ledger : Ledger s seen) (stepped : System.machine.step s action = some (next, out)) :
    Ledger next (seen ++ out) := by
  obtain ⟨me, act, client, rfl, _, fresh, acted, rfl⟩ | ⟨me, k, accepted, write, rfl, waiting, rfl, rfl⟩ :=
    system_step_cases s next action out stepped
  · have kept : ∀ key ∈ s.keys, key ∈ act.childRef.toList ++ s.keys := fun key old => List.mem_append_right _ old
    cases act_effect me s.db act (s.clients me) client out acted with
    | quiet _ outbox completions reads silent =>
        refine ledger_inert s seen out ledger me client _ kept (fun output member => silent output member ▸ rfl)
          (fun write member => Or.inl (outbox ▸ member)) (by rw [outbox]) (fun done member => completions ▸ member) ?_
        exact fun entry member => (reads entry member).elim (ledger.reads me entry)
          (ledger_backed_view s seen ledger me entry)
    | post send origin payload seconds key _ values outbox completions reads =>
        exact ledger_post s seen ledger me client _ kept send origin payload seconds (by simp [key])
          (fresh send.id key) values outbox completions reads
    | remove owner partner _ outbox completions reads =>
        refine ledger_inert s seen _ ledger me client _ kept (by simp [Output.inert]) (fun write member => ?_)
          (by simp [outbox, Write.posted]) (fun done member => completions ▸ member)
          (fun entry member => ledger.reads me entry (reads ▸ member))
        rw [outbox] at member
        rcases List.mem_append.mp member with old | new
        · exact Or.inl old
        · cases List.mem_singleton.mp new
          exact Or.inr trivial
    | finished k send ready outbox completions reads =>
        have decided := ledger.completions me send true (List.mem_of_getElem? ready)
        have known := ledger.decided me _ true decided
        refine ledger_inert s seen _ ledger me client _ kept (by simp [Output.inert]) (fun write member => ?_)
          (by simp [outbox, Write.posted]) (fun done member => List.mem_of_mem_eraseIdx (completions ▸ member))
          (fun entry member => ledger.reads me entry (reads ▸ member))
        rw [outbox] at member
        rcases List.mem_append.mp member with old | new
        · exact Or.inl old
        · simp only [List.mem_cons, List.not_mem_nil, or_false] at new
          rcases new with rfl | rfl <;> exact Or.inr ⟨known, decided⟩
    | rejected k send ready outbox completions reads =>
        exact ledger_inert s seen _ ledger me client _ kept (by simp [Output.inert])
          (fun write member => Or.inl (outbox ▸ member)) (by rw [outbox])
          (fun done member => List.mem_of_mem_eraseIdx (completions ▸ member))
          (fun entry member => ledger.reads me entry (reads ▸ member))
    | removed k partner accepted _ ready outbox completions reads silent =>
        exact ledger_inert s seen out ledger me client _ kept (fun output member => silent output member ▸ rfl)
          (fun write member => Or.inl (outbox ▸ member)) (by rw [outbox])
          (fun done member => List.mem_of_mem_eraseIdx (completions ▸ member))
          (fun entry member => ledger.reads me entry (reads ▸ member))
  · exact ledger_verdict s seen ledger me k accepted write waiting

theorem ledger_run (actions : List Action) (s : System) (out : List Output)
    (ran : System.machine.run System.initial actions = some (s, out)) : Ledger s out :=
  Machine.run_history System.machine Ledger ledger_step actions System.initial s out ledger_initial ran

end FirChat
