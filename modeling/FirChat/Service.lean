import FirChat.Composer
import Mathlib.Data.List.Induction

set_option autoImplicit false

namespace FirChat

inductive Operation where
  | send (fromId toId : Uid) (id : MsgId)
  | delete (owner partner : Uid)
deriving DecidableEq

-- What the three writes are for: a chat service that keeps, for every owner
-- and partner, a set of message ids, and does every operation in one step.
abbrev ChatService := Uid → Uid → Set MsgId

namespace ChatService

def empty : ChatService := fun _ _ => ∅

def perform (service : ChatService) : Operation → ChatService
  | .send fromId toId id => fun u v => {other | other ∈ service u v ∨ (other = id ∧ Participants fromId toId u v)}
  | .delete owner partner => fun u v => {other | other ∈ service u v ∧ ¬ (u = owner ∧ v = partner)}

def after (operations : List Operation) : ChatService := operations.foldl perform empty

end ChatService

def Send.operation (send : Send) : Operation := .send send.fromId send.toId send.id

-- The operation an output takes effect with: a send where its recipient-side
-- index write is applied, a delete where its removal is.
def Output.linearized : Output → Option Operation
  | .decided _ (.recipientIndex send) true => some send.operation
  | .decided _ (.remove owner partner) true => some (.delete owner partner)
  | _ => none

def Output.requested : Output → Option Operation
  | .composed _ send _ => some send.operation
  | .issued _ (.remove owner partner) => some (.delete owner partner)
  | _ => none

def Output.client : Output → ClientId
  | .composed client _ _ => client
  | .issued client _ => client
  | .decided client _ _ => client
  | .alerted client _ => client

def linearized (out : List Output) : List Operation := out.filterMap Output.linearized

def requested (out : List Output) : List Operation := out.filterMap Output.requested

def outputsOf (me : ClientId) (out : List Output) : List Output := out.filter (fun output => output.client == me)

-- Every user has one client, no write is rejected, and the server takes the
-- writes of a client in the order in which the client issued them.
def Action.Served (home : Uid → ClientId) : Action → Prop
  | .client me (.signIn uid) => home uid = me
  | .client _ _ => True
  | .verdict _ k accepted => k = 0 ∧ accepted = true

-- Every write is applied, also those that a completion block has still to issue.
def Settled (s : System) : Prop :=
  ∀ me, (s.clients me).outbox = [] ∧ ∀ send, .message send true ∉ (s.clients me).completions

def Write.issuer : Write → Uid
  | .message send => send.fromId
  | .senderIndex send => send.fromId
  | .recipientIndex send => send.fromId
  | .remove owner _ => owner

def Write.operation : Write → Option Operation
  | .message send => some send.operation
  | .senderIndex _ => none
  | .recipientIndex send => some send.operation
  | .remove owner partner => some (.delete owner partner)

def Completion.operation : Completion → Option Operation
  | .message send true => some send.operation
  | .message _ false => none
  | .removed _ _ => none

namespace Client

def pending (client : Client) : List Operation :=
  client.outbox.filterMap Write.operation ++ client.completions.filterMap Completion.operation

end Client

def Paired : List Write → Prop
  | [] => True
  | .message _ :: rest => Paired rest
  | .remove _ _ :: rest => Paired rest
  | .senderIndex send :: .recipientIndex sent :: rest => send = sent ∧ Paired rest
  | _ => False

def halfDone : List Write → Option Send
  | .recipientIndex send :: _ => some send
  | _ => none

def InOrder : List Write → Prop
  | .recipientIndex _ :: rest => Paired rest
  | writes => Paired writes

def Half (s : System) (entry : Entry) : Prop :=
  ∃ me send, halfDone (s.clients me).outbox = some send ∧ entry = send.senderEntry

theorem paired_append (front back : List Write) (first : Paired front) (second : Paired back) : Paired (front ++ back) := by
  fun_induction Paired front with
  | case1 => exact second
  | case2 send rest ih => exact ih first
  | case3 owner partner rest ih => exact ih first
  | case4 send sent rest ih => exact ⟨first.1, ih first.2⟩
  | case5 => exact first.elim

theorem paired_half_done (writes : List Write) (paired : Paired writes) : halfDone writes = none := by
  unfold halfDone
  split
  · exact paired.elim
  · rfl

theorem half_done_append (writes more : List Write) (paired : Paired more) :
    halfDone (writes ++ more) = halfDone writes := by
  cases writes with
  | nil => exact paired_half_done more paired
  | cons write rest => cases write <;> rfl

theorem half_done_mem (writes : List Write) (send : Send) (half : halfDone writes = some send) :
    .recipientIndex send ∈ writes := by
  unfold halfDone at half
  split at half
  · cases half
    exact List.mem_cons_self
  · cases half

theorem paired_in_order (writes : List Write) (paired : Paired writes) : InOrder writes := by
  unfold InOrder
  split
  · exact paired.elim
  · exact paired

theorem in_order_append (writes more : List Write) (ordered : InOrder writes) (paired : Paired more) :
    InOrder (writes ++ more) := by
  unfold InOrder at ordered
  split at ordered
  · exact paired_append _ more ordered paired
  · exact paired_in_order _ (paired_append writes more ordered paired)

theorem in_order_cases (write : Write) (rest : List Write) (ordered : InOrder (write :: rest)) :
    (∃ send, write = .senderIndex send ∧ halfDone rest = some send ∧ InOrder rest) ∨
      (Paired rest ∧ ((∃ send, write = .message send) ∨ (∃ send, write = .recipientIndex send) ∨
        ∃ owner partner, write = .remove owner partner)) := by
  cases write with
  | message send => exact Or.inr ⟨ordered, Or.inl ⟨send, rfl⟩⟩
  | recipientIndex send => exact Or.inr ⟨ordered, Or.inr (Or.inl ⟨send, rfl⟩)⟩
  | remove owner partner => exact Or.inr ⟨ordered, Or.inr (Or.inr ⟨owner, partner, rfl⟩)⟩
  | senderIndex send =>
      cases rest with
      | nil => exact ordered.elim
      | cons next tail =>
          cases next with
          | recipientIndex sent =>
              obtain ⟨rfl, paired⟩ := ordered
              exact Or.inl ⟨send, rfl, rfl, paired⟩
          | message sent => exact ordered.elim
          | senderIndex sent => exact ordered.elim
          | remove owner partner => exact ordered.elim

theorem participants_entry (send : Send) (entry : Entry) :
    (entry.id = send.id ∧ Participants send.fromId send.toId entry.owner entry.partner) ↔
      entry = send.senderEntry ∨ entry = send.recipientEntry := by
  obtain ⟨owner, partner, id⟩ := entry
  constructor
  · intro given
    rcases given with ⟨rfl, ⟨rfl, rfl⟩ | ⟨rfl, rfl⟩⟩
    · exact Or.inl rfl
    · exact Or.inr rfl
  · intro given
    rcases given with same | same <;> cases same
    · exact ⟨rfl, Or.inl ⟨rfl, rfl⟩⟩
    · exact ⟨rfl, Or.inr ⟨rfl, rfl⟩⟩

theorem half_update (s : System) (db : Database) (keys : List MsgId) (me : ClientId) (client : Client) (entry : Entry) :
    Half ⟨db, keys, Function.update s.clients me client⟩ entry ↔
      (∃ send, halfDone client.outbox = some send ∧ entry = send.senderEntry) ∨
        ∃ other send, other ≠ me ∧ halfDone (s.clients other).outbox = some send ∧ entry = send.senderEntry := by
  constructor
  · intro given
    obtain ⟨other, send, half, shape⟩ := given
    by_cases same : other = me
    · subst other
      exact Or.inl ⟨send, by simpa only [Function.update_self] using half, shape⟩
    · exact Or.inr ⟨other, send, same, by simpa only [Function.update_of_ne same] using half, shape⟩
  · intro given
    rcases given with ⟨send, half, shape⟩ | ⟨other, send, different, half, shape⟩
    · exact ⟨me, send, by simpa only [Function.update_self] using half, shape⟩
    · exact ⟨other, send, by simpa only [Function.update_of_ne different] using half, shape⟩

theorem half_split (s : System) (me : ClientId) (entry : Entry) :
    Half s entry ↔ (∃ send, halfDone (s.clients me).outbox = some send ∧ entry = send.senderEntry) ∨
      ∃ other send, other ≠ me ∧ halfDone (s.clients other).outbox = some send ∧ entry = send.senderEntry := by
  have split := half_update s s.db s.keys me (s.clients me) entry
  rwa [Function.update_eq_self] at split

theorem linearized_append (seen out : List Output) : linearized (seen ++ out) = linearized seen ++ linearized out :=
  List.filterMap_append

theorem requested_append (seen out : List Output) : requested (seen ++ out) = requested seen ++ requested out :=
  List.filterMap_append

theorem after_append (operations more : List Operation) :
    ChatService.after (operations ++ more) = more.foldl ChatService.perform (ChatService.after operations) :=
  List.foldl_append

theorem act_current_user (me : ClientId) (db : Database) (act : ClientAct) (client next : Client) (out : List Output)
    (acted : client.act me db act = some (next, out)) (uid : Uid) (signedIn : next.currentUser = some uid) :
    client.currentUser = some uid ∨ act = .signIn uid := by
  cases client_act_cases me db act client next out acted with
  | signedIn other => exact Or.inr (by rw [← Option.some.inj signedIn])
  | signedOut => cases signedIn
  | tapped chat text childRef seconds _ _ posted =>
      rcases post_cases _ _ _ _ _ _ _ _ _ _ posted with ⟨_, rfl, _⟩ | ⟨_, rfl, _⟩ <;> exact Or.inl signedIn
  | arrived k chat completion start imageUrl childRef seconds _ _ found posted =>
      rcases post_cases _ _ _ _ _ _ _ _ _ _ posted with ⟨_, rfl, _⟩ | ⟨_, rfl, _⟩ <;> exact Or.inl signedIn
  | _ => exact Or.inl signedIn

def Accounted (s : System) (seen : List Output) : Prop :=
  ∀ me operation, (requested (outputsOf me seen)).count operation =
    (linearized (outputsOf me seen)).count operation + (s.clients me).pending.count operation

structure Serving (home : Uid → ClientId) (s : System) (seen : List Output) : Prop where
  signedIn : ∀ me uid, (s.clients me).currentUser = some uid → home uid = me
  writes : ∀ me, ∀ write ∈ (s.clients me).outbox, home write.issuer = me
  completions : ∀ me send accepted, .message send accepted ∈ (s.clients me).completions → home send.fromId = me
  ordered : ∀ me, InOrder (s.clients me).outbox
  contents : ∀ entry, entry ∈ s.db.index ↔
    entry.id ∈ ChatService.after (linearized seen) entry.owner entry.partner ∨ Half s entry
  accounted : Accounted s seen

theorem outputs_of_own (me : ClientId) (seen out : List Output) (own : ∀ output ∈ out, output.client = me) :
    outputsOf me (seen ++ out) = outputsOf me seen ++ out := by
  have all : out.filter (fun output => output.client == me) = out :=
    List.filter_eq_self.mpr (fun output member => beq_iff_eq.mpr (own output member))
  simp only [outputsOf, List.filter_append, all]

theorem outputs_of_other (me other : ClientId) (seen out : List Output) (own : ∀ output ∈ out, output.client = me)
    (different : other ≠ me) : outputsOf other (seen ++ out) = outputsOf other seen := by
  have none : out.filter (fun output => output.client == other) = [] :=
    List.filter_eq_nil_iff.mpr (fun output member => by simp [own output member, Ne.symm different])
  simp only [outputsOf, List.filter_append, none, List.append_nil]

theorem accounted_step (s : System) (seen out : List Output) (db : Database) (keys : List MsgId) (me : ClientId)
    (client : Client) (accounted : Accounted s seen) (own : ∀ output ∈ out, output.client = me)
    (moved : ∀ operation, (requested out).count operation + (s.clients me).pending.count operation =
      (linearized out).count operation + client.pending.count operation) :
    Accounted ⟨db, keys, Function.update s.clients me client⟩ (seen ++ out) := by
  intro other operation
  have before := accounted other operation
  by_cases same : other = me
  · subst other
    have balance := moved operation
    simp only [outputs_of_own me seen out own, Function.update_self]
    rw [linearized_append, requested_append, List.count_append, List.count_append]
    omega
  · simpa only [outputs_of_other me other seen out own same, Function.update_of_ne same] using before

theorem completion_taken (completions : List Completion) (k : Nat) (completion : Completion) (operation : Operation)
    (ready : completions[k]? = some completion) :
    (completions.filterMap Completion.operation).count operation =
      completion.operation.toList.count operation +
        ((completions.eraseIdx k).filterMap Completion.operation).count operation := by
  obtain ⟨bound, rfl⟩ := List.getElem?_eq_some_iff.mp ready
  rw [← ((List.getElem_cons_eraseIdx_perm bound).filterMap Completion.operation).count_eq operation]
  cases named : completions[k].operation <;> simp [named, List.count_cons]
  exact Nat.add_comm _ _

theorem send_pending (send : Send) : [Write.message send].filterMap Write.operation = [send.operation] := rfl

theorem delete_pending (owner partner : Uid) :
    [Write.remove owner partner].filterMap Write.operation = [.delete owner partner] := rfl

theorem pair_pending (send : Send) :
    [Write.senderIndex send, .recipientIndex send].filterMap Write.operation = [send.operation] := rfl

structure Blocks (me : ClientId) (home : Uid → ClientId) (client next : Client) (out : List Output) : Prop where
  outbox : ∃ more, next.outbox = client.outbox ++ more ∧ Paired more ∧ ∀ write ∈ more, home write.issuer = me
  completions : ∀ completion ∈ next.completions, completion ∈ client.completions
  own : ∀ output ∈ out, output.client = me
  silent : linearized out = []
  moved : ∀ operation, (requested out).count operation + client.pending.count operation = next.pending.count operation

theorem effect_blocks (home : Uid → ClientId) (s : System) (seen : List Output) (serving : Serving home s seen)
    (me : ClientId) (act : ClientAct) (next : Client) (out : List Output)
    (effect : Effect me s.db act (s.clients me) next out) : Blocks me home (s.clients me) next out := by
  have quietly (alerts : ∀ output ∈ out, output = .alerted me none) :
      (∀ output ∈ out, output.client = me) ∧ linearized out = [] ∧ requested out = [] :=
    ⟨fun output member => alerts output member ▸ rfl,
      List.filterMap_eq_nil_iff.mpr fun output member => alerts output member ▸ rfl,
      List.filterMap_eq_nil_iff.mpr fun output member => alerts output member ▸ rfl⟩
  cases effect with
  | quiet _ outbox completions _ alerts =>
      obtain ⟨own, silent, none⟩ := quietly alerts
      exact ⟨⟨[], by simp [outbox], trivial, by simp⟩, fun _ member => completions ▸ member, own, silent,
        fun operation => by simp [none, Client.pending, outbox, completions]⟩
  | post send origin payload seconds _ sender _ outbox completions _ =>
      refine ⟨⟨[.message send], outbox, trivial, ?_⟩, fun _ member => completions ▸ member,
        by simp [Output.client], rfl, fun operation => ?_⟩
      · intro write member
        cases List.mem_singleton.mp member
        exact serving.signedIn me send.fromId sender
      · change [send.operation].count operation + _ = _
        simp only [Client.pending, outbox, completions, List.filterMap_append, List.count_append, send_pending]
        omega
  | remove owner partner signedIn outbox completions _ =>
      refine ⟨⟨[.remove owner partner], outbox, trivial, ?_⟩, fun _ member => completions ▸ member,
        by simp [Output.client], rfl, fun operation => ?_⟩
      · intro write member
        cases List.mem_singleton.mp member
        exact serving.signedIn me owner signedIn
      · change [Operation.delete owner partner].count operation + _ = _
        simp only [Client.pending, outbox, completions, List.filterMap_append, List.count_append, delete_pending]
        omega
  | finished k send ready outbox completions _ =>
      have owner := serving.completions me send true (List.mem_of_getElem? ready)
      refine ⟨⟨[.senderIndex send, .recipientIndex send], outbox, ⟨rfl, trivial⟩, ?_⟩,
        fun _ member => List.mem_of_mem_eraseIdx (completions ▸ member), by simp [Output.client], rfl,
        fun operation => ?_⟩
      · intro write member
        simp only [List.mem_cons, List.not_mem_nil, or_false] at member
        rcases member with rfl | rfl <;> exact owner
      · have taken := completion_taken _ k _ operation ready
        change _ = [send.operation].count operation + _ at taken
        change 0 + _ = _
        simp only [Client.pending, outbox, completions, List.filterMap_append, List.count_append, pair_pending]
        omega
  | rejected k send ready outbox completions _ =>
      refine ⟨⟨[], by simp [outbox], trivial, by simp⟩, fun _ member => List.mem_of_mem_eraseIdx (completions ▸ member),
        by simp [Output.client], rfl, fun operation => ?_⟩
      have taken := completion_taken _ k _ operation ready
      change _ = 0 + _ at taken
      change 0 + _ = _
      simp only [Client.pending, outbox, completions, List.count_append]
      omega
  | removed k partner accepted _ ready outbox completions _ alerts =>
      obtain ⟨own, silent, none⟩ := quietly alerts
      refine ⟨⟨[], by simp [outbox], trivial, by simp⟩, fun _ member => List.mem_of_mem_eraseIdx (completions ▸ member),
        own, silent, fun operation => ?_⟩
      have taken := completion_taken _ k _ operation ready
      change _ = 0 + _ at taken
      simp only [none, List.count_nil, Client.pending, outbox, completions, List.count_append]
      omega

theorem serving_client (home : Uid → ClientId) (s : System) (seen : List Output) (serving : Serving home s seen)
    (me : ClientId) (act : ClientAct) (client : Client) (out : List Output) (keys : List MsgId)
    (served : (Action.client me act).Served home) (acted : (s.clients me).act me s.db act = some (client, out)) :
    Serving home ⟨s.db, keys, Function.update s.clients me client⟩ (seen ++ out) := by
  have blocks := effect_blocks home s seen serving me act client out (act_effect me s.db act _ client out acted)
  obtain ⟨more, outbox, paired, issuers⟩ := blocks.outbox
  constructor
  · refine (Function.forall_update_iff s.clients (p := fun other c => ∀ uid, c.currentUser = some uid →
      home uid = other)).mpr ⟨fun uid signedIn => ?_, fun other _ => serving.signedIn other⟩
    rcases act_current_user me s.db act _ client out acted uid signedIn with before | rfl
    · exact serving.signedIn me uid before
    · exact served
  · refine (Function.forall_update_iff s.clients (p := fun other c => ∀ write ∈ c.outbox,
      home write.issuer = other)).mpr ⟨fun write member => ?_, fun other _ => serving.writes other⟩
    rw [outbox] at member
    exact (List.mem_append.mp member).elim (serving.writes me write) (issuers write)
  · exact (Function.forall_update_iff s.clients (p := fun other c => ∀ send accepted,
      .message send accepted ∈ c.completions → home send.fromId = other)).mpr
      ⟨fun send accepted member => serving.completions me send accepted (blocks.completions _ member),
        fun other _ => serving.completions other⟩
  · exact (Function.forall_update_iff s.clients (p := fun _ c => InOrder c.outbox)).mpr
      ⟨outbox ▸ in_order_append _ more (serving.ordered me) paired, fun other _ => serving.ordered other⟩
  · intro entry
    rw [linearized_append, blocks.silent, List.append_nil, half_update, outbox, half_done_append _ more paired,
      ← half_split s me entry]
    exact serving.contents entry
  · refine accounted_step s seen out s.db keys me client serving.accounted blocks.own (fun operation => ?_)
    rw [blocks.moved operation, blocks.silent, List.count_nil, Nat.zero_add]

theorem decided_pending (me : ClientId) (client : Client) (write : Write) (rest : List Write)
    (first : client.outbox = write :: rest) (operation : Operation) :
    client.pending.count operation =
      (linearized [.decided me write true]).count operation + (client.decided 0 write true).pending.count operation := by
  have taken : (client.outbox.filterMap Write.operation).count operation =
      write.operation.toList.count operation + (rest.filterMap Write.operation).count operation := by
    rw [first]
    cases named : write.operation <;> simp [named, List.count_cons]
    exact Nat.add_comm _ _
  have left : (client.decided 0 write true).outbox = rest := by simp [Client.decided, first]
  have added : ((client.decided 0 write true).completions.filterMap Completion.operation).count operation =
      (client.completions.filterMap Completion.operation).count operation +
        ((write.completions true).filterMap Completion.operation).count operation := by
    rw [Client.decided, List.filterMap_append, List.count_append]
  -- The operation stays in one place: on its way, or in the completion block, or done.
  have split : write.operation.toList.count operation = (linearized [.decided me write true]).count operation +
      ((write.completions true).filterMap Completion.operation).count operation := by
    cases write with
    | message send => exact (Nat.zero_add _).symm
    | senderIndex send => rfl
    | recipientIndex send => rfl
    | remove owner partner => rfl
  simp only [Client.pending, List.count_append, left, added, taken, split]
  omega

theorem serving_contents (home : Uid → ClientId) (s : System) (seen : List Output) (serving : Serving home s seen)
    (me : ClientId) (write : Write) (rest : List Write) (first : (s.clients me).outbox = write :: rest) (client : Client)
    (left : client.outbox = rest) (entry : Entry) :
    entry ∈ (s.db.apply write).index ↔
      entry.id ∈ ChatService.after (linearized (seen ++ [.decided me write true])) entry.owner entry.partner ∨
        Half ⟨s.db.apply write, s.keys, Function.update s.clients me client⟩ entry := by
  have before := serving.contents entry
  rw [half_split s me entry, first] at before
  rw [half_update, linearized_append, after_append, left]
  rcases in_order_cases write rest (first ▸ serving.ordered me) with ⟨send, rfl, half, _⟩ | ⟨paired, shape⟩
  · -- The sender's entry is there, and its send is half done.
    have none : halfDone (.senderIndex send :: rest) = none := rfl
    simp only [none, half, reduceCtorEq, false_and, exists_false, false_or, Option.some.injEq, exists_eq_left'] at before ⊢
    change entry ∈ s.db.index.add send.senderEntry ↔ entry.id ∈ ChatService.after (linearized seen) _ _ ∨ _
    rw [mem_add, before, or_assoc]
    exact or_congr_right or_comm
  · have done := paired_half_done rest paired
    simp only [done, reduceCtorEq, false_and, exists_false, false_or] at before ⊢
    rcases shape with ⟨send, rfl⟩ | ⟨send, rfl⟩ | ⟨owner, partner, rfl⟩
    · have none : halfDone (.message send :: rest) = none := rfl
      simp only [none, reduceCtorEq, false_and, exists_false, false_or] at before
      exact before
    · -- The send takes effect: its sender's entry was half done, its recipient's is new.
      have half : halfDone (.recipientIndex send :: rest) = some send := rfl
      simp only [half, Option.some.injEq, exists_eq_left'] at before
      have effect : entry.id ∈ (linearized [.decided me (.recipientIndex send) true]).foldl ChatService.perform
          (ChatService.after (linearized seen)) entry.owner entry.partner ↔
          entry.id ∈ ChatService.after (linearized seen) entry.owner entry.partner ∨
            (entry = send.senderEntry ∨ entry = send.recipientEntry) := by
        exact or_congr_right (participants_entry send entry)
      rw [effect]
      change entry ∈ s.db.index.add send.recipientEntry ↔ _
      rw [mem_add, before]
      simp only [or_assoc]
      exact or_congr_right (or_congr_right or_comm)
    · -- The client of a half-done send of this owner would be this client, which has none.
      have none : halfDone (.remove owner partner :: rest) = none := rfl
      simp only [none, reduceCtorEq, false_and, exists_false, false_or] at before
      have apart (other : ClientId) (send : Send) (different : other ≠ me)
          (half : halfDone (s.clients other).outbox = some send) : send.fromId ≠ owner := by
        intro same
        obtain rfl := same
        have mine : home send.fromId = me := serving.writes me (.remove send.fromId partner) (by simp [first])
        have member : .recipientIndex send ∈ (s.clients other).outbox := half_done_mem _ send half
        exact different ((serving.writes other _ member).symm.trans mine)
      change entry ∈ s.db.index.remove owner partner ↔ (entry.id ∈ ChatService.after (linearized seen) _ _ ∧ _) ∨ _
      rw [mem_remove, before]
      constructor
      · intro given
        rcases given with ⟨here | half, other⟩
        · exact Or.inl ⟨here, other⟩
        · exact Or.inr half
      · intro given
        rcases given with ⟨here, other⟩ | ⟨other, send, different, half, rfl⟩
        · exact ⟨Or.inl here, other⟩
        · exact ⟨Or.inr ⟨other, send, different, half, rfl⟩, fun same => apart other send different half same.1⟩

theorem serving_verdict (home : Uid → ClientId) (s : System) (seen : List Output) (serving : Serving home s seen)
    (me : ClientId) (write : Write) (waiting : (s.clients me).outbox[0]? = some write) :
    Serving home ⟨s.db.apply write, s.keys, Function.update s.clients me ((s.clients me).decided 0 write true)⟩
      (seen ++ [.decided me write true]) := by
  obtain ⟨rest, first⟩ : ∃ rest, (s.clients me).outbox = write :: rest := by
    cases outbox : (s.clients me).outbox with
    | nil => simp [outbox] at waiting
    | cons head rest =>
        rw [outbox] at waiting
        exact ⟨rest, by rw [← Option.some.inj waiting]⟩
  have left : ((s.clients me).decided 0 write true).outbox = rest := by simp [Client.decided, first]
  have issued (other : Write) (member : other ∈ write :: rest) : home other.issuer = me :=
    serving.writes me other (first ▸ member)
  constructor
  · exact (Function.forall_update_iff s.clients (p := fun other c => ∀ uid, c.currentUser = some uid →
      home uid = other)).mpr ⟨serving.signedIn me, fun other _ => serving.signedIn other⟩
  · refine (Function.forall_update_iff s.clients (p := fun other c => ∀ write ∈ c.outbox,
      home write.issuer = other)).mpr ⟨fun other member => ?_, fun other _ => serving.writes other⟩
    exact issued other (List.mem_cons_of_mem write (left ▸ member))
  · refine (Function.forall_update_iff s.clients (p := fun other c => ∀ send accepted,
      .message send accepted ∈ c.completions → home send.fromId = other)).mpr
      ⟨fun send accepted member => ?_, fun other _ => serving.completions other⟩
    rcases List.mem_append.mp member with old | new
    · exact serving.completions me send accepted old
    · cases write <;> simp only [Write.completions, List.mem_singleton, List.not_mem_nil, reduceCtorEq,
        Completion.message.injEq] at new
      obtain ⟨rfl, _⟩ := new
      exact issued (.message send) List.mem_cons_self
  · refine (Function.forall_update_iff s.clients (p := fun _ c => InOrder c.outbox)).mpr
      ⟨?_, fun other _ => serving.ordered other⟩
    rw [left]
    rcases in_order_cases write rest (first ▸ serving.ordered me) with ⟨_, _, _, ordered⟩ | ⟨paired, _⟩
    · exact ordered
    · exact paired_in_order rest paired
  · exact serving_contents home s seen serving me write rest first _ left
  · refine accounted_step s seen _ _ s.keys me _ serving.accounted (by simp [Output.client]) (fun operation => ?_)
    have none : requested [.decided me write true] = [] := rfl
    rw [none, List.count_nil, Nat.zero_add]
    exact decided_pending me (s.clients me) write rest first operation

theorem serving_initial (home : Uid → ClientId) : Serving home System.initial [] where
  signedIn := by simp [System.initial]
  writes := by simp [System.initial]
  completions := by simp [System.initial]
  ordered := fun _ => trivial
  contents := by simp [System.initial, Database.empty, linearized, ChatService.after, ChatService.empty, Half, halfDone]
  accounted := by simp [Accounted, System.initial, Client.pending, outputsOf, requested, linearized]

theorem serving_step (home : Uid → ClientId) (s : System) (seen : List Output) (action : Action) (next : System)
    (out : List Output) (serving : Serving home s seen) (served : action.Served home)
    (stepped : System.machine.step s action = some (next, out)) : Serving home next (seen ++ out) := by
  obtain ⟨me, act, client, rfl, _, _, acted, rfl⟩ | ⟨me, k, accepted, write, rfl, waiting, rfl, rfl⟩ :=
    system_step_cases s next action out stepped
  · exact serving_client home s seen serving me act client out _ served acted
  · obtain ⟨rfl, rfl⟩ := served
    exact serving_verdict home s seen serving me write waiting

theorem serving_run (home : Uid → ClientId) (actions : List Action) (s : System) (out : List Output)
    (served : ∀ action ∈ actions, action.Served home)
    (ran : System.machine.run System.initial actions = some (s, out)) : Serving home s out :=
  Machine.history_forall System.machine (Serving home) (fun action => action.Served home) (serving_step home) actions
    System.initial s out (serving_initial home) served ran

theorem settled_contents (home : Uid → ClientId) (s : System) (out : List Output) (serving : Serving home s out)
    (settled : Settled s) (u v : Uid) (id : MsgId) :
    (⟨u, v, id⟩ : Entry) ∈ s.db.index ↔ id ∈ ChatService.after (linearized out) u v := by
  rw [serving.contents ⟨u, v, id⟩]
  refine or_iff_left (fun half => ?_)
  obtain ⟨me, send, waiting, _⟩ := half
  rw [(settled me).1] at waiting
  cases waiting

theorem settled_operations (home : Uid → ClientId) (s : System) (out : List Output) (serving : Serving home s out)
    (settled : Settled s) (me : ClientId) : (linearized (outputsOf me out)).Perm (requested (outputsOf me out)) := by
  have empty : (s.clients me).pending = [] := by
    rw [Client.pending, (settled me).1, List.filterMap_nil, List.nil_append]
    refine List.filterMap_eq_nil_iff.mpr (fun completion member => ?_)
    cases completion with
    | removed partner accepted => rfl
    | message send accepted =>
        cases accepted with
        | false => rfl
        | true => exact absurd member ((settled me).2 send)
  refine List.perm_iff_count.mpr (fun operation => ?_)
  rw [serving.accounted me operation, empty, List.count_nil, Nat.add_zero]

theorem undeleted_contents (operations : List Operation) (u v : Uid) (kept : .delete u v ∉ operations) (id : MsgId) :
    id ∈ ChatService.after operations u v ↔
      ∃ fromId toId, .send fromId toId id ∈ operations ∧ Participants fromId toId u v := by
  induction operations using List.reverseRecOn with
  | nil => simp [ChatService.after, ChatService.empty]
  | append_singleton earlier operation ih =>
      rw [List.mem_append, not_or] at kept
      rw [after_append]
      cases operation with
      | send fromId toId sent =>
          change id ∈ ChatService.after earlier u v ∨ (id = sent ∧ Participants fromId toId u v) ↔ _
          rw [ih kept.1]
          constructor
          · intro given
            rcases given with ⟨a, b, member, pair⟩ | ⟨rfl, pair⟩
            · exact ⟨a, b, List.mem_append_left _ member, pair⟩
            · exact ⟨fromId, toId, by simp, pair⟩
          · intro given
            obtain ⟨a, b, member, pair⟩ := given
            rcases List.mem_append.mp member with old | new
            · exact Or.inl ⟨a, b, old, pair⟩
            · cases List.mem_singleton.mp new
              exact Or.inr ⟨rfl, pair⟩
      | delete owner partner =>
          have other : ¬ (u = owner ∧ v = partner) := by
            intro given
            obtain ⟨rfl, rfl⟩ := given
            exact kept.2 List.mem_cons_self
          change (id ∈ ChatService.after earlier u v ∧ _) ↔ _
          rw [and_iff_left other, ih kept.1]
          simp

theorem mem_outputs_of (me : ClientId) (out : List Output) (output : Output) (member : output ∈ out)
    (own : output.client = me) : output ∈ outputsOf me out := by
  simp [outputsOf, member, own]

theorem linearized_delete (home : Uid → ClientId) (s : System) (out : List Output) (serving : Serving home s out)
    (owner partner : Uid) (member : .delete owner partner ∈ linearized out) :
    ∃ me, .issued me (.remove owner partner) ∈ out := by
  obtain ⟨output, found, named⟩ := List.mem_filterMap.mp member
  have mine : .delete owner partner ∈ linearized (outputsOf output.client out) :=
    List.mem_filterMap.mpr ⟨output, mem_outputs_of _ out output found rfl, named⟩
  have asked : .delete owner partner ∈ requested (outputsOf output.client out) := by
    rw [← List.count_pos_iff, serving.accounted]
    exact Nat.add_pos_left (List.count_pos_iff.mpr mine) _
  obtain ⟨request, inside, asks⟩ := List.mem_filterMap.mp asked
  have real := (List.mem_filter.mp inside).1
  unfold Output.requested at asks
  split at asks
  · cases asks
  · rename_i client first second
    cases asks
    exact ⟨client, real⟩
  · cases asks

theorem message_between (send : Send) (payload : Payload) (seconds : Int) (u v : Uid)
    (values : send.values = messageValues send.toId send.fromId seconds payload.properties) :
    WellFormed u v send.values ↔ Participants send.fromId send.toId u v := by
  obtain ⟨hasTo, hasFrom, hasTime⟩ := payload_header send payload seconds values
  constructor
  · intro given
    obtain ⟨fromId, toId, _, from_, to_, _, pair⟩ := given
    cases hasFrom.symm.trans from_
    cases hasTo.symm.trans to_
    exact pair
  · exact fun pair => ⟨send.fromId, send.toId, seconds, hasFrom, hasTo, hasTime, pair⟩

theorem settled_messages (home : Uid → ClientId) (s : System) (out : List Output) (ledger : Ledger s out)
    (serving : Serving home s out) (settled : Settled s) (u v : Uid) (id : MsgId) :
    (∃ fromId toId, .send fromId toId id ∈ linearized out ∧ Participants fromId toId u v) ↔
      ∃ record, s.db.messages.lookup id = some record ∧ WellFormed u v record := by
  constructor
  · intro given
    obtain ⟨fromId, toId, member, pair⟩ := given
    obtain ⟨output, decided, named⟩ := List.mem_filterMap.mp member
    unfold Output.linearized at named
    split at named
    · rename_i me send
      cases named
      obtain ⟨⟨origin, composed⟩, stored⟩ := ledger.decided me _ true decided
      obtain ⟨payload, seconds, values⟩ := ledger.values me send origin composed
      exact ⟨send.values, (ledger.stored send.id send.values).mpr ⟨me, send, stored, rfl, rfl⟩,
        (message_between send payload seconds u v values).mpr pair⟩
    · cases named
    · cases named
  · intro given
    obtain ⟨record, found, formed⟩ := given
    obtain ⟨me, send, decided, rfl, rfl⟩ := (ledger.stored id record).mp found
    obtain ⟨origin, composed⟩ := ledger.decided me _ true decided
    obtain ⟨payload, seconds, values⟩ := ledger.values me send origin composed
    have asked : send.operation ∈ requested (outputsOf me out) :=
      List.mem_filterMap.mpr ⟨_, mem_outputs_of me out _ composed rfl, rfl⟩
    have done := (settled_operations home s out serving settled me).mem_iff.mpr asked
    obtain ⟨output, inside, named⟩ := List.mem_filterMap.mp done
    exact ⟨send.fromId, send.toId, List.mem_filterMap.mpr ⟨output, (List.mem_filter.mp inside).1, named⟩,
      (message_between send payload seconds u v values).mp formed⟩

theorem fan_out_refines_service (home : Uid → ClientId) (actions : List Action) (s : System) (out : List Output)
    (served : ∀ action ∈ actions, action.Served home)
    (ran : System.machine.run System.initial actions = some (s, out)) (settled : Settled s) :
    (∀ u v, {id | (⟨u, v, id⟩ : Entry) ∈ s.db.index} = ChatService.after (linearized out) u v) ∧
    (∀ me, (linearized (outputsOf me out)).Perm (requested (outputsOf me out))) ∧
    (∀ before next me k u v, System.machine.step before (.verdict me k true) =
        some (next, [.decided me (.remove u v) true]) →
      ∀ entry : Entry, entry.owner ≠ u → (entry ∈ next.db.index ↔ entry ∈ before.db.index)) ∧
    (∀ u v, (∀ me, .issued me (.remove u v) ∉ out ∧ .issued me (.remove v u) ∉ out) →
      ∀ id, ((⟨u, v, id⟩ : Entry) ∈ s.db.index ↔ (⟨v, u, id⟩ : Entry) ∈ s.db.index) ∧
        ((⟨u, v, id⟩ : Entry) ∈ s.db.index ↔
          ∃ record, s.db.messages.lookup id = some record ∧ WellFormed u v record)) := by
  have ledger := ledger_run actions s out ran
  have serving := serving_run home actions s out served ran
  have contents := settled_contents home s out serving settled
  refine ⟨fun u v => Set.ext (contents u v), settled_operations home s out serving settled, ?_, ?_⟩
  · intro before next me k u v stepped entry other
    obtain ⟨_, _, _, isClient, _⟩ | ⟨_, _, _, write, same, _, rfl, decided⟩ :=
      system_step_cases before next (.verdict me k true) [.decided me (.remove u v) true] stepped
    · cases isClient
    · cases same
      cases decided
      exact apply_remove_frame before.db u v entry (fun same => other same.1)
  · intro u v kept id
    have side (a b : Uid) (undeleted : ∀ me, .issued me (.remove a b) ∉ out) :
        (⟨a, b, id⟩ : Entry) ∈ s.db.index ↔
          ∃ record, s.db.messages.lookup id = some record ∧ WellFormed a b record := by
      have absent : .delete a b ∉ linearized out := fun member =>
        (linearized_delete home s out serving a b member).elim undeleted
      rw [contents a b id, undeleted_contents _ a b absent id,
        settled_messages home s out ledger serving settled a b id]
    have swap (record : Dictionary) : WellFormed u v record ↔ WellFormed v u record :=
      ⟨well_formed_swap u v record, well_formed_swap v u record⟩
    refine ⟨?_, side u v (fun me => (kept me).1)⟩
    rw [side u v (fun me => (kept me).1), side v u (fun me => (kept me).2)]
    simp only [swap]

def deletedText : List Action :=
  [.client 0 (.signIn "ann"), .client 0 (.showChatControllerForUser "bob" {}), .client 1 (.signIn "bob"),
    .client 0 (.sendMessage 0 "hi" "-M1" 1600000000), .verdict 0 0 true, .client 0 (.complete 0),
    .verdict 0 0 true, .verdict 0 0 true, .client 1 (.childAdded ⟨"bob", "ann", "-M1"⟩), .client 1 (.value 0),
    .client 1 (.timerFires [⟨some "ann", some "hi", some 1600000000, some "bob", none, none, none⟩]),
    .client 1 (.swipeDelete 0), .verdict 1 0 true, .client 1 (.complete 0)]

theorem fan_out_refines_service_deleted :
    ∃ s out, System.machine.run System.initial deletedText = some (s, out) ∧
      s.db.index = [⟨"ann", "bob", "-M1"⟩] ∧
      {id | (⟨"bob", "ann", id⟩ : Entry) ∈ s.db.index} =
        ChatService.after [.send "ann" "bob" "-M1", .delete "bob" "ann"] "bob" "ann" := by
  refine ⟨_, _, rfl, by decide, ?_⟩
  refine (fan_out_refines_service (fun uid => if uid = "ann" then 0 else 1) deletedText _ _ ?_ rfl ?_).1 "bob" "ann"
  · simp [deletedText, Action.Served]
  · intro given
    rcases given with _ | _ | me <;> exact ⟨rfl, fun _ => List.not_mem_nil⟩

end FirChat
