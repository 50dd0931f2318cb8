import FirChat.Machine
import FirChat.Message
import FirChat.Queue
import Mathlib.Algebra.BigOperators.Group.List.Lemmas
import Mathlib.Algebra.GroupWithZero.Nat
import Mathlib.Data.List.Count
import Mathlib.Data.List.Dedup

set_option autoImplicit false

namespace FirChat

-- number is a ghost that tells the times apart at which one id was indexed.
structure Indexing where
  partner : Uid
  id : MsgId
  number : Nat
deriving DecidableEq

inductive ChainEvent where
  | partnerAdded (partner : Uid)
  | partnerRemoved (partner : Uid)
  | messageAdded (indexing : Indexing)
deriving DecidableEq

-- The observers of one ChatsList: listeners are those of .childAdded, one for
-- each call of observe, and values those of .value on messages/id, one for each
-- call of fetchMessage. No code detaches either. added and indexings are ghosts.
structure Chains where
  index : List Indexing
  listeners : List Uid := []
  events : List ChainEvent := []
  values : List Indexing := []
  added : List Uid := []
  indexings : List Indexing := []
  next : Nat

inductive ChainAct where
  | indexed (partner : Uid) (id : MsgId)
  | deleted (partner : Uid)
  | deliver (k : Nat)

namespace Chains

def partners (index : List Indexing) : List Uid := (index.map Indexing.partner).dedup

def children (s : Chains) (partner : Uid) : List Indexing :=
  s.index.filter (fun indexing => decide (indexing.partner = partner))

-- A new listener gets the children that are there.
def observeUserMessages (stored : List (Uid × MsgId)) : Chains :=
  let index := stored.zipIdx.map (fun entry => Indexing.mk entry.1.1 entry.1.2 entry.2)
  { index := index
    events := (partners index).map ChainEvent.partnerAdded
    added := partners index
    indexings := index
    next := stored.length }

def fetchMessage (s : Chains) (indexing : Indexing) : Chains := { s with values := s.values ++ [indexing] }

def handle (s : Chains) : ChainEvent → Chains
  | .partnerAdded partner =>
      { s with
        listeners := s.listeners ++ [partner]
        events := s.events ++ (s.children partner).map ChainEvent.messageAdded }
  | .partnerRemoved _ => s
  | .messageAdded indexing => s.fetchMessage indexing

def indexed (s : Chains) (partner : Uid) (id : MsgId) : Chains :=
  let fresh : Indexing := ⟨partner, id, s.next⟩
  let opened := if partner ∈ partners s.index then [] else [partner]
  { s with
    index := s.index ++ [fresh]
    events := s.events ++ opened.map ChainEvent.partnerAdded ++
      (s.listeners.filter (fun listener => decide (listener = partner))).map (fun _ => ChainEvent.messageAdded fresh)
    added := s.added ++ opened
    indexings := s.indexings ++ [fresh]
    next := s.next + 1 }

def deleted (s : Chains) (partner : Uid) : Chains :=
  { s with
    index := s.index.filter (fun indexing => decide (indexing.partner ≠ partner))
    events := s.events ++ [.partnerRemoved partner] }

def step (s : Chains) : ChainAct → Option (Chains × List Unit)
  | .indexed partner id =>
      if ∃ present ∈ s.index, present.partner = partner ∧ present.id = id then none else some (s.indexed partner id, [])
  | .deleted partner => if partner ∈ partners s.index then some (s.deleted partner, []) else none
  | .deliver k =>
      match s.events[k]? with
      | none => none
      | some event => some (({ s with events := s.events.eraseIdx k } : Chains).handle event, [])

def machine : Machine Chains ChainAct Unit := ⟨step⟩

def valueListeners (s : Chains) (id : MsgId) : Nat := (s.values.map Indexing.id).count id

def timesIndexed (s : Chains) (id : MsgId) : Nat := (s.indexings.map Indexing.id).count id

end Chains

theorem mem_chain_partners (index : List Indexing) (partner : Uid) :
    partner ∈ Chains.partners index ↔ ∃ indexing ∈ index, indexing.partner = partner := by
  simp [Chains.partners]

inductive ChainEffect (s : Chains) : ChainAct → Chains → Prop where
  | indexed (partner : Uid) (id : MsgId) : ChainEffect s (.indexed partner id) (s.indexed partner id)
  | deleted (partner : Uid) : ChainEffect s (.deleted partner) (s.deleted partner)
  | delivered (k : Nat) (event : ChainEvent) (front back : List ChainEvent) (here : s.events = front ++ event :: back) :
      ChainEffect s (.deliver k) (({ s with events := front ++ back } : Chains).handle event)

theorem chain_step_cases (s next : Chains) (act : ChainAct) (out : List Unit)
    (stepped : Chains.machine.step s act = some (next, out)) : ChainEffect s act next := by
  cases act with
  | indexed partner id =>
      simp only [Chains.machine, Chains.step] at stepped
      split at stepped
      · cases stepped
      · cases stepped
        exact .indexed partner id
  | deleted partner =>
      simp only [Chains.machine, Chains.step] at stepped
      split at stepped
      · cases stepped
        exact .deleted partner
      · cases stepped
  | deliver k =>
      simp only [Chains.machine, Chains.step] at stepped
      split at stepped
      · cases stepped
      · rename_i event waiting
        cases stepped
        obtain ⟨front, back, here, erased, _⟩ := Queue.split_at s.events k event waiting
        rw [erased]
        exact .delivered k event front back here

-- A listener was attached for each conversation that came, or will be; and each
-- has fetched, or will fetch, every id that is still indexed.
structure Chained (s : Chains) : Prop where
  listeners : ∀ partner, s.listeners.count partner + s.events.count (.partnerAdded partner) = s.added.count partner
  present : ∀ indexing ∈ s.index,
    s.values.count indexing + s.events.count (.messageAdded indexing) = s.listeners.count indexing.partner
  bounded : ∀ indexing, s.values.count indexing + s.events.count (.messageAdded indexing) ≤
    s.listeners.count indexing.partner

structure Numbered (s : Chains) : Prop where
  known : ∀ indexing ∈ s.index, indexing ∈ s.indexings
  values : ∀ indexing ∈ s.values, indexing ∈ s.indexings
  events : ∀ indexing, .messageAdded indexing ∈ s.events → indexing ∈ s.indexings
  numbers : ∀ indexing ∈ s.indexings, indexing.number < s.next
  indexNodup : s.index.Nodup
  nodup : s.indexings.Nodup

structure Readded (s : Chains) : Prop where
  once : ∀ indexing ∈ s.indexings, 1 ≤ s.added.count indexing.partner
  again : ∀ indexing ∈ s.indexings, indexing ∉ s.index → indexing.partner ∈ Chains.partners s.index →
    2 ≤ s.added.count indexing.partner

theorem stored_numbers (stored : List (Uid × MsgId)) :
    ((Chains.observeUserMessages stored).index.map Indexing.number) = List.range stored.length := by
  simp [Chains.observeUserMessages, Function.comp_def, List.range_eq_range', ← List.zipIdx_map_snd]

theorem numbered_start (stored : List (Uid × MsgId)) : Numbered (Chains.observeUserMessages stored) := by
  have nodup : (Chains.observeUserMessages stored).index.Nodup :=
    List.Nodup.of_map Indexing.number (stored_numbers stored ▸ List.nodup_range)
  refine ⟨fun _ member => member, by simp [Chains.observeUserMessages], ?_, ?_, nodup, nodup⟩
  · intro indexing member
    obtain ⟨partner, _, other⟩ := List.mem_map.mp member
    cases other
  · intro indexing member
    have number : indexing.number ∈ (Chains.observeUserMessages stored).index.map Indexing.number :=
      List.mem_map_of_mem member
    rw [stored_numbers] at number
    exact List.mem_range.mp number

theorem nodup_with_fresh (indexings : List Indexing) (fresh : Indexing) (absent : fresh ∉ indexings)
    (nodup : indexings.Nodup) : (indexings ++ [fresh]).Nodup := by
  rw [← List.concat_eq_append]
  exact nodup.concat absent

theorem numbered_step (s : Chains) (act : ChainAct) (next : Chains) (out : List Unit) (numbered : Numbered s)
    (stepped : Chains.machine.step s act = some (next, out)) : Numbered next := by
  obtain ⟨known, values, events, numbers, indexNodup, nodup⟩ := numbered
  cases chain_step_cases s next act out stepped with
  | indexed partner id =>
      have fresh : (⟨partner, id, s.next⟩ : Indexing) ∉ s.indexings := fun old => Nat.lt_irrefl _ (numbers _ old)
      refine ⟨?_, fun indexing member => List.mem_append_left _ (values indexing member), ?_, ?_, ?_, ?_⟩
      · intro indexing member
        exact (List.mem_append.mp member).elim (fun old => List.mem_append_left _ (known indexing old))
          (fun new => List.mem_append_right _ new)
      · intro indexing member
        simp only [Chains.indexed, List.mem_append, List.mem_map] at member
        rcases member with (old | ⟨_, _, other⟩) | ⟨_, _, same⟩
        · exact List.mem_append_left _ (events indexing old)
        · cases other
        · cases same
          exact List.mem_append_right _ (List.mem_singleton_self _)
      · exact Queue.forall_behind _ s.indexings ⟨partner, id, s.next⟩
          (fun indexing old => Nat.lt_succ_of_lt (numbers indexing old)) (Nat.lt_succ_self s.next)
      · exact nodup_with_fresh s.index _ (fun old => fresh (known _ old)) indexNodup
      · exact nodup_with_fresh s.indexings _ fresh nodup
  | deleted partner =>
      refine ⟨fun indexing member => known indexing (List.mem_filter.mp member).1, values, ?_, numbers,
        indexNodup.filter _, nodup⟩
      intro indexing member
      rcases List.mem_append.mp member with old | new
      · exact events indexing old
      · cases List.mem_singleton.mp new
  | delivered k event front back here =>
      have rest (indexing : Indexing) (member : .messageAdded indexing ∈ front ++ back) : indexing ∈ s.indexings :=
        events indexing (here ▸ Queue.mem_of_rest front back event _ member)
      cases event with
      | partnerAdded partner =>
          refine ⟨known, values, fun indexing member => ?_, numbers, indexNodup, nodup⟩
          rcases List.mem_append.mp member with old | new
          · exact rest indexing old
          · obtain ⟨child, inside, same⟩ := List.mem_map.mp new
            cases same
            exact known _ (List.mem_filter.mp inside).1
      | partnerRemoved partner => exact ⟨known, values, rest, numbers, indexNodup, nodup⟩
      | messageAdded indexing =>
          have raised := events indexing (by simp [here])
          exact ⟨known, Queue.forall_behind _ s.values indexing values raised, rest, numbers, indexNodup, nodup⟩

theorem count_partner_added (partners : List Uid) (partner : Uid) :
    (partners.map ChainEvent.partnerAdded).count (.partnerAdded partner) = partners.count partner :=
  List.count_map_of_injective partners ChainEvent.partnerAdded (fun _ _ same => ChainEvent.partnerAdded.inj same) partner

theorem count_message_added (indexings : List Indexing) (indexing : Indexing) :
    (indexings.map ChainEvent.messageAdded).count (.messageAdded indexing) = indexings.count indexing :=
  List.count_map_of_injective indexings ChainEvent.messageAdded (fun _ _ same => ChainEvent.messageAdded.inj same)
    indexing

theorem count_message_of_partners (partners : List Uid) (indexing : Indexing) :
    (partners.map ChainEvent.partnerAdded).count (.messageAdded indexing) = 0 := by
  simp [List.count_eq_zero]

theorem count_partner_of_messages (indexings : List Indexing) (partner : Uid) :
    (indexings.map ChainEvent.messageAdded).count (.partnerAdded partner) = 0 := by
  simp [List.count_eq_zero]

theorem chained_start (stored : List (Uid × MsgId)) : Chained (Chains.observeUserMessages stored) := by
  refine ⟨fun partner => ?_, fun indexing member => ?_, fun indexing => ?_⟩
  · simp [Chains.observeUserMessages, count_partner_added]
  · simp [Chains.observeUserMessages, List.count_eq_zero]
  · simp [Chains.observeUserMessages, List.count_eq_zero]

theorem raised_count (s : Chains) (partner : Uid) (fresh indexing : Indexing) :
    ((s.listeners.filter (fun listener => decide (listener = partner))).map (fun _ => ChainEvent.messageAdded fresh)).count
      (.messageAdded indexing) = if fresh = indexing then s.listeners.count partner else 0 := by
  have length : (s.listeners.filter (fun listener => decide (listener = partner))).length = s.listeners.count partner := by
    rw [← List.countP_eq_length_filter, List.count]
    rfl
  rw [List.map_const', List.count_replicate, length]
  simp only [beq_iff_eq, ChainEvent.messageAdded.injEq]

theorem raised_no_partner (s : Chains) (partner other : Uid) (fresh : Indexing) :
    ((s.listeners.filter (fun listener => decide (listener = partner))).map (fun _ => ChainEvent.messageAdded fresh)).count
      (.partnerAdded other) = 0 := by
  simp [List.count_eq_zero]

theorem children_count (s : Chains) (partner : Uid) (indexing : Indexing) (nodup : s.index.Nodup) :
    (s.children partner).count indexing = if indexing ∈ s.index ∧ indexing.partner = partner then 1 else 0 := by
  rw [Chains.children, (nodup.filter _).count]
  simp only [List.mem_filter, decide_eq_true_eq]

theorem chained_indexed (s : Chains) (partner : Uid) (id : MsgId) (numbered : Numbered s) (chained : Chained s) :
    Chained (s.indexed partner id) := by
  obtain ⟨listeners, present, bounded⟩ := chained
  have absent : (⟨partner, id, s.next⟩ : Indexing) ∉ s.indexings := fun old => Nat.lt_irrefl _ (numbered.numbers _ old)
  have unfetched : s.values.count ⟨partner, id, s.next⟩ = 0 :=
    List.count_eq_zero.mpr (fun old => absent (numbered.values _ old))
  have unraised : s.events.count (.messageAdded ⟨partner, id, s.next⟩) = 0 :=
    List.count_eq_zero.mpr (fun old => absent (numbered.events _ old))
  have raised (indexing : Indexing) : (s.indexed partner id).events.count (.messageAdded indexing) =
      s.events.count (.messageAdded indexing) +
        if ⟨partner, id, s.next⟩ = indexing then s.listeners.count partner else 0 := by
    simp only [Chains.indexed, List.count_append, raised_count, count_message_of_partners, Nat.add_zero]
  refine ⟨fun other => ?_, fun indexing member => ?_, fun indexing => ?_⟩
  · simp only [Chains.indexed, List.count_append, count_partner_added, raised_no_partner]
    have before := listeners other
    omega
  · rw [raised]
    rcases List.mem_append.mp member with old | new
    · have other : (⟨partner, id, s.next⟩ : Indexing) ≠ indexing := by
        rintro rfl
        exact absent (numbered.known _ old)
      rw [if_neg other]
      exact present indexing old
    · obtain rfl := List.mem_singleton.mp new
      rw [if_pos rfl, unraised, Nat.zero_add]
      exact (congrArg (· + s.listeners.count partner) unfetched).trans (Nat.zero_add _)
  · rw [raised]
    by_cases same : (⟨partner, id, s.next⟩ : Indexing) = indexing
    · subst same
      rw [if_pos rfl, unraised, Nat.zero_add]
      exact ((congrArg (· + s.listeners.count partner) unfetched).trans (Nat.zero_add _)).le
    · rw [if_neg same]
      exact bounded indexing

theorem children_raised (s : Chains) (rest : List ChainEvent) (partner : Uid) (indexing : Indexing)
    (nodup : s.index.Nodup) :
    (rest ++ (s.children partner).map ChainEvent.messageAdded).count (.messageAdded indexing) =
      rest.count (.messageAdded indexing) + if indexing ∈ s.index ∧ indexing.partner = partner then 1 else 0 := by
  rw [List.count_append, count_message_added, children_count s partner indexing nodup]

theorem children_no_partner (s : Chains) (rest : List ChainEvent) (partner other : Uid) :
    (rest ++ (s.children partner).map ChainEvent.messageAdded).count (.partnerAdded other) =
      rest.count (.partnerAdded other) := by
  rw [List.count_append, count_partner_of_messages, Nat.add_zero]

theorem chained_partner_added (s : Chains) (partner : Uid) (front back : List ChainEvent)
    (here : s.events = front ++ .partnerAdded partner :: back) (numbered : Numbered s) (chained : Chained s) :
    Chained { s with
      listeners := s.listeners ++ [partner]
      events := front ++ back ++ (s.children partner).map ChainEvent.messageAdded } := by
  obtain ⟨listeners, present, bounded⟩ := chained
  simp only [here, Queue.count_split, ChainEvent.partnerAdded.injEq, reduceCtorEq, if_false, Nat.add_zero]
    at listeners present bounded
  refine ⟨fun other => ?_, fun indexing member => ?_, fun indexing => ?_⟩
  · have before := listeners other
    dsimp only
    rw [Queue.count_behind, children_no_partner]
    omega
  · have before := present indexing member
    have child : indexing ∈ s.index ∧ indexing.partner = partner ↔ partner = indexing.partner :=
      ⟨fun both => both.2.symm, fun same => ⟨member, same.symm⟩⟩
    dsimp only
    rw [Queue.count_behind, children_raised s _ partner indexing numbered.indexNodup, if_congr child rfl rfl]
    omega
  · have before := bounded indexing
    dsimp only
    rw [Queue.count_behind, children_raised s _ partner indexing numbered.indexNodup]
    by_cases same : partner = indexing.partner
    · rw [if_pos same]
      split
      · omega
      · omega
    · rw [if_neg same, if_neg (fun both => same both.2.symm)]
      omega

theorem chained_message_added (s : Chains) (indexing : Indexing) (front back : List ChainEvent)
    (here : s.events = front ++ .messageAdded indexing :: back) (chained : Chained s) :
    Chained { s with events := front ++ back, values := s.values ++ [indexing] } := by
  obtain ⟨listeners, present, bounded⟩ := chained
  simp only [here, Queue.count_split, ChainEvent.messageAdded.injEq, reduceCtorEq, if_false, Nat.add_zero]
    at listeners present bounded
  refine ⟨listeners, fun other member => ?_, fun other => ?_⟩
  · have before := present other member
    dsimp only
    rw [Queue.count_behind]
    omega
  · have before := bounded other
    dsimp only
    rw [Queue.count_behind]
    omega

theorem chained_delivered (s : Chains) (event : ChainEvent) (front back : List ChainEvent)
    (here : s.events = front ++ event :: back) (numbered : Numbered s) (chained : Chained s) :
    Chained (({ s with events := front ++ back } : Chains).handle event) := by
  cases event with
  | partnerAdded partner => exact chained_partner_added s partner front back here numbered chained
  | partnerRemoved partner =>
      obtain ⟨listeners, present, bounded⟩ := chained
      simp only [here, Queue.count_split, reduceCtorEq, if_false, Nat.add_zero] at listeners present bounded
      exact ⟨listeners, present, bounded⟩
  | messageAdded indexing => exact chained_message_added s indexing front back here chained

theorem chained_step (s : Chains) (act : ChainAct) (next : Chains) (out : List Unit) (numbered : Numbered s)
    (chained : Chained s) (stepped : Chains.machine.step s act = some (next, out)) : Chained next := by
  cases chain_step_cases s next act out stepped with
  | indexed partner id => exact chained_indexed s partner id numbered chained
  | deleted partner =>
      obtain ⟨listeners, present, bounded⟩ := chained
      have others (event : ChainEvent) (different : event ≠ ChainEvent.partnerRemoved partner) :
          (s.deleted partner).events.count event = s.events.count event := by
        rw [Chains.deleted, List.count_append, List.count_cons_of_ne different.symm, List.count_nil, Nat.add_zero]
      refine ⟨fun other => ?_, fun indexing member => ?_, fun indexing => ?_⟩
      · rw [others _ (by simp)]
        exact listeners other
      · rw [others _ (by simp)]
        exact present indexing (List.mem_filter.mp member).1
      · rw [others _ (by simp)]
        exact bounded indexing
  | delivered k event front back here => exact chained_delivered s event front back here numbered chained

theorem readded_start (stored : List (Uid × MsgId)) : Readded (Chains.observeUserMessages stored) := by
  refine ⟨fun indexing member => ?_, fun indexing member gone _ => absurd member gone⟩
  exact List.one_le_count_iff.mpr ((mem_chain_partners _ _).mpr ⟨indexing, member, rfl⟩)

theorem readded_indexed (s : Chains) (partner : Uid) (id : MsgId) (numbered : Numbered s) (readded : Readded s) :
    Readded (s.indexed partner id) := by
  obtain ⟨once, again⟩ := readded
  have opened (other : Uid) : (s.indexed partner id).added.count other =
      s.added.count other + if partner = other ∧ partner ∉ Chains.partners s.index then 1 else 0 := by
    by_cases here : partner ∈ Chains.partners s.index <;> simp [Chains.indexed, here, List.count_singleton]
  refine ⟨fun indexing member => ?_, fun indexing member gone back => ?_⟩
  · rw [opened]
    rcases List.mem_append.mp member with old | new
    · exact Nat.le_add_right_of_le (once indexing old)
    · obtain rfl := List.mem_singleton.mp new
      by_cases here : partner ∈ Chains.partners s.index
      · obtain ⟨other, inside, same⟩ := (mem_chain_partners s.index partner).mp here
        exact Nat.le_add_right_of_le (same ▸ once other (numbered.known other inside))
      · rw [if_pos ⟨rfl, here⟩]
        exact Nat.le_add_left 1 _
  · rw [opened]
    have old : indexing ∈ s.indexings := (List.mem_append.mp member).resolve_right
      (fun new => gone (List.mem_append_right _ new))
    have absent : indexing ∉ s.index := fun inside => gone (List.mem_append_left _ inside)
    by_cases here : indexing.partner ∈ Chains.partners s.index
    · exact Nat.le_add_right_of_le (again indexing old absent here)
    · obtain ⟨other, inside, same⟩ := (mem_chain_partners _ _).mp back
      rcases List.mem_append.mp inside with before | new
      · exact absurd ((mem_chain_partners _ _).mpr ⟨other, before, same⟩) here
      · obtain rfl := List.mem_singleton.mp new
        have back : partner = indexing.partner := same
        rw [if_pos ⟨back, back ▸ here⟩]
        exact Nat.succ_le_succ (once indexing old)

theorem readded_step (s : Chains) (act : ChainAct) (next : Chains) (out : List Unit) (numbered : Numbered s)
    (readded : Readded s) (stepped : Chains.machine.step s act = some (next, out)) : Readded next := by
  cases chain_step_cases s next act out stepped with
  | indexed partner id => exact readded_indexed s partner id numbered readded
  | deleted partner =>
      obtain ⟨once, again⟩ := readded
      refine ⟨once, fun indexing member gone back => ?_⟩
      obtain ⟨other, inside, same⟩ := (mem_chain_partners _ _).mp back
      obtain ⟨before, kept⟩ := List.mem_filter.mp inside
      have different : indexing.partner ≠ partner := by
        rw [← same]
        exact of_decide_eq_true kept
      have absent : indexing ∉ s.index := fun here => gone (List.mem_filter.mpr ⟨here, decide_eq_true different⟩)
      exact again indexing member absent ((mem_chain_partners _ _).mpr ⟨other, before, same⟩)
  | delivered k event front back here =>
      obtain ⟨once, again⟩ := readded
      cases event with
      | partnerAdded _ => exact ⟨once, again⟩
      | partnerRemoved _ => exact ⟨once, again⟩
      | messageAdded _ => exact ⟨once, again⟩

structure ChainsInvariant (s : Chains) : Prop where
  numbered : Numbered s
  chained : Chained s
  readded : Readded s

theorem chains_run (stored : List (Uid × MsgId)) (acts : List ChainAct) (s : Chains) (out : List Unit)
    (ran : Chains.machine.run (Chains.observeUserMessages stored) acts = some (s, out)) : ChainsInvariant s :=
  Chains.machine.invariant_run ChainsInvariant
    (fun s act next out inside stepped =>
      ⟨numbered_step s act next out inside.numbered stepped,
        chained_step s act next out inside.numbered inside.chained stepped,
        readded_step s act next out inside.numbered inside.readded stepped⟩)
    acts (Chains.observeUserMessages stored) s out
    ⟨numbered_start stored, chained_start stored, readded_start stored⟩ ran

theorem listeners_settled (s : Chains) (chained : Chained s) (settled : s.events = []) (partner : Uid) :
    s.listeners.count partner = s.added.count partner := by
  simpa [settled] using chained.listeners partner

theorem fetched_settled (s : Chains) (chained : Chained s) (settled : s.events = []) (indexing : Indexing)
    (member : indexing ∈ s.index) : s.values.count indexing = s.added.count indexing.partner := by
  rw [← listeners_settled s chained settled]
  simpa [settled] using chained.present indexing member

theorem fetched_at_most (s : Chains) (chained : Chained s) (settled : s.events = []) (indexing : Indexing) :
    s.values.count indexing ≤ s.added.count indexing.partner := by
  rw [← listeners_settled s chained settled]
  simpa [settled] using chained.bounded indexing

-- While all that was indexed under an id is in place, messages/id has a
-- listener for each indexing and each time its conversation came.
theorem value_listeners_present (s : Chains) (inside : ChainsInvariant s) (settled : s.events = []) (id : MsgId)
    (present : ∀ indexing ∈ s.indexings, indexing.id = id → indexing ∈ s.index) :
    s.valueListeners id =
      ((s.indexings.filter (fun indexing => decide (indexing.id = id))).map
        (fun indexing => s.added.count indexing.partner)).sum := by
  obtain ⟨numbered, chained, readded⟩ := inside
  have counted (indexing : Indexing) (member : indexing ∈ s.indexings) (same : indexing.id = id) :
      s.values.count indexing = s.added.count indexing.partner :=
    fetched_settled s chained settled indexing (present indexing member same)
  have support : (s.values.dedup.filter (fun indexing => decide (indexing.id = id))).Perm
      (s.indexings.filter (fun indexing => decide (indexing.id = id))) := by
    refine (List.perm_ext_iff_of_nodup ((List.nodup_dedup _).filter _) (numbered.nodup.filter _)).mpr fun indexing => ?_
    simp only [List.mem_filter, List.mem_dedup, decide_eq_true_eq, and_congr_left_iff]
    intro same
    constructor
    · exact numbered.values indexing
    · intro member
      apply List.one_le_count_iff.mp
      rw [counted indexing member same]
      exact readded.once indexing member
  have total : s.valueListeners id = s.values.countP (fun indexing => decide (indexing.id = id)) := by
    rw [Chains.valueListeners, List.count, List.countP_map]
    rfl
  rw [total, ← List.sum_map_count_dedup_filter_eq_countP, (support.map _).sum_eq]
  refine congrArg List.sum (List.map_congr_left fun indexing member => ?_)
  obtain ⟨known, same⟩ := List.mem_filter.mp member
  exact counted indexing known (of_decide_eq_true same)

theorem value_listeners_once (s : Chains) (inside : ChainsInvariant s) (settled : s.events = []) (id : MsgId)
    (once : ∀ indexing ∈ s.indexings, indexing.id = id →
      indexing.partner ∈ Chains.partners s.index ∧ s.added.count indexing.partner = 1) :
    s.valueListeners id = s.timesIndexed id := by
  have present (indexing : Indexing) (member : indexing ∈ s.indexings) (same : indexing.id = id) :
      indexing ∈ s.index := by
    by_contra gone
    obtain ⟨here, one⟩ := once indexing member same
    have two := inside.readded.again indexing member gone here
    omega
  have ones : (s.indexings.filter (fun indexing => decide (indexing.id = id))).map
      (fun indexing => s.added.count indexing.partner) =
        (s.indexings.filter (fun indexing => decide (indexing.id = id))).map (fun _ => 1) := by
    refine List.map_congr_left fun indexing member => ?_
    obtain ⟨known, same⟩ := List.mem_filter.mp member
    exact (once indexing known (of_decide_eq_true same)).2
  rw [value_listeners_present s inside settled id present, ones, List.map_const', List.sum_replicate_nat, Nat.mul_one,
    Chains.timesIndexed, List.count, List.countP_map, List.countP_eq_length_filter]
  rfl

theorem listener_chains (stored : List (Uid × MsgId)) (acts : List ChainAct) (s : Chains) (out : List Unit)
    (ran : Chains.machine.run (Chains.observeUserMessages stored) acts = some (s, out)) (settled : s.events = []) :
    (∀ partner, s.listeners.count partner = s.added.count partner) ∧
      (∀ partner ∈ Chains.partners s.index, 1 ≤ s.listeners.count partner) ∧
      (∀ indexing ∈ s.index, s.values.count indexing = s.added.count indexing.partner) ∧
      (∀ indexing, s.values.count indexing ≤ s.added.count indexing.partner) ∧
      (∀ id, (∀ indexing ∈ s.indexings, indexing.id = id → indexing ∈ s.index) →
        s.valueListeners id =
          ((s.indexings.filter (fun indexing => decide (indexing.id = id))).map
            (fun indexing => s.added.count indexing.partner)).sum) ∧
      ∀ id, (∀ indexing ∈ s.indexings, indexing.id = id →
          indexing.partner ∈ Chains.partners s.index ∧ s.added.count indexing.partner = 1) →
        s.valueListeners id = s.timesIndexed id := by
  have inside := chains_run stored acts s out ran
  refine ⟨listeners_settled s inside.chained settled, fun partner here => ?_, fetched_settled s inside.chained settled,
    fetched_at_most s inside.chained settled, value_listeners_present s inside settled,
    value_listeners_once s inside settled⟩
  obtain ⟨indexing, member, rfl⟩ := (mem_chain_partners s.index partner).mp here
  rw [listeners_settled s inside.chained settled]
  exact inside.readded.once indexing (inside.numbered.known indexing member)

def conversationsOnce : List ChainAct :=
  [.deliver 0, .deliver 0, .indexed "carl" "m2", .deliver 0, .deliver 0, .indexed "bob" "m3", .deliver 0]

theorem listener_chains_once :
    ∃ s out, Chains.machine.run (Chains.observeUserMessages [("bob", "m1")]) conversationsOnce = some (s, out) ∧
      s.events = [] ∧ s.listeners = ["bob", "carl"] ∧ (∀ partner, s.listeners.count partner = s.added.count partner) ∧
      s.timesIndexed "m3" = 1 ∧ s.valueListeners "m3" = s.timesIndexed "m3" := by
  have chains := listener_chains [("bob", "m1")] conversationsOnce _ _ rfl (by decide)
  exact ⟨_, _, rfl, by decide, by decide, chains.1, by decide, chains.2.2.2.2.2 "m3" (by decide)⟩

-- bob's conversation is deleted, and a new message brings it back: the listener
-- of the first time is still there, and both fetch m2.
def conversationAgain : List ChainAct :=
  [.deliver 0, .deliver 0, .deleted "bob", .deliver 0, .indexed "bob" "m2", .deliver 0, .deliver 0, .deliver 0]

theorem conversation_is_followed_twice :
    ¬ ∀ (stored : List (Uid × MsgId)) (acts : List ChainAct) (s : Chains) (out : List Unit),
      Chains.machine.run (Chains.observeUserMessages stored) acts = some (s, out) → s.events = [] →
        (∀ partner ∈ Chains.partners s.index, s.listeners.count partner = 1) ∧
          ∀ id, s.valueListeners id = s.timesIndexed id := by
  intro all
  have counted := all [("bob", "m1")] conversationAgain _ _ rfl (by decide)
  exact absurd (counted.1 "bob" (by decide)) (by decide)

end FirChat
