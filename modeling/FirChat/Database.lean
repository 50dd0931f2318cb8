import FirChat.Payload
import Mathlib.Data.List.Dedup

set_option autoImplicit false

namespace FirChat

-- user-messages/owner/partner/id : 1
structure Entry where
  owner : Uid
  partner : Uid
  id : MsgId
deriving DecidableEq

abbrev UserMessages := List Entry

namespace UserMessages

def add (index : UserMessages) (entry : Entry) : UserMessages :=
  if entry ∈ index then index else index ++ [entry]

def remove (index : UserMessages) (owner partner : Uid) : UserMessages :=
  index.filter (fun entry => !(entry.owner == owner && entry.partner == partner))

def conversation (index : UserMessages) (owner partner : Uid) : List MsgId :=
  (index.filter (fun entry => entry.owner == owner && entry.partner == partner)).map Entry.id

def partners (index : UserMessages) (owner : Uid) : List Uid :=
  ((index.filter (fun entry => entry.owner == owner)).map Entry.partner).dedup

end UserMessages

@[simp] theorem mem_add (index : UserMessages) (entry other : Entry) :
    other ∈ UserMessages.add index entry ↔ other ∈ index ∨ other = entry := by
  unfold UserMessages.add
  split
  · rename_i present
    constructor
    · exact Or.inl
    · intro given
      rcases given with old | rfl
      · exact old
      · exact present
  · simp

@[simp] theorem mem_remove (index : UserMessages) (owner partner : Uid) (entry : Entry) :
    entry ∈ UserMessages.remove index owner partner ↔
      entry ∈ index ∧ ¬ (entry.owner = owner ∧ entry.partner = partner) := by
  simp only [UserMessages.remove, List.mem_filter, Bool.not_eq_true', Bool.and_eq_false_iff, beq_eq_false_iff_ne,
    not_and_or, ne_eq]

@[simp] theorem mem_conversation (index : UserMessages) (owner partner : Uid) (id : MsgId) :
    id ∈ UserMessages.conversation index owner partner ↔ ⟨owner, partner, id⟩ ∈ index := by
  simp only [UserMessages.conversation, List.mem_map, List.mem_filter, Bool.and_eq_true, beq_iff_eq]
  constructor
  · intro given
    obtain ⟨⟨_, _, _⟩, ⟨member, rfl, rfl⟩, rfl⟩ := given
    exact member
  · intro member
    exact ⟨⟨owner, partner, id⟩, ⟨member, rfl, rfl⟩, rfl⟩

@[simp] theorem mem_partners (index : UserMessages) (owner partner : Uid) :
    partner ∈ UserMessages.partners index owner ↔ ∃ id, (⟨owner, partner, id⟩ : Entry) ∈ index := by
  simp only [UserMessages.partners, List.mem_dedup, List.mem_map, List.mem_filter, beq_iff_eq]
  constructor
  · intro given
    obtain ⟨⟨_, _, id⟩, ⟨member, rfl⟩, rfl⟩ := given
    exact ⟨id, member⟩
  · intro given
    obtain ⟨id, member⟩ := given
    exact ⟨⟨owner, partner, id⟩, ⟨member, rfl⟩, rfl⟩

instance (index : UserMessages) (owner partner : Uid) : Decidable (∃ id, (⟨owner, partner, id⟩ : Entry) ∈ index) :=
  decidable_of_iff _ (mem_partners index owner partner)

namespace Send

def senderEntry (send : Send) : Entry := ⟨send.fromId, send.toId, send.id⟩

def recipientEntry (send : Send) : Entry := ⟨send.toId, send.fromId, send.id⟩

end Send

-- The writes that the clients issue. A message write and a delete carry a
-- completion block; the two index writes of a send do not.
inductive Write where
  | message (send : Send)
  | senderIndex (send : Send)
  | recipientIndex (send : Send)
  | remove (owner partner : Uid)
deriving DecidableEq

structure Database where
  messages : AList (fun _ : MsgId => Dictionary)
  index : UserMessages

namespace Database

def empty : Database := ⟨∅, []⟩

-- updateChildValues at messages/id merges into what is there.
def putMessage (db : Database) (send : Send) : Database :=
  { db with messages := db.messages.insert send.id (send.values ∪ (db.messages.lookup send.id).getD ∅) }

def apply (db : Database) : Write → Database
  | .message send => db.putMessage send
  | .senderIndex send => { db with index := db.index.add send.senderEntry }
  | .recipientIndex send => { db with index := db.index.add send.recipientEntry }
  | .remove owner partner => { db with index := db.index.remove owner partner }

end Database

theorem apply_keeps_messages (db : Database) (write : Write) (other : ∀ send, write ≠ .message send) :
    (db.apply write).messages = db.messages := by
  cases write with
  | message send => exact absurd rfl (other send)
  | senderIndex send => rfl
  | recipientIndex send => rfl
  | remove owner partner => rfl

theorem apply_message_fresh (db : Database) (send : Send) (fresh : db.messages.lookup send.id = none) (id : MsgId) :
    (db.apply (.message send)).messages.lookup id = if id = send.id then some send.values else db.messages.lookup id := by
  by_cases same : id = send.id
  · subst id
    simp [Database.apply, Database.putMessage, fresh, AList.union_empty]
  · simp [Database.apply, Database.putMessage, same, AList.lookup_insert_ne]

theorem apply_remove_frame (db : Database) (owner partner : Uid) (entry : Entry)
    (other : ¬ (entry.owner = owner ∧ entry.partner = partner)) :
    entry ∈ (db.apply (.remove owner partner)).index ↔ entry ∈ db.index := by
  rw [Database.apply, mem_remove]
  exact ⟨And.left, fun member => ⟨member, other⟩⟩

end FirChat
