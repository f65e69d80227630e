import Mathlib.Data.Set.Insert
import Mathlib.Logic.Relation
import SChatCore.Engine.Sync

namespace SChatCore.Ledger

open Wire Store

/-! What delivery is about, without payloads, tables and instants: which
envelopes are on file and in what state, which of them wait in the queue, which
numbers were heard, allocated and spoken, and how far the history is cut. -/

structure Entry where
  relId : RelId
  direction : Direction
  appSeq : UInt64
  state : DeliveryState

structure Contact where
  cut : UInt64
  closing : Bool

@[ext] structure Book where
  entry : MsgId → Option Entry
  queued : MsgId → Option RelId
  heard : RelId → Set UInt64
  floor : RelId → UInt64
  contact : RelId → Option Contact
  spoken : List (RelId × Bytes)

def Entry.pending (entry : Entry) : Prop := entry.state = .queued ∨ entry.state = .transmitted

instance (entry : Entry) : Decidable entry.pending := inferInstanceAs (Decidable (_ ∨ _))

inductive Move
  | hear (rel : RelId) (seq : UInt64)
  | raise (rel : RelId) (seq : UInt64)
  | close (rel : RelId)
  | allocate (rel : RelId) (seq : UInt64)
  | speak (rel : RelId) (plain : Bytes) (seq : UInt64)
  | write (msgId : MsgId) (entry : Entry)
  | settle (msgId : MsgId) (state : DeliveryState)
  | enqueue (msgId : MsgId) (rel : RelId)
  | dequeue (gone : Set MsgId)
  | fail (rel : RelId)
  | erase (gone : Set MsgId)
  /-- Of the tombstones, which the book does not hold. -/
  | prune (rel : RelId)
  | burn (rel : RelId)

namespace Book

open Classical in
noncomputable def apply (book : Book) : Move → Book
  | .hear rel seq => { book with
      heard := fun other => if other = rel then insert seq (book.heard other)
        else book.heard other }
  | .raise rel seq => { book with
      contact := fun other => (book.contact other).map fun contact =>
        if other = rel then
          { contact with cut := Db.raisedCut contact.cut seq } else contact }
  | .close rel => { book with
      contact := fun other => (book.contact other).map fun contact =>
        if other = rel then { contact with closing := true } else contact }
  | .allocate rel seq => { book with
      floor := fun other =>
        if other = rel then Db.saturatingSucc seq else book.floor other }
  | .speak rel plain seq => { book with
      floor := fun other =>
        if other = rel then Db.saturatingSucc seq else book.floor other
      spoken := book.spoken ++ [(rel, plain)] }
  | .write msgId entry => { book with
      entry := fun other =>
        if other = msgId then some entry else book.entry other }
  | .settle msgId state => { book with
      entry := fun other => (book.entry other).map fun entry =>
        if other = msgId then { entry with state } else entry }
  | .enqueue msgId rel => { book with
      queued := fun other =>
        if other = msgId then some rel else book.queued other }
  | .dequeue gone => { book with
      queued := fun msgId => if msgId ∈ gone then none else book.queued msgId }
  | .fail rel => { book with
      entry := fun msgId => (book.entry msgId).map fun entry =>
        if entry.relId = rel ∧ entry.direction = .out ∧ entry.pending then
          { entry with state := .failed } else entry
      queued := fun msgId => (book.queued msgId).filter (· ≠ rel) }
  | .erase gone => { book with
      entry := fun msgId => if msgId ∈ gone then none else book.entry msgId }
  | .prune _ => book
  | .burn rel => { book with
      entry := fun msgId => (book.entry msgId).filter (·.relId ≠ rel)
      queued := fun msgId => (book.queued msgId).filter (· ≠ rel)
      heard := fun other => if other = rel then ∅ else book.heard other
      contact := fun other => if other = rel then none
        else book.contact other }

section

open Classical

variable (book : Book)

theorem entry_write (msgId other : MsgId) (entry : Entry) :
    (book.apply (.write msgId entry)).entry other =
      if other = msgId then some entry else book.entry other := rfl

theorem entry_erase (gone : Set MsgId) (msgId : MsgId) : (book.apply (.erase gone)).entry msgId =
      if msgId ∈ gone then none else book.entry msgId := rfl

theorem heard_hear (rel other : RelId) (seq : UInt64) : (book.apply (.hear rel seq)).heard other =
      if other = rel then insert seq (book.heard other)
      else book.heard other := rfl

theorem heard_burn (rel other : RelId) : (book.apply (.burn rel)).heard other =
      if other = rel then ∅ else book.heard other := rfl

theorem contact_burn (rel other : RelId) : (book.apply (.burn rel)).contact other =
      if other = rel then none else book.contact other := rfl

end

def Step (guard : Book → Move → Prop) (before after : Book) : Prop :=
  ∃ move, guard before move ∧ before.apply move = after

theorem invariant {guard : Book → Move → Prop} {holds : Book → Prop}
    (step : ∀ book move, guard book move → holds book → holds (book.apply move))
    {before after : Book} (run : Relation.ReflTransGen (Step guard) before after)
    (start : holds before) : holds after := by
  induction run with
  | refl => exact start
  | tail _ last ih =>
    obtain ⟨move, allowed, rfl⟩ := last
    exact step _ move allowed ih

end Book

def Routine (nfc : String → String) (said : Book → RelId → Payload → Prop)
    (book : Book) : Move → Prop
  | .allocate rel seq => book.floor rel ≤ seq
  | .speak rel plain seq => book.floor rel ≤ seq ∧
      ∃ env : Envelope, env.encode nfc = .ok plain ∧ env.appSeq = seq ∧ said book rel env.payload
  | .write msgId entry => book.entry msgId = none ∧
      (entry.state = .queued ∨ entry.state = .received)
  | .settle msgId state => state = .transmitted ∧
      ∃ entry, book.entry msgId = some entry ∧ entry.pending
  | .enqueue msgId rel => ∃ entry, book.entry msgId = some entry ∧
      entry.relId = rel ∧ entry.direction = .out ∧ entry.pending
  | .dequeue _ | .fail _ => True
  | _ => False

/-- What a peer and the user can bring about besides. -/
structure Leave where
  hears : RelId → UInt64 → Prop
  acks : RelId → UInt64 → Prop
  cuts : Book → RelId → UInt64 → Prop
  prunes : Prop
  burns : Prop

def Licensed (nfc : String → String) (said : Book → RelId → Payload → Prop)
    (leave : Leave) (book : Book) (move : Move) : Prop :=
  Routine nfc said book move ∨ match move with
    | .hear rel seq => leave.hears rel seq
    | .raise rel seq => leave.cuts book rel seq
    | .settle msgId state => state = .failed ∨ state = .acknowledged ∧
        ∃ entry, book.entry msgId = some entry ∧ leave.acks entry.relId entry.appSeq
    | .prune _ => leave.prunes
    | .burn _ => leave.burns
    | .close _ | .erase _ => True
    | _ => False

end SChatCore.Ledger
