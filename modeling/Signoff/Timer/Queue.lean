import Signoff.Timer.Intent
/-!
# The timer queue

Pending intents in the order in which they fire; of two with the same time the one that came first
is first. Each intent has an owner, the document for which it was scheduled, and scheduling anew for
a document drops what it had pending.

The queue keeps its intents by key, a time and a running number, and the keys of every owner. An
intent that leaves because it is due is struck from the keys of the document that it names.

- `TimerQueue.replace`, `popDue` change the queue; `pendingFor`, `nextFireAt`, `size` look at it.
-/

namespace Signoff

/-- The place of an intent in a queue. -/
structure TimerKey where
  fireAt : Instant
  number : Nat
deriving DecidableEq

/-- Keys order by time and then by number. -/
instance : Ord TimerKey := ⟨compareLex (compareOn TimerKey.fireAt) (compareOn TimerKey.number)⟩

instance : Std.TransOrd TimerKey :=
  inferInstanceAs (Std.TransCmp (compareLex (compareOn TimerKey.fireAt)
    (compareOn TimerKey.number)))

instance : Std.LawfulEqOrd TimerKey where
  eq_of_compare {a b} h := by
    have h : (compare a.fireAt b.fireAt).then (compare a.number b.number) = .eq := h
    rw [Ordering.then_eq_eq] at h
    cases a; cases b
    obtain rfl := Std.LawfulEqOrd.eq_of_compare h.1
    obtain rfl := Std.LawfulEqOrd.eq_of_compare h.2
    rfl

/-- Intents that wait for their time. -/
structure TimerQueue where
  byTime : Table TimerKey Intent
  byOwner : Table String (List TimerKey)
  next : Nat
deriving DecidableEq

namespace TimerQueue

/-- Nothing is pending. -/
def empty : TimerQueue := ⟨.empty, .empty, 0⟩

instance : Inhabited TimerQueue := ⟨empty⟩

/-- The number of pending intents. -/
def size (q : TimerQueue) : Nat := q.byTime.size

/-- Nothing is pending. -/
def isEmpty (q : TimerQueue) : Bool := q.byTime.isEmpty

/-- The time of the earliest pending intent. -/
def nextFireAt (q : TimerQueue) : Option Instant := q.byTime.keys.head?.map (·.fireAt)

/-- Drops the intents of an owner. -/
def drop (q : TimerQueue) (owner : String) : TimerQueue :=
  let keys := (q.byOwner.get? owner).getD []
  { q with
    byTime := keys.foldl (fun table key => table.erase key) q.byTime
    byOwner := q.byOwner.erase owner }

/-- Adds intents and gives their keys. -/
def add (q : TimerQueue) : List Intent → TimerQueue × List TimerKey
  | [] => (q, [])
  | i :: rest =>
    let key : TimerKey := ⟨i.fireAt, q.next⟩
    let (q, keys) := add { q with byTime := q.byTime.insert key i, next := q.next + 1 } rest
    (q, key :: keys)

/-- Puts intents in the place of what an owner had pending. -/
def replace (q : TimerQueue) (owner : String) (intents : List Intent) : TimerQueue :=
  let (q, keys) := (q.drop owner).add intents
  if keys.isEmpty then q else { q with byOwner := q.byOwner.insert owner keys }

/-- Strikes a key from the keys of an owner, and the owner with its last key. -/
def strike (byOwner : Table String (List TimerKey)) (owner : String) (key : TimerKey) :
    Table String (List TimerKey) :=
  match byOwner.get? owner with
  | none => byOwner
  | some keys =>
    match keys.filter (· != key) with
    | [] => byOwner.erase owner
    | keys => byOwner.insert owner keys

/-- Takes the entries that are due out of a list of entries by time. -/
def takeDue (now : Instant) (byOwner : Table String (List TimerKey)) :
    List (TimerKey × Intent) →
    List Intent × List (TimerKey × Intent) × Table String (List TimerKey)
  | [] => ([], [], byOwner)
  | (key, i) :: rest =>
    if key.fireAt ≤ now then
      let (due, rest, byOwner) := takeDue now (strike byOwner i.documentId key) rest
      (i :: due, rest, byOwner)
    else ([], (key, i) :: rest, byOwner)

theorem takeDue_suffix (now : Instant) (byOwner : Table String (List TimerKey))
    (entries : List (TimerKey × Intent)) : (takeDue now byOwner entries).2.1 <:+ entries := by
  induction entries generalizing byOwner with
  | nil => exact List.suffix_refl _
  | cons x rest ih =>
    rw [takeDue]
    split
    · exact (ih _).trans (List.suffix_cons ..)
    · exact List.suffix_refl _

/-- Takes out the intents that fire at or before a time, earliest first. -/
def popDue (q : TimerQueue) (now : Instant) : List Intent × TimerQueue :=
  let r := takeDue now q.byOwner q.byTime.entries
  (r.1, { q with
    byTime := ⟨r.2.1, q.byTime.increasing.sublist (takeDue_suffix ..).sublist⟩
    byOwner := r.2.2 })

/-- The keys of an owner, increasing. -/
def sortedKeys (q : TimerQueue) (owner : String) : List TimerKey :=
  ((q.byOwner.get? owner).getD []).mergeSort fun a b => (compare a b).isLE

/-- The pending intents of an owner, earliest first. -/
def pendingFor (q : TimerQueue) (owner : String) : List Intent :=
  (q.sortedKeys owner).filterMap q.byTime.get?

end TimerQueue

end Signoff
