import Mathlib.Data.List.Dedup
import Signoff.Proofs.Timer.Tracks

/-!
# Queues that look alike

Two queues look alike (`TimerQueue.Alike`) if every owner has the same intents pending in both.
The numbers under which they stand may differ, and so may the order in which intents of different
owners are polled if they fire at the same time; nothing else that a queue shows does.

* `Tracks.pendingFor_replace_self`, `pendingFor_replace_other`, `pendingFor_popDue`: what an owner
  has pending after each operation, in terms of what was pending before.
* `Alike.after`, `Alike.popDue_ties`: queues stay alike whatever is done to both, and polling them
  gives the same up to ties (`Intent.SameUpToTies`).
* `Tracks.replace_comm`: it does not matter for whom of two owners intents are scheduled first.
-/

namespace Signoff

/-- The lists have the same intents, and at every place intents that fire at the same time. So one
of them is the other with some intents exchanged that fire at the same time. -/
structure Intent.SameUpToTies (xs ys : List Intent) : Prop where
  perm : xs.Perm ys
  times : xs.map (·.fireAt) = ys.map (·.fireAt)

/-! ## Ledgers -/

namespace Ledger

/-- The entry under a number that is higher by some. -/
def Entry.shift (n : Nat) (e : Entry) : Entry := { e with number := e.number + n }

theorem number_add (owner : String) (m n : Nat) (intents : List Intent) :
    number owner (m + n) intents = (number owner m intents).map (.shift n) := by
  induction intents generalizing m with
  | nil => rfl
  | cons i rest ih =>
    rw [number, number, List.map_cons, ← ih, Nat.add_right_comm]
    rfl

theorem compare_shift (n : Nat) (a b : Entry) :
    compare (a.shift n).key (b.shift n).key = compare a.key b.key := by
  have numbers : compare (a.number + n) (b.number + n) = compare a.number b.number := by
    rcases Nat.lt_trichotomy a.number b.number with lt | eq | gt
    · rw [Nat.compare_eq_lt.2 lt, Nat.compare_eq_lt.2 (Nat.add_lt_add_right lt n)]
    · rw [eq, Std.ReflOrd.compare_self, Std.ReflOrd.compare_self]
    · rw [Nat.compare_eq_gt.2 gt, Nat.compare_eq_gt.2 (Nat.add_lt_add_right gt n)]
  exact congrArg (compare a.intent.fireAt b.intent.fireAt).then numbers

/-- The order of intents that were scheduled together does not depend on their numbers. -/
theorem map_intent_sorted_number (owner : String) (n : Nat) (intents : List Intent) :
    (sorted (number owner n intents)).map (·.intent) =
      (sorted (number owner 0 intents)).map (·.intent) := by
  have shifted : sorted (number owner n intents) =
      (sorted (number owner 0 intents)).map (.shift n) := by
    rw [← Nat.zero_add n, number_add owner 0 n, Nat.zero_add]
    exact (List.map_mergeSort fun a _ b _ => by rw [compare_shift]).symm
  rw [shifted, List.map_map]
  rfl

/-- Entries may be left out before the others are sorted or after. -/
theorem sorted_filter {entries : List Entry} (nodup : (entries.map (·.key)).Nodup)
    (p : Entry → Bool) : sorted (entries.filter p) = (sorted entries).filter p := by
  refine List.Perm.eq_of_pairwise (fun a b _ _ lt gt => ?_)
    (sorted_ordered (nodup.sublist (List.filter_sublist.map _)))
    ((sorted_ordered nodup).filter p) ?_
  · have self : compare a.key a.key = .lt := Std.TransCmp.lt_trans lt gt
    rw [Std.ReflOrd.compare_self] at self
    cases self
  · exact (List.mergeSort_perm ..).trans ((List.mergeSort_perm ..).symm.filter p)

end Ledger

namespace TimerQueue

open Ledger

/-! ## What an owner has pending after a change -/

namespace Tracks

variable {q : TimerQueue} {l : Ledger} (h : q.Tracks l)
include h

/-- The owner has the new intents, in an order that depends on them only. -/
theorem pendingFor_replace_self (owner : String) (intents : List Intent) :
    (q.replace owner intents).pendingFor owner =
      (sorted (number owner 0 intents)).map (·.intent) := by
  rw [(h.replace owner intents).pendingFor, of_replace_self, map_intent_sorted_number]

theorem pendingFor_replace_other {owner other : String} (ne : other ≠ owner)
    (intents : List Intent) : (q.replace owner intents).pendingFor other = q.pendingFor other := by
  rw [(h.replace owner intents).pendingFor, of_replace_other l ne, h.pendingFor]

/-- Every owner keeps what is not due. -/
theorem pendingFor_popDue (now : Instant) (owner : String) :
    (q.popDue now).2.pendingFor owner =
      (q.pendingFor owner).filter fun i => ¬ i.fireAt ≤ now := by
  have nodup : ((l.of owner).map (·.key)).Nodup :=
    h.numbered.keys_nodup.sublist (List.filter_sublist.map _)
  rw [(h.popDue now).pendingFor, of_later, sorted_filter nodup, h.pendingFor, List.filter_map]
  rfl

/-- What is due is polled by time. -/
theorem popDue_fst (now : Instant) :
    (q.popDue now).1 =
      ((sorted l.entries).filter fun e => e.intent.fireAt ≤ now).map (·.intent) := by
  rw [TimerQueue.popDue_fst, h.entries_eq, List.filter_map, List.map_map]
  rfl

/-- An intent is polled as often as it is pending and due, for all owners together. -/
theorem count_popDue (now : Instant) (i : Intent) {owners : List String} (nodup : owners.Nodup)
    (all : ∀ e ∈ l.entries, e.owner ∈ owners) :
    (q.popDue now).1.count i = (owners.map fun owner =>
      ((q.pendingFor owner).filter fun i => i.fireAt ≤ now).count i).sum := by
  let counted (e : Entry) : Bool := e.intent == i && decide (e.intent.fireAt ≤ now)
  have counts (entries : List Entry) :
      (((sorted entries).map (·.intent)).filter fun i => i.fireAt ≤ now).count i =
        (entries.filter counted).length := by
    rw [List.count_eq_countP, List.countP_filter, List.countP_map, sorted,
      (List.mergeSort_perm ..).countP_eq, List.countP_eq_length_filter]
    rfl
  have polled : (q.popDue now).1 =
      ((sorted l.entries).map (·.intent)).filter fun i => i.fireAt ≤ now := by
    rw [h.popDue_fst, List.filter_map]
    rfl
  rw [polled, counts, length_eq_sum nodup fun e he => all e (List.mem_filter.1 he).1]
  congr 1
  refine List.map_congr_left fun owner _ => ?_
  rw [h.pendingFor, counts, of, List.filter_filter, List.filter_filter]
  congr 1
  exact List.filter_congr fun e _ => Bool.and_comm ..

/-- What is polled first fires first. -/
theorem popDue_ordered (now : Instant) :
    ((q.popDue now).1.map (·.fireAt)).Pairwise (· ≤ ·) := by
  rw [h.popDue_fst, List.map_map, List.pairwise_map]
  exact ((sorted_ordered h.numbered.keys_nodup).filter _).imp fireAt_le

end Tracks

/-! ## Alike -/

/-- Every owner has the same intents pending in both queues. -/
structure Alike (q q' : TimerQueue) : Prop where
  tracks : ∃ l, q.Tracks l
  tracks' : ∃ l, q'.Tracks l
  pending : ∀ owner, q.pendingFor owner = q'.pendingFor owner

/-- It does not matter for whom of two owners intents are scheduled first. -/
theorem Tracks.replace_comm {q : TimerQueue} {l : Ledger} (h : q.Tracks l) {owner other : String}
    (ne : owner ≠ other) (intents others : List Intent) :
    Alike ((q.replace owner intents).replace other others)
      ((q.replace other others).replace owner intents) where
  tracks := ⟨_, (h.replace owner intents).replace other others⟩
  tracks' := ⟨_, (h.replace other others).replace owner intents⟩
  pending o := by
    have first := h.replace owner intents
    have second := h.replace other others
    by_cases ho : o = owner
    · subst ho
      rw [first.pendingFor_replace_other ne, h.pendingFor_replace_self,
        second.pendingFor_replace_self]
    by_cases ho' : o = other
    · subst ho'
      rw [first.pendingFor_replace_self, second.pendingFor_replace_other ho,
        h.pendingFor_replace_self]
    · rw [first.pendingFor_replace_other ho', h.pendingFor_replace_other ho,
        second.pendingFor_replace_other ho, h.pendingFor_replace_other ho']

namespace Alike

variable {q q' : TimerQueue} (alike : Alike q q')
include alike

theorem replace (owner : String) (intents : List Intent) :
    Alike (q.replace owner intents) (q'.replace owner intents) := by
  obtain ⟨⟨l, h⟩, ⟨l', h'⟩, pending⟩ := alike
  refine ⟨⟨_, h.replace owner intents⟩, ⟨_, h'.replace owner intents⟩, fun o => ?_⟩
  by_cases ho : o = owner
  · subst ho
    rw [h.pendingFor_replace_self, h'.pendingFor_replace_self]
  · rw [h.pendingFor_replace_other ho, h'.pendingFor_replace_other ho, pending]

theorem popDue (now : Instant) : Alike (q.popDue now).2 (q'.popDue now).2 := by
  obtain ⟨⟨l, h⟩, ⟨l', h'⟩, pending⟩ := alike
  refine ⟨⟨_, h.popDue now⟩, ⟨_, h'.popDue now⟩, fun o => ?_⟩
  rw [h.pendingFor_popDue, h'.pendingFor_popDue, pending]

/-- Polling queues that look alike gives the same up to ties. -/
theorem popDue_ties (now : Instant) :
    Intent.SameUpToTies (q.popDue now).1 (q'.popDue now).1 := by
  obtain ⟨⟨l, h⟩, ⟨l', h'⟩, pending⟩ := alike
  have perm : (q.popDue now).1.Perm (q'.popDue now).1 := by
    -- whoever has something pending in one of the queues
    let owners := ((l.entries ++ l'.entries).map (·.owner)).dedup
    have nodup : owners.Nodup := List.nodup_dedup _
    have all : ∀ e ∈ l.entries ++ l'.entries, e.owner ∈ owners :=
      fun e he => List.mem_dedup.2 (List.mem_map_of_mem he)
    refine List.perm_iff_count.2 fun i => ?_
    rw [h.count_popDue now i nodup fun e he => all e (List.mem_append_left _ he),
      h'.count_popDue now i nodup fun e he => all e (List.mem_append_right _ he)]
    simp only [pending]
  exact ⟨perm, (perm.map _).eq_of_pairwise (fun _ _ _ _ => Instant.le_antisymm)
    (h.popDue_ordered now) (h'.popDue_ordered now)⟩

end Alike

/-! ## Changes -/

/-- A change of a queue. -/
inductive Change where
  | replace (owner : String) (intents : List Intent)
  | popDue (now : Instant)

/-- The queue after a change. -/
def changed (q : TimerQueue) : Change → TimerQueue
  | .replace owner intents => q.replace owner intents
  | .popDue now => (q.popDue now).2

/-- The queue after some changes. -/
def after (q : TimerQueue) (changes : List Change) : TimerQueue := changes.foldl changed q

/-- The queue is an empty one after some changes. -/
def Reachable (q : TimerQueue) : Prop := ∃ changes, q = empty.after changes

theorem reachable_empty : empty.Reachable := ⟨[], rfl⟩

theorem Reachable.changed {q : TimerQueue} (h : q.Reachable) (change : Change) :
    (q.changed change).Reachable := by
  obtain ⟨changes, rfl⟩ := h
  exact ⟨changes ++ [change], by rw [after, after, List.foldl_append]; rfl⟩

theorem Tracks.after {q : TimerQueue} {l : Ledger} (h : q.Tracks l) (changes : List Change) :
    ∃ l, (q.after changes).Tracks l := by
  induction changes generalizing q l with
  | nil => exact ⟨l, h⟩
  | cons change rest ih =>
    cases change with
    | replace owner intents => exact ih (h.replace owner intents)
    | popDue now => exact ih (h.popDue now)

theorem Reachable.tracks {q : TimerQueue} (h : q.Reachable) : ∃ l, q.Tracks l := by
  obtain ⟨changes, rfl⟩ := h
  exact tracks_empty.after changes

/-- Queues stay alike when the same is done to both. -/
theorem Alike.after {q q' : TimerQueue} (alike : Alike q q') (changes : List Change) :
    Alike (q.after changes) (q'.after changes) := by
  induction changes generalizing q q' with
  | nil => exact alike
  | cons change rest ih =>
    cases change with
    | replace owner intents => exact ih (alike.replace owner intents)
    | popDue now => exact ih (alike.popDue now)

end TimerQueue

end Signoff
