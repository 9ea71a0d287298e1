import Mathlib.Algebra.GroupWithZero.Nat
import Signoff.Proofs.Instant.Order
import Signoff.Proofs.Table.Entries
import Signoff.Timer.Queue

/-!
# Ledgers of timers

A ledger is a plain list of pending intents, each with its owner and the running number that it was
given. What an owner has pending is replaced as a whole (`Ledger.replace`), and what is due is left
out (`Ledger.later`).

* `of_replace_self`, `of_replace_other`, `of_later`: what an owner has after each change.
* `length_eq_sum`: a ledger is as long as what its owners have together.
-/

namespace Signoff

/-- An intent in a ledger. -/
structure Ledger.Entry where
  owner : String
  number : Nat
  intent : Intent

/-- The pending intents in the order in which they came. -/
structure Ledger where
  entries : List Ledger.Entry
  next : Nat

namespace Ledger

/-- The key of an entry in a queue. -/
def Entry.key (e : Entry) : TimerKey := ⟨e.intent.fireAt, e.number⟩

/-- Nothing is pending. -/
def empty : Ledger := ⟨[], 0⟩

/-- Entries of an owner, numbered from the next number on. -/
def number (owner : String) : Nat → List Intent → List Entry
  | _, [] => []
  | n, i :: rest => ⟨owner, n, i⟩ :: number owner (n + 1) rest

/-- The entries of an owner. -/
def of (l : Ledger) (owner : String) : List Entry := l.entries.filter (·.owner = owner)

/-- Intents in the place of what an owner had pending. -/
def replace (l : Ledger) (owner : String) (intents : List Intent) : Ledger :=
  ⟨l.entries.filter (·.owner ≠ owner) ++ number owner l.next intents, l.next + intents.length⟩

/-- Leaves out what fires at or before a time. -/
def later (l : Ledger) (t : Instant) : Ledger :=
  { l with entries := l.entries.filter fun e => ¬ e.intent.fireAt ≤ t }

/-- Entries by the time at which they fire and then by number. -/
def sorted (entries : List Entry) : List Entry :=
  entries.mergeSort fun a b => (compare a.key b.key).isLE

/-- The ledger's entries are numbered in their order. -/
structure Numbered (l : Ledger) : Prop where
  ordered : l.entries.Pairwise (·.number < ·.number)
  below : ∀ e ∈ l.entries, e.number < l.next

theorem mem_number {owner : String} {n : Nat} {intents : List Intent} {e : Entry}
    (h : e ∈ number owner n intents) :
    e.owner = owner ∧ n ≤ e.number ∧ e.number < n + intents.length := by
  induction intents generalizing n with
  | nil => cases h
  | cons i rest ih =>
    rw [List.length_cons]
    rcases List.mem_cons.1 h with rfl | h
    · exact ⟨rfl, Nat.le_refl n, by dsimp only; omega⟩
    · obtain ⟨ho, hn, hl⟩ := ih h
      exact ⟨ho, by omega, by omega⟩

theorem number_ordered (owner : String) (n : Nat) (intents : List Intent) :
    (number owner n intents).Pairwise (·.number < ·.number) := by
  induction intents generalizing n with
  | nil => exact .nil
  | cons i rest ih =>
    refine .cons (fun e he => ?_) (ih (n + 1))
    have := (mem_number he).2.1
    dsimp only
    omega

theorem map_intent_number (owner : String) (n : Nat) (intents : List Intent) :
    (number owner n intents).map (·.intent) = intents := by
  induction intents generalizing n with
  | nil => rfl
  | cons i rest ih => exact congrArg (i :: ·) (ih (n + 1))

theorem mem_replace {l : Ledger} {owner : String} {intents : List Intent} {e : Entry} :
    e ∈ (l.replace owner intents).entries ↔
      e ∈ l.entries ∧ e.owner ≠ owner ∨ e ∈ number owner l.next intents := by
  simp [replace]

theorem mem_later {l : Ledger} {t : Instant} {e : Entry} :
    e ∈ (l.later t).entries ↔ e ∈ l.entries ∧ ¬ e.intent.fireAt ≤ t := by
  simp [later]

theorem of_replace_self (l : Ledger) (owner : String) (intents : List Intent) :
    (l.replace owner intents).of owner = number owner l.next intents := by
  have new : (number owner l.next intents).filter (·.owner = owner) = number owner l.next intents :=
    List.filter_eq_self.2 fun e he => by simp [(mem_number he).1]
  rw [of, replace, List.filter_append, List.filter_filter, new]
  simp

theorem of_replace_other (l : Ledger) {owner other : String} (h : other ≠ owner)
    (intents : List Intent) : (l.replace owner intents).of other = l.of other := by
  have new : (number owner l.next intents).filter (·.owner = other) = [] :=
    List.filter_eq_nil_iff.2 fun e he => by simp [(mem_number he).1, Ne.symm h]
  rw [of, replace, List.filter_append, List.filter_filter, new, List.append_nil]
  exact List.filter_congr fun e _ => by
    by_cases ho : e.owner = other
    · simp [ho, h]
    · simp [ho]

theorem of_later (l : Ledger) (t : Instant) (owner : String) :
    (l.later t).of owner = (l.of owner).filter fun e => ¬ e.intent.fireAt ≤ t := by
  rw [of, of, later, List.filter_filter, List.filter_filter]
  exact List.filter_congr fun e _ => Bool.and_comm ..

namespace Numbered

variable {l : Ledger} (h : l.Numbered)
include h

theorem replace (owner : String) (intents : List Intent) : (l.replace owner intents).Numbered where
  ordered := by
    refine List.pairwise_append.2 ⟨h.ordered.filter _, number_ordered .., ?_⟩
    intro a ha b hb
    have := h.below a (List.mem_filter.1 ha).1
    have := (mem_number hb).2.1
    omega
  below e he := by
    show e.number < l.next + intents.length
    rcases mem_replace.1 he with ⟨he, -⟩ | he
    · have := h.below e he
      omega
    · exact (mem_number he).2.2

theorem later (t : Instant) : (l.later t).Numbered where
  ordered := h.ordered.filter _
  below e he := h.below e (mem_later.1 he).1

/-- The keys of entries differ. -/
theorem keys_nodup : (l.entries.map (·.key)).Nodup := by
  refine List.pairwise_map.2 (h.ordered.imp fun {a b} lt eq => ?_)
  have : a.number = b.number := congrArg TimerKey.number eq
  omega

end Numbered

/-- Entries of some owners are as many as the owners have together. -/
theorem length_eq_sum {owners : List String} (nodup : owners.Nodup) {entries : List Entry}
    (h : ∀ e ∈ entries, e.owner ∈ owners) :
    entries.length = (owners.map fun o => (entries.filter (·.owner = o)).length).sum := by
  induction owners generalizing entries with
  | nil =>
    rw [List.eq_nil_iff_forall_not_mem.2 fun e he => nomatch h e he]
    rfl
  | cons o owners ih =>
    rw [List.nodup_cons] at nodup
    let others := entries.filter fun e => ¬ e.owner = o
    have split : entries.length = (entries.filter (·.owner = o)).length + others.length := by
      simp only [others, ← List.countP_eq_length_filter]
      rw [List.length_eq_countP_add_countP (·.owner = o)]
      simp
    have rest : others.length =
        (owners.map fun o' => (others.filter (·.owner = o')).length).sum := by
      refine ih nodup.2 fun e he => ?_
      obtain ⟨he, ne⟩ := List.mem_filter.1 he
      exact List.mem_of_ne_of_mem (of_decide_eq_true ne) (h e he)
    rw [split, rest, List.map_cons, List.sum_cons]
    congr 2
    refine List.map_congr_left fun o' ho' => ?_
    rw [List.filter_filter]
    congr 1
    refine List.filter_congr fun e _ => ?_
    by_cases he : e.owner = o'
    · have : e.owner ≠ o := fun eq => nodup.1 (eq ▸ he ▸ ho')
      simp [he, he ▸ this]
    · simp [he]

/-- The keys of sorted entries increase if they differ. -/
theorem sorted_ordered {entries : List Entry} (h : (entries.map (·.key)).Nodup) :
    (sorted entries).Pairwise fun a b => compare a.key b.key = .lt := by
  have keys : (sorted entries).map (·.key) =
      (entries.map (·.key)).mergeSort fun a b => (compare a b).isLE :=
    List.map_mergeSort fun _ _ _ _ => rfl
  have lt := pairwise_lt_mergeSort h
  rwa [← keys, List.pairwise_map] at lt

/-- Sorted entries with different keys, by key. -/
theorem increasing_sorted {entries : List Entry} (h : (entries.map (·.key)).Nodup) :
    Increasing ((sorted entries).map fun e => (e.key, e.intent)) :=
  List.pairwise_map.2 (sorted_ordered h)

end Ledger

end Signoff
