import Signoff.Proofs.Timer.Slicing

/-!
# The two indices of a queue

A queue has its intents by key, and the keys of every owner. If every owner is given only intents
that name it, the two agree at all times (`TimerQueue.indices_match`): an owner stands in the second
index just as long as an intent of it is pending, with the keys of its intents and no other ones. So
no key outlives its intent, and a queue that has run empty keeps nothing.

* `TimerQueue.Matches`: an index of keys agrees with entries. The loop of a poll strikes each entry
  that it takes, and so keeps this for the entries that are left (`Matches.strike`,
  `Matches.takeDue`).
* `Matches.replace`: so does scheduling for an owner.
* `Tracks.number_lt`, `Tracks.numbers_nodup`: the numbers of pending intents.
-/

namespace Signoff

namespace TimerQueue

/-- The keys of every owner are those of the entries that name it, each of them once, and an owner
without keys does not stand in the index. -/
structure Matches (byOwner : Table String (List TimerKey)) (entries : List (TimerKey × Intent)) :
    Prop where
  keys : ∀ owner k, k ∈ keysAt byOwner owner ↔ ∃ i, (k, i) ∈ entries ∧ i.documentId = owner
  nodup : ∀ owner, (keysAt byOwner owner).Nodup
  listed : ∀ owner, byOwner.get? owner ≠ some []

theorem matches_empty : Matches .empty [] where
  keys _ _ := by simp [keysAt]
  nodup _ := .nil
  listed _ := nofun

/-! ## Polling -/

variable {byOwner : Table String (List TimerKey)} {entries rest : List (TimerKey × Intent)}
  {key : TimerKey} {i : Intent}

/-- The owner goes with its last key. -/
theorem get?_strike_ne_nil (listed : ∀ owner, byOwner.get? owner ≠ some []) (owner other : String)
    (key : TimerKey) : (strike byOwner owner key).get? other ≠ some [] := by
  unfold strike
  split
  · exact listed other
  · split
    · rw [Table.get?_erase]
      split
      · nofun
      · exact listed other
    · rename_i left
      rw [Table.get?_insert_eq_ite]
      split
      · exact fun eq => left (Option.some.inj eq)
      · exact listed other

/-- Striking the first entry leaves an index of the others. -/
theorem Matches.strike (h : Matches byOwner ((key, i) :: rest)) (fresh : ∀ x ∈ rest, x.1 ≠ key) :
    Matches (strike byOwner i.documentId key) rest where
  keys owner k := by
    have before := h.keys owner k
    simp only [List.mem_cons, Prod.mk.injEq] at before
    rw [keysAt_strike]
    split
    · rename_i here
      rw [List.mem_filter, before, bne_iff_ne]
      constructor
      · rintro ⟨⟨j, ⟨same, -⟩ | hj, named⟩, ne⟩
        · exact absurd same ne
        · exact ⟨j, hj, named⟩
      · rintro ⟨j, hj, named⟩
        exact ⟨⟨j, .inr hj, named⟩, fresh _ hj⟩
    · rename_i away
      rw [before]
      constructor
      · rintro ⟨j, ⟨-, rfl⟩ | hj, named⟩
        · exact absurd named.symm away
        · exact ⟨j, hj, named⟩
      · rintro ⟨j, hj, named⟩
        exact ⟨j, .inr hj, named⟩
  nodup owner := by
    rw [keysAt_strike]
    split
    · exact (h.nodup owner).filter _
    · exact h.nodup owner
  listed other := get?_strike_ne_nil h.listed i.documentId other key

/-- What the loop of a poll leaves of the index agrees with what it leaves of the entries. -/
theorem Matches.takeDue (h : Matches byOwner entries) (increasing : Increasing entries)
    (now : Instant) :
    Matches (takeDue now byOwner entries).2.2 (takeDue now byOwner entries).2.1 := by
  induction entries generalizing byOwner with
  | nil => exact h
  | cons x rest ih =>
    rw [TimerQueue.takeDue]
    split
    · refine ih (h.strike fun y hy eq => ?_) increasing.of_cons
      have lt := List.rel_of_pairwise_cons increasing hy
      rw [eq, Std.ReflOrd.compare_self] at lt
      cases lt
    · exact h

/-! ## Scheduling -/

theorem get?_replace_ne_nil {q : TimerQueue} (listed : ∀ owner, q.byOwner.get? owner ≠ some [])
    (owner other : String) (intents : List Intent) :
    (q.replace owner intents).byOwner.get? other ≠ some [] := by
  have dropped : ((q.drop owner).add intents).1.byOwner.get? other ≠ some [] := by
    rw [add_byOwner, drop]
    dsimp only
    rw [Table.get?_erase]
    split
    · nofun
    · exact listed other
  rw [replace]
  dsimp only
  split
  · exact dropped
  · rename_i new
    rw [Table.get?_insert_eq_ite]
    split
    · exact fun eq => new (List.isEmpty_iff.2 (Option.some.inj eq))
    · exact dropped

theorem Matches.mem_keysAt {q : TimerQueue} (h : Matches q.byOwner q.byTime.entries)
    {owner : String} {k : TimerKey} :
    k ∈ keysAt q.byOwner owner ↔ ∃ i, q.byTime.get? k = some i ∧ i.documentId = owner := by
  simp only [h.keys, Table.mem_entries_iff]

/-- Pending after scheduling is what names another owner, and what is scheduled. -/
theorem Matches.get?_replace {q : TimerQueue} (h : Matches q.byOwner q.byTime.entries)
    (below : ∀ k i, q.byTime.get? k = some i → k.number < q.next) (owner : String)
    (intents : List Intent) (k : TimerKey) (i : Intent) :
    (q.replace owner intents).byTime.get? k = some i ↔
      (q.byTime.get? k = some i ∧ i.documentId ≠ owner) ∨
        ∃ e ∈ Ledger.number owner q.next intents, e.key = k ∧ e.intent = i := by
  have dropped : (q.drop owner).byTime.get? k = some i ↔
      q.byTime.get? k = some i ∧ i.documentId ≠ owner := by
    refine Iff.trans (Table.get?_foldl_erase ..) ?_
    rw [show (q.byOwner.get? owner).getD [] = keysAt q.byOwner owner from rfl, h.mem_keysAt,
      and_comm]
    refine and_congr_right fun found => not_congr ?_
    simp [found]
  rw [replace_byTime, add_get? (q.drop owner) owner, dropped]
  · rfl
  · exact fun k i found => below k i ((Table.get?_foldl_erase ..).1 found).2

/-- The index agrees with the entries after an owner was given intents that name it. -/
theorem Matches.replace {q : TimerQueue} (h : Matches q.byOwner q.byTime.entries)
    (below : ∀ k i, q.byTime.get? k = some i → k.number < q.next) {owner : String}
    {intents : List Intent} (own : ∀ i ∈ intents, i.documentId = owner) :
    Matches (q.replace owner intents).byOwner (q.replace owner intents).byTime.entries where
  keys other k := by
    -- the new entries name the owner that is given them
    have named {e : Ledger.Entry} (he : e ∈ Ledger.number owner q.next intents) :
        e.intent.documentId = owner := by
      refine own _ ?_
      rw [← Ledger.map_intent_number owner q.next intents]
      exact List.mem_map_of_mem he
    simp only [Table.mem_entries_iff, h.get?_replace below]
    rw [keysAt_replace]
    split
    · rename_i here
      subst here
      rw [List.mem_map]
      constructor
      · rintro ⟨e, he, rfl⟩
        exact ⟨e.intent, .inr ⟨e, he, rfl, rfl⟩, named he⟩
      · rintro ⟨i, ⟨-, away⟩ | ⟨e, he, same, -⟩, here⟩
        · exact absurd here away
        · exact ⟨e, he, same⟩
    · rename_i away
      rw [h.mem_keysAt]
      constructor
      · rintro ⟨i, found, rfl⟩
        exact ⟨i, .inl ⟨found, away⟩, rfl⟩
      · rintro ⟨i, ⟨found, -⟩ | ⟨e, he, -, rfl⟩, here⟩
        · exact ⟨i, found, here⟩
        · exact absurd (here.symm.trans (named he)) away
  nodup other := by
    rw [keysAt_replace]
    split
    · rw [List.Nodup, List.pairwise_map]
      refine (Ledger.number_ordered owner q.next intents).imp fun {a b} lt eq => ?_
      have : a.number = b.number := congrArg TimerKey.number eq
      omega
    · exact h.nodup other
  listed other := get?_replace_ne_nil h.listed owner other intents

/-! ## Numbers -/

namespace Tracks

variable {q : TimerQueue} {l : Ledger} (h : q.Tracks l)
include h

theorem keys_eq : q.byTime.keys = (Ledger.sorted l.entries).map (·.key) := by
  rw [Table.keys, h.entries_eq, List.map_map]
  rfl

/-- Pending intents have numbers that were given out. -/
theorem number_lt {k : TimerKey} (hk : k ∈ q.byTime.keys) : k.number < q.next := by
  rw [h.keys_eq, List.mem_map] at hk
  obtain ⟨e, he, rfl⟩ := hk
  rw [h.next_eq]
  exact h.numbered.below e (List.mem_mergeSort.1 he)

/-- No two pending intents have the same number. -/
theorem numbers_nodup : (q.byTime.keys.map (·.number)).Nodup := by
  have ordered : (l.entries.map (·.number)).Nodup :=
    List.pairwise_map.2 (h.numbered.ordered.imp Nat.ne_of_lt)
  have perm : (Ledger.sorted l.entries).Perm l.entries := List.mergeSort_perm ..
  rw [h.keys_eq, List.map_map]
  exact (perm.map _).nodup_iff.2 ordered

end Tracks

/-! ## Runs -/

/-- How many intents are scheduled by some changes. -/
def scheduled : List Change → Nat
  | [] => 0
  | .replace _ intents :: rest => intents.length + scheduled rest
  | .popDue _ :: rest => scheduled rest

/-- Owners are given only intents that name them. -/
def Change.Own : Change → Prop
  | .replace owner intents => ∀ i ∈ intents, i.documentId = owner
  | .popDue _ => True

theorem after_next (q : TimerQueue) (changes : List Change) :
    (q.after changes).next = q.next + scheduled changes := by
  induction changes generalizing q with
  | nil => rfl
  | cons change rest ih =>
    refine (ih (q.changed change)).trans ?_
    cases change with
    | replace owner intents =>
      rw [changed, replace_next, scheduled]
      omega
    | popDue now => rfl

/-- The index agrees with the entries all along. -/
theorem Matches.after {q : TimerQueue} (h : Matches q.byOwner q.byTime.entries)
    {l : Ledger} (tracks : q.Tracks l) {changes : List Change} (own : ∀ c ∈ changes, c.Own) :
    Matches (q.after changes).byOwner (q.after changes).byTime.entries := by
  induction changes generalizing q l with
  | nil => exact h
  | cons change rest ih =>
    obtain ⟨first, others⟩ := List.forall_mem_cons.1 own
    cases change with
    | replace owner intents =>
      have below (k : TimerKey) (i : Intent) (found : q.byTime.get? k = some i) :
          k.number < q.next :=
        tracks.number_lt (Table.mem_keys_iff.2 ⟨i, found⟩)
      exact ih (h.replace below first) (tracks.replace owner intents) others
    | popDue now => exact ih (h.takeDue q.byTime.increasing now) (tracks.popDue now) others

/-- Whatever is scheduled and polled, where every owner is given only intents that name it: the
numbers of pending intents differ and were all given out, one for each intent that was ever
scheduled; an owner has keys just if an intent of it is pending, and then some, each of them once,
and just those of its pending intents. So an empty queue has nothing in either index. -/
theorem indices_match {changes : List Change} (own : ∀ c ∈ changes, c.Own) :
    let q := empty.after changes
    (∀ k ∈ q.byTime.keys, k.number < q.next) ∧
    (q.byTime.keys.map (·.number)).Nodup ∧
    q.next = scheduled changes ∧
    (∀ owner, (q.byOwner.get? owner).isSome = true ↔
      ∃ k i, q.byTime.get? k = some i ∧ i.documentId = owner) ∧
    (∀ owner keys, q.byOwner.get? owner = some keys →
      keys ≠ [] ∧ keys.Nodup ∧
      ∀ k, k ∈ keys ↔ ∃ i, q.byTime.get? k = some i ∧ i.documentId = owner) ∧
    (q.isEmpty = true → q.byTime = .empty ∧ q.byOwner = .empty) := by
  intro q
  obtain ⟨l, tracks⟩ := tracks_empty.after changes
  have agree : Matches q.byOwner q.byTime.entries := matches_empty.after tracks_empty own
  have present (owner : String) : (q.byOwner.get? owner).isSome = true ↔
      ∃ k i, q.byTime.get? k = some i ∧ i.documentId = owner := by
    simp only [← agree.mem_keysAt]
    cases found : q.byOwner.get? owner with
    | none => simp [keysAt, found]
    | some ks =>
      obtain ⟨k, tail, rfl⟩ := List.exists_cons_of_ne_nil fun nil : ks = [] =>
        agree.listed owner (nil ▸ found)
      simp [keysAt, found]
  refine ⟨fun k => tracks.number_lt, tracks.numbers_nodup, ?_, present, fun owner ks found => ?_,
    fun drained => ?_⟩
  · exact (after_next empty changes).trans (Nat.zero_add _)
  · have same : keysAt q.byOwner owner = ks := by rw [keysAt, found]; rfl
    exact ⟨fun nil => agree.listed owner (nil ▸ found), same ▸ agree.nodup owner,
      fun k => same ▸ agree.mem_keysAt⟩
  · have byTime : q.byTime = .empty := Table.eq_empty_of_isEmpty drained
    refine ⟨byTime, Table.ext_get? fun owner => ?_⟩
    rw [Table.get?_empty, ← Option.not_isSome_iff_eq_none, present, byTime]
    simp

/-- A poll takes the only intent of one owner, and one of two of another owner. -/
theorem waiting_indices_match :
    let changes : List Change := [
      .replace "a" [⟨"a", "review", .deadline, firstMinute, "Draft", none⟩,
        ⟨"a", "review", .reapproval, .epoch, "Draft", some "Review"⟩],
      .replace "b" [⟨"b", "review", .deadline, .epoch, "Draft", none⟩],
      .popDue .epoch]
    (∀ c ∈ changes, c.Own) ∧ (empty.after changes).byOwner.keys = ["a"] ∧
      (empty.after changes).next = 3 ∧
      ∀ k, k ∈ keysAt (empty.after changes).byOwner "a" ↔
        ∃ i, (empty.after changes).byTime.get? k = some i ∧ i.documentId = "a" := by
  intro changes
  have own : ∀ c ∈ changes, c.Own := by simp [changes, Change.Own]
  obtain ⟨-, -, next, -, index, -⟩ := indices_match own
  have found : (empty.after changes).byOwner.get? "a" = some [⟨firstMinute, 0⟩] := by decide
  refine ⟨own, by decide, next, ?_⟩
  rw [keysAt, found]
  exact (index _ _ found).2.2

end TimerQueue

end Signoff
