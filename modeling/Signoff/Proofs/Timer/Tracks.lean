import Signoff.Proofs.Timer.Ledger

/-!
# A queue tracks a ledger

A queue tracks a ledger (`TimerQueue.Tracks`) if it has the intents of the ledger under their keys,
and the keys of each owner are among those that it has for the owner. Keys of intents that are gone
may stay with an owner, but never with another one.

* `Tracks.replace`, `Tracks.popDue`: each operation on the queue is one on the ledger.
* `Tracks.pendingFor`, `Tracks.size`: what the queue shows is what stands in the ledger.
-/

namespace Signoff

namespace TimerQueue

/-- The keys of an owner. -/
def keysAt (byOwner : Table String (List TimerKey)) (owner : String) : List TimerKey :=
  (byOwner.get? owner).getD []

/-- The queue has the intents of the ledger. -/
structure Tracks (q : TimerQueue) (l : Ledger) : Prop where
  next_eq : q.next = l.next
  numbered : l.Numbered
  pending : ∀ k i, q.byTime.get? k = some i ↔ ∃ e ∈ l.entries, e.key = k ∧ e.intent = i
  owned : ∀ e ∈ l.entries, e.key ∈ keysAt q.byOwner e.owner
  apart : ∀ owner, ∀ k ∈ keysAt q.byOwner owner,
    k.number < l.next ∧ ∀ e ∈ l.entries, e.key = k → e.owner = owner
  nodup : ∀ owner, (keysAt q.byOwner owner).Nodup

theorem tracks_empty : empty.Tracks .empty where
  next_eq := rfl
  numbered := ⟨.nil, fun _ he => nomatch he⟩
  pending _ _ := by simp [empty, Ledger.empty]
  owned _ he := nomatch he
  apart _ _ hk := nomatch hk
  nodup _ := .nil

/-! ## What a queue shows -/

namespace Tracks

variable {q : TimerQueue} {l : Ledger} (h : q.Tracks l)
include h

/-- The intents of a queue stand by time and then in the order in which they came. -/
theorem entries_eq :
    q.byTime.entries = (Ledger.sorted l.entries).map fun e => (e.key, e.intent) := by
  refine increasing_ext_mem q.byTime.increasing
    (Ledger.increasing_sorted h.numbered.keys_nodup) fun k i => ?_
  rw [Table.mem_entries_iff, h.pending]
  simp [Ledger.sorted]

theorem size : q.size = l.entries.length := by
  rw [TimerQueue.size, Table.size, h.entries_eq, List.length_map, Ledger.sorted,
    List.length_mergeSort]

/-- What an owner has pending is what the ledger has, by time and then in the order in which it
came. -/
theorem pendingFor (owner : String) :
    q.pendingFor owner = (Ledger.sorted (l.of owner)).map (·.intent) := by
  have keyed : (q.sortedKeys owner).filterMap (fun k => (q.byTime.get? k).map ((k, ·))) =
      (Ledger.sorted (l.of owner)).map fun e => (e.key, e.intent) := by
    refine increasing_ext_mem ?_ (Ledger.increasing_sorted ?_) fun k i => ?_
    · refine (pairwise_lt_mergeSort (h.nodup owner)).filterMap _ fun a b lt x hx y hy => ?_
      obtain ⟨_, -, rfl⟩ := Option.map_eq_some_iff.1 hx
      obtain ⟨_, -, rfl⟩ := Option.map_eq_some_iff.1 hy
      exact lt
    · exact h.numbered.keys_nodup.sublist (List.filter_sublist.map _)
    · simp only [List.mem_filterMap, sortedKeys, List.mem_mergeSort, Option.map_eq_some_iff,
        h.pending, List.mem_map, Ledger.sorted, Ledger.of, List.mem_filter, decide_eq_true_iff,
        Prod.mk.injEq]
      constructor
      · rintro ⟨_, hk, _, ⟨e, he, rfl, rfl⟩, rfl, rfl⟩
        exact ⟨e, ⟨he, (h.apart owner _ hk).2 e he rfl⟩, rfl, rfl⟩
      · rintro ⟨e, ⟨he, rfl⟩, rfl, rfl⟩
        exact ⟨_, h.owned e he, _, ⟨e, he, rfl, rfl⟩, rfl, rfl⟩
  have intents := congrArg (List.map (·.2)) keyed
  rw [List.map_filterMap, List.map_map] at intents
  rw [TimerQueue.pendingFor]
  refine Eq.trans (congrArg (List.filterMap · _) ?_) intents
  funext k
  rw [Option.map_map]
  exact (Option.map_id' ..).symm

end Tracks

/-! ## Scheduling -/

theorem add_next (q : TimerQueue) (intents : List Intent) :
    (q.add intents).1.next = q.next + intents.length := by
  induction intents generalizing q with
  | nil => rfl
  | cons i rest ih =>
    rw [add, List.length_cons]
    dsimp only
    rw [ih]
    dsimp only
    omega

theorem add_byOwner (q : TimerQueue) (intents : List Intent) :
    (q.add intents).1.byOwner = q.byOwner := by
  induction intents generalizing q with
  | nil => rfl
  | cons i rest ih => exact ih _

/-- The keys that intents are added under are those of the entries that they make. -/
theorem add_keys (q : TimerQueue) (owner : String) (intents : List Intent) :
    (q.add intents).2 = (Ledger.number owner q.next intents).map (·.key) := by
  induction intents generalizing q with
  | nil => rfl
  | cons i rest ih => exact congrArg (_ :: ·) (ih _)

/-- Added intents come to those that are pending, if these were numbered before. -/
theorem add_get? (q : TimerQueue) (owner : String) (intents : List Intent)
    (below : ∀ k i, q.byTime.get? k = some i → k.number < q.next) (k : TimerKey) (i : Intent) :
    (q.add intents).1.byTime.get? k = some i ↔
      q.byTime.get? k = some i ∨
        ∃ e ∈ Ledger.number owner q.next intents, e.key = k ∧ e.intent = i := by
  induction intents generalizing q with
  | nil => simp [add, Ledger.number]
  | cons x rest ih =>
    rw [add]
    dsimp only
    have fresh : q.byTime.get? ⟨x.fireAt, q.next⟩ = none := by
      refine Option.eq_none_iff_forall_ne_some.2 fun y hy => ?_
      have := below _ _ hy
      dsimp only at this
      omega
    rw [ih]
    · simp only [Ledger.number, List.mem_cons, exists_eq_or_imp]
      rw [← or_assoc]
      refine or_congr_left ?_
      by_cases hk : k = ⟨x.fireAt, q.next⟩
      · subst hk
        simp [Ledger.Entry.key, fresh]
      · rw [Table.get?_insert_of_ne _ hk]
        simp [Ledger.Entry.key, Ne.symm hk]
    · intro k' y hy
      dsimp only at hy ⊢
      by_cases hk : k' = ⟨x.fireAt, q.next⟩
      · rw [hk]
        exact Nat.lt_succ_self _
      · rw [Table.get?_insert_of_ne _ hk] at hy
        exact Nat.lt_succ_of_lt (below k' y hy)

theorem replace_byTime (q : TimerQueue) (owner : String) (intents : List Intent) :
    (q.replace owner intents).byTime = ((q.drop owner).add intents).1.byTime := by
  unfold replace
  dsimp only
  split <;> rfl

theorem replace_next (q : TimerQueue) (owner : String) (intents : List Intent) :
    (q.replace owner intents).next = q.next + intents.length := by
  refine Eq.trans ?_ (add_next (q.drop owner) intents)
  unfold replace
  dsimp only
  split <;> rfl

/-- Afterwards the owner has the keys of the new intents, and nobody else's keys changed. -/
theorem keysAt_replace (q : TimerQueue) (owner other : String) (intents : List Intent) :
    keysAt (q.replace owner intents).byOwner other =
      if other = owner then (Ledger.number owner q.next intents).map (·.key)
      else keysAt q.byOwner other := by
  have keys : ((q.drop owner).add intents).2 = (Ledger.number owner q.next intents).map (·.key) :=
    add_keys (q.drop owner) owner intents
  have kept : ((q.drop owner).add intents).1.byOwner = q.byOwner.erase owner :=
    add_byOwner (q.drop owner) intents
  rw [replace]
  dsimp only
  rw [keys]
  by_cases h : other = owner
  · subst h
    rw [if_pos rfl]
    split
    · rename_i none_new
      rw [kept, keysAt, Table.get?_erase, if_pos Std.ReflOrd.compare_self]
      exact (List.isEmpty_iff.1 none_new).symm
    · rw [keysAt, Table.get?_insert_self]
      rfl
  · have hc : ¬ compare other owner = .eq := mt Std.LawfulEqOrd.eq_of_compare h
    rw [if_neg h]
    split
    · rw [kept, keysAt, Table.get?_erase, if_neg hc]
      rfl
    · rw [keysAt, Table.get?_insert_of_ne _ h, kept, Table.get?_erase, if_neg hc]
      rfl

/-- Scheduling anew for an owner replaces what the ledger has for the owner. -/
theorem Tracks.replace {q : TimerQueue} {l : Ledger} (h : q.Tracks l) (owner : String)
    (intents : List Intent) : (q.replace owner intents).Tracks (l.replace owner intents) where
  next_eq := by rw [replace_next, h.next_eq]; rfl
  numbered := h.numbered.replace owner intents
  pending k i := by
    have dropped (k : TimerKey) (i : Intent) : (q.drop owner).byTime.get? k = some i ↔
        k ∉ keysAt q.byOwner owner ∧ q.byTime.get? k = some i :=
      Table.get?_foldl_erase ..
    rw [replace_byTime, add_get? (q.drop owner) owner]
    · show (q.drop owner).byTime.get? k = some i ∨ (∃ e ∈ Ledger.number owner q.next intents, _) ↔ _
      simp only [Ledger.mem_replace, or_and_right, exists_or, dropped, h.pending, h.next_eq]
      refine or_congr_left ⟨?_, ?_⟩
      · rintro ⟨away, e, he, rfl, rfl⟩
        exact ⟨e, ⟨he, fun eq => away (eq ▸ h.owned e he)⟩, rfl, rfl⟩
      · rintro ⟨e, ⟨he, ne⟩, rfl, rfl⟩
        exact ⟨fun hk => ne ((h.apart owner _ hk).2 e he rfl), e, he, rfl, rfl⟩
    · intro k i hk
      obtain ⟨e, he, rfl, -⟩ := (h.pending k i).1 ((dropped k i).1 hk).2
      show e.number < q.next
      rw [h.next_eq]
      exact h.numbered.below e he
  owned e he := by
    rw [keysAt_replace, h.next_eq]
    rcases Ledger.mem_replace.1 he with ⟨he, ne⟩ | he
    · rw [if_neg ne]
      exact h.owned e he
    · rw [if_pos (Ledger.mem_number he).1]
      exact List.mem_map_of_mem he
  apart other k hk := by
    show k.number < l.next + intents.length ∧ _
    rw [keysAt_replace, h.next_eq] at hk
    by_cases ho : other = owner
    · rw [if_pos ho] at hk
      obtain ⟨x, hx, rfl⟩ := List.mem_map.1 hk
      have hx := Ledger.mem_number hx
      refine ⟨hx.2.2, fun e he eq => ?_⟩
      have number_eq : e.number = x.number := congrArg TimerKey.number eq
      rcases Ledger.mem_replace.1 he with ⟨he, -⟩ | he
      · -- an entry from before has a smaller number
        have := h.numbered.below e he
        omega
      · rw [(Ledger.mem_number he).1, ho]
    · rw [if_neg ho] at hk
      obtain ⟨below, owns⟩ := h.apart other k hk
      refine ⟨by omega, fun e he eq => ?_⟩
      rcases Ledger.mem_replace.1 he with ⟨he, -⟩ | he
      · exact owns e he eq
      · have := (Ledger.mem_number he).2.1
        have number_eq : e.number = k.number := congrArg TimerKey.number eq
        omega
  nodup other := by
    rw [keysAt_replace]
    by_cases ho : other = owner
    · rw [if_pos ho, List.Nodup, List.pairwise_map]
      refine (Ledger.number_ordered owner q.next intents).imp fun {a b} lt eq => ?_
      have : a.number = b.number := congrArg TimerKey.number eq
      omega
    · rw [if_neg ho]
      exact h.nodup other

/-! ## Polling -/

/-- Striking a key takes it from the keys of one owner. -/
theorem keysAt_strike (byOwner : Table String (List TimerKey)) (owner other : String)
    (key : TimerKey) :
    keysAt (strike byOwner owner key) other =
      if other = owner then (keysAt byOwner other).filter (· != key)
      else keysAt byOwner other := by
  by_cases h : other = owner
  · subst h
    rw [if_pos rfl]
    unfold strike keysAt
    cases hg : byOwner.get? other with
    | none => simp [hg]
    | some keys =>
      dsimp only [Option.getD_some]
      cases hf : keys.filter (· != key) with
      | nil => simp [Table.get?_erase, Std.ReflOrd.compare_self]
      | cons k rest => simp
  · have hc : ¬ compare other owner = .eq := mt Std.LawfulEqOrd.eq_of_compare h
    rw [if_neg h]
    unfold strike keysAt
    split
    · rfl
    · split
      · rw [Table.get?_erase, if_neg hc]
      · rw [Table.get?_insert_of_ne _ h]

/-- What is due stands in front of the rest. -/
theorem takeDue_rest (now : Instant) (byOwner : Table String (List TimerKey))
    (entries : List (TimerKey × Intent)) :
    (takeDue now byOwner entries).2.1 = entries.dropWhile fun x => x.1.fireAt ≤ now := by
  induction entries generalizing byOwner with
  | nil => rfl
  | cons x rest ih =>
    rw [takeDue]
    by_cases hx : x.1.fireAt ≤ now
    · rw [if_pos hx, List.dropWhile_cons_of_pos (by simpa using hx)]
      exact ih _
    · rw [if_neg hx, List.dropWhile_cons_of_neg (by simpa using hx)]

/-- What is due is given in its order. -/
theorem takeDue_due (now : Instant) (byOwner : Table String (List TimerKey))
    (entries : List (TimerKey × Intent)) :
    (takeDue now byOwner entries).1 =
      (entries.takeWhile fun x => x.1.fireAt ≤ now).map (·.2) := by
  induction entries generalizing byOwner with
  | nil => rfl
  | cons x rest ih =>
    rw [takeDue]
    by_cases hx : x.1.fireAt ≤ now
    · rw [if_pos hx, List.takeWhile_cons_of_pos (by simpa using hx)]
      exact congrArg (x.2 :: ·) (ih _)
    · rw [if_neg hx, List.takeWhile_cons_of_neg (by simpa using hx)]
      rfl

/-- An owner keeps the keys that are not due, in their order. -/
theorem takeDue_keys (now : Instant) (byOwner : Table String (List TimerKey))
    (entries : List (TimerKey × Intent)) (owner : String) :
    (keysAt (takeDue now byOwner entries).2.2 owner).Sublist (keysAt byOwner owner) ∧
      ∀ k ∈ keysAt byOwner owner, ¬ k.fireAt ≤ now →
        k ∈ keysAt (takeDue now byOwner entries).2.2 owner := by
  induction entries generalizing byOwner with
  | nil => exact ⟨.refl _, fun _ hk _ => hk⟩
  | cons x rest ih =>
    rw [takeDue]
    by_cases hx : x.1.fireAt ≤ now
    · rw [if_pos hx]
      obtain ⟨sub, stays⟩ := ih (strike byOwner x.2.documentId x.1)
      rw [keysAt_strike] at sub stays
      by_cases ho : owner = x.2.documentId
      · rw [if_pos ho] at sub stays
        refine ⟨sub.trans List.filter_sublist, fun k hk late => stays k ?_ late⟩
        refine List.mem_filter.2 ⟨hk, ?_⟩
        rw [bne_iff_ne]
        rintro rfl
        exact late hx
      · rw [if_neg ho] at sub stays
        exact ⟨sub, stays⟩
    · rw [if_neg hx]
      exact ⟨.refl _, fun _ hk _ => hk⟩

/-- A smaller key fires no later. -/
theorem fireAt_le {a b : TimerKey} (h : compare a b = .lt) : a.fireAt ≤ b.fireAt := by
  have h : (compare a.fireAt b.fireAt).then (compare a.number b.number) = .lt := h
  rw [Instant.le_iff]
  cases hc : compare a.fireAt b.fireAt with
  | lt => rfl
  | eq => rfl
  | gt => rw [hc] at h; cases h

/-- What is due stands in front of what is not. -/
theorem due_first (q : TimerQueue) (now : Instant) : q.byTime.entries.Pairwise fun x y =>
    decide (y.1.fireAt ≤ now) = true → decide (x.1.fireAt ≤ now) = true :=
  q.byTime.increasing.imp fun {_ _} lt due =>
    decide_eq_true (Instant.le_trans (fireAt_le lt) (of_decide_eq_true due))

/-- What is polled is what is due. -/
theorem popDue_fst (q : TimerQueue) (now : Instant) :
    (q.popDue now).1 = (q.byTime.entries.filter fun x => x.1.fireAt ≤ now).map (·.2) := by
  rw [← takeWhile_eq_filter (q.due_first now)]
  exact takeDue_due ..

/-- Afterwards nothing that is due is pending, and all else is. -/
theorem popDue_get? (q : TimerQueue) (now : Instant) (k : TimerKey) (i : Intent) :
    (q.popDue now).2.byTime.get? k = some i ↔ q.byTime.get? k = some i ∧ ¬ k.fireAt ≤ now := by
  have rest : (q.popDue now).2.byTime.entries =
      q.byTime.entries.filter fun x => !decide (x.1.fireAt ≤ now) :=
    (takeDue_rest ..).trans (dropWhile_eq_filter (q.due_first now))
  rw [← Table.mem_entries_iff, rest, List.mem_filter, Table.mem_entries_iff]
  simp

/-- Polling leaves out of the ledger what is due. -/
theorem Tracks.popDue {q : TimerQueue} {l : Ledger} (h : q.Tracks l) (now : Instant) :
    (q.popDue now).2.Tracks (l.later now) where
  next_eq := h.next_eq
  numbered := h.numbered.later now
  pending k i := by
    rw [popDue_get?, h.pending]
    constructor
    · rintro ⟨⟨e, he, rfl, rfl⟩, late⟩
      exact ⟨e, Ledger.mem_later.2 ⟨he, late⟩, rfl, rfl⟩
    · rintro ⟨e, he, rfl, rfl⟩
      exact ⟨⟨e, (Ledger.mem_later.1 he).1, rfl, rfl⟩, (Ledger.mem_later.1 he).2⟩
  owned e he := by
    obtain ⟨he, late⟩ := Ledger.mem_later.1 he
    exact (takeDue_keys now q.byOwner q.byTime.entries e.owner).2 _ (h.owned e he) late
  apart owner k hk := by
    obtain ⟨below, owns⟩ :=
      h.apart owner k ((takeDue_keys now q.byOwner q.byTime.entries owner).1.subset hk)
    exact ⟨below, fun e he => owns e (Ledger.mem_later.1 he).1⟩
  nodup owner :=
    (h.nodup owner).sublist (takeDue_keys now q.byOwner q.byTime.entries owner).1

end TimerQueue

end Signoff
