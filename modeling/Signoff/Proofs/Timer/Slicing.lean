import Signoff.Proofs.Timer.Answers

/-!
# Polling piece by piece

It does not matter into how many polls a stretch of time is cut: together they return what the last
one would have returned alone, in the same order, and they leave the same queue.

* `TimerQueue.takeDue_takeDue`: the loop of a poll goes on where that of an earlier one stopped.
* `TimerQueue.Clear`: nothing is pending that fires at or before a time. A poll clears its time, and
  what is clear stays so (`Clear.popDue`), so that polling for it again does nothing
  (`Clear.popDue_eq`).
-/

namespace Signoff

namespace TimerQueue

/-- Polls at some times, one after the other: everything that was returned, and the queue at the
end. -/
def popEach (q : TimerQueue) : List Instant → List Intent × TimerQueue
  | [] => ([], q)
  | t :: ts =>
    let first := q.popDue t
    let others := popEach first.2 ts
    (first.1 ++ others.1, others.2)

/-! ## One poll after another -/

/-- The loop of a poll gives what that of an earlier poll gives, and then goes on with what that one
left. -/
theorem takeDue_takeDue {t u : Instant} (le : t ≤ u) (byOwner : Table String (List TimerKey))
    (entries : List (TimerKey × Intent)) :
    takeDue u byOwner entries =
      let first := takeDue t byOwner entries
      let second := takeDue u first.2.2 first.2.1
      (first.1 ++ second.1, second.2) := by
  induction entries generalizing byOwner with
  | nil => rfl
  | cons x rest ih =>
    by_cases due : x.1.fireAt ≤ t
    · -- both loops strike the entry
      have due' : x.1.fireAt ≤ u := Instant.le_trans due le
      simp only [takeDue, if_pos due, if_pos due']
      rw [ih]
      rfl
    · -- the earlier loop stops here
      simp only [takeDue, if_neg due]
      rfl

theorem popDue_popDue (q : TimerQueue) {t u : Instant} (le : t ≤ u) :
    q.popDue u =
      ((q.popDue t).1 ++ ((q.popDue t).2.popDue u).1, ((q.popDue t).2.popDue u).2) := by
  have loops := takeDue_takeDue le q.byOwner q.byTime.entries
  have byTime : (q.popDue u).2.byTime = ((q.popDue t).2.popDue u).2.byTime :=
    (Table.mk.injEq ..).mpr (congrArg (·.2.1) loops)
  have byOwner : (q.popDue u).2.byOwner = ((q.popDue t).2.popDue u).2.byOwner :=
    congrArg (·.2.2) loops
  refine Prod.ext (congrArg (·.1) loops) ?_
  exact congrArg₂ (fun byTime byOwner => TimerQueue.mk byTime byOwner q.next) byTime byOwner

/-- Polls that end with the latest time are one poll. -/
theorem popEach_append_latest (q : TimerQueue) {times : List Instant} {latest : Instant}
    (le : ∀ t ∈ times, t ≤ latest) : q.popEach (times ++ [latest]) = q.popDue latest := by
  induction times generalizing q with
  | nil => exact Prod.ext (List.append_nil _) rfl
  | cons t times ih =>
    obtain ⟨first, rest⟩ := List.forall_mem_cons.1 le
    rw [q.popDue_popDue first, ← ih _ rest]
    rfl

/-! ## Times that are clear -/

/-- Nothing is pending that fires at or before the time. -/
def Clear (q : TimerQueue) (t : Instant) : Prop :=
  ∀ k i, q.byTime.get? k = some i → ¬ k.fireAt ≤ t

theorem clear_popDue (q : TimerQueue) (t : Instant) : (q.popDue t).2.Clear t :=
  fun k i h => ((q.popDue_get? t k i).1 h).2

namespace Clear

variable {q : TimerQueue} {t : Instant} (clear : q.Clear t)
include clear

theorem popDue (u : Instant) : (q.popDue u).2.Clear t :=
  fun k i h => clear k i ((q.popDue_get? u k i).1 h).1

theorem popEach (times : List Instant) : (q.popEach times).2.Clear t := by
  induction times generalizing q with
  | nil => exact clear
  | cons u times ih => exact ih (clear.popDue u)

/-- Polling for a time that is clear returns nothing and changes nothing. -/
theorem popDue_eq {s : Instant} (le : s ≤ t) : q.popDue s = ([], q) := by
  have stops : takeDue s q.byOwner q.byTime.entries = ([], q.byTime.entries, q.byOwner) := by
    cases entries : q.byTime.entries with
    | nil => rfl
    | cons x rest =>
      have first : q.byTime.get? x.1 = some x.2 :=
        (Table.mem_entries_iff ..).1 (entries ▸ List.mem_cons_self)
      rw [takeDue, if_neg fun due => clear _ _ first (Instant.le_trans due le)]
  simp only [TimerQueue.popDue, stops]

end Clear

/-- What was polled once is clear. -/
theorem clear_popEach (q : TimerQueue) {times : List Instant} {t : Instant} (h : t ∈ times) :
    (q.popEach times).2.Clear t := by
  induction times generalizing q with
  | nil => cases h
  | cons u times ih =>
    rcases List.mem_cons.1 h with rfl | h
    · exact (q.clear_popDue t).popEach times
    · exact ih _ h

/-- If a time is clear, everything that the queue shows fires later. -/
theorem Tracks.shows_later {q : TimerQueue} {l : Ledger} (h : q.Tracks l) {t : Instant}
    (clear : q.Clear t) :
    (∀ owner, ∀ i ∈ q.pendingFor owner, ¬ i.fireAt ≤ t) ∧
    (∀ x ∈ q.byTime.entries, ¬ x.2.fireAt ≤ t) ∧
    ∀ s, q.nextFireAt = some s → ¬ s ≤ t := by
  have late (e) (he : e ∈ l.entries) : ¬ e.intent.fireAt ≤ t :=
    clear e.key e.intent ((h.pending _ _).2 ⟨e, he, rfl, rfl⟩)
  refine ⟨fun owner i hi => ?_, fun x hx => ?_, fun s hs => ?_⟩
  · rw [h.pendingFor] at hi
    obtain ⟨e, he, rfl⟩ := List.mem_map.1 hi
    exact late e (List.mem_filter.1 (List.mem_mergeSort.1 he)).1
  · obtain ⟨e, he, -, same⟩ := (h.pending _ _).1 ((Table.mem_entries_iff ..).1 hx)
    exact same ▸ late e he
  · rw [h.nextFireAt] at hs
    obtain ⟨⟨e, he, rfl⟩, -⟩ := Ledger.earliest_eq_some hs
    exact late e he

/-! ## Polling piece by piece -/

/-- Polls, of which none is later than the last one, return together what the last one would have
returned alone; they leave the same queue, and so it answers the same from then on. After a poll,
everything that is pending fires later. A poll for a time that is no later than an earlier poll's
returns nothing and changes nothing, whatever was polled in between. -/
theorem polls_agree {q : TimerQueue} (reachable : q.Reachable) {times : List Instant}
    {latest : Instant} (le : ∀ t ∈ times, t ≤ latest) :
    q.popEach (times ++ [latest]) = q.popDue latest ∧
    (∀ jobs, answers perform (q.popEach (times ++ [latest])).2 jobs =
      answers perform (q.popDue latest).2 jobs) ∧
    (∀ t, let left := (q.popDue t).2
      (∀ owner, ∀ i ∈ left.pendingFor owner, ¬ i.fireAt ≤ t) ∧
      (∀ x ∈ left.byTime.entries, ¬ x.2.fireAt ≤ t) ∧
      ∀ s, left.nextFireAt = some s → ¬ s ≤ t) ∧
    ∀ polled, ∀ t ∈ polled, ∀ s, s ≤ t →
      (q.popEach polled).2.popDue s = ([], (q.popEach polled).2) := by
  obtain ⟨l, tracks⟩ := reachable.tracks
  have one := q.popEach_append_latest le
  refine ⟨one, fun jobs => by rw [one], fun t => ?_, fun polled t ht s hs => ?_⟩
  · exact (tracks.popDue t).shows_later (q.clear_popDue t)
  · exact (q.clear_popEach ht).popDue_eq hs

/-- The end of the first minute of 1970. -/
def firstMinute : Instant :=
  { Instant.epoch with
    second := 60
    first_le := by decide
    le_last := by decide
    leap := fun le => absurd le (by decide) }

/-- Three intents of two documents, two of them at the same time. -/
def threeWaiting : TimerQueue :=
  empty.after [
    .replace "a" [⟨"a", "review", .deadline, firstMinute, "Draft", none⟩,
      ⟨"a", "review", .reapproval, .epoch, "Draft", some "Review"⟩],
    .replace "b" [⟨"b", "review", .deadline, firstMinute, "Draft", none⟩]]

theorem threeWaiting_polls_agree :
    (threeWaiting.popDue .epoch).1.map (·.documentId) = ["a"] ∧
    (threeWaiting.popDue firstMinute).1.map (·.documentId) = ["a", "a", "b"] ∧
    threeWaiting.popEach [.epoch, .epoch, firstMinute] = threeWaiting.popDue firstMinute := by
  have le : ∀ t ∈ [Instant.epoch, .epoch], t ≤ firstMinute := by decide
  exact ⟨by decide, by decide, (polls_agree ⟨_, rfl⟩ le).1⟩

end TimerQueue

end Signoff
