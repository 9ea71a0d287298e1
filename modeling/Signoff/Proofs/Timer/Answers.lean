import Signoff.Proofs.Timer.Alike

/-!
# A queue answers as a list does

Whatever a queue is asked to do, and in whichever order, it answers as a ledger does: a plain list
of intents with their owners and running numbers (`TimerQueue.answers_eq_ledger`). An owner may be
given intents that name other documents, so keys of intents that are gone may stay in the queue; no
answer shows them.

* `Tracks.perform`: each job, with its answer.
* `Ledger.History`: what becomes of every entry that was ever made. It is pending, or was returned
  once, or was superseded (`Accounts.after`).
-/

namespace Signoff

namespace TimerQueue

/-- What a queue is asked to do. -/
inductive Job where
  | replace (owner : String) (intents : List Intent)
  | popDue (now : Instant)
  | pendingFor (owner : String)
  | size
  | nextFireAt

/-- What is answered. -/
inductive Answer where
  | replaced
  | due (intents : List Intent)
  | pending (intents : List Intent)
  | count (n : Nat)
  | time (t : Option Instant)

/-- Does a job. -/
def perform (q : TimerQueue) : Job → Answer × TimerQueue
  | .replace owner intents => (.replaced, q.replace owner intents)
  | .popDue now => (.due (q.popDue now).1, (q.popDue now).2)
  | .pendingFor owner => (.pending (q.pendingFor owner), q)
  | .size => (.count q.size, q)
  | .nextFireAt => (.time q.nextFireAt, q)

/-- The answers to jobs that are done one after the other. -/
def answers {σ : Type} (perform : σ → Job → Answer × σ) (s : σ) : List Job → List Answer
  | [] => []
  | job :: jobs => (perform s job).1 :: answers perform (perform s job).2 jobs

/-- The intents that were returned because they were due. -/
def returned (answers : List Answer) : List Intent :=
  answers.flatMap fun
    | .due intents => intents
    | _ => []

end TimerQueue

/-! ## The list -/

namespace Ledger

open TimerQueue (Job Answer)

/-- The entries that fire at or before a time. -/
def due (l : Ledger) (t : Instant) : List Entry := l.entries.filter (·.intent.fireAt ≤ t)

/-- The least time at which an entry fires. -/
def earliest : List Entry → Option Instant
  | [] => none
  | e :: rest =>
    match earliest rest with
    | none => some e.intent.fireAt
    | some t => some (if e.intent.fireAt ≤ t then e.intent.fireAt else t)

/-- Does a job on the list. -/
def perform (l : Ledger) : Job → Answer × Ledger
  | .replace owner intents => (.replaced, l.replace owner intents)
  | .popDue now => (.due ((sorted (l.due now)).map (·.intent)), l.later now)
  | .pendingFor owner => (.pending ((sorted (l.of owner)).map (·.intent)), l)
  | .size => (.count l.entries.length, l)
  | .nextFireAt => (.time (earliest l.entries), l)

/-- There is no time only if there is no entry. -/
theorem earliest_eq_none {entries : List Entry} (h : earliest entries = none) : entries = [] := by
  cases entries with
  | nil => rfl
  | cons e rest =>
    unfold earliest at h
    split at h <;> cases h

/-- The time is that of an entry, and no entry fires before. -/
theorem earliest_eq_some {entries : List Entry} {t : Instant} (h : earliest entries = some t) :
    (∃ e ∈ entries, e.intent.fireAt = t) ∧ ∀ e ∈ entries, t ≤ e.intent.fireAt := by
  induction entries generalizing t with
  | nil => cases h
  | cons e rest ih =>
    unfold earliest at h
    cases later : earliest rest with
    | none =>
      rw [later] at h
      cases h
      rw [earliest_eq_none later]
      exact ⟨⟨e, List.mem_cons_self, rfl⟩,
        List.forall_mem_singleton.2 (Instant.le_refl e.intent.fireAt)⟩
    | some u =>
      obtain ⟨⟨e', he', same⟩, least⟩ := ih later
      rw [later] at h
      dsimp only at h
      split at h
      · rename_i before
        cases h
        exact ⟨⟨e, List.mem_cons_self, rfl⟩, List.forall_mem_cons.2
          ⟨Instant.le_refl _, fun x hx => Instant.le_trans before (least x hx)⟩⟩
      · rename_i after
        cases h
        exact ⟨⟨e', List.mem_cons_of_mem _ he', same⟩, List.forall_mem_cons.2
          ⟨(Instant.le_total ..).resolve_left after, least⟩⟩

end Ledger

/-! ## The queue -/

namespace TimerQueue

open Ledger

/-- The time of the first entry is the least one. -/
theorem Tracks.nextFireAt {q : TimerQueue} {l : Ledger} (h : q.Tracks l) :
    q.nextFireAt = earliest l.entries := by
  have first : q.nextFireAt = (sorted l.entries).head?.map (·.intent.fireAt) := by
    rw [TimerQueue.nextFireAt, Table.keys, h.entries_eq, List.map_map, List.head?_map,
      Option.map_map]
    rfl
  have same (e : Entry) : e ∈ sorted l.entries ↔ e ∈ l.entries := List.mem_mergeSort
  have ordered := sorted_ordered h.numbered.keys_nodup
  rw [first]
  cases inOrder : sorted l.entries with
  | nil =>
    have none_ : l.entries = [] := List.eq_nil_iff_forall_not_mem.2 fun e he => by
      rw [← same, inOrder] at he
      cases he
    rw [none_]
    rfl
  | cons e rest =>
    rw [inOrder] at ordered same
    cases least : earliest l.entries with
    | none =>
      have he := (same e).1 List.mem_cons_self
      rw [earliest_eq_none least] at he
      cases he
    | some t =>
      obtain ⟨⟨e', he', rfl⟩, before⟩ := earliest_eq_some least
      refine congrArg some (Instant.le_antisymm ?_ (before e ((same e).1 List.mem_cons_self)))
      rcases List.mem_cons.1 ((same e').2 he') with rfl | he'
      · exact Instant.le_refl _
      · exact fireAt_le (List.rel_of_pairwise_cons ordered he')

/-- A job done on a queue is one done on the list, with the same answer. -/
theorem Tracks.perform {q : TimerQueue} {l : Ledger} (h : q.Tracks l) (job : Job) :
    (q.perform job).1 = (l.perform job).1 ∧ (q.perform job).2.Tracks (l.perform job).2 := by
  cases job with
  | replace owner intents => exact ⟨rfl, h.replace owner intents⟩
  | popDue now =>
    refine ⟨congrArg Answer.due ?_, h.popDue now⟩
    rw [h.popDue_fst, Ledger.due, sorted_filter h.numbered.keys_nodup]
  | pendingFor owner => exact ⟨congrArg Answer.pending (h.pendingFor owner), h⟩
  | size => exact ⟨congrArg Answer.count h.size, h⟩
  | nextFireAt => exact ⟨congrArg Answer.time h.nextFireAt, h⟩

theorem Tracks.answers {q : TimerQueue} {l : Ledger} (h : q.Tracks l) (jobs : List Job) :
    answers TimerQueue.perform q jobs = answers Ledger.perform l jobs := by
  induction jobs generalizing q l with
  | nil => rfl
  | cons job jobs ih =>
    obtain ⟨same, next⟩ := h.perform job
    rw [TimerQueue.answers, TimerQueue.answers, same, ih next]

end TimerQueue

/-! ## What becomes of entries -/

namespace Ledger

open TimerQueue (Job Answer returned)

/-- A ledger with all entries that were ever made, those that were returned because they were due,
in the order of their return, and those that were superseded. -/
structure History where
  ledger : Ledger
  made : List Entry
  returned : List Entry
  superseded : List Entry

namespace History

/-- Nothing has happened. -/
def empty : History := ⟨.empty, [], [], []⟩

/-- What a job does to entries. -/
def next (h : History) : Job → History
  | .replace owner intents =>
    { h with
      ledger := h.ledger.replace owner intents
      made := h.made ++ number owner h.ledger.next intents
      superseded := h.superseded ++ h.ledger.of owner }
  | .popDue now =>
    { h with
      ledger := h.ledger.later now
      returned := h.returned ++ sorted (h.ledger.due now) }
  | _ => h

/-- What some jobs do to entries, one after the other. -/
def after (h : History) (jobs : List Job) : History := jobs.foldl next h

/-- Every entry that was made has the next number, and is pending, or was returned, or was
superseded, and only one of these. -/
structure Accounts (h : History) : Prop where
  numbers : h.made.map (·.number) = List.range h.ledger.next
  perm : h.made.Perm (h.ledger.entries ++ h.returned ++ h.superseded)

theorem accounts_empty : empty.Accounts := ⟨rfl, .nil⟩

/-- The numbers of entries that are made together. -/
theorem map_number_number (owner : String) (n : Nat) (intents : List Intent) :
    (number owner n intents).map (·.number) = List.range' n intents.length := by
  induction intents generalizing n with
  | nil => rfl
  | cons i rest ih => rw [number, List.map_cons, ih, List.length_cons, List.range'_succ]

/-- Entries fall into those with a property and the others. -/
theorem count_parts [DecidableEq Entry] (p : Entry → Prop) [DecidablePred p] (entries : List Entry)
    (e : Entry) : entries.count e =
      (entries.filter fun e => ¬ p e).count e + (entries.filter fun e => p e).count e := by
  have perm := List.filter_append_perm (fun e => decide (p e)) entries
  rw [← perm.count_eq, List.count_append, Nat.add_comm]
  simp

theorem Accounts.next {h : History} (accounts : h.Accounts) (job : Job) :
    (h.next job).Accounts := by
  classical
  have count (e : Entry) := accounts.perm.count_eq e
  simp only [List.count_append] at count
  cases job with
  | replace owner intents =>
    refine ⟨?_, List.perm_iff_count.2 fun e => ?_⟩
    · show (h.made ++ number owner h.ledger.next intents).map (·.number) =
        List.range (h.ledger.next + intents.length)
      rw [List.map_append, accounts.numbers, map_number_number, List.range_eq_range',
        List.range_eq_range', ← List.range'_append_1, Nat.zero_add]
    · have parts := count_parts (·.owner = owner) h.ledger.entries e
      simp only [History.next, Ledger.replace, Ledger.of, List.count_append]
      rw [count e, parts]
      simp only [ne_eq]
      omega
  | popDue now =>
    refine ⟨accounts.numbers, List.perm_iff_count.2 fun e => ?_⟩
    have parts := count_parts (·.intent.fireAt ≤ now) h.ledger.entries e
    have sorted_count : (sorted (h.ledger.due now)).count e = (h.ledger.due now).count e :=
      (List.mergeSort_perm ..).count_eq e
    simp only [History.next, Ledger.later, List.count_append]
    rw [count e, parts, sorted_count, Ledger.due]
    omega
  | pendingFor owner => exact accounts
  | size => exact accounts
  | nextFireAt => exact accounts

theorem Accounts.after {h : History} (accounts : h.Accounts) (jobs : List Job) :
    (h.after jobs).Accounts := by
  induction jobs generalizing h with
  | nil => exact accounts
  | cons job jobs ih => exact ih (accounts.next job)

theorem next_ledger (h : History) (job : Job) :
    (h.next job).ledger = (h.ledger.perform job).2 := by
  cases job <;> rfl

/-- What is answered to be due is what is returned. -/
theorem returned_after (h : History) (jobs : List Job) :
    (h.after jobs).returned.map (·.intent) =
      h.returned.map (·.intent) ++
        TimerQueue.returned (TimerQueue.answers perform h.ledger jobs) := by
  induction jobs generalizing h with
  | nil => exact (List.append_nil _).symm
  | cons job jobs ih =>
    have step : (h.next job).returned.map (·.intent) =
        h.returned.map (·.intent) ++ TimerQueue.returned [(h.ledger.perform job).1] := by
      cases job with
      | popDue now =>
        rw [TimerQueue.returned, List.flatMap_singleton]
        exact List.map_append
      | _ => exact (List.append_nil _).symm
    rw [TimerQueue.answers, ← next_ledger]
    refine (ih (h.next job)).trans ?_
    rw [step, List.append_assoc, ← List.singleton_append (l := TimerQueue.answers ..),
      TimerQueue.returned, TimerQueue.returned, TimerQueue.returned, List.flatMap_append]

end History

end Ledger

/-! ## Both -/

namespace TimerQueue

/-- Whatever an empty queue is asked to do, it answers as the plain list does that starts empty. Of
the list, every entry that was ever made has a number of its own and is still pending, or was
returned once, or was superseded, and what the queue returns as due are the entries that were
returned. -/
theorem answers_eq_ledger (jobs : List Job) :
    answers perform empty jobs = answers Ledger.perform .empty jobs ∧
    let h := Ledger.History.empty.after jobs
    returned (answers perform empty jobs) = h.returned.map (·.intent) ∧
    h.made.map (·.number) = List.range h.made.length ∧
    h.made.Perm (h.ledger.entries ++ h.returned ++ h.superseded) := by
  have same := tracks_empty.answers jobs
  have accounts := Ledger.History.accounts_empty.after jobs
  have made : (Ledger.History.empty.after jobs).ledger.next =
      (Ledger.History.empty.after jobs).made.length := by
    have := congrArg List.length accounts.numbers
    rw [List.length_map, List.length_range] at this
    exact this.symm
  refine ⟨same, ?_, made ▸ accounts.numbers, accounts.perm⟩
  rw [same, Ledger.History.returned_after]
  rfl

end TimerQueue

end Signoff
