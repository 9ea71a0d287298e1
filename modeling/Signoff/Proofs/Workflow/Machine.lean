import Signoff.Definition.Validity
import Signoff.Proofs.Action
import Signoff.Table.Lemmas
import Signoff.Workflow.Machine

/-!
# What a machine knows

The machine of a workflow, looked up state by state, is its definition: the initial state and the
terminal ones are those that are declared so (`findInitial_ok`, `isTerminal_iff`), the transition of
a state and an event is the declared one (`transition?_eq_some_iff`), and the times that follow from
entering a state are those that the written durations end at (`dueAt_eq_ok`,
`nextReapproval_eq_ok`), unless these lead beyond the last instant (`dueAt_overruns`,
`nextReapproval_overruns`).
-/

namespace Signoff

/-- A written duration that starts at an instant ends at a time; no duration ends at no time. -/
def Duration.Ends (start : Instant) : Option String → Option Instant → Prop
  | none, time => time = none
  | some text, time =>
    ∃ d t, Duration.parse text = .ok d ∧ Machine.later start d = .ok t ∧ time = some t

/-- A written duration that starts at an instant leads beyond the last instant. -/
def Duration.Overruns (start : Instant) : Option String → Failure → Prop
  | none, _ => False
  | some text, f =>
    ∃ d, Duration.parse text = .ok d ∧ start.after? d = none ∧
      f = .invariant s!"timestamp overflow adding {d.describe} to {start.describe}"

/-- A duration is the one that is written, and there is none where none is written. -/
def Duration.Reads : Option String → Option Duration → Prop
  | none, duration => duration = none
  | some text, duration => ∃ d, Duration.parse text = .ok d ∧ duration = some d

/-- There is a duration just if one is written. -/
theorem Duration.Reads.isSome_eq {text : Option String} {duration : Option Duration}
    (reads : Duration.Reads text duration) : duration.isSome = text.isSome := by
  cases text with
  | none => rw [show duration = none from reads]; rfl
  | some text =>
    obtain ⟨d, -, rfl⟩ := reads
    rfl

/-- A duration that is read is written somewhere. -/
theorem Duration.Reads.exists_text {text : Option String} {d : Duration}
    (reads : Duration.Reads text (some d)) : ∃ text, Duration.parse text = .ok d := by
  cases text with
  | none => cases reads
  | some text =>
    obtain ⟨d', parsed, same⟩ := reads
    cases same
    exact ⟨text, parsed⟩

namespace Definition

/-- A state with the name is declared terminal. -/
def IsTerminal (d : Definition) (name : String) : Prop :=
  ∃ s ∈ d.states, s.name = name ∧ s.terminal = true

/-- The only state that is declared initial has the name. -/
def IsInitial (d : Definition) (name : String) : Prop :=
  ∃ s, d.states.filter (·.initial) = [s] ∧ s.name = name

theorem declares_iff {d : Definition} {name : String} :
    d.declares name = true ↔ ∃ s ∈ d.states, s.name = name := by
  simp [declares, state?]

theorem IsInitial.declares {d : Definition} {name : String} (h : d.IsInitial name) :
    d.declares name = true := by
  obtain ⟨s, hs, hn⟩ := h
  have : s ∈ d.states.filter (·.initial) := by rw [hs]; exact List.mem_singleton_self s
  exact declares_iff.2 ⟨s, (List.mem_filter.1 this).1, hn⟩

/-! ## What is checked -/

theorem require_eq_ok {condition : Bool} {defect : Defect} :
    require condition defect = .ok () ↔ condition = true := by
  cases condition <;> simp [require]

theorem checkTransitions_declared {d : Definition} {before : List (String × String)}
    {ts : List Transition} (h : d.checkTransitions before ts = .ok ()) :
    ∀ t ∈ ts, d.declares t.source = true ∧ d.declares t.target = true := by
  induction ts generalizing before with
  | nil => simp
  | cons t ts ih =>
    simp only [checkTransitions, bind_eq_ok] at h
    obtain ⟨_, _, _, hs, _, ht, _, _, h⟩ := h
    exact List.forall_mem_cons.2 ⟨⟨require_eq_ok.1 hs, require_eq_ok.1 ht⟩, ih h⟩

/-- The transitions of a definition without a defect go between declared states. -/
theorem check_declared {d : Definition} (h : d.check = .ok ()) :
    ∀ t ∈ d.transitions, d.declares t.source = true ∧ d.declares t.target = true := by
  simp only [check, checkStructure, bind_eq_ok] at h
  obtain ⟨_, ⟨_, _, _, _, _, _, h⟩, -⟩ := h
  exact checkTransitions_declared h

theorem accept_eq_ok {d : Definition} {now : Instant} {w : Workflow} :
    d.accept now = .ok w ↔ d.check = .ok () ∧ w = ⟨"", d, now⟩ := by
  simp only [accept, bind_eq_ok, pure, Except.pure, Except.ok.injEq]
  exact ⟨fun ⟨_, h, hw⟩ => ⟨h, hw.symm⟩, fun ⟨h, hw⟩ => ⟨(), h, hw.symm⟩⟩

end Definition

namespace Machine

theorem findInitial_ok {d : Definition} {name : String} (h : findInitial d = .ok name) :
    d.IsInitial name := by
  unfold findInitial at h
  split at h
  · cases h
  · rename_i s hs
    cases h
    exact ⟨s, hs, rfl⟩
  · cases h

/-- The parts of a machine come from the parts of the definition. -/
theorem ofWorkflow_ok {w : Workflow} {m : Machine} (h : ofWorkflow w = .ok m) :
    m.workflowId = w.id ∧ findInitial w.definition = .ok m.initial ∧
      m.terminals = (w.definition.states.filter (·.terminal)).map (·.name) ∧
      addTransitions .empty w.definition.transitions = .ok m.transitions ∧
      addDeadlines .empty w.definition.deadlines.entries = .ok m.deadlines ∧
      readReapproval w.definition.reapproval = .ok m.reapproval := by
  simp only [ofWorkflow, bind_eq_ok, pure, Except.pure, Except.ok.injEq] at h
  obtain ⟨_, hi, _, ht, _, hd, _, hr, rfl⟩ := h
  exact ⟨rfl, hi, rfl, ht, hd, hr⟩

/-- The id of a workflow does not decide whether it has a machine. -/
theorem ofWorkflow_id {w : Workflow} {m : Machine} (h : ofWorkflow w = .ok m) (id : String) :
    ofWorkflow { w with id } = .ok { m with workflowId := id } := by
  obtain ⟨-, hi, hs, ht, hd, hr⟩ := ofWorkflow_ok h
  simp only [ofWorkflow, bind_eq_ok, pure, Except.pure, Except.ok.injEq]
  exact ⟨_, hi, _, ht, _, hd, _, hr, by rw [hs]⟩

theorem isInitial_initial {w : Workflow} {m : Machine} (h : ofWorkflow w = .ok m) :
    w.definition.IsInitial m.initial :=
  findInitial_ok (ofWorkflow_ok h).2.1

theorem isTerminal_iff {w : Workflow} {m : Machine} (h : ofWorkflow w = .ok m) {state : String} :
    m.isTerminal state = true ↔ w.definition.IsTerminal state := by
  simp only [isTerminal, (ofWorkflow_ok h).2.2.1, List.contains_iff_mem, List.mem_map,
    List.mem_filter, Definition.IsTerminal]
  exact ⟨fun ⟨s, ⟨hs, ht⟩, hn⟩ => ⟨s, hs, hn, ht⟩, fun ⟨s, hs, hn, ht⟩ => ⟨s, ⟨hs, ht⟩, hn⟩⟩

/-! ## Transitions -/

/-- The entry for a source and an event in a table of transitions. -/
def entry (table : Table String (Table String Transition)) (source event : String) :
    Option Transition :=
  (table.get? source).bind (·.get? event)

theorem contains_eq_isSome_entry (table : Table String (Table String Transition))
    (source event : String) :
    ((table.get? source).getD .empty).contains event = (entry table source event).isSome := by
  rw [entry]
  cases table.get? source <;> rfl

theorem entry_insert (table : Table String (Table String Transition)) (t : Transition)
    (source event : String) :
    entry (table.insert t.source (((table.get? t.source).getD .empty).insert t.event t))
        source event =
      if source = t.source ∧ event = t.event then some t else entry table source event := by
  by_cases hs : source = t.source
  · subst hs
    rw [entry, Table.get?_insert_self, Option.bind_some]
    by_cases he : event = t.event
    · subst he
      rw [Table.get?_insert_self, if_pos ⟨rfl, rfl⟩]
    · rw [Table.get?_insert_of_ne _ he, if_neg fun h => he h.2, entry]
      cases table.get? t.source <;> rfl
  · rw [entry, Table.get?_insert_of_ne _ hs, if_neg fun h => hs h.1, entry]

/-- Adding transitions adds each of them under its source and event, and nothing else. -/
theorem entry_addTransitions {table table' : Table String (Table String Transition)}
    {ts : List Transition} (h : addTransitions table ts = .ok table') {source event : String}
    {t : Transition} :
    entry table' source event = some t ↔
      entry table source event = some t ∨ t ∈ ts ∧ t.source = source ∧ t.event = event := by
  induction ts generalizing table with
  | nil => cases h; simp
  | cons u ts ih =>
    simp only [addTransitions, contains_eq_isSome_entry] at h
    split at h
    · cases h
    rename_i free
    have free : entry table u.source u.event = none := by simpa using free
    rw [ih h, entry_insert, List.mem_cons]
    -- the place of `u` was free, so nothing is lost there
    by_cases hu : source = u.source ∧ event = u.event
    · obtain ⟨rfl, rfl⟩ := hu
      grind
    · grind

/-- The transition of a state and an event is the declared one. -/
theorem transition?_eq_some_iff {w : Workflow} {m : Machine} (h : ofWorkflow w = .ok m)
    {state event : String} {t : Transition} :
    m.transition? state event = some t ↔
      t ∈ w.definition.transitions ∧ t.source = state ∧ t.event = event := by
  show entry m.transitions state event = some t ↔ _
  rw [entry_addTransitions (ofWorkflow_ok h).2.2.2.1]
  simp [entry]

/-- The transitions that leave a state stand under their events. -/
theorem event_eq_key {w : Workflow} {m : Machine} (h : ofWorkflow w = .ok m) {state : String}
    {table : Table String Transition} (leave : m.transitions.get? state = some table)
    {x : String × Transition} (hx : x ∈ table.entries) : x.2.event = x.1 := by
  have found : m.transition? state x.1 = some x.2 := by
    rw [transition?, leave]
    exact (table.mem_entries_iff x.1 x.2).1 hx
  exact ((transition?_eq_some_iff h).1 found).2.2

theorem mem_transitionsFrom {w : Workflow} {m : Machine} (h : ofWorkflow w = .ok m)
    {state : String} {t : Transition} :
    t ∈ m.transitionsFrom state ↔ m.transition? state t.event = some t := by
  rw [transitionsFrom, transition?]
  cases leave : m.transitions.get? state with
  | none => simp [Table.values, Table.empty]
  | some table =>
    simp only [Option.getD_some, Option.bind_some, Table.values, List.mem_map]
    constructor
    · rintro ⟨x, hx, rfl⟩
      rw [event_eq_key h leave hx]
      exact (table.mem_entries_iff x.1 x.2).1 hx
    · intro found
      exact ⟨_, (table.mem_entries_iff _ _).2 found, rfl⟩

/-- The events of a state increase strictly. -/
theorem eventsFrom_increasing {w : Workflow} {m : Machine} (h : ofWorkflow w = .ok m)
    (state : String) : (m.eventsFrom state).Pairwise fun a b => compare a b = .lt := by
  rw [eventsFrom, transitionsFrom]
  cases leave : m.transitions.get? state with
  | none => exact .nil
  | some table =>
    have keys : (table.values.map (·.event)) = table.keys := by
      rw [Table.values, Table.keys, List.map_map]
      exact List.map_congr_left fun x hx => event_eq_key h leave hx
    rw [Option.getD_some, keys]
    exact List.pairwise_map.2 table.increasing

/-! ## Times -/

/-- Each deadline is added as the duration that its text is read as. -/
theorem get?_addDeadlines {table table' : Table String Duration} {entries : List (String × String)}
    (inc : Increasing entries) (h : addDeadlines table entries = .ok table') (state : String) :
    match findEntry state entries with
    | none => table'.get? state = table.get? state
    | some text => ∃ d, Duration.parse text = .ok d ∧ table'.get? state = some d := by
  induction entries generalizing table with
  | nil => cases h; rfl
  | cons x rest ih =>
    obtain ⟨key, text⟩ := x
    rw [addDeadlines] at h
    split at h
    case h_2 => cases h
    rename_i d hd
    have := ih inc.of_cons h
    rw [findEntry]
    by_cases hk : state = key
    · subst hk
      rw [findEntry_eq_none_of_lt fun x hx => List.rel_of_pairwise_cons inc hx] at this
      rw [if_pos Std.ReflOrd.compare_self]
      exact ⟨d, hd, by simpa using this⟩
    · rw [if_neg (mt Std.LawfulEqOrd.eq_of_compare hk)]
      rwa [Table.get?_insert_of_ne _ hk] at this

/-- The deadline of a state is the one that is written for it. -/
theorem deadline?_reads {w : Workflow} {m : Machine} (h : ofWorkflow w = .ok m) (state : String) :
    Duration.Reads (w.definition.deadlines.get? state) (m.deadline? state) := by
  have written := get?_addDeadlines w.definition.deadlines.increasing
    (ofWorkflow_ok h).2.2.2.2.1 state
  show Duration.Reads (findEntry state w.definition.deadlines.entries) (m.deadlines.get? state)
  cases given : findEntry state w.definition.deadlines.entries <;> rwa [given] at written

theorem readReapproval_target {policy : Option Signoff.Reapproval} {read : Option Reapproval}
    (h : readReapproval policy = .ok read) : read.map (·.target) = policy.map (·.target) := by
  unfold readReapproval at h
  split at h
  · cases h; rfl
  · split at h
    · cases h; rfl
    · cases h

theorem readReapproval_reads {policy : Option Signoff.Reapproval} {read : Option Reapproval}
    (h : readReapproval policy = .ok read) :
    Duration.Reads (policy.map (·.after)) (read.map (·.after)) := by
  unfold readReapproval at h
  split at h
  · cases h; rfl
  · split at h
    · rename_i d parsed
      cases h
      exact ⟨d, parsed, rfl⟩
    · cases h

/-- The state to which documents come back is the one that is written. -/
theorem reapproval_target {w : Workflow} {m : Machine} (h : ofWorkflow w = .ok m) :
    m.reapproval.map (·.target) = w.definition.reapproval.map (·.target) :=
  readReapproval_target (ofWorkflow_ok h).2.2.2.2.2

/-- The duration of the policy is the one that is written. -/
theorem reapproval_reads {w : Workflow} {m : Machine} (h : ofWorkflow w = .ok m) :
    Duration.Reads (w.definition.reapproval.map (·.after)) (m.reapproval.map (·.after)) :=
  readReapproval_reads (ofWorkflow_ok h).2.2.2.2.2

/-- The time at which a duration ends that starts at an instant, if there is a duration. -/
def endOf (start : Instant) : Option Duration → Except Failure (Option Instant)
  | none => .ok none
  | some d => (later start d).map some

theorem dueAt_eq (m : Machine) (state : String) (now : Instant) :
    m.dueAt state now = endOf now (m.deadline? state) := by
  unfold dueAt
  cases m.deadline? state <;> rfl

theorem nextReapproval_eq (m : Machine) (now : Instant) :
    m.nextReapproval now = endOf now (m.reapproval.map (·.after)) := by
  unfold nextReapproval
  cases m.reapproval <;> rfl

/-- A written duration ends at the time at which the one that was read does. -/
theorem endOf_eq_ok {start : Instant} {text : Option String} {duration : Option Duration}
    (reads : Duration.Reads text duration) {time : Option Instant} :
    endOf start duration = .ok time ↔ Duration.Ends start text time := by
  cases text with
  | none =>
    obtain rfl : duration = none := reads
    exact ⟨fun h => (Except.ok.inj h).symm, fun h => congrArg Except.ok (Eq.symm h)⟩
  | some text =>
    obtain ⟨d, read, rfl⟩ := reads
    rw [endOf, map_eq_ok]
    constructor
    · rintro ⟨t, ends, rfl⟩
      exact ⟨d, t, read, ends, rfl⟩
    · rintro ⟨d', t, read', ends, rfl⟩
      cases read.symm.trans read'
      exact ⟨t, ends, rfl⟩

/-- There is no such time just if the duration leads beyond the last instant. -/
theorem endOf_eq_error {start : Instant} {duration : Option Duration} {f : Failure} :
    endOf start duration = .error f ↔ ∃ d, duration = some d ∧ start.after? d = none ∧
      f = .invariant s!"timestamp overflow adding {d.describe} to {start.describe}" := by
  cases duration with
  | none => simp [endOf]
  | some d =>
    rw [endOf, map_eq_error, later]
    cases ends : start.after? d <;> simp [ends, eq_comm]

theorem endOf_overruns {start : Instant} {text : Option String} {duration : Option Duration}
    (reads : Duration.Reads text duration) {f : Failure} :
    endOf start duration = .error f ↔ Duration.Overruns start text f := by
  rw [endOf_eq_error]
  cases text with
  | none =>
    obtain rfl : duration = none := reads
    exact ⟨nofun, nofun⟩
  | some text =>
    obtain ⟨d, read, rfl⟩ := reads
    simp [Duration.Overruns, read]

section

variable {w : Workflow} {m : Machine} (h : ofWorkflow w = .ok m) {state : String} {now : Instant}
  {time : Option Instant} {f : Failure}
include h

/-- The time by which a document has to leave a state is the end of the deadline of the state. -/
theorem dueAt_eq_ok :
    m.dueAt state now = .ok time ↔ Duration.Ends now (w.definition.deadlines.get? state) time := by
  rw [dueAt_eq, endOf_eq_ok (deadline?_reads h state)]

theorem dueAt_overruns :
    m.dueAt state now = .error f ↔
      Duration.Overruns now (w.definition.deadlines.get? state) f := by
  rw [dueAt_eq, endOf_overruns (deadline?_reads h state)]

/-- The time at which a document comes back is the end of the duration of the policy. -/
theorem nextReapproval_eq_ok :
    m.nextReapproval now = .ok time ↔
      Duration.Ends now (w.definition.reapproval.map (·.after)) time := by
  rw [nextReapproval_eq, endOf_eq_ok (reapproval_reads h)]

theorem nextReapproval_overruns :
    m.nextReapproval now = .error f ↔
      Duration.Overruns now (w.definition.reapproval.map (·.after)) f := by
  rw [nextReapproval_eq, endOf_overruns (reapproval_reads h)]

end

end Machine

end Signoff
