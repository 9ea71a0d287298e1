import Mathlib.Data.List.Basic
import Signoff.Proofs.Engine.Availability

/-!
# More roles never allow less

Two requests that differ in the roles of the actor only are compared. Each operation of the engine
asks for the roles in one place: a move asks one gate, and a list of events is filtered by gates. So
an actor with more roles makes every move that one with fewer makes, with the same outcome, and is
offered every event; and how the roles were listed is of no account.

* `Action.Within`: what one action achieves another achieves as well, with the rules for the ways to
  put actions together.
* `Document.fire_mono`, `Document.events_mono`: the move and the list on one document.
* `Engine.applyEvent_within`, `Engine.availableEvents_mono`: the two operations on any store.
* `Engine.roles_monotone`: both together, and what follows when the roles are the same.
-/

namespace Signoff

variable {σ ω α β : Type}

namespace Action

/-- Whenever the first action succeeds the second does, and gives and leaves the same. -/
def Within (a b : Action σ α) : Prop := ∀ s x s', a s = (.ok x, s') → b s = (.ok x, s')

variable {a b : Action σ α} {f g : α → Action σ β}

theorem Within.refl (a : Action σ α) : Within a a := fun _ _ _ h => h

theorem within_ofExcept {r r' : Except Failure α} (h : ∀ x, r = .ok x → r' = .ok x) :
    Within (ofExcept r : Action σ α) (ofExcept r') := by
  intro s x s' achieved
  rw [ofExcept_apply] at achieved ⊢
  obtain ⟨ok, rfl⟩ := Prod.mk.inj achieved
  rw [h x ok]

theorem Within.bind (h : Within a b) (next : ∀ x, Within (f x) (g x)) :
    Within (a >>= f) (b >>= g) := by
  intro s y s' achieved
  obtain ⟨x, s₁, first, second⟩ := bind_apply_ok achieved
  rw [bind_apply, h s x s₁ first]
  exact next x s₁ y s' second

theorem Within.modifyThen {getDocument : String → Action σ (Option Document)}
    {updateDocument : Document → Action σ Unit} {id : String}
    {update update' : Document → Action (σ × ω) (Document × β)} {committed : Document → β → ω → ω}
    (h : ∀ d, Within (update d) (update' d)) :
    Within (Signoff.modifyThen getDocument updateDocument id update committed)
      (Signoff.modifyThen getDocument updateDocument id update' committed) :=
  (Within.refl _).bind fun
    | none => .refl _
    | some d => (h d).bind fun _ => .refl _

theorem Within.reporting {a b : Engine.Operation σ α} (h : Within a b) :
    Within (Engine.reporting a) (Engine.reporting b) := by
  intro s x s' achieved
  rw [Engine.reporting_apply] at achieved ⊢
  rcases ran : a s with ⟨_ | y, s₁⟩ <;> rw [ran] at achieved <;> cases achieved
  rw [h s x s' ran]

end Action

namespace Document

variable {d d' : Document} {m : Machine} {event : String} {roles roles' : List String}
  {now : Instant}

/-- A move asks for nothing of the actor but that a gate lets it through. -/
theorem fire_mono (more : ∀ role ∈ roles, role ∈ roles')
    (fired : d.fire m event (.ofList roles) now = .ok d') :
    d.fire m event (.ofList roles') now = .ok d' := by
  obtain ⟨running, t, dueAt, nextReapproval, found, gate, due, next, moved⟩ := fire_eq_ok.1 fired
  exact fire_eq_ok.2 ⟨running, t, dueAt, nextReapproval, found,
    RoleSet.permits_ofList_mono more gate, due, next, moved⟩

/-- Gates that more roles open let more events through, in the order they had. -/
theorem events_mono (more : ∀ role ∈ roles, role ∈ roles') :
    (d.events m (.ofList roles)).Sublist (d.events m (.ofList roles')) := by
  unfold events
  split
  · exact .refl _
  · refine .map _ (List.monotone_filter_right _ fun t => ?_)
    exact RoleSet.permits_ofList_mono more

end Document

namespace Engine

variable [Store σ] {roles roles' : List String}

theorem applyEvent_within {write : String → Document → Action σ Unit}
    (modifies : Store.Modifies write) (more : ∀ role ∈ roles, role ∈ roles') (now : Instant)
    (id event : String) :
    Action.Within (applyEvent now id event (.ofList roles) : Operation σ Document)
      (applyEvent now id event (.ofList roles')) := by
  unfold applyEvent
  rw [modifies.modifyDocumentThen_eq, modifies.modifyDocumentThen_eq]
  have moves (d : Document) (m : Machine) :
      Action.Within (Action.ofExcept (d.fire m event (.ofList roles) now) : Operation σ Document)
        (.ofExcept (d.fire m event (.ofList roles') now)) :=
    Action.within_ofExcept fun _ => Document.fire_mono more
  refine .reporting (.bind (.modifyThen fun d => ?_) fun _ => .refl _)
  exact .bind (.refl _) fun _ => .bind (.refl _) fun m => .bind (moves d m) fun _ => .refl _

/-- The second answer fails as the first does, or offers the same document and all of its events,
perhaps with others between them. -/
def OffersMore : Except Failure AvailableEvents → Except Failure AvailableEvents → Prop
  | .ok few, .ok many =>
    few.documentId = many.documentId ∧ few.current = many.current ∧ few.events.Sublist many.events
  | .error f, .error f' => f = f'
  | _, _ => False

/-- The document and its machine are looked up without a look at the roles. -/
theorem availableEvents_mono (more : ∀ role ∈ roles, role ∈ roles') (id : String)
    (s : σ × Ambient) :
    OffersMore (availableEvents id (.ofList roles) s).1
        (availableEvents id (.ofList roles') s).1 ∧
      (availableEvents id (.ofList roles) s).2 = (availableEvents id (.ofList roles') s).2 := by
  simp only [availableEvents, Action.bind_apply]
  obtain ⟨f | d, s₁⟩ := (getDocument id : Operation σ _) s
  · exact ⟨rfl, rfl⟩
  · dsimp only
    obtain ⟨f | m, s₂⟩ := (getMachine d.workflowId : Operation σ _) s₁
    · exact ⟨rfl, rfl⟩
    · exact ⟨⟨rfl, rfl, Document.events_mono more⟩, rfl⟩

/-- What an actor with some roles and an actor with others may do on a store. -/
structure AllowsMore (s : σ) (roles roles' : List String) : Prop where
  /-- A move that the first makes the second makes too. The document, what is stored, the timers and
  the log are the same after it. -/
  moves : ∀ (a : Ambient) (now : Instant) (id event : String) (d : Document) (after : σ × Ambient),
    applyEvent now id event (.ofList roles) (s, a) = (.ok d, after) →
      applyEvent now id event (.ofList roles') (s, a) = (.ok d, after)
  /-- The second is offered all that the first is, or both lists fail in the same way. -/
  offers : ∀ (a : Ambient) (id : String),
    OffersMore (availableEvents id (.ofList roles) (s, a)).1
        (availableEvents id (.ofList roles') (s, a)).1 ∧
      (availableEvents id (.ofList roles) (s, a)).2 = (availableEvents id (.ofList roles') (s, a)).2
  /-- If the second has no more roles than the first, nothing tells the two apart. -/
  same : (∀ role ∈ roles', role ∈ roles) → ∀ (a : Ambient) (id : String),
    (∀ (now : Instant) (event : String), applyEvent now id event (.ofList roles) (s, a) =
      applyEvent now id event (.ofList roles') (s, a)) ∧
    availableEvents id (.ofList roles) (s, a) = availableEvents id (.ofList roles') (s, a)

theorem allowsMore {write : String → Document → Action σ Unit} (modifies : Store.Modifies write)
    (more : ∀ role ∈ roles, role ∈ roles') (s : σ) : AllowsMore s roles roles' where
  moves a now id event d after := applyEvent_within modifies more now id event (s, a) d after
  offers a id := availableEvents_mono more id (s, a)
  same less a id := by
    rw [RoleSet.ofList_congr fun role => ⟨more role, less role⟩]
    exact ⟨fun _ _ => rfl, rfl⟩

omit [Store σ] in
/-- However the roles of two actors are listed, if every role of the first is one of the second,
then the second makes every move that the first makes, and is offered every event that the first is;
and if both have the same roles, everything is the same, the failures too. This holds of whatever is
stored: in memory, in two maps, in files on a disk with any faults, and in any store that modifies a
document by reading and writing it. -/
theorem roles_monotone (more : ∀ role ∈ roles, role ∈ roles') :
    (∀ s : MemoryStore, AllowsMore s roles roles') ∧
    (∀ s : PlainStore, AllowsMore s roles roles') ∧
    (∀ s : FileStore, AllowsMore s roles roles') ∧
    ∀ {σ : Type} [Store σ] {write : String → Document → Action σ Unit}, Store.Modifies write →
      ∀ s : σ, AllowsMore s roles roles' :=
  ⟨allowsMore MemoryStore.modifies more, allowsMore PlainStore.plain.modifies more,
    allowsMore FileStore.modifies more, fun modifies => allowsMore modifies more⟩

/-- On the document behind a gate: an editor who is named twice, with another role before, ends it
as an editor does, and a guest is offered one event less than both. -/
theorem unchecked_roles_monotone :
    (∀ role ∈ ["ed"], role ∈ ["aud", "ed", "ed"]) ∧
    (∃ d after,
      applyEvent .epoch "d" "end" (.ofList ["ed"]) (uncheckedRecords, .start true) =
        (.ok d, after) ∧
      applyEvent .epoch "d" "end" (.ofList ["aud", "ed", "ed"]) (uncheckedRecords, .start true) =
        (.ok d, after)) ∧
    AllowsMore uncheckedRecords ["ed"] ["aud", "ed", "ed"] ∧
    (availableEvents "d" (.ofList []) (uncheckedRecords, .start true)).1 =
      .ok ⟨"d", "Open", ["skip"]⟩ ∧
    (availableEvents "d" (.ofList ["ed"]) (uncheckedRecords, .start true)).1 =
      .ok ⟨"d", "Open", ["end", "skip"]⟩ := by
  have more : ∀ role ∈ ["ed"], role ∈ ["aud", "ed", "ed"] := by decide
  have allows := (roles_monotone more).1 uncheckedRecords
  have ends : (applyEvent .epoch "d" "end" (.ofList ["ed"])
      (uncheckedRecords, .start true)).1.isOk = true := by decide +kernel
  refine ⟨more, ?_, allows, rfl, rfl⟩
  rcases ran : applyEvent .epoch "d" "end" (.ofList ["ed"]) (uncheckedRecords, .start true) with
    ⟨f | d, after⟩
  · rw [ran] at ends
    cases ends
  · exact ⟨d, after, rfl, allows.moves _ _ _ _ _ _ ran⟩

end Engine

end Signoff
