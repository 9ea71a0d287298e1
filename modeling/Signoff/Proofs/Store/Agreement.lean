import Signoff.Proofs.Engine.Document
import Signoff.Proofs.Store.Joining

/-!
# Stores that agree

Actions on two states agree (`Action.Agree`) if they give the same result and leave states that are
related again. Stores simulate one another (`Store.Simulates`) if their plain operations agree, on
the ids and data that they are asked about and on the documents that they have; then the operations
with a commitment agree too (`createThen_agree`, `modifyThen_agree`).
-/

namespace Signoff

variable {ε ε' σ τ ω α β : Type}

namespace Action

/-- On states that `P` relates the actions give the same result, a good one if they succeed, and
leave states that `Q` relates. -/
def Agree (P Q : σ → τ → Prop) (Good : α → Prop) (a : ExceptT ε (StateM σ) α)
    (b : ExceptT ε (StateM τ) α) : Prop :=
  ∀ ⦃s t⦄, P s t → (a s).1 = (b t).1 ∧ Q (a s).2 (b t).2 ∧ ∀ x, (a s).1 = .ok x → Good x

variable {P Q R : σ → τ → Prop} {Good : α → Prop} {Good' : β → Prop}
  {a : ExceptT ε (StateM σ) α} {b : ExceptT ε (StateM τ) α}

theorem agree_pure {x : α} (good : Good x) :
    Agree P P Good (pure x : ExceptT ε (StateM σ) α) (pure x : ExceptT ε (StateM τ) α) :=
  fun _ _ h => ⟨rfl, h, fun _ e => Except.ok.inj e ▸ good⟩

theorem agree_throw (e : ε) :
    Agree P P Good (throw e : ExceptT ε (StateM σ) α) (throw e : ExceptT ε (StateM τ) α) :=
  fun _ _ h => ⟨rfl, h, nofun⟩

theorem agree_ofExcept {r : Except Failure α} (good : ∀ x, r = .ok x → Good x) :
    Agree P P Good (ofExcept r : Action σ α) (ofExcept r : Action τ α) := by
  intro s t h
  simp only [ofExcept_apply]
  exact ⟨trivial, h, good⟩

theorem Agree.weaken (h : Agree P Q Good a b) (weaker : ∀ {s t}, Q s t → R s t) {Good' : α → Prop}
    (good : ∀ x, Good x → Good' x) : Agree P R Good' a b :=
  fun _ _ hP => ⟨(h hP).1, weaker (h hP).2.1, fun x e => good x ((h hP).2.2 x e)⟩

/-- Actions agree if what they do first agrees, and what they do then agrees on good results. -/
theorem Agree.bind {f : α → ExceptT ε (StateM σ) β} {g : α → ExceptT ε (StateM τ) β}
    (h : Agree P Q Good a b) (weaker : ∀ {s t}, Q s t → R s t)
    (hf : ∀ x, Good x → Agree Q R Good' (f x) (g x)) : Agree P R Good' (a >>= f) (b >>= g) := by
  intro s t hP
  obtain ⟨same, left_, good⟩ := h hP
  rw [bind_apply, bind_apply]
  generalize a s = out at same left_ good ⊢
  generalize b t = out' at same left_ ⊢
  obtain ⟨r, s'⟩ := out
  obtain ⟨r', t'⟩ := out'
  obtain rfl : r = r' := same
  cases r with
  | error e => exact ⟨rfl, weaker left_, nofun⟩
  | ok x => exact hf x (good x rfl) left_

theorem Agree.forIn {xs : List α} {f : α → β → ExceptT ε (StateM σ) (ForInStep β)}
    {g : α → β → ExceptT ε (StateM τ) (ForInStep β)}
    (h : ∀ x y, Agree P P (fun _ => True) (f x y) (g x y)) (y : β) :
    Agree P P (fun _ => True) (forIn xs y f) (forIn xs y g) := by
  induction xs generalizing y with
  | nil => exact agree_pure trivial
  | cons x xs ih =>
    rw [List.forIn_cons, List.forIn_cons]
    refine (h x y).bind id fun next _ => ?_
    cases next with
    | done y => exact agree_pure trivial
    | yield y => exact ih y

/-- The first parts are related and the second parts are the same. -/
def Beside (P : σ → τ → Prop) (x : σ × ω) (y : τ × ω) : Prop := P x.1 y.1 ∧ x.2 = y.2

theorem Agree.onFirst {a : Action σ α} {b : Action τ α} (h : Agree P Q Good a b) :
    Agree (Beside P) (Beside Q) Good (a.onFirst : Action (σ × ω) α)
      (b.onFirst : Action (τ × ω) α) :=
  fun _ _ both => ⟨(h both.1).1, ⟨(h both.1).2.1, both.2⟩, (h both.1).2.2⟩

theorem agree_changeSecond (f : ω → ω) :
    Agree (Beside P) (Beside P) (fun _ => True) (changeSecond f : Action (σ × ω) Unit)
      (changeSecond f : Action (τ × ω) Unit) :=
  fun _ _ both => ⟨rfl, ⟨both.1, congrArg f both.2⟩, fun _ _ => trivial⟩

end Action

open Signoff.Action

theorem createThen_agree {P Q : σ → τ → Prop} {create : Document → Action σ String}
    {create' : Document → Action τ String} {d : Document}
    (h : Agree P Q (fun _ => True) (create d) (create' d)) (committed : Document → ω → ω) :
    Agree (Beside P) (Beside Q) (fun _ => True) (createThen create d committed)
      (createThen create' d committed) :=
  h.onFirst.bind id fun _ _ => (agree_changeSecond _).bind id fun _ _ => agree_pure trivial

theorem modifyThen_agree {P Q : σ → τ → Prop} {Stored : Document → Prop}
    {get : String → Action σ (Option Document)} {get' : String → Action τ (Option Document)}
    {put : Document → Action σ Unit} {put' : Document → Action τ Unit} {id : String}
    {update : Document → Action (σ × ω) (Document × β)}
    {update' : Document → Action (τ × ω) (Document × β)} (still : ∀ {s t}, P s t → Q s t)
    (found : Agree P P (fun found => ∀ d, found = some d → Stored d) (get id) (get' id))
    (updated : ∀ d, Stored d →
      Agree (Beside P) (Beside P) (fun x => Stored x.1) (update d) (update' d))
    (kept : ∀ d, Stored d → Agree P Q (fun _ => True) (put d) (put' d))
    (committed : Document → β → ω → ω) :
    Agree (Beside P) (Beside Q) (fun _ => True) (modifyThen get put id update committed)
      (modifyThen get' put' id update' committed) := by
  have stays {x : σ × ω} {y : τ × ω} (h : Beside P x y) : Beside Q x y := ⟨still h.1, h.2⟩
  refine found.onFirst.bind stays fun found stored => ?_
  cases found with
  | none => exact (agree_throw _).weaken stays fun _ good => good
  | some d =>
    refine (updated d (stored d rfl)).bind stays fun x moved => ?_
    refine (kept x.1 moved).onFirst.bind (fun h => h) fun _ _ => ?_
    exact (agree_changeSecond _).bind (fun h => h) fun _ _ => agree_pure trivial

namespace Store

/-- The plain operations of two stores agree, on the ids and the data they are asked about and on
documents that they have under an id: lookups leave the stores related by `P`, and everything else
by `Q`. -/
structure Simulates [Store σ] [Store τ] (put : String → Document → Action σ Unit)
    (put' : String → Document → Action τ Unit) (Id : String → Prop) (Data : Value → Prop)
    (Stored : String → Document → Prop) (P Q : σ → τ → Prop) : Prop where
  joins : Joins put
  joins' : Joins put'
  still : ∀ {s t}, P s t → Q s t
  workflowId : ∀ {id d}, Stored id d → Id d.workflowId
  moved : ∀ {id d d'}, Stored id d → d.SameOrigin d' → Stored id d'
  saveWorkflow : ∀ {w}, w.id.isEmpty = true →
    Agree P Q (fun _ => True) (Store.saveWorkflow w) (Store.saveWorkflow w)
  getWorkflow : ∀ {id}, Id id →
    Agree P P (fun _ => True) (Store.getWorkflow id) (Store.getWorkflow id)
  createDocument : ∀ {d}, Id d.workflowId → Data d.data →
    Agree P Q (fun _ => True) (Store.createDocument d) (Store.createDocument d)
  getDocument : ∀ {id}, Id id →
    Agree P P (fun found => ∀ d, found = some d → Stored id d) (Store.getDocument id)
      (Store.getDocument id)
  put : ∀ {id d}, Stored id d → Agree P Q (fun _ => True) (put id d) (put' id d)

end Store

end Signoff
