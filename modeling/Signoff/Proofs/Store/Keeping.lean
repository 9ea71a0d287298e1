import Signoff.Proofs.Store.Apart

/-!
# Ways of keeping documents

A store keeps documents in a way of its own (`Store.Keeping`): it has a content, in which something
is under an id or nothing is, and a write that succeeds puts a document there, while one that fails
leaves the content as it is.

However documents are kept, modifying one ends in one of five ways (`Store.Keeping.Outcome`): the
lookup fails, or finds nothing; the update fails, on a copy of the document that was found; the
write fails; or the document is stored, and only then the commitment is carried out. In each of them
it is told how often the update and the commitment have run, by what they leave. They may do to the
store what they like, but neither may enter it again for the document that is locked while they run
(`Store.Keeping.NotReentrant`).

This is the contract of an operation that modifies documents (`Store.Keeping.Contract`), which the
general way of modifying has with whatever operation writes (`contract_modifyWith`). If this is the
plain operation that replaces a document, the way in which it keeps documents is that of the
operation by which it writes (`replacing`).
-/

namespace Signoff

open Signoff.Action

variable {σ ω α β : Type}

/-! ## Ways of keeping documents -/

/-- How a store keeps documents that an operation writes under ids. -/
structure Store.Keeping (σ : Type) [Store σ] (write : String → Document → Action σ Unit) where
  /-- What lookups leave. -/
  Still : Type
  still : σ → Still
  /-- What the store has. -/
  Content : Type
  content : σ → Content
  /-- What is under an id. -/
  Record : Type
  under : String → Content → Record
  /-- The content with a document that was written under an id. -/
  put : String → Document → Content → Content
  /-- There is something. -/
  Has : Record → Prop
  /-- What is there is the document. -/
  Holds : Document → Record → Prop
  /-- The document is what it is read as. -/
  Exact : Document → Prop
  /-- Nothing stands in the way of reading and writing under the id. -/
  Fine : String → σ → Prop
  /-- Nothing has changed that is locked while the document under the id is modified. -/
  Untouched : String → σ → σ → Prop
  /-- The stores differ only in what cannot be looked up while the document under the id is
  modified. -/
  Alike : String → σ → σ → Prop
  sees : ∀ {s s'}, still s' = still s → content s' = content s
  looks : ∀ id, Keeps still (Store.getDocument id)
  looks_fine : ∀ {id s}, Fine id s → Fine id (Store.getDocument id s).2
  found : ∀ {id s d}, (Store.getDocument id s).1 = .ok (some d) → Holds d (under id (content s))
  has : ∀ {d r}, Holds d r → Has r
  gives : ∀ {id s d}, Fine id s → Holds d (under id (content s)) →
    (Store.getDocument id s).1 = .ok (some d)
  lacks : ∀ {id s}, Fine id s → ¬ Has (under id (content s)) →
    (Store.getDocument id s).1 = .ok none
  writes : ∀ {id s d old}, Fine id s → Holds old (under id (content s)) → d.id = id →
    (write id d s).1 = .ok ()
  written : ∀ {id d s s'}, write id d s = (.ok (), s') → content s' = put id d (content s)
  unwritten : ∀ {id d s s' f}, write id d s = (.error f, s') → content s' = content s
  written_fine : ∀ {id d s}, d.id = id → Fine id s → Fine id (write id d s).2
  holds : ∀ {id d c}, Has (under id c) → d.id = id → Exact d → Holds d (under id (put id d c))
  still_untouched : ∀ id s, Untouched id s s
  untouched : ∀ {id s s'}, Untouched id s s' → under id (content s') = under id (content s)

namespace Store.Keeping

variable [Store σ] {write : String → Document → Action σ Unit} (k : Keeping σ write)

/-- What a store has under an id. -/
def record (id : String) (s : σ) : k.Record := k.under id (k.content s)

/-- What runs beside the store leaves what the store keeps. -/
def Leaves (a : StateM (σ × ω) α) : Prop := ∀ x, k.still (a x).2.1 = k.still x.1

/-- What runs beside the store while the document under an id is modified does not enter the store
again for what is locked then: it changes nothing of that and does not depend on it. A store that is
asked for it waits for itself. -/
structure NotReentrant (id : String) (a : StateM (σ × ω) α) : Prop where
  untouched : ∀ x, k.Untouched id x.1 (a x).2.1
  unaware : ∀ {s s'} w, k.Alike id s s' →
    (a (s, w)).1 = (a (s', w)).1 ∧ Beside (k.Alike id) (a (s, w)).2 (a (s', w)).2

/-- What modifying the document under an id comes to, from a store `s` and a state `w` on which the
update and the commitment run. -/
inductive Outcome (id : String) (update : Update σ ω β) (committed : Document → β → Commitment σ ω)
    (s : σ) (w : ω) : Except Failure (Document × β) × σ × ω → Prop where
  /-- The lookup fails, and neither the update nor the commitment runs. -/
  | unread {f s₁} (looked : Store.getDocument id s = (.error f, s₁))
      (there : k.Fine id s → k.Has (k.record id s)) (same : k.still s₁ = k.still s) :
      Outcome id update committed s w (.error f, s₁, w)
  /-- There is no such document, and neither the update nor the commitment runs. -/
  | unknown {s₁} (looked : Store.getDocument id s = (.ok none, s₁))
      (same : k.still s₁ = k.still s) :
      Outcome id update committed s w (.error (.documentNotFound id), s₁, w)
  /-- The update runs on a copy of the document and fails, whatever it has made of the copy; the
  store is as the update has left it, and the commitment does not run. -/
  | refused {d draft f s₁ s₂ w₂} (looked : Store.getDocument id s = (.ok (some d), s₁))
      (same : k.still s₁ = k.still s) (held : k.Holds d (k.record id s))
      (ran : update (s₁, d, w) = (.error f, s₂, draft, w₂))
      (kept : k.record id s₂ = k.record id s) :
      Outcome id update committed s w (.error f, s₂, w₂)
  /-- The updated copy cannot be written, which changes nothing, and the commitment does not run. -/
  | unwritten {d draft b f s₁ s₂ s₃ w₂} (looked : Store.getDocument id s = (.ok (some d), s₁))
      (same : k.still s₁ = k.still s) (held : k.Holds d (k.record id s))
      (ran : update (s₁, d, w) = (.ok b, s₂, draft, w₂))
      (kept : k.record id s₂ = k.record id s) (tried : write id draft s₂ = (.error f, s₃))
      (faulty : draft.id = id → ¬ k.Fine id s₂) (unchanged : k.content s₃ = k.content s₂) :
      Outcome id update committed s w (.error f, s₃, w₂)
  /-- The updated copy is stored; after that the commitment runs on it and on what the update left,
  and the copy stays stored. -/
  | stored {d draft b s₁ s₂ s₃ s₄ w₂ w₄} (looked : Store.getDocument id s = (.ok (some d), s₁))
      (same : k.still s₁ = k.still s) (held : k.Holds d (k.record id s))
      (ran : update (s₁, d, w) = (.ok b, s₂, draft, w₂))
      (wrote : write id draft s₂ = (.ok (), s₃))
      (placed : k.content s₃ = k.put id draft (k.content s₂))
      (told : committed draft b (s₃, w₂) = ((), s₄, w₄))
      (kept : k.record id s₄ = k.record id s₃)
      (back : draft.id = id → k.Exact draft → k.Fine id s₂ →
        (Store.getDocument id s₃).1 = .ok (some draft) ∧
          (k.Fine id s₄ → (Store.getDocument id s₄).1 = .ok (some draft))) :
      Outcome id update committed s w (.ok (draft, b), s₄, w₄)

variable {k} {s : σ} {w : ω} {id : String} {update : Update σ ω β}
  {committed : Document → β → Commitment σ ω}

/-- What runs on a state of its own leaves the store. -/
theorem leaves_onSecond (k : Keeping σ write) (a : Action ω α) :
    k.Leaves (a.onSecond : Action (σ × ω) α) := fun _ => rfl

theorem NotReentrant.kept {a : StateM (σ × ω) α} (h : k.NotReentrant id a) (x : σ × ω) :
    k.record id (a x).2.1 = k.record id x.1 :=
  k.untouched (h.untouched x)

/-- What runs on a state of its own does not enter the store. -/
theorem notReentrant_onSecond (k : Keeping σ write) (id : String) (a : Action ω α) :
    k.NotReentrant id (a.onSecond : Action (σ × ω) α) where
  untouched x := k.still_untouched id x.1
  unaware _ same := ⟨rfl, same, rfl⟩

theorem notReentrant_beside (k : Keeping σ write) (id : String) (change : ω → ω) :
    k.NotReentrant id (Commitment.beside change : Commitment σ ω) where
  untouched x := k.still_untouched id x.1
  unaware _ same := ⟨rfl, same, rfl⟩

/-- Once the document is stored, the commitment runs and leaves it stored. -/
theorem outcome_stored {d draft : Document} {b : β} {s₁ s₂ s₃ : σ} {w₂ : ω}
    (looked : Store.getDocument id s = (.ok (some d), s₁)) (same : k.still s₁ = k.still s)
    (held : k.Holds d (k.record id s)) (ran : update (s₁, d, w) = (.ok b, s₂, draft, w₂))
    (kept : k.record id s₂ = k.record id s) (wrote : write id draft s₂ = (.ok (), s₃))
    (apart : k.NotReentrant id (committed draft b)) :
    k.Outcome id update committed s w (.ok (draft, b), (committed draft b (s₃, w₂)).2) := by
  have placed := k.written wrote
  have stays := apart.kept (s₃, w₂)
  refine .stored looked same held ran wrote placed rfl stays fun own exact_ calm => ?_
  have holds : k.Holds draft (k.record id s₃) := by
    unfold record
    rw [placed]
    exact k.holds (k.has (kept ▸ held)) own exact_
  have calm₃ := k.written_fine own calm (d := draft)
  rw [wrote] at calm₃
  refine ⟨k.gives calm₃ holds, fun calm₄ => k.gives calm₄ ?_⟩
  show k.Holds draft (k.record id _)
  rwa [stays]

/-- However documents are kept, this is what modifying one comes to. -/
theorem modifyWith_outcome (apart : k.NotReentrant id update)
    (apart' : ∀ d b, k.NotReentrant id (committed d b)) (s : σ) (w : ω) :
    k.Outcome id update committed s w
      (modifyWith Store.getDocument (write id) id update committed (s, w)) := by
  rw [modifyWith, bind_apply, onFirst_apply]
  have same := k.looks id s
  have found (d : Document) (h : (Store.getDocument id s).1 = .ok (some d)) := k.found h
  have lacks (calm : k.Fine id s) := k.lacks calm
  rcases looked : Store.getDocument id s with ⟨_ | _ | d, s₁⟩ <;> rw [looked] at same
  · rw [looked] at lacks
    refine .unread looked (fun calm => ?_) same
    by_contra lacking
    cases lacks calm lacking
  · exact .unknown looked same
  rw [looked] at found
  have held : k.Holds d (k.record id s) := found d rfl
  dsimp only
  rw [bind_apply, Update.onCopy_apply]
  have kept : k.record id (update (s₁, d, w)).2.1 = k.record id s :=
    (apart.kept _).trans (congrArg (k.under id) (k.sees same))
  rcases ran : update (s₁, d, w) with ⟨_ | b, s₂, draft, w₂⟩ <;> rw [ran] at kept
  · exact .refused looked same held ran kept
  simp only [Except.map]
  rw [bind_apply, onFirst_apply]
  rcases wrote : write id draft s₂ with ⟨_ | u, s₃⟩
  · refine .unwritten looked same held ran kept wrote (fun own calm => ?_) (k.unwritten wrote)
    have writes := k.writes calm (kept.symm ▸ held) own
    rw [wrote] at writes
    cases writes
  · exact outcome_stored looked same held ran kept wrote (apart' draft b)

/-- Where the update leaves the store, a modification that fails changes nothing. -/
theorem Outcome.failed {out : Except Failure (Document × β) × σ × ω} {f : Failure}
    (h : k.Outcome id update committed s w out) (leaves : k.Leaves update)
    (failed : out.1 = .error f) : k.content out.2.1 = k.content s := by
  cases h with
  | unread _ _ same => exact k.sees same
  | unknown _ same => exact k.sees same
  | @refused d draft f s₁ s₂ w₂ _ same _ ran _ =>
    have left_ := leaves (s₁, d, w)
    rw [ran] at left_
    exact k.sees (left_.trans same)
  | @unwritten d draft b f s₁ s₂ s₃ w₂ _ same _ ran _ _ _ unchanged =>
    have left_ := leaves (s₁, d, w)
    rw [ran] at left_
    exact unchanged.trans (k.sees (left_.trans same))
  | stored => cases failed

/-- Where the update and the commitment leave the store, a modification that succeeds puts the
document there and changes nothing else. -/
theorem Outcome.succeeded {out : Except Failure (Document × β) × σ × ω} {d : Document} {b : β}
    (h : k.Outcome id update committed s w out) (leaves : k.Leaves update)
    (leaves' : ∀ d b, k.Leaves (committed d b)) (ok : out.1 = .ok (d, b)) :
    k.content out.2.1 = k.put id d (k.content s) := by
  cases h with
  | @stored old d' b' s₁ s₂ s₃ s₄ w₂ w₄ _ same _ ran _ placed told _ _ =>
    cases ok
    have left_ := leaves (s₁, old, w)
    have left' := leaves' d b (s₃, w₂)
    rw [ran] at left_
    rw [told] at left'
    rw [show k.content s₄ = k.content s₃ from k.sees left', placed,
      show k.content s₂ = k.content s from k.sees (left_.trans same)]
  | _ => cases ok

/-- However documents are kept, a document is modified to one with the id that was asked for, if
every record has its own id and the update keeps the ids. -/
theorem modifyWith_own (own : Store.Owned id s) (keeps : update.KeepsId) {d : Document} {b : β}
    (ok : (modifyWith Store.getDocument (write id) id update committed (s, w)).1 = .ok (d, b)) :
    d.id = id := by
  obtain ⟨old, s₁, s₂, w₂, looked, ran⟩ := modifyWith_ok ok
  have kept := keeps (s₁, old, w) b (congrArg Prod.fst ran)
  rw [ran] at kept
  exact kept.trans (own old (congrArg Prod.fst looked))

/-! ## The contract -/

/-- Modifying a document has ended as it should. -/
structure Upheld (k : Keeping σ write) (id : String) (update : Update σ ω β)
    (committed : Document → β → Commitment σ ω) (s : σ) (w : ω)
    (out : Except Failure (Document × β) × σ × ω) : Prop where
  outcome : k.Outcome id update committed s w out
  own : ∀ d b, out.1 = .ok (d, b) → d.id = id
  /-- If it fails it changes nothing, unless the update does. -/
  failed : k.Leaves update → ∀ f, out.1 = .error f → k.content out.2.1 = k.content s
  /-- If it succeeds it puts the document there and changes nothing else, unless the update or the
  commitment does. -/
  succeeded : k.Leaves update → (∀ d b, k.Leaves (committed d b)) → ∀ d b,
    out.1 = .ok (d, b) → k.content out.2.1 = k.put id d (k.content s)

/-- Where records have their own ids and updates keep them, and neither the update nor the
commitment enters the store again, modifying a document in some way ends as it should. -/
def Contract (k : Keeping σ write) (ω β : Type)
    (modify : String → Update σ ω β → (Document → β → Commitment σ ω) →
      Action (σ × ω) (Document × β)) : Prop :=
  ∀ id (update : Update σ ω β) committed s w, k.NotReentrant id update →
    (∀ d b, k.NotReentrant id (committed d b)) → update.KeepsId → Store.Owned id s →
    k.Upheld id update committed s w (modify id update committed (s, w))

/-- The general way of modifying has the contract, whatever operation writes. -/
theorem contract_modifyWith (k : Keeping σ write) (ω β : Type) :
    k.Contract ω β fun id => modifyWith Store.getDocument (write id) id := by
  intro id update committed s w apart apart' keeps own
  have outcome := modifyWith_outcome apart apart' s w
  exact ⟨outcome, fun _ _ ok => modifyWith_own own keeps ok,
    fun leaves _ failed => outcome.failed leaves failed,
    fun leaves leaves' _ _ ok => outcome.succeeded leaves leaves' ok⟩

/-- A store that modifies documents by reading and writing them has the contract. -/
theorem contract_of_modifiesWith (k : Keeping σ write) (modifies : Store.ModifiesWith write)
    (ω β : Type) : k.Contract ω β Store.modifyDocumentWith := by
  intro id update committed s w
  rw [modifies.modifyDocumentWith]
  exact k.contract_modifyWith ω β id update committed s w

/-! ## Replacing -/

/-- Writes a document under its id if there is one already. -/
def replaceBy (write : String → Document → Action σ Unit) (d : Document) : Action σ Unit := do
  match ← Store.getDocument d.id with
  | none => throw (.documentNotFound d.id)
  | some _ => write d.id d

/-- A store that replaces a document by looking for it and writing it keeps documents in the same
way if they are replaced instead of written. Nothing is locked between these operations. -/
def replacing (k : Keeping σ write) (checks : ∀ d, Store.updateDocument d = replaceBy write d) :
    Keeping σ fun _ => Store.updateDocument where
  Still := k.Still
  still := k.still
  Content := k.Content
  content := k.content
  Record := k.Record
  under := k.under
  put _ d := k.put d.id d
  Has := k.Has
  Holds := k.Holds
  Exact := k.Exact
  Fine := k.Fine
  Untouched id s s' := k.under id (k.content s') = k.under id (k.content s)
  Alike _ := Eq
  sees := k.sees
  looks := k.looks
  looks_fine := k.looks_fine
  found := k.found
  has := k.has
  gives := k.gives
  lacks := k.lacks
  writes {id s d old} fine held own := by
    subst own
    have looked := k.gives fine held
    have content := k.sees (k.looks d.id s)
    have still := k.looks_fine fine
    rw [checks, replaceBy, bind_apply]
    generalize Store.getDocument d.id s = out at looked content still
    obtain ⟨r, s₁⟩ := out
    obtain rfl : r = .ok (some old) := looked
    exact k.writes still (content ▸ held) rfl
  written {id d s s'} h := by
    rw [checks, replaceBy] at h
    obtain ⟨found, s₁, looked, h⟩ := bind_apply_ok h
    have content := k.sees (k.looks d.id s)
    rw [looked] at content
    cases found with
    | none => cases h
    | some old => rw [k.written h, content]
  unwritten {id d s s' f} h := by
    have content := k.sees (k.looks d.id s)
    rw [checks, replaceBy, bind_apply] at h
    generalize Store.getDocument d.id s = out at h content
    obtain ⟨_ | _ | old, s₁⟩ := out
    · cases h
      exact content
    · cases h
      exact content
    · exact (k.unwritten h).trans content
  written_fine {id d s} own fine := by
    subst own
    have still := k.looks_fine fine
    rw [checks, replaceBy, bind_apply]
    generalize Store.getDocument d.id s = out at still
    obtain ⟨_ | _ | old, s₁⟩ := out
    · exact still
    · exact still
    · exact k.written_fine rfl still
  holds there own exact_ := by
    subst own
    exact k.holds there rfl exact_
  still_untouched _ _ := rfl
  untouched h := h

end Store.Keeping

end Signoff
