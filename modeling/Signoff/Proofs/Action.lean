import Signoff.Store.Basic

/-!
# Running actions

What an action gives and leaves when it is run on a state, one lemma for each way to build one.
With them `simp` runs an operation of the engine step by step:

* `bind_eq_ok`, `map_eq_ok`, `mapError_eq_ok`: what stands behind a result, and `bind_eq_error` and
  so on behind a failure;
* `Action.bind_apply`: the second action runs on what the first one leaves, unless that failed;
* `Action.onFirst_apply`, `changeSecond_apply`, `ofExcept_apply`: the actions that stores and the
  engine are put together from.

An action keeps a view of the state (`Action.Keeps`) if it leaves what is seen there however it
ends, and spares the view (`Action.Spares`) if it leaves that when it fails. It ensures something of
its results and its failures (`Action.Ensures`) where an invariant holds that it keeps.
-/

namespace Signoff

variable {ε ε' σ ω α β γ δ : Type}

/-! ## Results -/

theorem bind_eq_ok {x : Except ε α} {f : α → Except ε β} {b : β} :
    x >>= f = .ok b ↔ ∃ a, x = .ok a ∧ f a = .ok b := by
  cases x <;> simp [bind, Except.bind]

theorem bind_eq_error {x : Except ε α} {f : α → Except ε β} {e : ε} :
    x >>= f = .error e ↔ x = .error e ∨ ∃ a, x = .ok a ∧ f a = .error e := by
  cases x <;> simp [bind, Except.bind]

theorem map_eq_ok {x : Except ε α} {f : α → β} {b : β} :
    x.map f = .ok b ↔ ∃ a, x = .ok a ∧ f a = b := by
  cases x <;> simp [Except.map]

theorem map_eq_error {x : Except ε α} {f : α → β} {e : ε} :
    x.map f = .error e ↔ x = .error e := by
  cases x <;> simp [Except.map]

theorem mapError_eq_ok {x : Except ε α} {f : ε → ε'} {a : α} :
    x.mapError f = .ok a ↔ x = .ok a := by
  cases x with
  | error => exact ⟨fun h => (nomatch h), fun h => (nomatch h)⟩
  | ok => exact ⟨fun h => Except.ok.inj h ▸ rfl, fun h => Except.ok.inj h ▸ rfl⟩

theorem mapError_eq_error {x : Except ε α} {f : ε → ε'} {e' : ε'} :
    x.mapError f = .error e' ↔ ∃ e, x = .error e ∧ f e = e' := by
  cases x with
  | error e =>
    constructor
    · exact fun h => ⟨e, rfl, Except.error.inj h⟩
    · rintro ⟨_, ⟨⟩, rfl⟩
      rfl
  | ok => exact ⟨fun h => (nomatch h), fun ⟨_, same, _⟩ => (nomatch same)⟩

/-! ## Actions -/

namespace Action

@[simp] theorem pure_apply (a : α) (s : σ) :
    (pure a : ExceptT ε (StateM σ) α) s = (.ok a, s) := rfl

@[simp] theorem throw_apply (e : ε) (s : σ) :
    (throw e : ExceptT ε (StateM σ) α) s = (.error e, s) := rfl

@[simp] theorem get_apply (s : σ) : (get : ExceptT ε (StateM σ) σ) s = (.ok s, s) := rfl

@[simp] theorem set_apply (s s' : σ) :
    (set s' : ExceptT ε (StateM σ) PUnit) s = (.ok ⟨⟩, s') := rfl

@[simp] theorem modify_apply (f : σ → σ) (s : σ) :
    (modify f : ExceptT ε (StateM σ) PUnit) s = (.ok ⟨⟩, f s) := rfl

theorem bind_apply (a : ExceptT ε (StateM σ) α) (f : α → ExceptT ε (StateM σ) β) (s : σ) :
    (a >>= f) s = match a s with
      | (.ok x, s) => f x s
      | (.error e, s) => (.error e, s) := by
  simp only [bind, ExceptT.bind, ExceptT.mk, StateT.bind]
  rcases a s with ⟨_ | _, s⟩ <;> rfl

/-- An action that succeeds after another has run on what that one left. -/
theorem bind_apply_ok {a : ExceptT ε (StateM σ) α} {f : α → ExceptT ε (StateM σ) β} {s s' : σ}
    {y : β} (h : (a >>= f) s = (.ok y, s')) : ∃ x s₁, a s = (.ok x, s₁) ∧ f x s₁ = (.ok y, s') := by
  rw [bind_apply] at h
  rcases ha : a s with ⟨_ | x, s₁⟩
  · rw [ha] at h
    cases h
  · rw [ha] at h
    exact ⟨x, s₁, rfl, h⟩

theorem onFirst_ok {a : Action σ α} {x : α} {s s' : σ} {w w' : ω}
    (h : (a.onFirst : Action (σ × ω) α) (s, w) = (.ok x, s', w')) : a s = (.ok x, s') ∧ w' = w := by
  rcases ha : a s with ⟨r, s₁⟩
  rw [onFirst, ha] at h
  cases h
  exact ⟨rfl, rfl⟩

@[simp] theorem onFirst_apply (a : Action σ α) (s : σ) (w : ω) :
    (a.onFirst : Action (σ × ω) α) (s, w) = ((a s).1, (a s).2, w) := rfl

/-- An operation on the second part of a state. -/
def onSecond (a : Action ω α) : Action (σ × ω) α := fun (s, w) =>
  let (r, w) := a w
  (r, s, w)

theorem onSecond_apply (a : Action ω α) (s : σ) (w : ω) :
    (a.onSecond : Action (σ × ω) α) (s, w) = ((a w).1, s, (a w).2) := rfl

theorem onSecond_eq {a : Action ω α} {s s' : σ} {w w' : ω} {r : Except Failure α}
    (h : (a.onSecond : Action (σ × ω) α) (s, w) = (r, s', w')) : a w = (r, w') ∧ s' = s := by
  cases h
  exact ⟨rfl, rfl⟩

@[simp] theorem changeSecond_apply (f : ω → ω) (s : σ) (w : ω) :
    (changeSecond f : Action (σ × ω) Unit) (s, w) = (.ok (), s, f w) := rfl

@[simp] theorem ofExcept_apply (r : Except Failure α) (s : σ) :
    (ofExcept r : Action σ α) s = (r, s) := by
  cases r <;> rfl

/-! ## What actions keep -/

/-- However it ends, the action leaves what is seen of the state. -/
def Keeps (view : σ → γ) (a : ExceptT ε (StateM σ) α) : Prop := ∀ s, view (a s).2 = view s

/-- If it fails, the action leaves what is seen of the state. -/
def Spares (view : σ → γ) (a : ExceptT ε (StateM σ) α) : Prop :=
  ∀ s e, (a s).1 = .error e → view (a s).2 = view s

/-- The action does not fail. -/
def Succeeds (a : ExceptT ε (StateM σ) α) : Prop := ∀ s, ∃ x, (a s).1 = .ok x

variable {view : σ → γ} {a : ExceptT ε (StateM σ) α} {f : α → ExceptT ε (StateM σ) β}

theorem keeps_pure (x : α) : Keeps view (pure x : ExceptT ε (StateM σ) α) := fun _ => rfl

theorem keeps_throw (e : ε) : Keeps view (throw e : ExceptT ε (StateM σ) α) := fun _ => rfl

theorem keeps_get : Keeps view (get : ExceptT ε (StateM σ) σ) := fun _ => rfl

theorem keeps_ofExcept (r : Except Failure α) : Keeps view (ofExcept r : Action σ α) := fun s => by
  rw [ofExcept_apply]

theorem Keeps.bind (ha : Keeps view a) (hf : ∀ x, Keeps view (f x)) : Keeps view (a >>= f) := by
  intro s
  have kept := ha s
  rw [bind_apply]
  generalize a s = out at kept ⊢
  obtain ⟨_ | x, s'⟩ := out
  · exact kept
  · exact (hf x s').trans kept

theorem Keeps.forIn {xs : List α} {step : α → β → ExceptT ε (StateM σ) (ForInStep β)}
    (h : ∀ x b, Keeps view (step x b)) (b : β) : Keeps view (forIn xs b step) := by
  induction xs generalizing b with
  | nil => exact keeps_pure b
  | cons x xs ih =>
    rw [List.forIn_cons]
    refine (h x b).bind fun next => ?_
    cases next with
    | done b => exact keeps_pure b
    | yield b => exact ih b

theorem Keeps.spares (h : Keeps view a) : Spares view a := fun s _ _ => h s

theorem Succeeds.spares (h : Succeeds a) : Spares view a := fun s e failed => by
  obtain ⟨x, ok⟩ := h s
  rw [ok] at failed
  cases failed

theorem Keeps.bind_spares (ha : Keeps view a) (hf : ∀ x, Spares view (f x)) :
    Spares view (a >>= f) := by
  intro s e failed
  have kept := ha s
  rw [bind_apply] at failed ⊢
  generalize a s = out at kept failed ⊢
  obtain ⟨_ | x, s'⟩ := out
  · exact kept
  · exact (hf x s' e failed).trans kept

theorem Spares.bind_succeeds (ha : Spares view a) (hf : ∀ x, Succeeds (f x)) :
    Spares view (a >>= f) := by
  intro s e failed
  have spared := ha s
  rw [bind_apply] at failed ⊢
  generalize a s = out at spared failed ⊢
  obtain ⟨e' | x, s'⟩ := out
  · exact spared e' rfl
  · obtain ⟨y, ok⟩ := hf x s'
    dsimp only at failed
    rw [ok] at failed
    cases failed

theorem Keeps.comp (h : Keeps view a) (g : γ → δ) : Keeps (g ∘ view) a :=
  fun s => congrArg g (h s)

theorem Spares.comp (h : Spares view a) (g : γ → δ) : Spares (g ∘ view) a :=
  fun s e failed => congrArg g (h s e failed)

/-- What is seen of a pair if a view sees the first part, and the second part is seen as it is. -/
def beside (view : σ → γ) : σ × ω → γ × ω := fun x => (view x.1, x.2)

theorem Keeps.onFirst {a : Action σ α} (h : Keeps view a) :
    Keeps (beside view) (a.onFirst : Action (σ × ω) α) :=
  fun x => congrArg (·, x.2) (h x.1)

theorem Spares.onFirst {a : Action σ α} (h : Spares view a) :
    Spares (beside view) (a.onFirst : Action (σ × ω) α) :=
  fun x e failed => congrArg (·, x.2) (h x.1 e failed)

/-! ## What actions ensure -/

/-- Where the invariant holds the action keeps it, gives good results only, and has no failures but
fine ones. -/
def Ensures (I : σ → Prop) (Good : α → Prop) (Fine : ε → Prop) (a : ExceptT ε (StateM σ) α) :
    Prop :=
  ∀ s, I s → I (a s).2 ∧ (∀ x, (a s).1 = .ok x → Good x) ∧ ∀ e, (a s).1 = .error e → Fine e

/-- Each part of a pair has its invariant. -/
def Each (I : σ → Prop) (J : ω → Prop) (x : σ × ω) : Prop := I x.1 ∧ J x.2

variable {I : σ → Prop} {J : ω → Prop} {Good Good' : α → Prop} {Fine : ε → Prop}

theorem ensures_pure {x : α} (good : Good x) :
    Ensures I Good Fine (pure x : ExceptT ε (StateM σ) α) :=
  fun _ holds => ⟨holds, fun _ e => Except.ok.inj e ▸ good, nofun⟩

theorem ensures_any (x : α) :
    Ensures I (fun _ => True) Fine (pure x : ExceptT ε (StateM σ) α) :=
  ensures_pure trivial

theorem ensures_throw {e : ε} (fine : Fine e) :
    Ensures I Good Fine (throw e : ExceptT ε (StateM σ) α) :=
  fun _ holds => ⟨holds, nofun, fun _ eq => Except.error.inj eq ▸ fine⟩

theorem ensures_get : Ensures I (fun _ => True) Fine (get : ExceptT ε (StateM σ) σ) :=
  fun _ holds => ⟨holds, fun _ _ => trivial, nofun⟩

theorem ensures_modify {g : σ → σ} (keeps : ∀ s, I s → I (g s)) :
    Ensures I (fun _ => True) Fine (modify g : ExceptT ε (StateM σ) PUnit) :=
  fun s holds => ⟨keeps s holds, fun _ _ => trivial, nofun⟩

theorem ensures_ofExcept {Fine : Failure → Prop} {r : Except Failure α}
    (fine : ∀ e, r = .error e → Fine e) :
    Ensures I (fun _ => True) Fine (ofExcept r : Action σ α) := fun s holds => by
  rw [ofExcept_apply]
  exact ⟨holds, fun _ _ => trivial, fine⟩

theorem Ensures.weaken (h : Ensures I Good Fine a) (good : ∀ x, Good x → Good' x) :
    Ensures I Good' Fine a :=
  fun s holds => ⟨(h s holds).1, fun x ok => good x ((h s holds).2.1 x ok), (h s holds).2.2⟩

theorem Ensures.bind {Good' : β → Prop} (ha : Ensures I Good Fine a)
    (hf : ∀ x, Good x → Ensures I Good' Fine (f x)) : Ensures I Good' Fine (a >>= f) := by
  intro s holds
  obtain ⟨kept, good, fine⟩ := ha s holds
  rw [bind_apply]
  generalize a s = out at kept good fine ⊢
  obtain ⟨e | x, s'⟩ := out
  · exact ⟨kept, nofun, fun _ eq => Except.error.inj eq ▸ fine e rfl⟩
  · exact hf x (good x rfl) s' kept

theorem Ensures.onFirst {Fine : Failure → Prop} {a : Action σ α} (h : Ensures I Good Fine a) :
    Ensures (Each I J) Good Fine (a.onFirst : Action (σ × ω) α) :=
  fun x holds => ⟨⟨(h x.1 holds.1).1, holds.2⟩, (h x.1 holds.1).2⟩

theorem ensures_changeSecond {Fine : Failure → Prop} {g : ω → ω} (keeps : ∀ w, J w → J (g w)) :
    Ensures (Each I J) (fun _ => True) Fine (changeSecond g : Action (σ × ω) Unit) :=
  ensures_modify fun x holds => ⟨holds.1, keeps x.2 holds.2⟩

end Action

end Signoff
