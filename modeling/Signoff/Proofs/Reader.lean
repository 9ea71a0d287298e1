/-!
# Readers

A reader works on a state and gives a result or an error. What it does is told by what is seen of
the state: for a reader of characters that is the state itself, and for a reader that keeps track of
its place it is the text that remains.

* `Takes`: the reader gives a result and goes on from one view of the state to another.
* `Takes.bind`: two readers that stand one after the other.
* `Refuses`: the reader fails from one view of the state.
* `Gives`: whatever the reader takes has a property.
* `Concur`: whatever two readers take from one state is related, and they go on from one state.
-/

namespace Signoff

variable {σ τ ε α β : Type}

/-- From a state that is seen as `before` the reader takes `a` and leaves one seen as `after`. -/
def Takes (view : σ → τ) (r : StateT σ (Except ε) α) (before : τ) (a : α) (after : τ) :
    Prop :=
  ∀ s, view s = before → ∃ s', r s = .ok (a, s') ∧ view s' = after

namespace Takes

variable {view : σ → τ} {r : StateT σ (Except ε) α} {f : α → StateT σ (Except ε) β}
  {t t' t'' : τ} {a : α} {b : β}

theorem bind_apply (r : StateT σ (Except ε) α) (f : α → StateT σ (Except ε) β) (s : σ) :
    (r >>= f) s = match r s with
      | .ok (a, s') => f a s'
      | .error e => .error e := by
  show (r s >>= fun x => f x.1 x.2) = _
  cases r s <;> rfl

/-- What two readers in a row take, the second takes from where the first stops. -/
theorem run_bind {s s' : σ} (h : (r >>= f) s = .ok (b, s')) :
    ∃ a u, r s = .ok (a, u) ∧ f a u = .ok (b, s') := by
  rw [bind_apply] at h
  cases first : r s with
  | error e =>
    rw [first] at h
    cases h
  | ok out =>
    rw [first] at h
    exact ⟨out.1, out.2, rfl, h⟩

theorem pure (a : α) (t : τ) : Takes view (Pure.pure a : StateT σ (Except ε) α) t a t :=
  fun s hs => ⟨s, rfl, hs⟩

/-- Two readers that stand one after the other. -/
theorem bind (h : Takes view r t a t') (h' : Takes view (f a) t' b t'') :
    Takes view (r >>= f) t b t'' := by
  intro s hs
  obtain ⟨s', eq, hs'⟩ := h s hs
  obtain ⟨s'', eq', hs''⟩ := h' s' hs'
  exact ⟨s'', by rw [bind_apply, eq]; exact eq', hs''⟩

/-- A result that is used as it is. -/
theorem map {g : α → β} (h : Takes view r t a t') :
    Takes view (do return g (← r)) t (g a) t' :=
  h.bind (Takes.pure _ _)

theorem get_bind {f : σ → StateT σ (Except ε) β}
    (h : ∀ s, view s = t → Takes view (f s) t b t') : Takes view (get >>= f) t b t' := by
  intro s hs
  rw [bind_apply]
  exact h s hs s hs

theorem modify {g : σ → σ} (h : ∀ s, view s = t → view (g s) = t') :
    Takes view (modify g : StateT σ (Except ε) PUnit) t ⟨⟩ t' :=
  fun s hs => ⟨g s, rfl, h s hs⟩

theorem set {s : σ} (h : view s = t') : Takes view (set s : StateT σ (Except ε) PUnit) t ⟨⟩ t' :=
  fun _ _ => ⟨s, rfl, h⟩

end Takes

/-- From a state that is seen as `before` the reader fails with an error of a kind. -/
def Refuses (view : σ → τ) (kind : ε → Prop) (r : StateT σ (Except ε) α) (before : τ) : Prop :=
  ∀ s, view s = before → ∃ e, r s = .error e ∧ kind e

namespace Refuses

variable {view : σ → τ} {kind : ε → Prop} {r : StateT σ (Except ε) α}
  {f : α → StateT σ (Except ε) β} {t t' : τ} {a : α}

/-- The first of two readers fails. -/
theorem bind (h : Refuses view kind r t) : Refuses view kind (r >>= f) t := by
  intro s hs
  obtain ⟨e, eq, he⟩ := h s hs
  exact ⟨e, by rw [Takes.bind_apply, eq], he⟩

/-- The second of two readers fails. -/
theorem after (h : Takes view r t a t') (h' : Refuses view kind (f a) t') :
    Refuses view kind (r >>= f) t := by
  intro s hs
  obtain ⟨s', eq, hs'⟩ := h s hs
  obtain ⟨e, eq', he⟩ := h' s' hs'
  exact ⟨e, by rw [Takes.bind_apply, eq]; exact eq', he⟩

theorem get_bind {f : σ → StateT σ (Except ε) β}
    (h : ∀ s, view s = t → Refuses view kind (f s) t) : Refuses view kind (get >>= f) t := by
  intro s hs
  rw [Takes.bind_apply]
  exact h s hs s hs

end Refuses

/-- Whatever the reader takes, from whatever state, has the property. -/
def Gives (P : α → Prop) (r : StateT σ (Except ε) α) : Prop :=
  ∀ ⦃s a s'⦄, r s = .ok (a, s') → P a

namespace Gives

variable {P : α → Prop} {Q : β → Prop} {r : StateT σ (Except ε) α}
  {f : α → StateT σ (Except ε) β}

theorem pure {a : α} (h : P a) : Gives P (Pure.pure a : StateT σ (Except ε) α) := by
  intro s a' s' eq
  cases eq
  exact h

theorem throw (e : ε) : Gives P (throw e : StateT σ (Except ε) α) := nofun

/-- Two readers that stand one after the other. -/
theorem bind (h : Gives P r) (h' : ∀ a, P a → Gives Q (f a)) : Gives Q (r >>= f) := by
  intro s b s' eq
  obtain ⟨a, u, first, second⟩ := Takes.run_bind eq
  exact h' a (h first) second

/-- The second of two readers decides. -/
theorem after (h : ∀ a, Gives Q (f a)) : Gives Q (r >>= f) :=
  bind (P := fun _ => True) (fun _ _ _ _ => trivial) fun a _ => h a

end Gives

/-- Whatever two readers take from one state is related, and both leave the same state behind. -/
def Concur (R : α → β → Prop) (r : StateT σ (Except ε) α) (r' : StateT σ (Except ε) β) : Prop :=
  ∀ ⦃s a b t t'⦄, r s = .ok (a, t) → r' s = .ok (b, t') → R a b ∧ t = t'

namespace Concur

variable {α' β' : Type} {R : α → α' → Prop} {S : β → β' → Prop} {r : StateT σ (Except ε) α}
  {r' : StateT σ (Except ε) α'} {f : α → StateT σ (Except ε) β} {f' : α' → StateT σ (Except ε) β'}

theorem same (r : StateT σ (Except ε) α) : Concur Eq r r := by
  intro s a b t t' eq eq'
  cases eq.symm.trans eq'
  exact ⟨rfl, rfl⟩

theorem swap (h : Concur R r r') : Concur (fun b a => R a b) r' r := by
  intro s b a t t' eq eq'
  obtain ⟨related, same⟩ := h eq' eq
  exact ⟨related, same.symm⟩

theorem pure {a : α} {b : α'} (h : R a b) :
    Concur R (Pure.pure a : StateT σ (Except ε) α) (Pure.pure b) := by
  intro s _ _ t t' eq eq'
  cases eq
  cases eq'
  exact ⟨h, rfl⟩

/-- A reader that takes nothing concurs with any. -/
theorem left (h : Gives (fun _ => False) r) : Concur R r r' := fun _ _ _ _ _ eq _ => (h eq).elim

theorem right (h : Gives (fun _ => False) r') : Concur R r r' :=
  fun _ _ _ _ _ _ eq' => (h eq').elim

/-- Two pairs of readers that stand one after the other. -/
theorem bind (h : Concur R r r') (h' : ∀ a b, R a b → Concur S (f a) (f' b)) :
    Concur S (r >>= f) (r' >>= f') := by
  intro s b b' t t' eq eq'
  obtain ⟨a, u, first, second⟩ := Takes.run_bind eq
  obtain ⟨a', u', first', second'⟩ := Takes.run_bind eq'
  obtain ⟨related, rfl⟩ := h first first'
  exact h' a a' related second second'

/-- Both begin with the same reader. -/
theorem step {f' : α → StateT σ (Except ε) β'} (h : ∀ a, Concur S (f a) (f' a)) :
    Concur S (r >>= f) (r >>= f') :=
  (same r).bind fun a _ eq => eq ▸ h a

/-- The first looks at the state on the way. -/
theorem get {f : σ → StateT σ (Except ε) α} (h : ∀ s, Concur R (f s) r') :
    Concur R (MonadState.get >>= f) r' :=
  fun s _ _ _ _ eq eq' => h s eq eq'

/-- So does the second. -/
theorem get_right {f' : σ → StateT σ (Except ε) α'} (h : ∀ s, Concur R r (f' s)) :
    Concur R r (MonadState.get >>= f') :=
  fun s _ _ _ _ eq eq' => h s eq eq'

/-- The results are put to use as they are. -/
theorem map {g : α → β} {g' : α' → β'} (h : Concur R r r') (h' : ∀ a b, R a b → S (g a) (g' b)) :
    Concur S (do return g (← r)) (do return g' (← r')) :=
  h.bind fun a b related => pure (h' a b related)

/-- The result of the first is put to use. -/
theorem map_left {T : β → α' → Prop} {g : α → β} (h : Concur R r r')
    (h' : ∀ a b, R a b → T (g a) b) : Concur T (do return g (← r)) r' := by
  rw [← bind_pure r']
  exact h.bind fun a b related => pure (h' a b related)

/-- So is that of the second. -/
theorem map_right {T : α → β' → Prop} {g : α' → β'} (h : Concur R r r')
    (h' : ∀ a b, R a b → T a (g b)) : Concur T r (do return g (← r')) := by
  rw [← bind_pure r]
  exact h.bind fun a b related => pure (h' a b related)

theorem mono {R' : α → α' → Prop} (h : Concur R r r') (le : ∀ a b, R a b → R' a b) :
    Concur R' r r' :=
  fun _ _ _ _ _ eq eq' => (h eq eq').imp_left (le _ _)

end Concur

/-! ## Digits -/

/-- A number grows with every digit that is read behind it. -/
theorem le_ofDigitChars (cs : List Char) (n : Nat) : n ≤ Nat.ofDigitChars 10 cs n := by
  induction cs generalizing n with
  | nil => exact Nat.le_refl n
  | cons c cs ih =>
    rw [Nat.ofDigitChars_cons]
    exact Nat.le_trans (by omega) (ih _)

end Signoff
