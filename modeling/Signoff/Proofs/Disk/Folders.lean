import Signoff.Proofs.Disk.Writing

/-!
# Folders that stand

On a disk that only gained nodes a path leads to the node that stood there (`Grows.node?`), and on a
disk with the same folders to the folder that stood there (`SameFolders.node?_folder`).

* `makeFolders_grows`, `makeFolders_stands`: making folders only adds some, and where it succeeds
  the folder stands.
* `makeFolders_eq_self`: where the folder stands already nothing is made.
* `walk_append`: behind a folder that stands a path goes on.
-/

namespace Signoff

namespace Disk

variable {d d' d'' : Disk} {above names : List String}

/-! ## Disks that gain nodes -/

/-- The second disk has every node of the first, and the same home. -/
structure Grows (d d' : Disk) : Prop where
  home : d'.home = d.home
  node : ∀ {k n}, d.nodes.get? k = some n → d'.nodes.get? k = some n

theorem Grows.refl (d : Disk) : Grows d d := ⟨rfl, id⟩

theorem Grows.trans (h : Grows d d') (h' : Grows d' d'') : Grows d d'' :=
  ⟨h'.home.trans h.home, fun e => h'.node (h.node e)⟩

/-- A walk that leads to a node leads there on every disk that has the nodes of some kind, if
folders and the node are of the kind. -/
theorem walk_kept (Kept : Node → Prop) (folder : Kept .folder)
    (same : ∀ {k n}, Kept n → d.nodes.get? k = some n → d'.nodes.get? k = some n) {node : Node}
    (kept : Kept node) (found : d.walk above names = .ok (some node)) :
    d'.walk above names = .ok (some node) := by
  induction names generalizing above with
  | nil => exact found
  | cons x rest ih =>
    by_cases hx : x = "" ∨ x = "."
    · rw [walk_stay _ _ _ hx] at found ⊢
      exact ih found
    by_cases hu : x = ".."
    · subst hu
      rw [walk_up] at found ⊢
      exact ih found
    rw [walk_down _ _ _ hx hu] at found ⊢
    split at found
    · cases found
    rw [if_neg ‹_›]
    split at found
    · rename_i there
      rw [same folder there]
      exact ih found
    · rename_i there
      split at found
      · rename_i last
        cases found
        rw [same kept there]
        exact if_pos last
      · cases found
    · split at found <;> cases found

theorem node?_kept (Kept : Node → Prop) (folder : Kept .folder)
    (same : ∀ {k n}, Kept n → d.nodes.get? k = some n → d'.nodes.get? k = some n)
    (home : d'.home = d.home) {path : String} {node : Node} (kept : Kept node)
    (found : d.node? path = .ok (some node)) : d'.node? path = .ok (some node) := by
  unfold Disk.node? at found ⊢
  rw [start_eq home]
  split at found
  · cases found
  split at found
  · cases found
  · rw [if_neg ‹_›]
    exact walk_kept Kept folder same kept found

/-- A path leads to the node that it led to. -/
theorem Grows.node? (h : Grows d d') {path : String} {node : Node}
    (found : d.node? path = .ok (some node)) : d'.node? path = .ok (some node) :=
  node?_kept (fun _ => True) trivial (fun _ => h.node) h.home trivial found

/-- A path leads to the folder that it led to. -/
theorem SameFolders.node?_folder (h : SameFolders d d') {path : String}
    (found : d.node? path = .ok (some .folder)) : d'.node? path = .ok (some .folder) := by
  refine node?_kept (· = .folder) rfl (fun kept there => ?_) h.home rfl found
  subst kept
  exact (h.folder _).2 there

/-! ## Making folders -/

section

variable (d) (above) {x : String} (rest : List String)

theorem makeFrom_stay (hx : x = "" ∨ x = ".") :
    makeFrom above (x :: rest) = makeFrom above rest := by
  rw [makeFrom, if_pos hx]

theorem makeFrom_up : makeFrom above (".." :: rest) = makeFrom above.tail rest := by
  rw [makeFrom, if_neg (by decide), if_pos rfl]

theorem makeFrom_down (hx : ¬ (x = "" ∨ x = ".")) (hu : x ≠ "..") :
    makeFrom above (x :: rest) d =
      if maxNameBytes < x.utf8ByteSize then (.error .nameTooLong, d)
      else
        match d.nodes.get? (pathOf (x :: above).reverse) with
        | some .folder => makeFrom (x :: above) rest d
        | some (.file _) => (.error (if rest.isEmpty then .exists_ else .notFolder), d)
        | none => makeFrom (x :: above) rest
            { d with nodes := d.nodes.insert (pathOf (x :: above).reverse) .folder } := by
  rw [makeFrom, if_neg hx, if_neg hu]
  by_cases long : maxNameBytes < x.utf8ByteSize
  · rw [if_pos long, if_pos long]
    rfl
  · rw [if_neg long, if_neg long]
    simp only [Action.bind_apply, Action.get_apply]
    rcases d.nodes.get? (pathOf (x :: above).reverse) with _ | _ | _ <;> rfl

end

theorem makeFrom_grows (above names : List String) (d : Disk) :
    Grows d (makeFrom above names d).2 := by
  induction names generalizing above d with
  | nil => exact .refl d
  | cons x rest ih =>
    by_cases hx : x = "" ∨ x = "."
    · rw [makeFrom_stay above rest hx]
      exact ih above d
    by_cases hu : x = ".."
    · rw [hu, makeFrom_up]
      exact ih above.tail d
    rw [makeFrom_down d above rest hx hu]
    split
    · exact .refl d
    split
    · exact ih _ d
    · exact .refl d
    · rename_i free
      have more : Grows d
          { d with nodes := d.nodes.insert (pathOf (x :: above).reverse) .folder } := by
        refine ⟨rfl, fun {k n} old => ?_⟩
        have ne : k ≠ pathOf (x :: above).reverse := by
          rintro rfl
          rw [free] at old
          cases old
        exact (Table.get?_insert_of_ne _ ne _).trans old
      exact more.trans (ih _ _)

/-- Folders that were made stand. -/
theorem makeFrom_stands (d : Disk) (h : (makeFrom above names d).1 = .ok ()) :
    (makeFrom above names d).2.walk above names = .ok (some .folder) := by
  induction names generalizing above d with
  | nil => rfl
  | cons x rest ih =>
    by_cases hx : x = "" ∨ x = "."
    · rw [makeFrom_stay above rest hx] at h ⊢
      rw [walk_stay _ _ _ hx]
      exact ih d h
    by_cases hu : x = ".."
    · subst hu
      rw [makeFrom_up] at h ⊢
      rw [walk_up]
      exact ih d h
    rw [makeFrom_down d above rest hx hu] at h ⊢
    rw [walk_down _ _ _ hx hu]
    split at h
    · cases h
    rw [if_neg ‹_›, if_neg ‹_›]
    split at h
    · rename_i there
      rw [(makeFrom_grows _ _ d).node there]
      exact ih d h
    · cases h
    · rw [(makeFrom_grows _ _ _).node (Table.get?_insert_self d.nodes _ _)]
      exact ih _ h

/-- Nothing is made where all folders stand. -/
theorem makeFrom_eq_self (d : Disk) (h : d.walk above names = .ok (some .folder)) :
    makeFrom above names d = (.ok (), d) := by
  induction names generalizing above with
  | nil => rfl
  | cons x rest ih =>
    by_cases hx : x = "" ∨ x = "."
    · rw [walk_stay _ _ _ hx] at h
      rw [makeFrom_stay above rest hx]
      exact ih h
    by_cases hu : x = ".."
    · subst hu
      rw [walk_up] at h
      rw [makeFrom_up]
      exact ih h
    rw [walk_down _ _ _ hx hu] at h
    rw [makeFrom_down d above rest hx hu]
    split at h
    · cases h
    rw [if_neg ‹_›]
    cases there : d.nodes.get? (pathOf (x :: above).reverse) with
    | none =>
      rw [there] at h
      dsimp only at h
      split at h <;> cases h
    | some node =>
      rw [there] at h
      cases node with
      | file content =>
        dsimp only at h
        split at h <;> cases h
      | folder => exact ih h

/-- Behind a folder that stands a path goes on. -/
theorem walk_append (h : d.walk above names = .ok (some .folder)) (rest : List String) :
    d.walk above (names ++ rest) = d.walk (namesAlong above names) rest := by
  induction names generalizing above with
  | nil => rfl
  | cons x names ih =>
    rw [List.cons_append]
    by_cases hx : x = "" ∨ x = "."
    · rw [walk_stay _ _ _ hx] at h ⊢
      rw [namesAlong, if_pos hx]
      exact ih h
    by_cases hu : x = ".."
    · subst hu
      rw [walk_up] at h ⊢
      rw [namesAlong, if_neg (by decide), if_pos rfl]
      exact ih h
    rw [walk_down _ _ _ hx hu] at h ⊢
    rw [namesAlong, if_neg hx, if_neg hu]
    split at h
    · cases h
    rw [if_neg ‹_›]
    split at h
    · exact ih h
    · split at h <;> cases h
    · split at h <;> cases h

/-- Making folders only adds some. -/
theorem makeFolders_grows (path : String) (d : Disk) : Grows d (makeFolders path d).2 := by
  obtain ⟨r, hs⟩ := step_apply d
  have taken : Grows d { d with faults := d.faults.tail } := ⟨rfl, id⟩
  rw [makeFolders, Action.bind_apply, hs]
  cases r with
  | error e => exact taken
  | ok u =>
    dsimp only
    cases pathFault? path with
    | some e => exact taken
    | none => exact taken.trans (makeFrom_grows _ _ _)

theorem makeFrom_faults (above names : List String) (d : Disk) :
    (makeFrom above names d).2.faults = d.faults := by
  induction names generalizing above d with
  | nil => rfl
  | cons x rest ih =>
    by_cases hx : x = "" ∨ x = "."
    · rw [makeFrom_stay above rest hx]
      exact ih above d
    by_cases hu : x = ".."
    · rw [hu, makeFrom_up]
      exact ih above.tail d
    rw [makeFrom_down d above rest hx hu]
    split
    · rfl
    split
    · exact ih _ d
    · rfl
    · exact ih _ _

/-- Making folders schedules no faults. -/
theorem makeFolders_calm (path : String) {d : Disk} (calm : d.faults = []) :
    (makeFolders path d).2.faults = [] := by
  rw [makeFolders, Action.bind_apply, step_calm calm]
  dsimp only
  cases pathFault? path with
  | some e => exact calm
  | none => exact (makeFrom_faults ..).trans calm

/-- A folder that was made stands. -/
theorem makeFolders_stands (path : String) (some_ : path.isEmpty = false) (d : Disk)
    (h : (makeFolders path d).1 = .ok ()) :
    (makeFolders path d).2.node? path = .ok (some .folder) := by
  obtain ⟨r, hs⟩ := step_apply d
  have home := (makeFolders_grows path d).home
  rw [node?, start_eq home]
  rw [makeFolders, Action.bind_apply, hs] at h ⊢
  cases r with
  | error e => cases h
  | ok u =>
    dsimp only at h ⊢
    cases hp : pathFault? path with
    | some e => rw [hp] at h; cases h
    | none =>
      rw [hp] at h
      rw [some_]
      exact makeFrom_stands _ h

/-- Where the folder stands already nothing is made. -/
theorem makeFolders_eq_self {path : String} {d : Disk} (h : d.node? path = .ok (some .folder))
    (calm : d.faults = []) : makeFolders path d = (.ok (), d) := by
  unfold node? at h
  split at h
  · cases h
  rename_i fine
  split at h
  · cases h
  · rw [makeFolders, Action.bind_apply, step_calm calm]
    dsimp only
    rw [fine]
    exact makeFrom_eq_self _ h

end Disk

end Signoff
