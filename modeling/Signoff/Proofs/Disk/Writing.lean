import Signoff.Proofs.Action
import Signoff.Proofs.Disk.Content

/-!
# Writing beside a file

What each operation of a disk leaves, also if a fault is scheduled for it: reading takes the fault
at most (`read_leaves`), making and filling a file change what is under its key only
(`create_leaves`, `write_leaves`), and a move that fails changes nothing (`rename_leaves`). A file
that is written beside another and moved there has all its content before the move
(`replace_course`), so it either gets there or leaves the other as it was (`replace_leaves`).
-/

namespace Signoff

namespace Disk

variable {d : Disk} {path : String}

theorem step_apply (d : Disk) : ∃ r, step d = (r, { d with faults := d.faults.tail }) := by
  unfold step
  rw [Action.bind_apply, Action.get_apply]
  obtain ⟨nodes, home, faults⟩ := d
  cases faults with
  | nil => exact ⟨_, rfl⟩
  | cons fault rest => cases fault <;> exact ⟨_, rfl⟩

/-- No fault is scheduled for the next operation. -/
def Spared (d : Disk) : Prop := ∀ e, d.faults.head? ≠ some (some e)

theorem spared_of_calm (h : d.faults = []) : d.Spared := by
  intro e
  simp [h]

theorem step_spared (h : d.Spared) : step d = (.ok (), { d with faults := d.faults.tail }) := by
  obtain ⟨nodes, home, faults⟩ := d
  cases faults with
  | nil => rfl
  | cons fault rest =>
    cases fault with
    | none => rfl
    | some e => exact absurd rfl (h e)

/-- A fault that is due strikes. -/
theorem step_struck (h : ¬ d.Spared) :
    ∃ e, step d = (.error e, { d with faults := d.faults.tail }) := by
  obtain ⟨nodes, home, faults⟩ := d
  cases faults with
  | nil => exact absurd (spared_of_calm rfl) h
  | cons fault rest =>
    cases fault with
    | none => exact absurd (fun _ due => nomatch due) h
    | some e => exact ⟨e, rfl⟩

/-- Without scheduled faults nothing happens. -/
theorem step_calm (h : d.faults = []) : step d = (.ok (), d) := by
  obtain ⟨nodes, home, faults⟩ := d
  obtain rfl : faults = [] := h
  rfl

theorem AgreeOutside.faults (key : String) (d : Disk) (faults : List (Option Error)) :
    AgreeOutside key d { d with faults } := ⟨rfl, fun _ _ => rfl, .inl rfl⟩

theorem setNode_file (d : Disk) (path : String) (content : Bytes) :
    (d.setNode path (.file content)).nodes.get? (d.keyOf path) = some (.file content) :=
  Table.get?_insert_self ..

/-- Setting a file where no folder is changes nothing else. -/
theorem AgreeOutside.setNode {d : Disk} {path : String}
    (h : d.nodes.get? (d.keyOf path) ≠ some .folder) (content : Bytes) :
    AgreeOutside (d.keyOf path) d (d.setNode path (.file content)) where
  home := rfl
  outside k hk := Table.get?_insert_of_ne _ hk _
  inside := .inr ⟨h, by simp [setNode_file]⟩

/-- Reading takes a fault at most. -/
theorem read_leaves (path : String) (d : Disk) :
    (read path d).2 = { d with faults := d.faults.tail } := by
  obtain ⟨r, hs⟩ := step_apply d
  rw [read, Action.bind_apply, hs]
  cases r with
  | error e => rfl
  | ok u =>
    simp only [Action.bind_apply, Action.get_apply]
    generalize node? _ path = found
    rcases found with _ | _ | _ | _ <;> rfl

/-- A file that no fault keeps from being read is read. -/
theorem read_spared (h : d.Spared) {content : Bytes} (held : d.content? path = some content) :
    read path d = (.ok content, { d with faults := d.faults.tail }) := by
  rw [read, Action.bind_apply, step_spared h]
  simp only [Action.bind_apply, Action.get_apply, node?_faults, content?_eq_some.1 held,
    Action.pure_apply]

/-- What is read is what the file has. -/
theorem read_ok {content : Bytes} (h : (read path d).1 = .ok content) :
    d.content? path = some content := by
  obtain ⟨r, stepped⟩ := step_apply d
  rw [read, Action.bind_apply, stepped] at h
  cases r with
  | error e => cases h
  | ok u =>
    simp only [Action.bind_apply, Action.get_apply, node?_faults] at h
    refine content?_eq_some.2 ?_
    cases found : d.node? path with
    | error e =>
      rw [found] at h
      cases h
    | ok node =>
      rw [found] at h
      rcases node with _ | _ | held <;> cases h
      rfl

/-- A fault that is due keeps a file from being read. -/
theorem read_struck (h : ¬ d.Spared) (path : String) :
    ∃ e, read path d = (.error e, { d with faults := d.faults.tail }) := by
  obtain ⟨e, struck⟩ := step_struck h
  exact ⟨e, by rw [read, Action.bind_apply, struck]⟩

/-- Where nothing stands nothing is read. -/
theorem read_notFound (calm : d.faults = []) (free : d.node? path = .ok none) :
    read path d = (.error .notFound, d) := by
  rw [read, Action.bind_apply, step_calm calm]
  simp only [Action.bind_apply, Action.get_apply, free, Action.throw_apply]

/-- Making a file changes nothing else, and if it succeeds the file is there. -/
theorem create_leaves {c : Char} (ends : EndsIn path c) (d : Disk) :
    AgreeOutside (d.keyOf path) d (create path d).2 ∧
      ∀ u, (create path d).1 = .ok u →
        (create path d).2.nodes.get? (d.keyOf path) = some (.file []) := by
  obtain ⟨r, hs⟩ := step_apply d
  rw [create, Action.bind_apply, hs]
  have taken := AgreeOutside.faults (d.keyOf path) d d.faults.tail
  have key : d.keyOf path = ({ d with faults := d.faults.tail } : Disk).keyOf path := rfl
  cases r with
  | error e => exact ⟨taken, nofun⟩
  | ok u =>
    simp only [Action.bind_apply, Action.get_apply]
    rw [key] at taken ⊢
    generalize ({ d with faults := d.faults.tail } : Disk) = d₁ at taken ⊢
    have made (free : d₁.nodes.get? (d₁.keyOf path) ≠ some .folder) :=
      taken.trans (AgreeOutside.setNode free [])
    have there := setNode_file d₁ path []
    cases hn : d₁.node? path with
    | error e => exact ⟨taken, nofun⟩
    | ok node =>
      have stands := ends.get?_keyOf hn
      rcases node with _ | _ | _
      · exact ⟨made (by simp [stands]), fun _ _ => there⟩
      · exact ⟨made (by simp [stands]), fun _ _ => there⟩
      · exact ⟨taken, nofun⟩

/-- Filling a file changes nothing else. -/
theorem write_leaves {d : Disk} {old : Bytes}
    (h : d.nodes.get? (d.keyOf path) = some (.file old)) (content : Bytes) :
    AgreeOutside (d.keyOf path) d (write path content d).2 := by
  obtain ⟨r, hs⟩ := step_apply d
  rw [write, Action.bind_apply, hs]
  have taken := AgreeOutside.faults (d.keyOf path) d d.faults.tail
  let d₁ : Disk := { d with faults := d.faults.tail }
  have file : d₁.nodes.get? (d₁.keyOf path) ≠ some .folder := by
    show d.nodes.get? (d.keyOf path) ≠ _
    simp [h]
  cases r with
  | error e => exact taken
  | ok u => exact taken.trans (AgreeOutside.setNode file content)

/-- A move that fails changes nothing. -/
theorem rename_leaves (source target : String) (d : Disk) :
    (∃ u, (rename source target d).1 = .ok u) ∨
      (rename source target d).2 = { d with faults := d.faults.tail } := by
  obtain ⟨r, hs⟩ := step_apply d
  rw [rename, Action.bind_apply, hs]
  cases r with
  | error e => exact .inr rfl
  | ok u =>
    simp only [Action.bind_apply, Action.get_apply]
    generalize ({ d with faults := d.faults.tail } : Disk) = d₁
    cases d₁.node? target with
    | error e => exact .inr rfl
    | ok node =>
      -- nothing or a file is moved over, and then the move depends on its source
      rcases node with _ | _ | _
      case some.folder => exact .inr rfl
      all_goals
        simp only [Action.bind_apply, Action.get_apply]
        rcases d₁.node? source with _ | _ | _
        · exact .inr rfl
        · exact .inr rfl
        · exact .inl ⟨_, rfl⟩

/-- Writes a file beside another and moves it there. -/
def replace (source target : String) (content : Bytes) : Io Unit := do
  create source
  write source content
  sync
  rename source target

/-- Filling a file leaves the content there if it succeeds. -/
theorem write_fills {content : Bytes} (h : (write path content d).1 = .ok ()) :
    (write path content d).2.nodes.get? (d.keyOf path) = some (.file content) := by
  obtain ⟨r, hs⟩ := step_apply d
  rw [write, Action.bind_apply, hs] at h ⊢
  cases r with
  | error e => cases h
  | ok u => exact Table.get?_insert_self ..

/-- Before a file that is written beside another is moved there, nothing else changes: either this
is all that happens, and it fails, or the file has its content and the move remains. -/
theorem replace_course {c : Char} (ends : EndsIn path c) (target : String) (content : Bytes)
    (d : Disk) :
    (∃ e d', replace path target content d = (.error e, d') ∧
      AgreeOutside (d.keyOf path) d d') ∨
    ∃ d', replace path target content d = rename path target d' ∧
      AgreeOutside (d.keyOf path) d d' ∧
      d'.nodes.get? (d.keyOf path) = some (.file content) := by
  obtain ⟨made, there⟩ := create_leaves ends d
  simp only [replace, Action.bind_apply]
  generalize create path d = out at made there
  obtain ⟨e | u, d₁⟩ := out
  · exact .inl ⟨e, d₁, rfl, made⟩
  have key : d₁.keyOf path = d.keyOf path := keyOf_eq made.home path
  have filled := write_leaves (key ▸ there u rfl) content
  have full : (write path content d₁).1 = .ok () →
      (write path content d₁).2.nodes.get? (d₁.keyOf path) = some (.file content) := write_fills
  rw [key] at filled full
  dsimp only
  generalize write path content d₁ = out at filled full
  obtain ⟨e | u, d₂⟩ := out
  · exact .inl ⟨e, d₂, rfl, made.trans filled⟩
  obtain ⟨r, hs⟩ := step_apply d₂
  have synced := (made.trans filled).trans (AgreeOutside.faults _ d₂ d₂.faults.tail)
  dsimp only
  rw [sync, hs]
  cases r with
  | error e => exact .inl ⟨e, _, rfl, synced⟩
  | ok _ => exact .inr ⟨_, rfl, synced, full rfl⟩

/-- A file that is written beside another and moved there changes nothing else before the move. -/
theorem replace_leaves {c : Char} (ends : EndsIn path c) (target : String) (content : Bytes)
    (d : Disk) :
    (∃ u, (replace path target content d).1 = .ok u) ∨
      AgreeOutside (d.keyOf path) d (replace path target content d).2 := by
  rcases replace_course ends target content d with ⟨e, d', run, left_⟩ | ⟨d', run, left_, -⟩
  · rw [run]
    exact .inr left_
  · rw [run]
    rcases rename_leaves path target d' with moved | unmoved
    · exact .inl moved
    · rw [unmoved]
      exact .inr (left_.trans (AgreeOutside.faults _ d' d'.faults.tail))

end Disk

end Signoff
