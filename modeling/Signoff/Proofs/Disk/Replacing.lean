import Signoff.Proofs.Disk.Folders

/-!
# Replacing a file

What is there after a file was written beside another and moved over it (`Replaced`): the new
content at the place of the other, nothing beside it, and everything else as it was. A replacement
that succeeds leaves this, whatever faults are scheduled (`replace_replaced`), and without faults it
succeeds wherever both paths lead to their places (`replace_succeeds`).
-/

namespace Signoff

namespace Disk

variable {d d' : Disk} {path source target : String} {content : Bytes}

/-- The path leads to a place where a file stands or may be made. -/
def Place (d : Disk) (path : String) : Prop :=
  ∃ node, d.node? path = .ok node ∧ node ≠ some .folder

/-- Places remain while the folders do. -/
theorem SameFolders.place (h : SameFolders d d') {c : Char} (ends : EndsIn path c) :
    d.Place path → d'.Place path := by
  rintro ⟨node, found, noFolder⟩
  have free : d'.nodes.get? (d.keyOf path) ≠ some .folder := by
    rw [Ne, h.folder, ends.get?_keyOf found]
    exact noFolder
  exact ⟨_, h.node? ends found free, free⟩

/-- The second disk has the content at the target, nothing at the source, and else what the first
has. -/
structure Replaced (source target : String) (content : Bytes) (d d' : Disk) : Prop where
  home : d'.home = d.home
  gone : d'.nodes.get? (d.keyOf source) = none
  placed : d'.nodes.get? (d.keyOf target) = some (.file content)
  other : ∀ k, k ≠ d.keyOf source → k ≠ d.keyOf target → d'.nodes.get? k = d.nodes.get? k
  noFolder : d.nodes.get? (d.keyOf source) ≠ some .folder
  noFolder' : d.nodes.get? (d.keyOf target) ≠ some .folder
  found : ∃ node, d.node? target = .ok node

theorem Replaced.sameFolders (h : Replaced source target content d d') : SameFolders d d' where
  home := h.home
  folder k := by
    by_cases hs : k = d.keyOf source
    · simp [hs, h.gone, h.noFolder]
    by_cases ht : k = d.keyOf target
    · simp [ht, h.placed, h.noFolder']
    · rw [h.other k hs ht]

/-- The target leads to the new content. -/
theorem Replaced.node?_target (h : Replaced source target content d d') {c : Char}
    (ends : EndsIn target c) : d'.node? target = .ok (some (.file content)) := by
  obtain ⟨node, found⟩ := h.found
  rw [h.sameFolders.node? ends found (by simp [h.placed]), h.placed]

/-! ## Replacements that succeeded -/

theorem rename_ok (h : (rename source target d).1 = .ok ()) :
    ∃ node n, d.node? target = .ok node ∧ node ≠ some .folder ∧ d.node? source = .ok (some n) ∧
      (rename source target d).2 = { d with
        nodes := (d.nodes.erase (d.keyOf source)).insert (d.keyOf target) n
        faults := d.faults.tail } := by
  obtain ⟨r, hs⟩ := step_apply d
  rw [rename, Action.bind_apply, hs] at h ⊢
  cases r with
  | error e => cases h
  | ok u =>
    simp only [Action.bind_apply, Action.get_apply, node?_faults] at h ⊢
    cases ht : d.node? target with
    | error e => rw [ht] at h; cases h
    | ok node =>
      simp only [ht] at h ⊢
      -- nothing or a file is moved over, and then the move depends on its source
      rcases node with _ | _ | _
      case some.folder => cases h
      all_goals
        simp only [Action.bind_apply, Action.get_apply, node?_faults] at h ⊢
        cases hn : d.node? source with
        | error e => rw [hn] at h; cases h
        | ok n =>
          simp only [hn] at h ⊢
          cases n with
          | none => cases h
          | some n => exact ⟨_, n, rfl, by simp, rfl, rfl⟩

/-- What was filled at the source and then moved has replaced the target. -/
theorem AgreeOutside.replaced {c c' : Char} (filled : AgreeOutside (d.keyOf source) d d')
    (full : d'.nodes.get? (d.keyOf source) = some (.file content)) (ends : EndsIn source c)
    (ends' : EndsIn target c') (ne : c ≠ c') (done : (rename source target d').1 = .ok ()) :
    Replaced source target content d (rename source target d').2 := by
  obtain ⟨node, n, target_, noFolder, source_, left_⟩ := rename_ok done
  have keys := keyOf_eq filled.home
  have apart : d.keyOf target ≠ d.keyOf source := ends'.keyOf_ne ends ne.symm d
  have moved : some n = some (.file content) := by
    rw [← ends.get?_keyOf source_, keys]
    exact full
  obtain rfl := Option.some.inj moved
  have free : d'.nodes.get? (d.keyOf target) ≠ some .folder := by
    rw [← keys, ends'.get?_keyOf target_]
    exact noFolder
  have folders := filled.sameFolders
  rw [left_]
  exact {
    home := filled.home
    gone := by
      show (Table.insert _ _ _).get? _ = _
      rw [keys, keys, Table.get?_insert_of_ne _ apart.symm, Table.get?_erase,
        if_pos Std.ReflOrd.compare_self]
    placed := by
      show (Table.insert _ _ _).get? _ = _
      rw [keys, keys, Table.get?_insert_self]
    other := fun k hs ht => by
      show (Table.insert _ _ _).get? _ = _
      rw [keys, keys, Table.get?_insert_of_ne _ ht, Table.get?_erase,
        if_neg (mt Std.LawfulEqOrd.eq_of_compare hs)]
      exact filled.outside k hs
    noFolder := by
      rw [Ne, ← folders.folder, full]
      simp
    noFolder' := by
      rw [← filled.outside _ apart]
      exact free
    found := ⟨_, folders.symm.node? ends' target_ (by rwa [keys, ← filled.outside _ apart])⟩ }

/-- A replacement that succeeds leaves the new content at its place and changes nothing else. -/
theorem replace_replaced {c c' : Char} (ends : EndsIn source c) (ends' : EndsIn target c')
    (ne : c ≠ c') (h : (replace source target content d).1 = .ok ()) :
    Replaced source target content d (replace source target content d).2 := by
  rcases replace_course ends target content d with ⟨e, d', run, -⟩ | ⟨d', run, filled, full⟩
  · rw [run] at h
    cases h
  · rw [run] at h ⊢
    exact filled.replaced full ends ends' ne h

/-! ## Replacements without faults -/

theorem create_faults (path : String) (d : Disk) : (create path d).2.faults = d.faults.tail := by
  obtain ⟨r, hs⟩ := step_apply d
  rw [create, Action.bind_apply, hs]
  cases r with
  | error e => rfl
  | ok u =>
    simp only [Action.bind_apply, Action.get_apply]
    generalize node? _ path = found
    rcases found with _ | _ | _ | _ <;> rfl

theorem write_faults (path : String) (content : Bytes) (d : Disk) :
    (write path content d).2.faults = d.faults.tail := by
  obtain ⟨r, hs⟩ := step_apply d
  rw [write, Action.bind_apply, hs]
  cases r <;> rfl

theorem rename_faults (source target : String) (d : Disk) :
    (rename source target d).2.faults = d.faults.tail := by
  rcases rename_leaves source target d with ⟨u, done⟩ | left_
  · obtain ⟨_, _, -, -, -, left_⟩ := rename_ok done
    rw [left_]
  · rw [left_]

/-- A replacement, successful or not, schedules no faults. -/
theorem replace_keeps_calm (source target : String) (content : Bytes) (calm : d.faults = []) :
    (replace source target content d).2.faults = [] := by
  have created := create_faults source d
  rw [calm] at created
  rw [replace, Action.bind_apply]
  generalize create source d = out at created ⊢
  obtain ⟨_ | u, d₁⟩ := out
  · exact created
  have written := write_faults source content d₁
  rw [show d₁.faults = [] from created] at written
  dsimp only
  rw [Action.bind_apply]
  generalize write source content d₁ = out at written ⊢
  obtain ⟨_ | u, d₂⟩ := out
  · exact written
  have calm : d₂.faults = [] := written
  dsimp only
  rw [Action.bind_apply, sync, step_calm calm]
  dsimp only
  rw [rename_faults, calm]
  rfl

/-- Without faults a file is made where its path leads to no folder. -/
theorem create_eq (path : String) (calm : d.faults = []) :
    create path d = match d.node? path with
      | .error e => (.error e, d)
      | .ok (some .folder) => (.error .isFolder, d)
      | .ok _ => (.ok (), d.setNode path (.file [])) := by
  rw [create, Action.bind_apply, step_calm calm]
  simp only [Action.bind_apply, Action.get_apply]
  rcases d.node? path with _ | _ | _ | _ <;> rfl

theorem create_calm (calm : d.faults = []) {node : Option Node} (found : d.node? path = .ok node)
    (noFolder : node ≠ some .folder) : create path d = (.ok (), d.setNode path (.file [])) := by
  rw [create_eq path calm, found]
  rcases node with _ | _ | _
  · rfl
  · rfl
  · exact absurd rfl noFolder

theorem write_calm (calm : d.faults = []) (path : String) (content : Bytes) :
    write path content d = (.ok (), d.setNode path (.file content)) := by
  rw [write, Action.bind_apply, step_calm calm]
  rfl

/-- Without faults what stands at the source is moved where the target is no folder. -/
theorem rename_eq (target : String) (calm : d.faults = []) {n : Node}
    (found : d.node? source = .ok (some n)) :
    rename source target d = match d.node? target with
      | .error e => (.error e, d)
      | .ok (some .folder) => (.error .isFolder, d)
      | .ok _ => (.ok (), { d with
          nodes := (d.nodes.erase (d.keyOf source)).insert (d.keyOf target) n }) := by
  rw [rename, Action.bind_apply, step_calm calm]
  simp only [Action.bind_apply, Action.get_apply]
  rcases d.node? target with _ | _ | _ | _
  case error | ok.some.folder => rfl
  all_goals
    simp only [Action.bind_apply, Action.get_apply, found]
    rfl

theorem rename_calm (calm : d.faults = []) {node : Option Node} {n : Node}
    (found : d.node? target = .ok node) (noFolder : node ≠ some .folder)
    (found' : d.node? source = .ok (some n)) :
    rename source target d = (.ok (), { d with
      nodes := (d.nodes.erase (d.keyOf source)).insert (d.keyOf target) n }) := by
  rw [rename_eq target calm found', found]
  rcases node with _ | _ | _
  · rfl
  · rfl
  · exact absurd rfl noFolder

/-- Without faults a file is replaced wherever both paths lead to places. -/
theorem replace_succeeds {c c' : Char} (ends : EndsIn source c) (ends' : EndsIn target c')
    (ne : c ≠ c') (calm : d.faults = []) (place : d.Place source) (place' : d.Place target)
    (content : Bytes) :
    (replace source target content d).1 = .ok () := by
  obtain ⟨node, found, noFolder⟩ := place
  obtain ⟨node', found', noFolder'⟩ := place'
  have there := ends.get?_keyOf found
  have there' := ends'.get?_keyOf found'
  have free : d.nodes.get? (d.keyOf source) ≠ some .folder := there ▸ noFolder
  have apart : d.keyOf target ≠ d.keyOf source := ends'.keyOf_ne ends ne.symm d
  let d₂ := (d.setNode source (.file [])).setNode source (.file content)
  have key : (d.setNode source (.file [])).keyOf source = d.keyOf source := rfl
  have filled : AgreeOutside (d.keyOf source) (d.setNode source (.file [])) d₂ :=
    key ▸ AgreeOutside.setNode (by rw [key, setNode_file]; simp) content
  have agree := (AgreeOutside.setNode free []).trans filled
  have full : d₂.nodes.get? (d.keyOf source) = some (.file content) := Table.get?_insert_self ..
  have source_ := agree.sameFolders.node? ends found (by simp [full])
  have target_ := agree.sameFolders.node? ends' found'
    (by rw [agree.outside _ apart, there']; exact noFolder')
  rw [full] at source_
  have renamed := rename_calm (d := d₂) calm target_
    (by rw [agree.outside _ apart, there']; exact noFolder') source_
  rw [replace, Action.bind_apply, create_calm calm found noFolder]
  dsimp only
  rw [Action.bind_apply, write_calm (d := d.setNode source (.file [])) calm]
  dsimp only
  rw [Action.bind_apply, sync, step_calm (d := d₂) calm]
  dsimp only
  rw [renamed]

end Disk

end Signoff
