import Signoff.Proofs.Disk.Replacing
import Signoff.Proofs.Table.Entries

/-!
# Replacing files in different places

Where a path leads may depend on nothing but the folders and what stands under its key
(`Disk.Settled`), which is so for the files in a folder that stands. Then a file is replaced in the
same way on every disk with the same folders and the same nodes under its two keys
(`replace_local`), and nothing else is touched (`replace_outside`). So files in different places may
be replaced in either order (`replace_comm`).
-/

namespace Signoff

attribute [ext] Disk

namespace Disk

variable {d d' d'' : Disk} {path source target source' target' : String} {content content' : Bytes}

theorem SameFolders.trans (h : SameFolders d d') (h' : SameFolders d' d'') : SameFolders d d'' where
  home := h'.home.trans h.home
  folder k := (h'.folder k).trans (h.folder k)

theorem SameFolders.refl (d : Disk) : SameFolders d d := ⟨rfl, fun _ => Iff.rfl⟩

/-- While the folders stay, the path leads to what stands under its key, or nowhere at all. -/
def Settled (d : Disk) (path : String) : Prop :=
  ∀ ⦃d₁ d₂ : Disk⦄, SameFolders d d₁ → SameFolders d d₂ →
    d₁.nodes.get? (d.keyOf path) = d₂.nodes.get? (d.keyOf path) → d₁.node? path = d₂.node? path

theorem Settled.sameFolders (settled : d.Settled path) (h : SameFolders d d') :
    d'.Settled path := fun d₁ d₂ h₁ h₂ same =>
  settled (h.trans h₁) (h.trans h₂) (by rwa [keyOf_eq h.home] at same)

theorem setNode_setNode (d : Disk) (path : String) (node node' : Node) :
    (d.setNode path node).setNode path node' = d.setNode path node' :=
  congrArg (fun nodes => ({ d with nodes } : Disk)) (Table.insert_insert ..)

/-- Reading a file without faults. -/
theorem read_eq (path : String) (calm : d.faults = []) :
    read path d = (match d.node? path with
      | .error e => .error e
      | .ok none => .error .notFound
      | .ok (some .folder) => .error .isFolder
      | .ok (some (.file content)) => .ok content, d) := by
  rw [read, Action.bind_apply, step_calm calm]
  simp only [Action.bind_apply, Action.get_apply]
  rcases d.node? path with _ | _ | _ | _ <;> rfl

/-- The disk with a node moved from its place to another. -/
def moveNode (d : Disk) (source target : String) (node : Node) : Disk :=
  { d with nodes := (d.nodes.erase (d.keyOf source)).insert (d.keyOf target) node }

/-- Setting a node looks at nothing but the home. -/
theorem get?_setNode {k : String} (same : d'.nodes.get? k = d.nodes.get? k)
    (home : d'.home = d.home) (path : String) (node : Node) :
    (d'.setNode path node).nodes.get? k = (d.setNode path node).nodes.get? k := by
  show (d'.nodes.insert (d'.keyOf path) node).get? k = (d.nodes.insert (d.keyOf path) node).get? k
  rw [keyOf_eq home, Table.get?_insert, Table.get?_insert, same]

/-- Moving a node looks at nothing but the home. -/
theorem get?_moveNode {k : String} (same : d'.nodes.get? k = d.nodes.get? k)
    (home : d'.home = d.home) (source target : String) (node : Node) :
    (d'.moveNode source target node).nodes.get? k =
      (d.moveNode source target node).nodes.get? k := by
  show ((d'.nodes.erase (d'.keyOf source)).insert (d'.keyOf target) node).get? k =
    ((d.nodes.erase (d.keyOf source)).insert (d.keyOf target) node).get? k
  rw [keyOf_eq home, keyOf_eq home, Table.get?_insert, Table.get?_insert, Table.get?_erase,
    Table.get?_erase, same]

/-- Replacing a file without faults, case by case in the order in which the cases are found out. -/
theorem replace_calm {c c' : Char} (ends : EndsIn source c) (ends' : EndsIn target c') (ne : c ≠ c')
    (calm : d.faults = []) (settled : d.Settled target) (content : Bytes) :
    replace source target content d = match d.node? source with
      | .error e => (.error e, d)
      | .ok (some .folder) => (.error .isFolder, d)
      | .ok _ =>
        match d.node? target with
        | .error e => (.error e, d.setNode source (.file content))
        | .ok (some .folder) => (.error .isFolder, d.setNode source (.file content))
        | .ok _ =>
          (.ok (), (d.setNode source (.file content)).moveNode source target (.file content)) := by
  let filled := d.setNode source (.file content)
  have made {node : Option Node} (found : d.node? source = .ok node)
      (noFolder : node ≠ some .folder) :
      replace source target content d = rename source target filled := by
    simp only [replace, Action.bind_apply, create_calm calm found noFolder,
      write_calm (d := d.setNode source (.file [])) calm, setNode_setNode]
    rw [sync, step_calm (d := filled) calm]
  have moved {node : Option Node} (found : d.node? source = .ok node)
      (noFolder : node ≠ some .folder) :
      rename source target filled = match d.node? target with
        | .error e => (.error e, filled)
        | .ok (some .folder) => (.error .isFolder, filled)
        | .ok _ => (.ok (), filled.moveNode source target (.file content)) := by
    have free : d.nodes.get? (d.keyOf source) ≠ some .folder := ends.get?_keyOf found ▸ noFolder
    have folders : SameFolders d filled := (AgreeOutside.setNode free content).sameFolders
    have full : filled.nodes.get? (d.keyOf source) = some (.file content) := setNode_file ..
    have source_ : filled.node? source = .ok (some (.file content)) := by
      rw [folders.node? ends found (by simp [full]), full]
    have target_ : filled.node? target = d.node? target :=
      settled folders (.refl d) (Table.get?_insert_of_ne _ (ends'.keyOf_ne ends ne.symm d) _)
    rw [rename_eq target (d := filled) calm source_, target_]
    rfl
  cases found : d.node? source with
  | error e => rw [replace, Action.bind_apply, create_eq source calm, found]
  | ok node =>
    rcases node with _ | _ | _
    case some.folder => rw [replace, Action.bind_apply, create_eq source calm, found]
    all_goals rw [made found (by simp), moved found (by simp)]

/-- Nothing is touched but what stands under the two keys. -/
theorem replace_outside {c c' : Char} (ends : EndsIn source c) (ends' : EndsIn target c')
    (ne : c ≠ c') (content : Bytes) (d : Disk) :
    SameFolders d (replace source target content d).2 ∧
      ∀ k, k ≠ d.keyOf source → k ≠ d.keyOf target →
        (replace source target content d).2.nodes.get? k = d.nodes.get? k := by
  rcases replace_leaves ends target content d with ⟨u, done⟩ | left_
  · have replaced := replace_replaced ends ends' ne done
    exact ⟨replaced.sameFolders, replaced.other⟩
  · exact ⟨left_.sameFolders, fun k hs _ => left_.outside k hs⟩

/-- Where the folders and the nodes under the two keys are the same, so is what happens, and what
stands under the keys afterwards. -/
theorem replace_local {c c' : Char} (ends : EndsIn source c) (ends' : EndsIn target c')
    (ne : c ≠ c') (calm : d.faults = []) (calm' : d'.faults = []) (settled : d.Settled source)
    (settled' : d.Settled target) (folders : SameFolders d d')
    (same : ∀ k, k = d.keyOf source ∨ k = d.keyOf target → d'.nodes.get? k = d.nodes.get? k)
    (content : Bytes) :
    (replace source target content d').1 = (replace source target content d).1 ∧
      ∀ k, k = d.keyOf source ∨ k = d.keyOf target →
        (replace source target content d').2.nodes.get? k =
          (replace source target content d).2.nodes.get? k := by
  have source_ : d'.node? source = d.node? source :=
    settled folders (.refl d) (same _ (.inl rfl))
  have target_ : d'.node? target = d.node? target :=
    settled' folders (.refl d) (same _ (.inr rfl))
  have filled (k : String) (hk : k = d.keyOf source ∨ k = d.keyOf target) :=
    get?_setNode (same k hk) folders.home source (.file content)
  have moved (k : String) (hk : k = d.keyOf source ∨ k = d.keyOf target) :=
    get?_moveNode (filled k hk) folders.home source target (.file content)
  rw [replace_calm ends ends' ne calm settled', replace_calm ends ends' ne calm'
    (settled'.sameFolders folders), source_, target_]
  rcases d.node? source with _ | _ | _ | _
  case error | ok.some.folder => exact ⟨rfl, same⟩
  all_goals
    rcases d.node? target with _ | _ | _ | _
    case error | ok.some.folder => exact ⟨rfl, filled⟩
    all_goals exact ⟨rfl, moved⟩

/-- What stands under the keys of a file in another place stays. -/
theorem replace_apart {c c' : Char} (ends : EndsIn source c) (ends' : EndsIn target c')
    (other : EndsIn source' c) (other' : EndsIn target' c') (ne : c ≠ c')
    (apart : d.keyOf source ≠ d.keyOf source') (apart' : d.keyOf target ≠ d.keyOf target')
    (content : Bytes) (k : String) (hk : k = d.keyOf source' ∨ k = d.keyOf target') :
    (replace source target content d).2.nodes.get? k = d.nodes.get? k := by
  have rest := (replace_outside ends ends' ne content d).2 k
  rcases hk with rfl | rfl
  · exact rest apart.symm (other.keyOf_ne ends' ne d)
  · exact rest (other'.keyOf_ne ends ne.symm d) apart'.symm

/-- Files in different places are replaced the same in either order. -/
theorem replace_comm {c c' : Char} (ends : EndsIn source c) (ends' : EndsIn target c')
    (other : EndsIn source' c) (other' : EndsIn target' c') (ne : c ≠ c') (calm : d.faults = [])
    (settled : ∀ path ∈ [source, target, source', target'], d.Settled path)
    (apart : d.keyOf source ≠ d.keyOf source') (apart' : d.keyOf target ≠ d.keyOf target')
    (content content' : Bytes) :
    (replace source target content (replace source' target' content' d).2).1 =
        (replace source target content d).1 ∧
      (replace source target content (replace source' target' content' d).2).2 =
        (replace source' target' content' (replace source target content d).2).2 := by
  have cross : d.keyOf source ≠ d.keyOf target' := ends.keyOf_ne other' ne d
  have cross' : d.keyOf target ≠ d.keyOf source' := ends'.keyOf_ne other ne.symm d
  obtain ⟨folders, rest⟩ := replace_outside ends ends' ne content d
  obtain ⟨folders', rest'⟩ := replace_outside other other' ne content' d
  have calm₁ := replace_keeps_calm source target content calm
  have calm₂ := replace_keeps_calm source' target' content' calm
  -- the keys of one file are not touched by the other
  have kept := replace_apart ends ends' other other' ne apart apart' content
  have kept' := replace_apart other other' ends ends' ne apart.symm apart'.symm content'
  obtain ⟨result, placed⟩ := replace_local ends ends' ne calm calm₂ (settled _ (by simp))
    (settled _ (by simp)) folders' kept' content
  obtain ⟨-, placed'⟩ := replace_local other other' ne calm calm₁ (settled _ (by simp))
    (settled _ (by simp)) folders kept content'
  obtain ⟨last, outer⟩ := replace_outside ends ends' ne content
    (replace source' target' content' d).2
  obtain ⟨last', outer'⟩ := replace_outside other other' ne content'
    (replace source target content d).2
  simp only [keyOf_eq folders.home, keyOf_eq folders'.home] at outer outer'
  refine ⟨result, Disk.ext ?_ ((folders'.trans last).home.trans (folders.trans last').home.symm) ?_⟩
  · refine Table.ext_get? fun k => ?_
    by_cases hk : k = d.keyOf source ∨ k = d.keyOf target
    · have away : k ≠ d.keyOf source' ∧ k ≠ d.keyOf target' := by
        rcases hk with rfl | rfl
        · exact ⟨apart, cross⟩
        · exact ⟨cross', apart'⟩
      rw [placed k hk, outer' k away.1 away.2]
    · rw [not_or] at hk
      rw [outer k hk.1 hk.2]
      by_cases hk' : k = d.keyOf source' ∨ k = d.keyOf target'
      · rw [placed' k hk']
      · rw [not_or] at hk'
        rw [outer' k hk'.1 hk'.2, rest k hk.1 hk.2, rest' k hk'.1 hk'.2]
  · rw [replace_keeps_calm source target content calm₂,
      replace_keeps_calm source' target' content' calm₁]

end Disk

end Signoff
