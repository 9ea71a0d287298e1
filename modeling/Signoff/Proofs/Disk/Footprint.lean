import Signoff.Proofs.Disk.Locality
import Signoff.Proofs.Store.Agreement

/-!
# What operations look at

An operation looks at no nodes but those that the paths it is given lead through (`Disk.passes`),
which is a matter of the names along a path and of the home folder. So on two disks that agree on
these nodes, and perhaps on others (`Disk.AgreeOn`), it gives the same and leaves disks that agree
on them again (`Disk.Looks`): `looks_read` for reading a file and `looks_replace` for replacing one.
-/

namespace Signoff

namespace Disk

open Signoff.Action

variable {α β : Type} {base d d' : Disk} {keys : List String} {path source target : String}

/-! ## The nodes along a path -/

/-- The keys of the nodes that some names lead through, the last of them included, from a folder
with the names `above` in reverse. -/
def passed (above : List String) : List String → List String
  | [] => []
  | name :: rest =>
    if name = "" ∨ name = "." then passed above rest
    else if name = ".." then passed above.tail rest
    else pathOf (name :: above).reverse :: passed (name :: above) rest

/-- The keys of the nodes that a path leads through. -/
def passes (d : Disk) (path : String) : List String :=
  passed (d.start path) (splitText '/' path)

theorem passes_eq (h : d'.home = d.home) (path : String) : d'.passes path = d.passes path := by
  rw [passes, passes, start_eq h]

theorem passed_append (above names rest : List String) :
    passed above (names ++ rest) = passed above names ++ passed (namesAlong above names) rest := by
  induction names generalizing above with
  | nil => rfl
  | cons name names ih =>
    rw [List.cons_append, passed, passed, namesAlong]
    split
    · exact ih above
    split
    · exact ih above.tail
    · rw [ih, List.cons_append]

/-- The disks have the home of a third one, the same faults, and the same nodes under some keys. -/
structure AgreeOn (base : Disk) (keys : List String) (d d' : Disk) : Prop where
  home : d.home = base.home
  home' : d'.home = base.home
  faults : d.faults = d'.faults
  node : ∀ key ∈ keys, d'.nodes.get? key = d.nodes.get? key

theorem AgreeOn.sameHome (h : AgreeOn base keys d d') : d'.home = d.home :=
  h.home'.trans h.home.symm

/-- Names lead to the same on disks that agree on what they lead through. -/
theorem walk_agree {above names : List String}
    (same : ∀ key ∈ passed above names, d'.nodes.get? key = d.nodes.get? key) :
    d'.walk above names = d.walk above names := by
  induction names generalizing above with
  | nil => rfl
  | cons name rest ih =>
    by_cases stays : name = "" ∨ name = "."
    · rw [passed, if_pos stays] at same
      rw [walk_stay _ _ _ stays, walk_stay _ _ _ stays, ih same]
    by_cases up : name = ".."
    · subst up
      rw [passed, if_neg (by decide), if_pos rfl] at same
      rw [walk_up, walk_up, ih same]
    · rw [passed, if_neg stays, if_neg up, List.forall_mem_cons] at same
      rw [walk_down _ _ _ stays up, walk_down _ _ _ stays up, same.1, ih same.2]

theorem AgreeOn.node? (h : AgreeOn base keys d d') (known : base.passes path ⊆ keys) :
    d'.node? path = d.node? path := by
  have same : d'.walk (d.start path) (splitText '/' path) =
      d.walk (d.start path) (splitText '/' path) := by
    refine walk_agree fun key passed => h.node key (known ?_)
    rw [← passes_eq h.home]
    exact passed
  rw [Disk.node?, Disk.node?, start_eq h.sameHome, same]

theorem AgreeOn.setNode (h : AgreeOn base keys d d') (path : String) (node : Node) :
    AgreeOn base keys (d.setNode path node) (d'.setNode path node) :=
  ⟨h.home, h.home', h.faults, fun key listed =>
    get?_setNode (h.node key listed) h.sameHome path node⟩

theorem AgreeOn.moveNode (h : AgreeOn base keys d d') (source target : String) (node : Node) :
    AgreeOn base keys (d.moveNode source target node) (d'.moveNode source target node) :=
  ⟨h.home, h.home', h.faults, fun key listed =>
    get?_moveNode (h.node key listed) h.sameHome source target node⟩

/-! ## The operations -/

/-- On disks that agree on some nodes the operation gives the same and leaves disks that agree on
them. -/
def Looks (base : Disk) (keys : List String) (io : Io α) : Prop :=
  Agree (AgreeOn base keys) (AgreeOn base keys) (fun _ => True) io io

theorem Looks.bind {io : Io α} {next : α → Io β} (h : Looks base keys io)
    (goes : ∀ x, Looks base keys (next x)) : Looks base keys (io >>= next) :=
  Agree.bind h id fun x _ => goes x

theorem looks_step : Looks base keys step := by
  rintro ⟨nodes, home, faults⟩ ⟨nodes', home', faults'⟩ h
  obtain rfl : faults = faults' := h.faults
  rcases faults with _ | ⟨_ | e, rest⟩
  · exact ⟨rfl, h, fun _ _ => trivial⟩
  all_goals exact ⟨rfl, ⟨h.home, h.home', rfl, h.node⟩, fun _ _ => trivial⟩

theorem looks_read (known : base.passes path ⊆ keys) : Looks base keys (read path) := by
  refine looks_step.bind fun _ d d' h => ?_
  simp only [bind_apply, get_apply, h.node? known]
  rcases d.node? path with _ | _ | _ | _ <;> exact ⟨rfl, h, fun _ _ => trivial⟩

theorem looks_create (known : base.passes path ⊆ keys) : Looks base keys (create path) := by
  refine looks_step.bind fun _ d d' h => ?_
  simp only [bind_apply, get_apply, h.node? known]
  rcases d.node? path with _ | _ | _ | _
  case error | ok.some.folder => exact ⟨rfl, h, fun _ _ => trivial⟩
  all_goals exact ⟨rfl, h.setNode path _, fun _ _ => trivial⟩

theorem looks_write (path : String) (content : Bytes) : Looks base keys (write path content) :=
  looks_step.bind fun _ _ _ h => ⟨rfl, h.setNode path _, fun _ _ => trivial⟩

theorem looks_rename (known : base.passes source ⊆ keys) (known' : base.passes target ⊆ keys) :
    Looks base keys (rename source target) := by
  refine looks_step.bind fun _ d d' h => ?_
  simp only [bind_apply, get_apply, h.node? known']
  -- nothing or a file is moved over, and then the move depends on its source
  rcases d.node? target with _ | _ | _ | _
  case error | ok.some.folder => exact ⟨rfl, h, fun _ _ => trivial⟩
  all_goals
    simp only [bind_apply, get_apply, h.node? known]
    rcases d.node? source with _ | _ | node
    · exact ⟨rfl, h, fun _ _ => trivial⟩
    · exact ⟨rfl, h, fun _ _ => trivial⟩
    · exact ⟨rfl, h.moveNode source target node, fun _ _ => trivial⟩

/-- Replacing a file looks at what the two paths lead through. -/
theorem looks_replace (known : base.passes source ⊆ keys) (known' : base.passes target ⊆ keys)
    (content : Bytes) : Looks base keys (replace source target content) :=
  (looks_create known).bind fun _ => (looks_write source content).bind fun _ =>
    looks_step.bind fun _ => looks_rename known known'

end Disk

end Signoff
