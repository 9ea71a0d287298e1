import Signoff.Disk

/-!
# What files hold

The content of the file that a path leads to (`Disk.content?`), and why it stays when something else
changes. Where a path leads depends on the folders above it, so it leads to its place on every disk
with the same folders (`Disk.SameFolders.node?`), and what is there stands under its key
(`Disk.EndsIn.get?_keyOf`). So what is under another key may change
(`Disk.SameFolders.content?_eq`), in particular when a file is made or filled (`Disk.AgreeOutside`).

Keys are told apart by their last character, which is that of the last name of a path
(`Disk.EndsIn.keyOf_ne`).
-/

namespace Signoff

/-- The last character of a text. -/
def lastChar? (text : String) : Option Char := text.toList.getLast?

theorem lastChar?_append {a b : String} {c : Char} (h : lastChar? b = some c) :
    lastChar? (a ++ b) = some c := by
  rw [lastChar?, String.toList_append, List.getLast?_append]
  rw [lastChar?] at h
  rw [h]
  rfl

theorem getLast?_splitChars {separator c : Char} (hc : c ≠ separator) (current : List Char)
    {cs : List Char} (h : cs.getLast? = some c) :
    ∃ name, (splitChars separator current cs).getLast? = some name ∧ name.getLast? = some c := by
  induction cs generalizing current with
  | nil => cases h
  | cons x rest ih =>
    rw [splitChars]
    cases rest with
    | nil =>
      obtain rfl : x = c := by simpa using h
      rw [if_neg hc]
      exact ⟨_, rfl, by simp⟩
    | cons y rest =>
      rw [List.getLast?_cons_cons] at h
      by_cases hx : x = separator
      · rw [if_pos hx]
        obtain ⟨name, last, ends⟩ := ih [] h
        exact ⟨name, by rw [List.getLast?_cons, last]; rfl, ends⟩
      · rw [if_neg hx]
        exact ih _ h

/-- The last part of a text ends as the text does, if that is not with the separator. -/
theorem getLast?_splitText {separator c : Char} (hc : c ≠ separator) {text : String}
    (h : lastChar? text = some c) :
    ∃ name, (splitText separator text).getLast? = some name ∧ lastChar? name = some c := by
  obtain ⟨name, last, ends⟩ := getLast?_splitChars hc [] h
  refine ⟨String.ofList name, ?_, ?_⟩
  · rw [splitText, List.getLast?_map, last]
    rfl
  · rw [lastChar?, String.toList_ofList, ends]

namespace Disk

/-- A path ends as its last name does. -/
theorem getLast?_pathOf {names : List String} {name : String} {c : Char}
    (h : names.getLast? = some name) (ends : lastChar? name = some c) :
    lastChar? (pathOf names) = some c := by
  obtain ⟨above, rfl⟩ := List.getLast?_eq_some_iff.1 h
  rw [pathOf]
  by_cases ha : above = []
  · rw [ha, List.nil_append, String.intercalate_singleton, ends]
  · rw [String.intercalate_append_of_ne_nil ha (by simp), String.intercalate_singleton]
    exact lastChar?_append ends

/-- A name that ends in neither a dot nor nothing is the name of a node. -/
theorem name_ne {name : String} {c : Char} (ends : lastChar? name = some c) (hc : c ≠ '.') :
    ¬ (name = "" ∨ name = ".") ∧ name ≠ ".." := by
  refine ⟨?_, ?_⟩
  · rintro (rfl | rfl)
    · cases ends
    · exact hc (Option.some.inj ends).symm
  · rintro rfl
    exact hc (Option.some.inj ends).symm

/-- Induction along the names of a path whose last name is that of a node: a walk comes to the last
name, stays, goes up or goes down to a name that is not the last. -/
theorem walk_induction {name : String} {c : Char} (ends : lastChar? name = some c) (hc : c ≠ '.')
    {P : List String → List String → Prop}
    (last : ∀ above, ¬ (name = "" ∨ name = ".") → name ≠ ".." → P above [name])
    (stay : ∀ above x rest, (x = "" ∨ x = ".") → P above rest → P above (x :: rest))
    (up : ∀ above rest, P above.tail rest → P above (".." :: rest))
    (down : ∀ above x y rest, ¬ (x = "" ∨ x = ".") → x ≠ ".." → P (x :: above) (y :: rest) →
      P above (x :: y :: rest))
    {names : List String} (h : names.getLast? = some name) (above : List String) :
    P above names := by
  induction names generalizing above with
  | nil => cases h
  | cons x rest ih =>
    cases rest with
    | nil =>
      rw [List.getLast?_singleton, Option.some.injEq] at h
      subst h
      exact last above (name_ne ends hc).1 (name_ne ends hc).2
    | cons y rest =>
      rw [List.getLast?_cons_cons] at h
      by_cases hx : x = "" ∨ x = "."
      · exact stay above x _ hx (ih h above)
      by_cases hu : x = ".."
      · subst hu
        exact up above _ (ih h above.tail)
      · exact down above x y rest hx hu (ih h (x :: above))

section

variable (d : Disk) (above : List String) {x : String} (rest : List String)

theorem walk_stay (hx : x = "" ∨ x = ".") : d.walk above (x :: rest) = d.walk above rest := by
  rw [walk, if_pos hx]

theorem walk_up : d.walk above (".." :: rest) = d.walk above.tail rest := by
  rw [walk, if_neg (by decide), if_pos rfl]

theorem walk_down (hx : ¬ (x = "" ∨ x = ".")) (hu : x ≠ "..") :
    d.walk above (x :: rest) =
      if maxNameBytes < x.utf8ByteSize then .error .nameTooLong
      else
        match d.nodes.get? (pathOf (x :: above).reverse) with
        | some .folder => d.walk (x :: above) rest
        | some (.file content) =>
          if rest.isEmpty then .ok (some (.file content)) else .error .notFolder
        | none => if rest.isEmpty then .ok none else .error .notFound := by
  rw [walk]
  exact (if_neg hx).trans (if_neg hu)

end

/-- The content that a walk leads to. -/
def held : Except Error (Option Node) → Option Bytes
  | .ok (some (.file content)) => some content
  | _ => none

/-- The content of the file at a path, if it leads to one. -/
def content? (d : Disk) (path : String) : Option Bytes := held (d.node? path)

theorem content?_eq_some {d : Disk} {path : String} {content : Bytes} :
    d.content? path = some content ↔ d.node? path = .ok (some (.file content)) := by
  rw [content?]
  rcases d.node? path with e | _ | _ | _ <;> simp [held]

/-! ## Keys -/

/-- The key of the node that a path leads to. -/
def keyOf (d : Disk) (path : String) : String := pathOf (d.names path)

theorem head?_namesAlong {names : List String} {name : String} {c : Char}
    (last : names.getLast? = some name) (ends : lastChar? name = some c) (hc : c ≠ '.')
    (above : List String) : (namesAlong above names).head? = some name := by
  refine walk_induction ends hc (P := fun above names => (namesAlong above names).head? = some name)
    ?_ ?_ ?_ ?_ last above
  · intro above hx hu
    rw [namesAlong, if_neg hx, if_neg hu]
    rfl
  · intro above x rest hx ih
    rw [namesAlong, if_pos hx]
    exact ih
  · intro above rest ih
    rw [namesAlong, if_neg (by decide), if_pos rfl]
    exact ih
  · intro above x y rest hx hu ih
    rw [namesAlong, if_neg hx, if_neg hu]
    exact ih

/-- The path ends in a character that is neither a dot nor a slash, so its last name is that of a
node. -/
structure EndsIn (path : String) (c : Char) : Prop where
  ends : lastChar? path = some c
  dot : c ≠ '.'
  slash : c ≠ '/'

theorem EndsIn.lastName {path : String} {c : Char} (h : EndsIn path c) :
    ∃ name, (splitText '/' path).getLast? = some name ∧ lastChar? name = some c :=
  getLast?_splitText h.slash h.ends

/-- The key of a node ends as the path to it does. -/
theorem EndsIn.lastChar?_keyOf {path : String} {c : Char} (h : EndsIn path c) (d : Disk) :
    lastChar? (d.keyOf path) = some c := by
  obtain ⟨name, last, ends⟩ := h.lastName
  refine getLast?_pathOf ?_ ends
  rw [names, List.getLast?_reverse]
  exact head?_namesAlong last ends h.dot _

/-- Paths that end in different characters have different keys. -/
theorem EndsIn.keyOf_ne {path path' : String} {c c' : Char} (h : EndsIn path c)
    (h' : EndsIn path' c') (ne : c ≠ c') (d : Disk) : d.keyOf path ≠ d.keyOf path' := by
  intro same
  have last := h.lastChar?_keyOf d
  rw [same, h'.lastChar?_keyOf d] at last
  exact ne (Option.some.inj last).symm

/-- A walk that comes to its end finds what stands under the key. -/
theorem get?_of_walk {d : Disk} {names : List String} {name : String} {c : Char}
    (last : names.getLast? = some name) (ends : lastChar? name = some c) (hc : c ≠ '.')
    (above : List String) {node : Option Node} : d.walk above names = .ok node →
    d.nodes.get? (pathOf (namesAlong above names).reverse) = node := by
  refine walk_induction ends hc (P := fun above names => d.walk above names = .ok node →
    d.nodes.get? (pathOf (namesAlong above names).reverse) = node) ?_ ?_ ?_ ?_ last above
  · intro above hx hu h
    rw [walk_down _ _ _ hx hu] at h
    rw [namesAlong, if_neg hx, if_neg hu, namesAlong]
    split at h
    · cases h
    · rcases hg : d.nodes.get? (pathOf (name :: above).reverse) with _ | _ | _ <;> rw [hg] at h <;>
        exact Except.ok.inj h
  · intro above x rest hx ih
    rw [walk_stay _ _ _ hx, namesAlong, if_pos hx]
    exact ih
  · intro above rest ih
    rw [walk_up, namesAlong, if_neg (by decide), if_pos rfl]
    exact ih
  · intro above x y rest hx hu ih h
    rw [walk_down _ _ _ hx hu] at h
    rw [namesAlong, if_neg hx, if_neg hu]
    split at h
    · cases h
    split at h
    · exact ih h
    · cases h
    · cases h

/-- What a path leads to stands under its key. -/
theorem EndsIn.get?_keyOf {d : Disk} {path : String} {c : Char} (h : EndsIn path c)
    {node : Option Node} (found : d.node? path = .ok node) :
    d.nodes.get? (d.keyOf path) = node := by
  obtain ⟨name, last, ends⟩ := h.lastName
  unfold node? at found
  split at found
  · cases found
  split at found
  · cases found
  · exact get?_of_walk last ends h.dot _ found

/-! ## The same folders -/

section

variable {d d' : Disk} {above names : List String} {path : String} {c : Char}

/-- The disks have the same folders and the same home. -/
structure SameFolders (d d' : Disk) : Prop where
  home : d'.home = d.home
  folder : ∀ k, d'.nodes.get? k = some .folder ↔ d.nodes.get? k = some .folder

theorem SameFolders.symm (h : SameFolders d d') : SameFolders d' d :=
  ⟨h.home.symm, fun k => (h.folder k).symm⟩

/-- A path starts at the same folder on disks with the same home. -/
theorem start_eq (h : d'.home = d.home) (path : String) : d'.start path = d.start path := by
  rw [start, start, h]

theorem keyOf_eq (h : d'.home = d.home) (path : String) : d'.keyOf path = d.keyOf path := by
  rw [keyOf, keyOf, Disk.names, Disk.names, start_eq h]

/-- Where a path leads does not depend on the faults that are scheduled. -/
theorem node?_faults (d : Disk) (faults : List (Option Error)) (path : String) :
    ({ d with faults } : Disk).node? path = d.node? path := by
  have walks : ∀ above names, ({ d with faults } : Disk).walk above names = d.walk above names := by
    intro above names
    induction names generalizing above with
    | nil => rfl
    | cons x rest ih => simp only [Disk.walk, ih]
  rw [Disk.node?, Disk.node?, start_eq (d := d) (by rfl), walks]

/-- A walk that came to its last name comes there again. -/
theorem SameFolders.walk (h : SameFolders d d') {name : String}
    (last : names.getLast? = some name) (ends : lastChar? name = some c) (dot : c ≠ '.')
    (above : List String) {node : Option Node} : d.walk above names = .ok node →
    d'.nodes.get? (pathOf (namesAlong above names).reverse) ≠ some .folder →
    d'.walk above names = .ok (d'.nodes.get? (pathOf (namesAlong above names).reverse)) := by
  refine walk_induction ends dot (P := fun above names => d.walk above names = .ok node →
    d'.nodes.get? (pathOf (namesAlong above names).reverse) ≠ some .folder →
    d'.walk above names = .ok (d'.nodes.get? (pathOf (namesAlong above names).reverse)))
    ?_ ?_ ?_ ?_ last above
  · intro above hx hu found noFolder
    rw [walk_down _ _ _ hx hu] at found ⊢
    rw [namesAlong, if_neg hx, if_neg hu, namesAlong] at noFolder ⊢
    split at found
    · cases found
    · rw [if_neg ‹_›]
      rcases hg : d'.nodes.get? (pathOf (name :: above).reverse) with _ | _ | _
      · rfl
      · rfl
      · exact absurd hg noFolder
  · intro above x rest hx ih
    rw [walk_stay _ _ _ hx, walk_stay _ _ _ hx, namesAlong, if_pos hx]
    exact ih
  · intro above rest ih
    rw [walk_up, walk_up, namesAlong, if_neg (by decide), if_pos rfl]
    exact ih
  · intro above x y rest hx hu ih found
    rw [walk_down _ _ _ hx hu] at found ⊢
    rw [namesAlong, if_neg hx, if_neg hu]
    split at found
    · cases found
    · rw [if_neg ‹_›]
      split at found
      · rename_i folder
        rw [(h.folder _).2 folder]
        exact ih found
      · cases found
      · cases found

/-- A path that leads to its place leads there on every disk with the same folders. -/
theorem SameFolders.node? (h : SameFolders d d') (ends : EndsIn path c) {node : Option Node}
    (found : d.node? path = .ok node)
    (noFolder : d'.nodes.get? (d.keyOf path) ≠ some .folder) :
    d'.node? path = .ok (d'.nodes.get? (d.keyOf path)) := by
  obtain ⟨name, last, name_ends⟩ := ends.lastName
  rw [← keyOf_eq h.home] at noFolder ⊢
  unfold Disk.node? at found ⊢
  rw [start_eq h.home]
  split at found
  · cases found
  split at found
  · cases found
  · rw [if_neg ‹_›]
    rw [keyOf, Disk.names, start_eq h.home] at noFolder ⊢
    exact h.walk last name_ends ends.dot _ found noFolder

theorem SameFolders.content?_of_some (h : SameFolders d d') (ends : EndsIn path c)
    (same : d'.nodes.get? (d.keyOf path) = d.nodes.get? (d.keyOf path)) {content : Bytes}
    (held : d.content? path = some content) : d'.content? path = some content := by
  have found := content?_eq_some.1 held
  rw [ends.get?_keyOf found] at same
  rw [content?, h.node? ends found (by simp [same]), same]
  rfl

/-- The file at a path stays as it is if the folders and the node under its key do. -/
theorem SameFolders.content?_eq (h : SameFolders d d') (ends : EndsIn path c)
    (same : d'.nodes.get? (d.keyOf path) = d.nodes.get? (d.keyOf path)) :
    d'.content? path = d.content? path := by
  have back := @SameFolders.content?_of_some _ _ _ _ h.symm ends
    (by rw [keyOf_eq h.home]; exact same.symm)
  exact Option.ext fun content => ⟨back, h.content?_of_some ends same⟩

end

/-! ## Disks that differ under one key -/

/-- The disks have the same nodes outside one key, and under it the same or no folder. -/
structure AgreeOutside (key : String) (d d' : Disk) : Prop where
  home : d'.home = d.home
  outside : ∀ k, k ≠ key → d'.nodes.get? k = d.nodes.get? k
  inside : d'.nodes.get? key = d.nodes.get? key ∨
    d.nodes.get? key ≠ some .folder ∧ d'.nodes.get? key ≠ some .folder

namespace AgreeOutside

variable {key : String} {d d' d'' : Disk}

theorem trans (h : AgreeOutside key d d') (h' : AgreeOutside key d' d'') :
    AgreeOutside key d d'' where
  home := h'.home.trans h.home
  outside k hk := (h'.outside k hk).trans (h.outside k hk)
  inside := by
    rcases h'.inside with same' | ⟨no', no''⟩
    · rw [same']
      exact h.inside
    · rcases h.inside with same | ⟨no, -⟩
      · exact .inr ⟨same ▸ no', no''⟩
      · exact .inr ⟨no, no''⟩

theorem sameFolders (h : AgreeOutside key d d') : SameFolders d d' where
  home := h.home
  folder k := by
    by_cases hk : k = key
    · subst hk
      rcases h.inside with same | ⟨no, no'⟩
      · rw [same]
      · simp [no, no']
    · rw [h.outside k hk]

/-- The file at a path that ends otherwise than the key stays as it is. -/
theorem content?_eq (h : AgreeOutside key d d') {path : String} {c : Char} (ends : EndsIn path c)
    (other : lastChar? key ≠ some c) : d'.content? path = d.content? path := by
  refine h.sameFolders.content?_eq ends (h.outside _ ?_)
  rintro rfl
  exact other (ends.lastChar?_keyOf d)

end AgreeOutside

end Disk

end Signoff
