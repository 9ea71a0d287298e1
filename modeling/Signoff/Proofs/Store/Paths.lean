import Signoff.Proofs.Disk.Replacing
import Signoff.Proofs.Store.Files

/-!
# Where records stand

A record stands in the folder of its kind, under a name that its id makes. Ids that are valid make
names (`isName_file`), so two records stand under one key only if they are of one kind and have one
id (`keyOf_recordPath_inj`), and behind a folder that stands the path of a record leads to its place
(`node?_join`).
-/

namespace Signoff

/-! ## Splitting paths -/

theorem splitChars_append (separator : Char) (current as bs : List Char) :
    splitChars separator current (as ++ separator :: bs) =
      splitChars separator current as ++ splitChars separator [] bs := by
  induction as generalizing current with
  | nil => simp [splitChars]
  | cons a as ih =>
    rw [List.cons_append, splitChars, splitChars]
    split
    · rw [ih, List.cons_append]
    · exact ih _

/-- Paths that are joined with a slash have the names of both. -/
theorem splitText_append (a b : String) :
    splitText '/' (a ++ "/" ++ b) = splitText '/' a ++ splitText '/' b := by
  simp only [splitText, String.toList_append, ← List.map_append]
  rw [← splitChars_append, List.append_assoc]
  rfl

theorem splitChars_of_not_mem {separator : Char} {cs : List Char} (h : separator ∉ cs)
    (current : List Char) : splitChars separator current cs = [current.reverse ++ cs] := by
  induction cs generalizing current with
  | nil => rw [List.append_nil]; rfl
  | cons c cs ih =>
    rw [List.mem_cons, not_or] at h
    rw [splitChars, if_neg (Ne.symm h.1), ih h.2, List.reverse_cons, List.append_assoc]
    rfl

theorem splitText_of_not_mem {separator : Char} {text : String} (h : separator ∉ text.toList) :
    splitText separator text = [text] := by
  rw [splitText, splitChars_of_not_mem h]
  simp

namespace Disk

/-! ## Names -/

/-- The text is the name of a file or folder: it has no slash and does not stay or lead up. -/
structure IsName (name : String) : Prop where
  noSlash : '/' ∉ name.toList
  noStay : ¬ (name = "" ∨ name = ".")
  noUp : name ≠ ".."

theorem IsName.split {name : String} (h : IsName name) : splitText '/' name = [name] :=
  splitText_of_not_mem h.noSlash

theorem namesAlong_append (above xs ys : List String) :
    namesAlong above (xs ++ ys) = namesAlong (namesAlong above xs) ys := by
  induction xs generalizing above with
  | nil => rfl
  | cons x xs ih =>
    simp only [List.cons_append, namesAlong]
    split
    · exact ih _
    · split <;> exact ih _

theorem namesAlong_name {name : String} (h : IsName name) (above : List String) :
    namesAlong above [name] = name :: above := by
  rw [namesAlong, if_neg h.noStay, if_neg h.noUp, namesAlong]

/-- What leads to two names in one folder is the same only for the same names. -/
theorem pathOf_inj {folder : List String} {a b a' b' : String} (ha : IsName a) (hb : IsName b)
    (ha' : IsName a') (hb' : IsName b')
    (h : pathOf (folder ++ [a, b]) = pathOf (folder ++ [a', b'])) : a = a' ∧ b = b' := by
  have joined (a b : String) : pathOf [a, b] = a ++ "/" ++ b := rfl
  have same : pathOf [a, b] = pathOf [a', b'] := by
    by_cases hf : folder = []
    · rw [hf] at h
      exact h
    · rw [pathOf, pathOf, String.intercalate_append_of_ne_nil hf (by simp),
        String.intercalate_append_of_ne_nil hf (by simp)] at h
      exact String.append_right_inj _ |>.1 h
  have split := congrArg (splitText '/') same
  rw [joined, joined, splitText_append, splitText_append, ha.split, hb.split, ha'.split,
    hb'.split] at split
  injection split with ea split
  injection split with eb _
  exact ⟨ea, eb⟩

end Disk

namespace FileStore

open Signoff.Disk

variable {d : Disk} {folder kind name id : String}

/-! ## Joined paths -/

theorem endsWith_slash {path : String} (h : path.endsWith "/" = true) :
    ∃ front, path = front ++ "/" := by
  rw [String.endsWith_eq_endsWith_toSlice, String.Slice.endsWith_string_iff,
    String.copy_toSlice] at h
  obtain ⟨front, hf⟩ := h
  refine ⟨String.ofList front, String.toList_inj.1 ?_⟩
  rw [String.toList_append, String.toList_ofList, hf]

theorem namesAlong_join (hn : IsName name) (above : List String) (path : String) :
    namesAlong above (splitText '/' (join path name)) =
      name :: namesAlong above (splitText '/' path) := by
  unfold join
  split
  · rename_i h
    rw [Bool.or_eq_true] at h
    rcases h with h | h
    · rw [String.isEmpty_iff.1 h, String.empty_append, hn.split, namesAlong_name hn]
      rfl
    · obtain ⟨front, rfl⟩ := endsWith_slash h
      have bare := splitText_append front ""
      rw [String.append_empty] at bare
      rw [splitText_append, bare, hn.split, namesAlong_append, namesAlong_append,
        namesAlong_name hn]
      rfl
  · rw [splitText_append, hn.split, namesAlong_append, namesAlong_name hn]

/-- A joined path starts where the path before it does. -/
theorem start_join (hn : IsName name) (d : Disk) (path : String) :
    d.start (join path name) = d.start path := by
  have same : (join path name).startsWith "/" = path.startsWith "/" := by
    rw [Bool.eq_iff_iff, String.startsWith_string_iff, String.startsWith_string_iff]
    have slash : "/".toList = ['/'] := rfl
    have front (rest : String) (h : path.toList ≠ []) :
        ['/'] <+: (path ++ rest).toList ↔ ['/'] <+: path.toList := by
      rw [String.toList_append]
      obtain ⟨c, cs, hc⟩ := List.exists_cons_of_ne_nil h
      rw [hc, List.cons_append, List.cons_prefix_cons, List.cons_prefix_cons]
      simp
    rw [slash]
    by_cases he : path = ""
    · subst he
      have : ¬ ['/'] <+: name.toList := fun h => hn.noSlash (h.subset (by simp))
      rw [join, if_pos (by rfl), String.empty_append]
      simp [this]
    · have some_ : path.toList ≠ [] := by simpa using he
      unfold join
      split
      · exact front _ some_
      · rw [String.append_assoc]
        exact front _ some_
  rw [start, start, same]

/-- A joined path leads to its name in the folder that the path before it leads to. -/
theorem names_join (hn : IsName name) (d : Disk) (path : String) :
    d.names (join path name) = d.names path ++ [name] := by
  rw [names, names, start_join hn, namesAlong_join hn, List.reverse_cons]

/-! ## Paths of records -/

/-- The folders of the kinds of records. -/
def kinds : List String := ["workflows", "documents"]

theorem workflows_mem_kinds : "workflows" ∈ kinds := by simp [kinds]

theorem documents_mem_kinds : "documents" ∈ kinds := by simp [kinds]

theorem isName_kind : ∀ kind ∈ kinds, IsName kind := by
  intro kind h
  simp only [kinds, List.mem_cons, List.not_mem_nil, or_false] at h
  rcases h with rfl | rfl <;> constructor <;> decide

theorem isName_workflows : IsName "workflows" := isName_kind _ workflows_mem_kinds

theorem isName_documents : IsName "documents" := isName_kind _ documents_mem_kinds

/-- The characters of ids are neither slashes nor zeros. -/
theorem isIdChar_ne {c : Char} (h : isIdChar c = true) : c ≠ '/' ∧ c ≠ '\x00' := by
  constructor <;> rintro rfl <;> revert h <;> decide

theorem isIdChar_of_mem {c : Char} (valid : isValidId id = true) (h : c ∈ id.toList) :
    isIdChar c = true := by
  rw [isValidId, Bool.and_eq_true, List.all_eq_true] at valid
  exact valid.2 c h

/-- An id that is valid makes the names of its files. -/
theorem isName_file (valid : isValidId id = true) :
    IsName (id ++ ".json") ∧ IsName (id ++ ".json" ++ ".tmp") := by
  have noSlash : '/' ∉ id.toList := fun h => (isIdChar_ne (isIdChar_of_mem valid h)).1 rfl
  constructor
  · obtain ⟨noStay, noUp⟩ := name_ne
      (lastChar?_append (a := id) (b := ".json") (c := 'n') (by decide)) (by decide)
    exact ⟨by simp [noSlash], noStay, noUp⟩
  · obtain ⟨noStay, noUp⟩ := name_ne
      (lastChar?_append (a := id ++ ".json") (b := ".tmp") (c := 'p') (by decide)) (by decide)
    exact ⟨by simp [noSlash], noStay, noUp⟩

/-- The file that is written beside a record stands in its folder. -/
theorem recordPath_beside (folder kind id : String) :
    recordPath folder kind id ++ ".tmp" = join (join folder kind) (id ++ ".json" ++ ".tmp") := by
  unfold recordPath
  generalize join folder kind = path
  unfold join
  split <;> simp only [String.append_assoc]

theorem keyOf_recordPath (hk : IsName kind) (valid : isValidId id = true) (d : Disk)
    (folder : String) :
    d.keyOf (recordPath folder kind id) = pathOf (d.names folder ++ [kind, id ++ ".json"]) := by
  rw [keyOf, recordPath, names_join (isName_file valid).1, names_join hk, List.append_assoc]
  rfl

/-- Two records stand under one key only if they are of one kind and have one id. -/
theorem keyOf_recordPath_inj {kind' id' : String} (hk : IsName kind) (hk' : IsName kind')
    (valid : isValidId id = true) (valid' : isValidId id' = true)
    (h : d.keyOf (recordPath folder kind id) = d.keyOf (recordPath folder kind' id')) :
    kind = kind' ∧ id = id' := by
  rw [keyOf_recordPath hk valid, keyOf_recordPath hk' valid'] at h
  obtain ⟨ek, en⟩ := pathOf_inj hk (isName_file valid).1 hk' (isName_file valid').1 h
  exact ⟨ek, String.append_left_inj _ |>.1 en⟩

/-! ## Behind a folder that stands -/

/-- No operation refuses the path of a short name in a folder that stands. -/
theorem pathFault?_join {path : String} (fine : pathFault? path = none)
    (plain : '\x00' ∉ name.toList)
    (fit : path.utf8ByteSize + 1 + name.utf8ByteSize < maxPathBytes) :
    pathFault? (path ++ "/" ++ name) = none := by
  unfold pathFault? at fine ⊢
  split at fine
  · cases fine
  rename_i noNul
  rw [if_neg, if_neg]
  · simp only [String.utf8ByteSize_append]
    exact Nat.not_le.2 fit
  · rw [List.contains_iff_mem] at noNul ⊢
    simp [noNul, plain]

theorem join_eq {path : String} {c : Char} (ends : lastChar? path = some c) (slash : c ≠ '/')
    (name : String) : join path name = path ++ "/" ++ name := by
  have open_ : (path.isEmpty || path.endsWith "/") = false := by
    rw [Bool.or_eq_false_iff, Bool.eq_false_iff, Bool.eq_false_iff]
    constructor
    · intro h
      rw [String.isEmpty_iff.1 h] at ends
      cases ends
    · intro h
      obtain ⟨front, rfl⟩ := endsWith_slash h
      rw [lastChar?_append (c := '/') (by decide)] at ends
      exact slash (Option.some.inj ends).symm
  rw [join, open_]
  rfl

/-- Behind a folder that stands the path of a name leads to what stands under its key, if neither
the path nor the name is refused. -/
theorem node?_join_eq {path : String} {c : Char} (ends : lastChar? path = some c) (slash : c ≠ '/')
    (stands : d.node? path = .ok (some .folder)) (hn : IsName name) :
    d.node? (join path name) = match pathFault? (join path name) with
      | some e => .error e
      | none =>
        if maxNameBytes < name.utf8ByteSize then .error .nameTooLong
        else .ok (d.nodes.get? (d.keyOf (join path name))) := by
  have joined := join_eq ends slash name
  have starts := start_join hn d path
  rw [joined] at starts
  unfold node? at stands
  split at stands
  · cases stands
  split at stands
  · cases stands
  have some_ : (path ++ "/" ++ name).isEmpty = false := by
    rw [Bool.eq_false_iff]
    intro h
    have := congrArg String.toList (String.isEmpty_iff.1 h)
    simp at this
  rw [joined, node?, some_, keyOf, Disk.names, starts, splitText_append, hn.split,
    namesAlong_append, namesAlong_name hn]
  cases pathFault? (path ++ "/" ++ name) with
  | some e => rfl
  | none =>
    show d.walk _ _ = _
    rw [walk_append stands, walk_down _ _ _ hn.noStay hn.noUp]
    rcases d.nodes.get? (pathOf (name :: namesAlong (d.start path) (splitText '/' path)).reverse)
      with _ | _ | _ <;> rfl

/-- Behind a folder that stands the path of a short name leads to what stands under its key. -/
theorem node?_join {path : String} {c : Char} (ends : lastChar? path = some c) (slash : c ≠ '/')
    (stands : d.node? path = .ok (some .folder)) (hn : IsName name)
    (fit : name.utf8ByteSize ≤ maxNameBytes) (fine : pathFault? (path ++ "/" ++ name) = none) :
    d.node? (join path name) = .ok (d.nodes.get? (d.keyOf (join path name))) := by
  rw [node?_join_eq ends slash stands hn, join_eq ends slash, fine]
  exact if_neg (Nat.not_lt.2 fit)

end FileStore

end Signoff
