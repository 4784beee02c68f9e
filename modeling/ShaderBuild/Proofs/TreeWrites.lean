import ShaderBuild.Disk.Tree

/-!
Reading back what was written. A write that succeeds replaces all of the file at its path, so the
same path then reads as just the content written, whatever stood there before. Of a file tree this
holds at every path that leads to a file or to a free place (`replacesAt_of_isRegular`): the way to
that place goes through directories only, and a write puts none of them out.
-/

set_option autoImplicit false
set_option relaxedAutoImplicit false

namespace ShaderBuild

/-- After a write to the path that succeeds, the path reads as the content. -/
def Disk.ReplacesAt {φ : Type} (disk : Disk φ) (path : String) (files : φ) : Prop :=
  ∀ content after, disk.write path content files = (.ok (), after) →
    disk.read path after = .ok content

namespace FileTree

variable {tree : FileTree} {location other place last : Location} {node : Node}

/-! ### One entry -/

theorem find?_put_self (hlocation : location ≠ []) :
    (tree.put location node).find? location = some node := by
  have hgone : (tree.entries.filter fun entry ↦ entry.1 != location).lookup location = none := by
    refine List.lookup_eq_none_iff.mpr fun entry hentry ↦ ?_
    have hkept : entry.1 ≠ location := by simpa using (List.mem_filter.mp hentry).2
    exact bne_iff_ne.mpr hkept.symm
  unfold find? put
  rw [if_neg hlocation, List.lookup_append, hgone]
  simp

theorem lookup_filter_of_ne (entries : List (Location × Node)) (hne : other ≠ location) :
    (entries.filter fun entry ↦ entry.1 != location).lookup other = entries.lookup other := by
  induction entries with
  | nil => rfl
  | cons entry rest ih =>
    by_cases hhere : entry.1 = location
    · have hother : (other == entry.1) = false := by simpa [hhere] using hne
      rw [List.filter_cons_of_neg (by simp [hhere]), ih, List.lookup_cons, hother]
    · rw [List.filter_cons_of_pos (by simpa using hhere), List.lookup_cons, List.lookup_cons, ih]

theorem find?_put_of_ne (hne : other ≠ location) :
    (tree.put location node).find? other = tree.find? other := by
  have hlast : [(location, node)].lookup other = none := by
    rw [List.lookup_cons, beq_false_of_ne hne, List.lookup_nil]
  unfold find? put
  rw [List.lookup_append, lookup_filter_of_ne tree.entries hne, hlast, Option.or_none]

/-! ### Paths -/

/-- Whoever gets through the tree gets through it all the same after a node was put in a place that
is no directory. -/
theorem walk_put (hplace : tree.find? location ≠ some .directory) {names : List String}
    (h : tree.walk place names = .ok last) :
    (tree.put location node).walk place names = .ok last := by
  induction names generalizing place with
  | nil => simpa [walk] using h
  | cons name rest ih =>
    unfold walk at h ⊢
    by_cases hstay : name = "."
    · rw [if_pos hstay] at h ⊢
      exact ih h
    by_cases hup : name = ".."
    · rw [if_neg hstay, if_pos hup] at h ⊢
      exact ih h
    by_cases hlong : name.utf8ByteSize > maxNameSize
    · rw [if_neg hstay, if_neg hup, if_pos hlong] at h
      exact absurd h nofun
    rw [if_neg hstay, if_neg hup, if_neg hlong] at h ⊢
    cases hfind : tree.find? (place ++ [name]) with
    | none => simp [hfind] at h
    | some found =>
      cases found with
      | directory =>
        have hne : place ++ [name] ≠ location := fun heq ↦ hplace (heq ▸ hfind)
        simp only [hfind] at h
        simp only [find?_put_of_ne hne, hfind]
        exact ih h
      | file content => simp [hfind] at h
      | device device => simp [hfind] at h

theorem target_put (hplace : tree.find? location ≠ some .directory) {path : String}
    {target : Target} (h : tree.target path = .ok target) :
    (tree.put location node).target path = .ok target := by
  have hhere : (tree.put location node).here = tree.here := rfl
  unfold FileTree.target at h ⊢
  rw [hhere]
  by_cases hnul : path.toList.contains '\x00'
  · rw [if_pos hnul] at h
    exact absurd h nofun
  by_cases hempty : path.isEmpty
  · rw [if_neg hnul, if_pos hempty] at h
    exact absurd h nofun
  by_cases hlong : path.utf8ByteSize > maxPathSize
  · rw [if_neg hnul, if_neg hempty, if_pos hlong] at h
    exact absurd h nofun
  rw [if_neg hnul, if_neg hempty, if_neg hlong] at h ⊢
  simp only at h ⊢
  cases hlast : (components path).getLast? with
  | none => simpa only [hlast] using h
  | some last =>
    simp only [hlast] at h ⊢
    by_cases hdots : last = "." ∨ last = ".."
    · rw [if_pos hdots] at h ⊢
      cases hwalk : tree.walk (if path.toList.head? = some '/' then [] else tree.here)
          (components path) with
      | error failure => simp [hwalk] at h
      | ok place => simpa only [hwalk, walk_put hplace hwalk] using h
    · rw [if_neg hdots] at h ⊢
      cases hwalk : tree.walk (if path.toList.head? = some '/' then [] else tree.here)
          (components path).dropLast with
      | error failure => simp [hwalk] at h
      | ok place => simpa only [hwalk, walk_put hplace hwalk] using h

/-! ### Files -/

/-- The path leads to a file, to a free place or to a directory, and to no device. -/
def IsRegular (tree : FileTree) (path : String) : Prop :=
  ∀ place name slashAfter device, tree.target path = .ok (.entry place name slashAfter) →
    tree.find? (place ++ [name]) ≠ some (.device device)

/-- A write that succeeds at a regular path puts the content in the place that the path leads to. -/
theorem put_of_writeFile {path : String} {content : Bytes} {after : FileTree}
    (hregular : tree.IsRegular path) (h : tree.writeFile path content = (.ok (), after)) :
    ∃ place name, tree.target path = .ok (.entry place name false) ∧
      name.utf8ByteSize ≤ maxNameSize ∧ tree.find? (place ++ [name]) ≠ some .directory ∧
      after = tree.put (place ++ [name]) (.file content) := by
  unfold writeFile at h
  cases htarget : tree.target path with
  | error error => simp [htarget] at h
  | ok target =>
    cases target with
    | directory => simp [htarget] at h
    | entry place name slashAfter =>
      simp only [htarget] at h
      cases slashAfter with
      | true => simp at h
      | false =>
        by_cases hlong : name.utf8ByteSize > maxNameSize
        · simp [hlong] at h
        rw [if_neg Bool.false_ne_true, if_neg hlong] at h
        have hdevice := fun device ↦ hregular place name false device htarget
        refine ⟨place, name, rfl, Nat.le_of_not_gt hlong, ?_⟩
        cases hfind : tree.find? (place ++ [name]) with
        | none =>
          simp only [hfind, Prod.mk.injEq, true_and] at h
          exact ⟨nofun, h.symm⟩
        | some found =>
          cases found with
          | directory => simp [hfind] at h
          | device device => exact absurd hfind (hdevice device)
          | file content =>
            simp only [hfind, Prod.mk.injEq, true_and] at h
            exact ⟨nofun, h.symm⟩

theorem replacesAt_of_isRegular {path : String} (hregular : tree.IsRegular path) :
    disk.ReplacesAt path tree := by
  intro content after h
  obtain ⟨place, name, htarget, hfits, hplace, rfl⟩ := put_of_writeFile hregular h
  have hentry : place ++ [name] ≠ [] := List.append_ne_nil_of_right_ne_nil _ (List.cons_ne_nil _ _)
  show FileTree.readFile _ path = _
  unfold readFile
  rw [target_put hplace htarget]
  simp only [find?_put_self hentry, if_neg (Nat.not_lt.mpr hfits)]
  rfl

end FileTree

end ShaderBuild
