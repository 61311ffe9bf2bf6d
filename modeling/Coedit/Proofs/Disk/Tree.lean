import Coedit.Disk
import Mathlib.Data.List.Induction

/-!
# Trees of files

On a disk whatever lies somewhere lies in a directory.  Operations that succeed keep it
that way, and what they do is told by what every path leads to afterwards.
-/

namespace Coedit

variable {disk after : Disk} {path base : Path} {content : Bytes}

namespace Disk

/-- Whatever is somewhere is in a directory. -/
def IsTree (disk : Disk) : Prop :=
  ∀ parent name, disk.node? (parent ++ [name]) ≠ none → disk.node? parent = some .directory

@[simp] theorem node?_root (disk : Disk) : disk.node? [] = some .directory := rfl

theorem node?_of_ne_root (root : path ≠ []) : disk.node? path = disk.nodes.get? path := by
  cases path with
  | nil => contradiction
  | cons name rest => rfl

theorem isTree_empty : empty.IsTree := by
  intro parent name present
  rw [node?_of_ne_root (by simp)] at present
  exact absurd (Table.get?_empty _) present

/-- Nothing lies below nothing. -/
theorem IsTree.node?_append (tree : disk.IsTree) (missing : disk.node? base = none)
    (rest : Path) : disk.node? (base ++ rest) = none := by
  induction rest using List.reverseRecOn with
  | nil => rwa [List.append_nil]
  | append_singleton rest name ih =>
      by_contra present
      rw [← List.append_assoc] at present
      rw [tree _ _ present] at ih
      cases ih

/-! ## Finding -/

theorem walk_notFound (tree : disk.IsTree) {rest : Path}
    (missing : disk.walk base rest = .error .notFound) : disk.node? (base ++ rest) = none := by
  induction rest generalizing base with
  | nil => cases missing
  | cons name rest ih =>
      rw [walk] at missing
      split at missing
      · next absent => exact tree.node?_append absent (name :: rest)
      · cases missing
      · split at missing
        · next error named =>
            cases missing
            unfold nameError? at named
            split at named
            · cases named
            · split at named <;> cases named
        · have below := ih missing
          rwa [List.append_assoc] at below

/-- A path that can be walked leads through a directory. -/
theorem walk_ok {rest : Path} {name : String}
    (reached : disk.walk base (rest ++ [name]) = .ok ()) :
    disk.node? (base ++ rest) = some .directory := by
  induction rest generalizing base with
  | nil =>
      rw [List.nil_append, walk] at reached
      split at reached
      · cases reached
      · cases reached
      · next here => rwa [List.append_nil]
  | cons next rest ih =>
      rw [List.cons_append, walk] at reached
      split at reached
      · cases reached
      · cases reached
      · split at reached
        · cases reached
        · have below := ih reached
          rwa [List.append_assoc] at below

theorem find_ok {found : Option Node} (reached : disk.find path = .ok found) :
    found = disk.node? path ∧ disk.walk [] path = .ok () := by
  unfold find at reached
  split at reached
  · cases reached
  · next walked =>
      cases reached
      exact ⟨rfl, walked⟩

theorem find_notFound (tree : disk.IsTree) (missing : disk.find path = .error .notFound) :
    disk.node? path = none := by
  unfold find at missing
  split at missing
  · next error walked =>
      cases missing
      exact walk_notFound tree walked
  · cases missing

/-- A file that is read is there. -/
theorem read_ok (reads : disk.read path = .ok content) :
    disk.node? path = some (.file content) := by
  unfold read at reads
  split at reads
  · cases reads
  · cases reads
  · cases reads
  · next found =>
      cases reads
      exact (find_ok found).1.symm

/-- A file that is not found is not there. -/
theorem read_notFound (tree : disk.IsTree) (missing : disk.read path = .error .notFound) :
    disk.node? path = none := by
  unfold read at missing
  split at missing
  · next error found =>
      cases missing
      exact find_notFound tree found
  · next found => exact (find_ok found).1.symm
  · cases missing
  · cases missing

theorem probe_ok (tree : disk.IsTree) {present : Bool} (probes : disk.probe path = .ok present) :
    present = (disk.node? path).isSome := by
  unfold probe at probes
  split at probes
  · next found reached =>
      cases probes
      rw [(find_ok reached).1]
  · next missing =>
      cases probes
      rw [find_notFound tree missing]
      rfl
  · cases probes

/-! ## Changing -/

/-- Writing a file changes that file and nothing else. -/
theorem write_ok (writes : disk.write path content = .ok after) :
    (∃ parent name, path = parent ++ [name] ∧ disk.node? parent = some .directory) ∧
      disk.node? path ≠ some .directory ∧
      ∀ other, after.node? other =
        if other = path then some (.file content) else disk.node? other := by
  unfold write at writes
  split at writes
  · cases writes
  · cases writes
  · next found free reached =>
      cases writes
      obtain ⟨rfl, walked⟩ := find_ok reached
      have root : path ≠ [] := by
        rintro rfl
        exact free rfl
      refine ⟨⟨path.dropLast, path.getLast root, (List.dropLast_concat_getLast root).symm, ?_⟩,
        free, ?_⟩
      · rw [← List.dropLast_concat_getLast root] at walked
        exact walk_ok walked
      · intro other
        by_cases same : other = path
        · rw [if_pos same, same, node?_of_ne_root root]
          exact Table.get?_insert_self ..
        · rw [if_neg same]
          cases other with
          | nil => rfl
          | cons name rest =>
              refine (Table.get?_insert ..).trans ?_
              rw [if_neg (Ne.symm same)]
              rfl

/-- Renaming a file moves it and changes nothing else. -/
theorem rename_ok {source target : Path} (renames : disk.rename source target = .ok after) :
    (∃ parent name, target = parent ++ [name] ∧ disk.node? parent = some .directory) ∧
      disk.node? target ≠ some .directory ∧
      ∃ content, disk.node? source = some (.file content) ∧
        ∀ other, after.node? other =
          if other = target then some (.file content)
          else if other = source then none
          else disk.node? other := by
  unfold rename at renames
  split at renames
  · cases renames
  · next content reads =>
      split at renames
      · cases renames
      · cases renames
      · next found free reached =>
          cases renames
          obtain ⟨rfl, walked⟩ := find_ok reached
          have root : target ≠ [] := by
            rintro rfl
            exact free rfl
          refine ⟨⟨target.dropLast, target.getLast root,
            (List.dropLast_concat_getLast root).symm, ?_⟩,
            free, content, read_ok reads, ?_⟩
          · rw [← List.dropLast_concat_getLast root] at walked
            exact walk_ok walked
          · intro other
            by_cases same : other = target
            · rw [if_pos same, same, node?_of_ne_root root]
              exact Table.get?_insert_self ..
            · rw [if_neg same]
              cases other with
              | nil =>
                  have file := read_ok reads
                  rw [if_neg]
                  · rfl
                  · rintro rfl
                    cases file
              | cons name rest =>
                  refine (Table.get?_insert ..).trans ?_
                  rw [if_neg (Ne.symm same), Table.get?_erase]
                  by_cases gone : source = name :: rest
                  · rw [if_pos gone, if_pos gone.symm]
                  · rw [if_neg gone, if_neg (Ne.symm gone)]
                    rfl

/-- Making directories changes nothing that is there, and nothing beyond the path,
whether all can be made or not. -/
theorem makeDirectoriesFrom_within {rest : Path} {made : Except FileError Unit}
    (tree : disk.IsTree) (here : disk.node? base = some .directory)
    (makes : disk.makeDirectoriesFrom base rest = (made, after)) :
    after.IsTree ∧ ∀ other, after.node? other = disk.node? other ∨
      disk.node? other = none ∧ after.node? other = some .directory ∧
        other <+: base ++ rest := by
  induction rest generalizing disk base with
  | nil =>
      cases makes
      exact ⟨tree, fun _ => .inl rfl⟩
  | cons name rest ih =>
      rw [makeDirectoriesFrom] at makes
      split at makes
      · cases makes
        exact ⟨tree, fun _ => .inl rfl⟩
      · dsimp only at makes
        split at makes
        · next directory =>
            have below := ih tree directory makes
            rwa [List.append_assoc] at below
        · cases makes
          exact ⟨tree, fun _ => .inl rfl⟩
        · next absent =>
            have made (other : Path) :
                node? ⟨disk.nodes.insert (base ++ [name]) .directory⟩ other =
                  if other = base ++ [name] then some .directory else disk.node? other := by
              cases other with
              | nil => simp
              | cons first names =>
                  refine (Table.get?_insert ..).trans ?_
                  by_cases same : base ++ [name] = first :: names
                  · rw [if_pos same, if_pos same.symm]
                  · rw [if_neg same, if_neg (Ne.symm same)]
                    rfl
            have treeMade : IsTree ⟨disk.nodes.insert (base ++ [name]) .directory⟩ := by
              intro parent child present
              rw [made] at present ⊢
              split at present
              · next same =>
                  obtain ⟨rfl, -⟩ := List.append_inj' same rfl
                  rw [if_neg (by simp), here]
              · have directory := tree parent child present
                split
                · rfl
                · exact directory
            obtain ⟨treeAfter, changes⟩ := ih treeMade (by rw [made, if_pos rfl]) makes
            refine ⟨treeAfter, ?_⟩
            intro other
            rw [List.append_assoc] at changes
            cases changes other with
            | inl same =>
                rw [made] at same
                split at same
                · next equal =>
                    refine .inr ⟨equal ▸ absent, same, ?_⟩
                    rw [equal]
                    exact ⟨rest, by simp⟩
                · exact .inl same
            | inr fresh =>
                obtain ⟨missing, directory, within⟩ := fresh
                rw [made] at missing
                split at missing
                · cases missing
                · exact .inr ⟨missing, directory, within⟩

/-! ## Trees stay trees -/

/-- A file put into a directory. -/
theorem IsTree.of_put (tree : disk.IsTree) {parent : Path} {name : String}
    (here : disk.node? parent = some .directory)
    (free : disk.node? (parent ++ [name]) ≠ some .directory)
    (put : ∀ other, after.node? other =
      if other = parent ++ [name] then some (.file content) else disk.node? other) :
    after.IsTree := by
  intro above child present
  rw [put] at present ⊢
  split at present
  · next same =>
      obtain ⟨rfl, -⟩ := List.append_inj' same rfl
      rw [if_neg (by simp), here]
  · have directory := tree above child present
    rw [if_neg, directory]
    rintro rfl
    exact free directory

/-- A file moved into a directory. -/
theorem IsTree.of_move (tree : disk.IsTree) {source parent : Path} {name : String}
    (file : disk.node? source = some (.file content))
    (here : disk.node? parent = some .directory)
    (free : disk.node? (parent ++ [name]) ≠ some .directory)
    (put : ∀ other, after.node? other =
      if other = parent ++ [name] then some (.file content)
      else if other = source then none
      else disk.node? other) :
    after.IsTree := by
  have kept {above : Path} (directory : disk.node? above = some .directory) :
      after.node? above = some .directory := by
    have target : above ≠ parent ++ [name] := by
      rintro rfl
      exact free directory
    have moved : above ≠ source := by
      rintro rfl
      rw [directory] at file
      cases file
    rw [put, if_neg target, if_neg moved, directory]
  intro above child present
  rw [put] at present
  split at present
  · next same =>
      obtain ⟨rfl, -⟩ := List.append_inj' same rfl
      exact kept here
  · split at present
    · contradiction
    · exact kept (tree above child present)

end Disk

end Coedit
