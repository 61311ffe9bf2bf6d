import Coedit.Proofs.Disk.Reading

/-!
# Work in a directory

In a directory that is there, every operation on a file with a proper name succeeds, unless
a directory stands in its way.  Each leaves the directory as open as it was and says what
every path leads to afterwards.
-/

namespace Coedit.Disk

variable {disk after : Disk} {directory path : Path} {name : String} {content : Bytes}

/-! ## Removing -/

/-- A file that is removed is gone, and nothing else is. -/
theorem remove_ok (removes : disk.remove path = .ok after) :
    (∃ content, disk.node? path = some (.file content)) ∧
      ∀ other, after.node? other = if other = path then none else disk.node? other := by
  unfold remove at removes
  split at removes
  · cases removes
  · cases removes
  · cases removes
  · next content found =>
      cases removes
      have file := (find_ok found).1.symm
      refine ⟨⟨content, file⟩, ?_⟩
      intro other
      cases other with
      | nil =>
          rw [if_neg]
          · rfl
          · rintro rfl
            cases file
      | cons first names =>
          refine (Table.get?_erase ..).trans ?_
          by_cases same : path = first :: names
          · rw [if_pos same, if_pos same.symm]
          · rw [if_neg same, if_neg (Ne.symm same)]
            rfl

/-- Without one of its files a tree is still a tree. -/
theorem IsTree.of_remove (tree : disk.IsTree) (file : disk.node? path = some (.file content))
    (gone : ∀ other, after.node? other = if other = path then none else disk.node? other) :
    after.IsTree := by
  intro above child present
  rw [gone] at present
  split at present
  · contradiction
  · have directory := tree above child present
    rw [gone, if_neg, directory]
    rintro rfl
    rw [file] at directory
    cases directory

theorem IsNamed.of_remove (named : disk.IsNamed)
    (gone : ∀ other, after.node? other = if other = path then none else disk.node? other) :
    after.IsNamed := by
  intro other present
  rw [gone] at present
  split at present
  · contradiction
  · exact named other present

/-! ## An open directory -/

/-- A directory in which every proper name can be looked up. -/
structure IsOpen (disk : Disk) (directory : Path) : Prop where
  tree : disk.IsTree
  named : disk.IsNamed
  here : disk.node? directory = some .directory

namespace IsOpen

theorem find (isOpen : disk.IsOpen directory) (proper : nameError? name = none) :
    disk.find (directory ++ [name]) = .ok (disk.node? (directory ++ [name])) := by
  have walked := walk_into isOpen.tree isOpen.named isOpen.here name
  rw [proper] at walked
  rw [Disk.find, walked]

theorem read_file (isOpen : disk.IsOpen directory)
    (file : disk.node? (directory ++ [name]) = some (.file content)) :
    disk.read (directory ++ [name]) = .ok content :=
  read_of_file isOpen.tree isOpen.named file

theorem read_missing (isOpen : disk.IsOpen directory) (proper : nameError? name = none)
    (missing : disk.node? (directory ++ [name]) = none) :
    disk.read (directory ++ [name]) = .error .notFound := by
  rw [Disk.read, isOpen.find proper, missing]

/-- A file is written, whether it was there or not. -/
theorem write (isOpen : disk.IsOpen directory) (proper : nameError? name = none)
    (free : disk.node? (directory ++ [name]) ≠ some .directory) (content : Bytes) :
    ∃ after, disk.write (directory ++ [name]) content = .ok after ∧ after.IsOpen directory ∧
      ∀ other, after.node? other =
        if other = directory ++ [name] then some (.file content) else disk.node? other := by
  have succeeds : ∃ after, disk.write (directory ++ [name]) content = .ok after := by
    rw [Disk.write, isOpen.find proper]
    split
    · next stops => cases stops
    · next blocked => exact absurd (Except.ok.inj blocked) free
    · exact ⟨_, rfl⟩
  obtain ⟨after, writes⟩ := succeeds
  obtain ⟨-, -, put⟩ := write_ok writes
  refine ⟨after, writes, ⟨isOpen.tree.of_put isOpen.here free put, isOpen.named.write writes, ?_⟩,
    put⟩
  rw [put, if_neg (by simp), isOpen.here]

/-- A file is there once it has been touched, with what it held. -/
theorem touch (isOpen : disk.IsOpen directory) (proper : nameError? name = none)
    (free : disk.node? (directory ++ [name]) ≠ some .directory) :
    ∃ after content, disk.touch (directory ++ [name]) = .ok after ∧ after.IsOpen directory ∧
      ∀ other, after.node? other =
        if other = directory ++ [name] then some (.file content) else disk.node? other := by
  rw [Disk.touch, isOpen.find proper]
  split
  · next stops => cases stops
  · next blocked => exact absurd (Except.ok.inj blocked) free
  · next content present =>
      refine ⟨disk, content, rfl, isOpen, ?_⟩
      intro other
      split
      · next same => rw [same, Except.ok.inj present]
      · rfl
  · obtain ⟨after, writes, stillOpen, put⟩ := isOpen.write proper free []
    exact ⟨after, [], writes, stillOpen, put⟩

/-- A file is moved to another name. -/
theorem rename {source target : String} (isOpen : disk.IsOpen directory)
    (proper : nameError? target = none)
    (file : disk.node? (directory ++ [source]) = some (.file content))
    (free : disk.node? (directory ++ [target]) ≠ some .directory) :
    ∃ after, disk.rename (directory ++ [source]) (directory ++ [target]) = .ok after ∧
      after.IsOpen directory ∧
      ∀ other, after.node? other =
        if other = directory ++ [target] then some (.file content)
        else if other = directory ++ [source] then none
        else disk.node? other := by
  have succeeds : ∃ after,
      disk.rename (directory ++ [source]) (directory ++ [target]) = .ok after := by
    rw [Disk.rename, isOpen.read_file file]
    dsimp only
    rw [isOpen.find proper]
    split
    · next stops => cases stops
    · next blocked => exact absurd (Except.ok.inj blocked) free
    · exact ⟨_, rfl⟩
  obtain ⟨after, renames⟩ := succeeds
  obtain ⟨-, -, found, moved, put⟩ := rename_ok renames
  obtain rfl : content = found := Node.file.inj (Option.some.inj (file.symm.trans moved))
  refine ⟨after, renames,
    ⟨isOpen.tree.of_move file isOpen.here free put, isOpen.named.rename renames, ?_⟩, put⟩
  rw [put, if_neg (by simp), if_neg (by simp), isOpen.here]

/-- A file is removed. -/
theorem remove (isOpen : disk.IsOpen directory)
    (file : disk.node? (directory ++ [name]) = some (.file content)) :
    ∃ after, disk.remove (directory ++ [name]) = .ok after ∧ after.IsOpen directory ∧
      ∀ other, after.node? other =
        if other = directory ++ [name] then none else disk.node? other := by
  have proper : nameError? name = none :=
    isOpen.named (directory ++ [name]) (by simp [file]) name (by simp)
  have succeeds : ∃ after, disk.remove (directory ++ [name]) = .ok after := by
    rw [Disk.remove, isOpen.find proper, file]
    exact ⟨_, rfl⟩
  obtain ⟨after, removes⟩ := succeeds
  obtain ⟨-, gone⟩ := remove_ok removes
  refine ⟨after, removes, ⟨isOpen.tree.of_remove file gone, isOpen.named.of_remove gone, ?_⟩, gone⟩
  rw [gone, if_neg (by simp), isOpen.here]

end IsOpen

end Coedit.Disk
