import Coedit.Proofs.Disk.Tree

/-!
# Finding files

On a tree whose names are all proper, whatever is somewhere can be read there.  While
directories are made on the way to a file that is missing, the file is missing as before,
unless its path turns out to have an improper name.
-/

namespace Coedit.Disk

variable {disk after last : Disk} {path base : Path} {content : Bytes} {name : String}

theorem nameError?_eq_none :
    nameError? name = none ↔ '\x00' ∉ name.toList ∧ name.utf8ByteSize ≤ maxName := by
  unfold nameError?
  split
  · next null => simp_all
  · next plain =>
      split
      · next long => simp; omega
      · next short => simp_all

theorem nameError?_of_long (plain : '\x00' ∉ name.toList) (long : maxName < name.utf8ByteSize) :
    nameError? name = some .nameTooLong := by
  have clean : name.toList.contains '\x00' = false := by simpa using plain
  rw [nameError?, clean, if_neg Bool.false_ne_true, if_pos long]

/-- An improper name is not a missing one. -/
theorem nameError?_ne_notFound : nameError? name ≠ some .notFound := by
  unfold nameError?
  split
  · simp
  · split <;> simp

/-! ## Proper names -/

/-- Whatever is somewhere has a proper name at every step on the way to it. -/
def IsNamed (disk : Disk) : Prop :=
  ∀ path, disk.node? path ≠ none → ∀ name ∈ path, nameError? name = none

theorem isNamed_empty : empty.IsNamed := by
  intro path present name mem
  rw [node?_of_ne_root (List.ne_nil_of_mem mem)] at present
  exact absurd (Table.get?_empty _) present

/-- A path that can be walked has proper names. -/
theorem names_of_walk {rest : Path} (reached : disk.walk base rest = .ok ()) :
    ∀ name ∈ rest, nameError? name = none := by
  induction rest generalizing base with
  | nil => simp
  | cons next rest ih =>
      rw [walk] at reached
      split at reached
      · cases reached
      · cases reached
      · split at reached
        · cases reached
        · next proper =>
            intro name mem
            cases mem with
            | head => exact proper
            | tail _ later => exact ih reached name later

/-- A file that is written has a proper name. -/
theorem IsNamed.write (named : disk.IsNamed) (writes : disk.write path content = .ok after) :
    after.IsNamed := by
  obtain ⟨-, -, put⟩ := write_ok writes
  intro other present
  rw [put] at present
  split at present
  · next same =>
      unfold Disk.write at writes
      split at writes
      · cases writes
      · cases writes
      · next found free reached =>
          rw [same]
          exact names_of_walk (find_ok reached).2
  · exact named other present

/-- A file that is moved is moved to a proper name. -/
theorem IsNamed.rename (named : disk.IsNamed) {source target : Path}
    (renames : disk.rename source target = .ok after) : after.IsNamed := by
  obtain ⟨-, -, content, -, put⟩ := rename_ok renames
  intro other present
  rw [put] at present
  split at present
  · next same =>
      unfold Disk.rename at renames
      split at renames
      · cases renames
      · split at renames
        · cases renames
        · cases renames
        · next reached =>
            rw [same]
            exact names_of_walk (find_ok reached).2
  · split at present
    · contradiction
    · exact named other present

/-- Directories that are made have proper names. -/
theorem IsNamed.makeDirectoriesFrom (named : disk.IsNamed) {rest : Path}
    {made : Except FileError Unit} (proper : ∀ name ∈ base, nameError? name = none)
    (makes : disk.makeDirectoriesFrom base rest = (made, after)) : after.IsNamed := by
  induction rest generalizing disk base with
  | nil =>
      cases makes
      exact named
  | cons name rest ih =>
      rw [Disk.makeDirectoriesFrom] at makes
      split at makes
      · cases makes
        exact named
      · next properName =>
          have here : ∀ other ∈ base ++ [name], nameError? other = none := by
            intro other mem
            rcases List.mem_append.mp mem with above | last
            · exact proper other above
            · rw [List.mem_singleton.mp last]
              exact properName
          dsimp only at makes
          split at makes
          · exact ih named here makes
          · cases makes
            exact named
          · refine ih ?_ here makes
            intro other present
            by_cases same : other = base ++ [name]
            · rw [same]
              exact here
            · refine named other ?_
              cases other with
              | nil => simp
              | cons first names =>
                  rw [node?_of_ne_root (List.cons_ne_nil _ _)] at present ⊢
                  rwa [Table.get?_insert, if_neg (Ne.symm same)] at present

/-- Above whatever is somewhere there are directories. -/
theorem IsTree.above (tree : disk.IsTree) {rest : Path}
    (present : disk.node? (base ++ name :: rest) ≠ none) : disk.node? base = some .directory := by
  refine tree base name ?_
  intro missing
  have nothing := tree.node?_append missing rest
  rw [List.append_assoc] at nothing
  exact present nothing

theorem walk_of_present (tree : disk.IsTree) (named : disk.IsNamed) {rest : Path}
    (present : disk.node? (base ++ rest) ≠ none) : disk.walk base rest = .ok () := by
  induction rest generalizing base with
  | nil => rfl
  | cons name rest ih =>
      have proper := named _ present name (by simp)
      rw [walk, tree.above present]
      dsimp only
      rw [proper]
      refine ih ?_
      rwa [List.append_assoc]

/-- In a directory every proper name can be looked up, and no other. -/
theorem walk_into (tree : disk.IsTree) (named : disk.IsNamed)
    (directory : disk.node? path = some .directory) (name : String) :
    disk.walk [] (path ++ [name]) = match nameError? name with
      | some error => .error error
      | none => .ok () := by
  have step {rest : Path} (above : Path) (reached : disk.walk above rest = .ok ())
      (here : disk.node? (above ++ rest) = some .directory) :
      disk.walk above (rest ++ [name]) = match nameError? name with
        | some error => .error error
        | none => .ok () := by
    induction rest generalizing above with
    | nil =>
        rw [List.append_nil] at here
        rw [List.nil_append, walk, here]
        rfl
    | cons next rest ih =>
        have present : disk.node? (above ++ next :: rest) ≠ none := by
          rw [here]
          simp
        have proper := named _ present next (by simp)
        rw [walk, tree.above present] at reached
        rw [List.cons_append, walk, tree.above present]
        dsimp only at reached ⊢
        rw [proper] at reached ⊢
        refine ih _ reached ?_
        rwa [List.append_assoc]
  refine step [] (walk_of_present tree named ?_) directory
  rw [List.nil_append, directory]
  simp

/-- A file that is there can be read. -/
theorem read_of_file (tree : disk.IsTree) (named : disk.IsNamed)
    (file : disk.node? path = some (.file content)) : disk.read path = .ok content := by
  have reached : disk.walk [] path = .ok () := by
    refine walk_of_present tree named ?_
    rw [List.nil_append, file]
    simp
  rw [read, find, reached, file]

/-- A file that is there is seen. -/
theorem probe_of_present (tree : disk.IsTree) (named : disk.IsNamed)
    (present : disk.node? path ≠ none) : disk.probe path = .ok true := by
  have reached : disk.walk [] path = .ok () := walk_of_present tree named present
  rw [probe, find, reached]
  exact congrArg Except.ok (Option.isSome_iff_ne_none.mpr present)

/-! ## Directories on the way -/

/-- Down to a depth nothing has changed, except that directories have been made. -/
def Opens (depth : Nat) (disk after : Disk) : Prop :=
  ∀ stem, stem.length < depth → after.node? stem = disk.node? stem ∨
    disk.node? stem = none ∧ after.node? stem = some .directory

variable {depth : Nat}

theorem Opens.refl (depth : Nat) (disk : Disk) : Opens depth disk disk := fun _ _ => .inl rfl

theorem Opens.trans (opens : Opens depth disk after) (next : Opens depth after last) :
    Opens depth disk last := by
  intro stem short
  rcases next stem short with same | ⟨missing, made⟩
  · rw [same]
    exact opens stem short
  · rcases opens stem short with same | ⟨-, directory⟩
    · exact .inr ⟨same ▸ missing, made⟩
    · rw [directory] at missing
      cases missing

/-- What a walk meets that meets no file. -/
theorem walk_clear {rest : Path} (within : base.length + rest.length ≤ depth)
    (clear : ∀ stem content, base <+: stem → stem.length < depth →
      disk.node? stem ≠ some (.file content)) :
    disk.walk base rest = .ok () ∨ disk.walk base rest = .error .notFound ∨
      ∃ name ∈ rest, ∃ error, nameError? name = some error ∧
        disk.walk base rest = .error error := by
  induction rest generalizing base with
  | nil => exact .inl rfl
  | cons name rest ih =>
      rw [List.length_cons] at within
      rw [walk]
      split
      · exact .inr (.inl rfl)
      · next file => exact absurd file (clear base _ List.prefix_rfl (by omega))
      · split
        · next error improper => exact .inr (.inr ⟨name, List.mem_cons_self .., error, improper, rfl⟩)
        · have deeper : (base ++ [name]).length + rest.length ≤ depth := by
            rw [List.length_append, List.length_singleton]
            omega
          have below := ih deeper fun stem content above =>
            clear stem content ((List.prefix_append base [name]).trans above)
          rcases below with reached | missing | ⟨other, mem, error, improper, ends⟩
          · exact .inl reached
          · exact .inr (.inl missing)
          · exact .inr (.inr ⟨other, List.mem_cons_of_mem _ mem, error, improper, ends⟩)

/-- A walk ends as before the directories were made, or gets beyond where it ended. -/
theorem Opens.walk (opens : Opens depth disk after) (tree : disk.IsTree) {rest : Path}
    (within : base.length + rest.length ≤ depth) :
    after.walk base rest = disk.walk base rest ∨
      disk.walk base rest = .error .notFound ∧ (after.walk base rest = .ok () ∨
        ∃ name ∈ rest, ∃ error, nameError? name = some error ∧
          after.walk base rest = .error error) := by
  induction rest generalizing base with
  | nil => exact .inl rfl
  | cons name rest ih =>
      have shorter := within
      rw [List.length_cons] at shorter
      have kept {node : Node} (found : disk.node? base = some node) :
          after.node? base = some node := by
        rcases opens base (by omega) with same | ⟨missing, -⟩
        · rw [same, found]
        · rw [missing] at found
          cases found
      cases found : disk.node? base with
      | none =>
          have ends : disk.walk base (name :: rest) = .error .notFound := by
            rw [Disk.walk, found]
          have clear (stem : Path) (content : Bytes) (above : base <+: stem)
              (short : stem.length < depth) : after.node? stem ≠ some (.file content) := by
            obtain ⟨more, rfl⟩ := above
            have missing := tree.node?_append found more
            rcases opens _ short with same | ⟨-, directory⟩
            · rw [same, missing]
              simp
            · rw [directory]
              simp
          rcases walk_clear within clear with reached | missing | improper
          · exact .inr ⟨ends, .inl reached⟩
          · exact .inl (missing.trans ends.symm)
          · exact .inr ⟨ends, .inr improper⟩
      | some node =>
          cases node with
          | file content =>
              rw [Disk.walk, Disk.walk, found, kept found]
              exact .inl rfl
          | directory =>
              rw [Disk.walk, Disk.walk, found, kept found]
              dsimp only
              split
              · exact .inl rfl
              · have deeper : (base ++ [name]).length + rest.length ≤ depth := by
                  rw [List.length_append, List.length_singleton]
                  omega
                rcases ih deeper with same | ⟨ends, beyond⟩
                · exact .inl same
                · refine .inr ⟨ends, beyond.imp_right ?_⟩
                  rintro ⟨other, mem, error, improper, stops⟩
                  exact ⟨other, List.mem_cons_of_mem _ mem, error, improper, stops⟩

/-- What is read where nothing is. -/
theorem read_of_missing (missing : disk.node? path = none) :
    disk.read path = match disk.walk [] path with
      | .ok () => .error .notFound
      | .error error => .error error := by
  rw [read, find]
  cases disk.walk [] path with
  | ok _ => simp only [missing]
  | error _ => rfl

/-- A missing file stays missing while directories are made, or has an improper name. -/
theorem Opens.read (opens : Opens depth disk after) (tree : disk.IsTree)
    (within : path.length ≤ depth) (missing : disk.node? path = none)
    (still : after.node? path = none) :
    after.read path = disk.read path ∨
      disk.read path = .error .notFound ∧ ∃ name ∈ path, ∃ error,
        nameError? name = some error ∧ after.read path = .error error := by
  have whole : ([] : Path).length + path.length ≤ depth := by
    rw [List.length_nil]
    omega
  have walks := opens.walk tree whole
  rw [read_of_missing missing, read_of_missing still]
  rcases walks with same | ⟨ends, reached | ⟨name, mem, error, improper, stops⟩⟩
  · exact .inl (by rw [same])
  · exact .inl (by rw [ends, reached])
  · exact .inr ⟨by rw [ends], name, mem, error, improper, by rw [stops]⟩

end Coedit.Disk
