import ObjectModel.Cli.FileTree

/-!
# Files that are replaced

A file that is written under another name and then renamed has the content that was written
(`FileTree.read_replaced`).  Paths lead through directories only, and neither writing nor renaming a
file changes which places are directories, so a path leads where it led before
(`FileTree.Retains.resolve`).  The two names have to differ, since the file with the first name is
gone in the end.
-/

namespace ObjectModel.Cli

/-! ## Paths -/

/-- A name in a directory. -/
structure IsName (name : String) : Prop where
  whole : '/' ∉ name.toList
  leads : name ≠ "" ∧ name ≠ "." ∧ name ≠ ".."

theorem pathParts_joinPath (path : String) {name : String} (isName : IsName name) :
    ∃ parents, pathParts (joinPath path name) = parents ++ [name] := by
  have single : name.toList.splitOn '/' = [name.toList] :=
    List.splitOn_eq_singleton isName.whole
  -- behind a slash the name is the last part
  have behind : ∀ (before : List Char) (whole : String),
      whole.toList = before ++ '/' :: name.toList →
      pathParts whole = (before.splitOn '/').map String.ofList ++ [name] := by
    intro before whole parted
    rw [pathParts, parted, List.splitOn_append_cons_self, single]
    simp
  unfold joinPath
  split
  · exact ⟨[], by simp [pathParts, single]⟩
  · split
    · next slash =>
      obtain ⟨before, ends⟩ := List.getLast?_eq_some_iff.1 slash
      exact ⟨_, behind before _ (by simp [ends])⟩
    · exact ⟨_, behind path.toList _ (by simp)⟩

namespace FileTree

variable {t t' : FileTree} {path : String} {place : FilePlace} {content : ByteArray}

/-- A name at the end of a path is the last on the way to the place that the path leads to. -/
theorem follow_name {parents : List String} {name : String} (isName : IsName name)
    {start : FilePlace} (led : t.follow start (parents ++ [name]) = .ok place) :
    ∃ parent, place = parent ++ [name] := by
  obtain ⟨-, nonempty, noDot, noDots⟩ := isName
  induction parents generalizing start with
  | nil =>
    simp only [List.nil_append, follow, nonempty, noDot, noDots, or_self, if_false] at led
    split at led
    · cases led
    · split at led
      · cases led
      · split at led
        · cases led
        · cases led
          exact ⟨start, rfl⟩
  | cons part parents ih =>
    rw [List.cons_append, follow] at led
    split at led
    · cases led
    · split at led
      · cases led
      · split at led
        · exact ih led
        · split at led
          · exact ih led
          · split at led
            · cases led
            · exact ih led

theorem resolve_joinPath {name : String} (isName : IsName name)
    (led : t.resolve (joinPath path name) = .ok place) : ∃ parent, place = parent ++ [name] := by
  obtain ⟨parents, parts⟩ := pathParts_joinPath path isName
  rw [resolve, locate, parts] at led
  split at led
  · cases led
  · split at led
    · cases led
    · exact follow_name isName led

/-! ## Where paths lead -/

/-- The directories of a tree are those of another, and none of them has become a file. -/
structure Retains (t t' : FileTree) : Prop where
  workingDirectory : t'.workingDirectory = t.workingDirectory
  directories : ∀ place, t'.isDirectory place = t.isDirectory place
  files : ∀ place, t.isDirectory place = true → t'.isFile place = t.isFile place

theorem Retains.follow (retains : t.Retains t') {start : FilePlace} {names : List String}
    (led : t.follow start names = .ok place) : t'.follow start names = .ok place := by
  induction names generalizing start with
  | nil => exact led
  | cons name rest ih =>
    rw [FileTree.follow] at led ⊢
    split at led
    · cases led
    · next noFile =>
      split at led
      · cases led
      · next directory =>
        rw [Bool.not_eq_eq_eq_not, Bool.not_true, Bool.not_eq_false] at directory
        rw [retains.files start directory, retains.directories, if_neg noFile, directory]
        rw [Bool.not_true, if_neg Bool.false_ne_true]
        split at led
        · next here => rw [if_pos here, ih led]
        · next there =>
          rw [if_neg there]
          split at led
          · next up => rw [if_pos up, ih led]
          · next down =>
            rw [if_neg down]
            split at led
            · cases led
            · next short => rw [if_neg short, ih led]

theorem Retains.resolve (retains : t.Retains t') (led : t.resolve path = .ok place) :
    t'.resolve path = .ok place := by
  rw [FileTree.resolve, locate] at led ⊢
  rw [retains.workingDirectory]
  split at led
  · cases led
  · next nonempty =>
    rw [if_neg nonempty]
    split at led
    · cases led
    · next short => rw [if_neg short, retains.follow led]

/-! ## Writing and renaming -/

theorem except_bind_inv {ε α β : Type} {x : Except ε α} {f : α → Except ε β} {b : β}
    (ends : x >>= f = .ok b) : ∃ a, x = .ok a ∧ f a = .ok b := by
  cases x with
  | error e => cases ends
  | ok a => exact ⟨a, rfl, ends⟩

theorem write_inv (written : t.write path content = .ok t') :
    ∃ place, t.resolve path = .ok place ∧ t.isDirectory place = false ∧
      t' = { t with files := (place, content) :: t.files.filter (·.1 != place) } := by
  obtain ⟨place, led, written⟩ := except_bind_inv written
  split at written
  · cases written
  · next noDirectory =>
    cases written
    exact ⟨place, led, Bool.eq_false_iff.2 noDirectory, rfl⟩

theorem rename_inv {source target : String} (renamed : t.rename source target = .ok t') :
    ∃ content place t₁, t.read source = .ok content ∧ t.resolve source = .ok place ∧
      t.write target content = .ok t₁ ∧
      t' = { t₁ with files := t₁.files.filter (·.1 != place) } := by
  obtain ⟨content, read, renamed⟩ := except_bind_inv renamed
  obtain ⟨place, led, renamed⟩ := except_bind_inv renamed
  obtain ⟨t₁, written, ⟨⟩⟩ := except_bind_inv renamed
  exact ⟨content, place, t₁, read, led, written, rfl⟩

theorem read_of_resolve (led : t.resolve path = .ok place)
    (holds : t.files.lookup place = some content) : t.read path = .ok content := by
  unfold read
  rw [led]
  dsimp only [bind, Except.bind]
  rw [holds]

theorem lookup_filter {files : List (FilePlace × ByteArray)} {other : FilePlace}
    (different : other ≠ place) :
    (files.filter (·.1 != place)).lookup other = files.lookup other := by
  induction files with
  | nil => rfl
  | cons file files ih =>
    obtain ⟨name, bytes⟩ := file
    by_cases removed : name = place
    · have passed : (other == name) = false := by simpa [removed] using different
      rw [List.lookup_cons, passed]
      simpa [removed] using ih
    · simp [removed, List.lookup_cons, ih]

theorem retains_of_files {files : List (FilePlace × ByteArray)}
    (same : ∀ other, t.isDirectory other = true → files.lookup other = t.files.lookup other) :
    t.Retains { t with files } where
  workingDirectory := rfl
  directories _ := rfl
  files other directory := congrArg Option.isSome (same other directory)

theorem ne_of_isDirectory {other : FilePlace} (noDirectory : t.isDirectory place = false)
    (directory : t.isDirectory other = true) : other ≠ place := by
  rintro rfl
  rw [noDirectory] at directory
  cases directory

theorem retains_write (written : t.write path content = .ok t') : t.Retains t' := by
  obtain ⟨place, -, noDirectory, rfl⟩ := write_inv written
  refine retains_of_files fun other directory => ?_
  have different := ne_of_isDirectory noDirectory directory
  rw [List.lookup_cons, beq_false_of_ne different]
  exact lookup_filter different

theorem read_write (written : t.write path content = .ok t') : t'.read path = .ok content := by
  have retains := retains_write written
  obtain ⟨place, led, -, rfl⟩ := write_inv written
  exact read_of_resolve (retains.resolve led) List.lookup_cons_self

/-- A file that is written under one name and renamed to another has its content there. -/
theorem read_replaced {directory name name' : String} {t₁ t₂ : FileTree} (isName : IsName name)
    (isName' : IsName name') (different : name ≠ name')
    (written : t.write (joinPath directory name) content = .ok t₁)
    (renamed : t₁.rename (joinPath directory name) (joinPath directory name') = .ok t₂) :
    t₂.read (joinPath directory name') = .ok content := by
  have read := read_write written
  have retains := retains_write written
  obtain ⟨place, led, noDirectory, same⟩ := write_inv written
  rw [← retains.directories] at noDirectory
  obtain ⟨content', source, t', read', led', rewritten, rfl⟩ := rename_inv renamed
  obtain rfl : source = place := by
    rw [retains.resolve led] at led'
    cases led'
    rfl
  obtain rfl : content' = content := by
    rw [read] at read'
    cases read'
    rfl
  obtain ⟨target, ledTarget, noTarget, rfl⟩ := write_inv rewritten
  -- the places end in the two names
  have apart : target ≠ source := by
    obtain ⟨parent, rfl⟩ := resolve_joinPath isName led
    obtain ⟨parent', rfl⟩ := resolve_joinPath isName' ledTarget
    intro same
    exact different (List.append_inj_right' same rfl |> List.singleton_inj.1).symm
  have holds : (((target, content') :: t₁.files.filter (·.1 != target)).filter
      (·.1 != source)).lookup target = some content' := by
    rw [lookup_filter apart, List.lookup_cons_self]
  have retains' : t₁.Retains { t₁ with files :=
      ((target, content') :: t₁.files.filter (·.1 != target)).filter (·.1 != source) } := by
    refine retains_of_files fun other directory => ?_
    have different := ne_of_isDirectory noTarget directory
    rw [lookup_filter (ne_of_isDirectory noDirectory directory), List.lookup_cons,
      beq_false_of_ne different]
    exact lookup_filter different
  exact read_of_resolve (retains'.resolve ledTarget) holds

end FileTree

end ObjectModel.Cli
