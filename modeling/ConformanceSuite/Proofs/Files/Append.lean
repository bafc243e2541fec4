import Mathlib.Data.List.Basic
import Mathlib.Tactic.SplitIfs
import ConformanceSuite.Files.Tree

/-!
# Adding to files

A walk that succeeds still succeeds, and ends at the same place, after a file was put where no
directory stands: `FileTree.walk_of_grown`. So what is added to a file is read behind what was read
before, and a file that was not there is read as what it was created with:
`FileTree.read_of_append`.
-/

namespace ConformanceSuite.FileTree

variable {t t' : FileTree} {path step : String} {place next : List String}
  {content more : List UInt8}

/-- Only what stands at the place itself is replaced, and never the root. -/
theorem nodeAt_put (t : FileTree) (place other : List String) (node : FileNode) :
    (t.put place node).nodeAt other =
      if other ≠ [] ∧ key place = key other then some node else t.nodeAt other := by
  cases other with
  | nil => simp [nodeAt]
  | cons step rest => simp [nodeAt, put, KeyMap.get?_insert]

/-! ### Walks -/

theorem walk_nil (t : FileTree) (place : List String) : t.walk place [] = .ok place := by rw [walk]

/-- What a single step can do. -/
theorem walk_singleton_eq_ok : t.walk place [step] = .ok next ↔
    t.nodeAt place = some .directory ∧
      (step = "." ∧ place = next ∨ step = ".." ∧ place.dropLast = next ∨
        step ≠ "." ∧ step ≠ ".." ∧ step.utf8ByteSize ≤ 255 ∧
          (t.nodeAt (place ++ [step])).isSome ∧ place ++ [step] = next) := by
  rw [walk]
  cases t.nodeAt place with
  | none => simp
  | some node =>
    cases node with
    | file content => simp
    | directory =>
      dsimp only
      split_ifs with hdot hup hlong habsent
      · subst hdot
        simp [walk_nil]
      · subst hup
        simp [walk_nil]
      · simp [hdot, hup, Nat.not_le.2 hlong]
      · simp [hdot, hup, Option.isNone_iff_eq_none.1 habsent]
      · have hthere : (t.nodeAt (place ++ [step])).isSome = true := by
          rwa [← Option.not_isNone, Bool.not_eq_true', Bool.eq_false_iff]
        simp [walk_nil, hdot, hup, Nat.not_lt.1 hlong, hthere]

/-- In a directory only a name that is not there leads nowhere. -/
theorem walk_singleton_notFound (hplace : t.nodeAt place = some .directory)
    (h : t.walk place [step] = .error .notFound) :
    step ≠ "." ∧ step ≠ ".." ∧ step.utf8ByteSize ≤ 255 ∧ t.nodeAt (place ++ [step]) = none := by
  rw [walk, hplace] at h
  dsimp only at h
  rw [walk_nil, walk_nil, walk_nil] at h
  split_ifs at h with hdot hup hlong habsent
  · simp at h
  · exact ⟨hdot, hup, Nat.not_lt.1 hlong, Option.isNone_iff_eq_none.1 habsent⟩

theorem walk_append (t : FileTree) (place front back : List String) :
    t.walk place (front ++ back) = (t.walk place front).bind (t.walk · back) := by
  induction front generalizing place with
  | nil => rfl
  | cons step rest ih =>
    rw [List.cons_append, walk, walk]
    cases t.nodeAt place with
    | none => rfl
    | some node =>
      cases node with
      | file content => rfl
      | directory =>
        dsimp only
        split_ifs
        · exact ih place
        · exact ih place.dropLast
        · rfl
        · rfl
        · exact ih (place ++ [step])

theorem walk_append_eq_ok {front back : List String} :
    t.walk place (front ++ back) = .ok next ↔
      ∃ middle, t.walk place front = .ok middle ∧ t.walk middle back = .ok next := by
  rw [walk_append]
  cases t.walk place front <;> simp [Except.bind]

/-! ### Growth -/

/-- A tree has grown if every directory is still one, and nothing is gone. -/
structure Grown (t t' : FileTree) : Prop where
  workingDirectory : t'.workingDirectory = t.workingDirectory
  directories : ∀ {place}, t.nodeAt place = some .directory → t'.nodeAt place = some .directory
  present : ∀ {place}, (t.nodeAt place).isSome → (t'.nodeAt place).isSome

/-- A tree grows by a file that is put where no directory stands. -/
theorem grown_put (h : t.nodeAt place ≠ some .directory) (content : List UInt8) :
    Grown t (t.put place (.file content)) where
  workingDirectory := rfl
  directories {other} hother := by
    rw [nodeAt_put, if_neg, hother]
    rintro ⟨hne, hkey⟩
    -- places with one key show the same node
    have hsame : t.nodeAt place = t.nodeAt other := by
      cases place with
      | nil => exact absurd rfl h
      | cons step rest => simp [nodeAt, hkey, hne]
    exact h (hsame.trans hother)
  present {other} hother := by
    rw [nodeAt_put]
    split
    · rfl
    · exact hother

theorem walk_of_grown (hgrown : Grown t t') {steps : List String}
    (h : t.walk place steps = .ok next) : t'.walk place steps = .ok next := by
  induction steps generalizing place with
  | nil => exact h
  | cons step rest ih =>
    rw [← List.singleton_append] at h ⊢
    obtain ⟨middle, hstep, hrest⟩ := walk_append_eq_ok.1 h
    refine walk_append_eq_ok.2 ⟨middle, ?_, ih hrest⟩
    obtain ⟨hplace, hcases⟩ := walk_singleton_eq_ok.1 hstep
    refine walk_singleton_eq_ok.2 ⟨hgrown.directories hplace, ?_⟩
    obtain hdot | hup | ⟨hdot, hup, hshort, hthere, hnext⟩ := hcases
    · exact .inl hdot
    · exact .inr (.inl hup)
    · exact .inr (.inr ⟨hdot, hup, hshort, hgrown.present hthere, hnext⟩)

theorem locate_of_grown (hgrown : Grown t t') (h : t.locate path = .ok place) :
    t'.locate path = .ok place := by
  have hstart : t'.start path = t.start path := by rw [start, start, hgrown.workingDirectory]
  rw [locate] at h ⊢
  cases hfault : pathFault? path with
  | some e => simp [hfault] at h
  | none =>
    rw [hfault] at h
    rw [hstart]
    exact walk_of_grown hgrown h

/-! ### Reading what was added -/

theorem ne_nil_of_file (h : t.nodeAt place = some (.file content)) : place ≠ [] := by
  rintro rfl
  simp [nodeAt] at h

theorem read_of_locate (hplace : t.locate path = .ok place)
    (hfile : t.nodeAt place = some (.file content)) : t.read path = .ok content := by
  rw [read, hplace]
  simp only [hfile]

/-- A file is read as what was put at its place. -/
theorem read_put (hne : place ≠ []) (h : (t.put place (.file content)).locate path = .ok place) :
    (t.put place (.file content)).read path = .ok content :=
  read_of_locate h (by rw [nodeAt_put, if_pos ⟨hne, rfl⟩])

/-- A path that leads nowhere, though its last step starts in a directory, leads to that step's
place as soon as something is there. -/
theorem locate_created {directory : List String} {name : String}
    (hlocate : t.locate path = .error .notFound) (hfault : pathFault? path = none)
    (hname : (Path.steps path).getLast? = some name)
    (hwalk : t.walk (t.start path) ((Path.steps path).dropLast ++ ["."]) = .ok directory)
    (hends : Path.namesDirectory path = false) :
    t.nodeAt (directory ++ [name]) = none ∧
      ∀ {t'}, Grown t t' → (t'.nodeAt (directory ++ [name])).isSome →
        t'.locate path = .ok (directory ++ [name]) := by
  have hsteps : stepsOf path = (Path.steps path).dropLast ++ [name] := by
    rw [stepsOf, hends, if_neg Bool.false_ne_true, List.append_nil,
      List.dropLast_append_getLast? name hname]
  obtain ⟨middle, hfront, hdot⟩ := walk_append_eq_ok.1 hwalk
  obtain ⟨hdirectory, hsame⟩ : t.nodeAt middle = some .directory ∧ middle = directory := by
    simpa using walk_singleton_eq_ok.1 hdot
  subst hsame
  have hlast : t.walk middle [name] = .error .notFound := by
    rw [locate, hfault] at hlocate
    dsimp only at hlocate
    rwa [hsteps, walk_append, hfront] at hlocate
  obtain ⟨hdot, hup, hshort, habsent⟩ := walk_singleton_notFound hdirectory hlast
  refine ⟨habsent, fun {t'} hgrown hthere => ?_⟩
  have hstart : t'.start path = t.start path := by rw [start, start, hgrown.workingDirectory]
  rw [locate, hfault]
  dsimp only
  rw [hstart, hsteps]
  exact walk_append_eq_ok.2 ⟨middle, walk_of_grown hgrown hfront, walk_singleton_eq_ok.2
    ⟨hgrown.directories hdirectory, .inr (.inr ⟨hdot, hup, hshort, hthere, rfl⟩)⟩⟩

/-- Whatever can be read can be added to. -/
theorem exists_append_of_read (h : t.read path = .ok content) (more : List UInt8) :
    ∃ t', t.append path more = .ok t' := by
  rw [read] at h
  split at h
  case h_1 => simp at h
  case h_2 place hplace =>
    split at h
    case h_1 found hfound =>
      refine ⟨t.put place (.file (found ++ more)), ?_⟩
      rw [append, hplace]
      simp only [hfound]
    case h_2 => simp at h

/-- A file is created with what is added to it. -/
theorem read_of_append_created (hlocate : t.locate path = .error .notFound)
    (h : t.append path more = .ok t') : t'.read path = .ok more := by
  rw [append, hlocate] at h
  simp only at h
  split at h
  case h_1 name hfault hname =>
    split at h
    case h_1 => simp at h
    case h_2 directory hwalk =>
      cases hends : Path.namesDirectory path with
      | true => simp [hends] at h
      | false =>
        obtain ⟨habsent, hfound⟩ := locate_created hlocate hfault hname hwalk hends
        have hne : directory ++ [name] ≠ [] := by simp
        rw [hends, if_neg Bool.false_ne_true] at h
        obtain rfl := Except.ok.inj h
        refine read_put hne (hfound (grown_put (by simp [habsent]) more) ?_)
        rw [nodeAt_put, if_pos ⟨hne, rfl⟩]
        rfl
  case h_2 => simp at h

/-- What is added to a file is read behind what was read before. A file that was not there is read
as what it was created with. -/
theorem read_of_append (h : t.append path more = .ok t') :
    t'.read path = .ok ((t.read path).toOption.getD [] ++ more) := by
  cases hlocate : t.locate path with
  | ok place =>
    rw [append, hlocate] at h
    dsimp only at h
    split at h
    case h_1 old hfile =>
      obtain rfl := Except.ok.inj h
      have hgrown : Grown t (t.put place (.file (old ++ more))) :=
        grown_put (by simp [hfile]) (old ++ more)
      rw [read_put (ne_nil_of_file hfile) (locate_of_grown hgrown hlocate),
        read_of_locate hlocate hfile]
      rfl
    case h_2 => simp at h
  | error e =>
    have hnothing : t.read path = .error e := by rw [read, hlocate]
    cases e with
    | notFound =>
      rw [read_of_append_created hlocate h, hnothing]
      rfl
    | notDirectory | isDirectory | nameTooLong | nulInName => simp [append, hlocate] at h

end ConformanceSuite.FileTree
