import SceneScript.Proofs.Disk.Tree

/-! # Disks that grow

Making directories and new files adds to a disk. What stood there stays, and every path that led
somewhere leads there still.

* `Disk.Keeps` — nothing is lost or changed;
* `Disk.Grows` — a tree that keeps another one, with new places of one kind only;
* `Disk.OnWay` — the places that a path names on its way;
* `Disk.grows_buildDirectories` — the directories that are made lie on the way of their path, also
  where not all of them can be made;
* `Disk.isDirectory_buildDirectories`, `Disk.buildDirectories_of_isDirectory` — what is made once
  need not be made again.
-/

namespace SceneScript.Disk

variable {disk between later : Disk} {path : Path} {place : Place}

/-! ## What stays -/

structure Keeps (disk later : Disk) : Prop where
  workingDirectory : later.workingDirectory = disk.workingDirectory
  node : ∀ place node, disk.node? place = some node → later.node? place = some node

namespace Keeps

theorem refl (disk : Disk) : disk.Keeps disk := ⟨rfl, fun _ _ found => found⟩

theorem trans (first : disk.Keeps between) (second : between.Keeps later) : disk.Keeps later :=
  ⟨second.workingDirectory.trans first.workingDirectory,
    fun place node found => second.node place node (first.node place node found)⟩

theorem followFrom (keeps : disk.Keeps later) {place there : Place} {names : List Text}
    (follows : disk.followFrom place names = .ok there) :
    later.followFrom place names = .ok there := by
  induction names generalizing place with
  | nil => exact follows
  | cons name rest ih =>
    obtain ⟨isDirectory, short⟩ := of_followFrom_cons follows
    rw [followFrom_cons isDirectory short] at follows
    rw [followFrom_cons (keeps.node _ _ isDirectory) short]
    exact ih follows

theorem follow (keeps : disk.Keeps later) (follows : disk.follow path = .ok place) :
    later.follow path = .ok place := by
  have sameStart : later.start path = disk.start path := by simp [start, keeps.workingDirectory]
  unfold Disk.follow at follows ⊢
  split at follows
  · cases follows
  next noNull =>
    split at follows
    · cases follows
    next short =>
      rw [if_neg noNull, if_neg short, sameStart]
      exact keeps.followFrom follows

theorem find? {node : Node} (keeps : disk.Keeps later)
    (found : disk.find? path = some (place, node)) : later.find? path = some (place, node) := by
  obtain ⟨follows, there⟩ := find?_eq_some_iff.mp found
  exact find?_eq_some_iff.mpr ⟨keeps.follow follows, keeps.node _ _ there⟩

end Keeps

theorem Keeps.isDirectory (keeps : disk.Keeps later) (directory : disk.isDirectory path = true) :
    later.isDirectory path = true := by
  obtain ⟨place, found⟩ := isDirectory_iff.mp directory
  exact isDirectory_iff.mpr ⟨place, keeps.find? found⟩

/-! ## What is new -/

/-- A tree that keeps a disk, and has new nodes only at allowed places. -/
structure Grows (disk : Disk) (allowed : Place → Prop) (later : Disk) : Prop
    extends Keeps disk later where
  tree : later.IsTree
  fresh : ∀ place node, disk.node? place = none → later.node? place = some node → allowed place

namespace Grows

variable {allowed wider : Place → Prop}

theorem refl (tree : disk.IsTree) (allowed : Place → Prop) : disk.Grows allowed disk :=
  ⟨Keeps.refl disk, tree, fun place node absent found => by
    rw [absent] at found
    cases found⟩

theorem trans (first : disk.Grows allowed between) (second : between.Grows allowed later) :
    disk.Grows allowed later := by
  refine ⟨first.toKeeps.trans second.toKeeps, second.tree, fun place node absent found => ?_⟩
  cases meanwhile : between.node? place with
  | none => exact second.fresh place node meanwhile found
  | some other => exact first.fresh place other absent meanwhile

theorem mono (grows : disk.Grows allowed later) (wide : ∀ place, allowed place → wider place) :
    disk.Grows wider later :=
  ⟨grows.toKeeps, grows.tree, fun place node absent found =>
    wide place (grows.fresh place node absent found)⟩

end Grows

/-- The places of the directories above a path, and its own, where they are called by a name. -/
def OnWay (workingDirectory : Place) (path : Path) (place : Place) : Prop :=
  ∃ front name after, path.names = front ++ name :: after ∧ name ≠ Path.parentName ∧
    place = (Path.absolute workingDirectory ⟨path.anchor, front ++ [name]⟩).names

theorem OnWay.of_parent {workingDirectory : Place}
    (onWay : OnWay workingDirectory path.parent place) : OnWay workingDirectory path place := by
  obtain ⟨front, name, after, names, ne, there⟩ := onWay
  obtain empty | ⟨above, last, ends⟩ := List.eq_nil_or_concat path.names
  · rw [Path.parent, empty] at names
    simp at names
  · refine ⟨front, name, after ++ [last], ?_, ne, there⟩
    rw [List.concat_eq_append] at ends
    simp only [Path.parent, ends, List.dropLast_concat] at names
    simp [ends, names]

/-- Where nothing has to be cancelled, a path leads through what it names on its way. -/
theorem OnWay.isPrefix {workingDirectory : Place} (onWay : OnWay workingDirectory path place)
    (collapsed : path.collapse = path) : place <+: (path.absolute workingDirectory).names := by
  obtain ⟨front, name, after, names, ne, rfl⟩ := onWay
  have absent : Path.parentName ∉ after := Path.notMem_of_collapsed collapsed names ne
  have through : path.names = (front ++ [name]) ++ after := by simp [names]
  have leads : (path.absolute workingDirectory).names =
      (Path.absolute workingDirectory ⟨path.anchor, front ++ [name]⟩).names ++ after :=
    Path.names_absolute_append rfl through absent
  exact ⟨after, leads.symm⟩

/-! ## One new node -/

theorem node?_put {node : Node} (named : place ≠ []) (other : Place) :
    (disk.put place node).node? other = if place = other then some node else disk.node? other := by
  unfold node? put
  rw [OrderedMap.get?_insert]
  by_cases root : other = []
  · simp [root, named]
  · simp [root]

theorem ne_nil_of_none (absent : disk.node? place = none) : place ≠ [] := by
  rintro rfl
  simp at absent

theorem keeps_put (absent : disk.node? place = none) (node : Node) :
    disk.Keeps (disk.put place node) := by
  refine ⟨rfl, fun other found there => ?_⟩
  rw [node?_put (ne_nil_of_none absent), if_neg, there]
  rintro rfl
  rw [absent] at there
  cases there

theorem find?_put (follows : disk.follow path = .ok place) (absent : disk.node? place = none)
    (node : Node) : (disk.put place node).find? path = some (place, node) := by
  refine find?_eq_some_iff.mpr ⟨(keeps_put absent node).follow follows, ?_⟩
  rw [node?_put (ne_nil_of_none absent), if_pos rfl]

/-- What is put where a path leads lies in a directory, so that a tree stays one. -/
theorem grows_put (tree : disk.IsTree) (follows : disk.follow path = .ok place)
    (absent : disk.node? place = none) (node : Node) :
    disk.Grows (OnWay disk.workingDirectory path) (disk.put place node) := by
  -- The new place lies in a directory that is there, so that nothing else has to be looked at.
  obtain ⟨front, name, above, names, ne, isDirectory, there⟩ :=
    tree.of_follow_of_none follows absent
  have keeps := keeps_put absent node
  have newOrOld (other : Place) (found : Node)
      (known : (disk.put place node).node? other = some found) :
      other = place ∨ disk.node? other = some found := by
    rw [node?_put (ne_nil_of_none absent)] at known
    split at known
    next same => exact .inl same.symm
    next => exact .inr known
  refine ⟨keeps, ?tree, ?fresh⟩
  case tree =>
    constructor
    · intro other found known
      rcases newOrOld other found known with same | before
      · rw [same, there]
        simp [tree.named _ _ isDirectory, Ne.symm ne]
      · exact tree.named _ _ before
    · intro other found known
      rcases newOrOld other found known with same | before
      · have within : other.dropLast = above := by rw [same, there, List.dropLast_concat]
        rw [within]
        exact keeps.node _ _ isDirectory
      · exact keeps.node _ _ (tree.parent _ _ before)
    · exact keeps.node _ _ tree.working
  case fresh =>
    intro other found before known
    rcases newOrOld other found known with same | earlier
    · refine ⟨front, name, [], names, ne, ?_⟩
      rw [same, place_of_follow (tree.named _ _ tree.working) follows, ← names]
    · rw [before] at earlier
      cases earlier

/-! ## New directories -/

theorem makeDirectory_eq_ok (made : disk.makeDirectory path = .ok later) :
    ∃ place, disk.follow path = .ok place ∧ disk.node? place = none ∧
      later = disk.put place .directory := by
  unfold makeDirectory at made
  cases follows : disk.follow path with
  | error fault => simp [follows, fail, bind, Except.bind] at made
  | ok place =>
    cases found : disk.node? place with
    | some node =>
      simp [follows, found, fail, bind, Except.bind, throw, throwThe, MonadExceptOf.throw] at made
    | none =>
      simp only [follows, found, fail, bind, Except.bind, pure, Except.pure,
        Except.ok.injEq] at made
      exact ⟨place, rfl, found, made.symm⟩

theorem ensureDirectory_eq_ok (ensured : disk.ensureDirectory path = .ok later) :
    later = disk ∧ disk.isDirectory path = true ∨ disk.makeDirectory path = .ok later := by
  unfold ensureDirectory at ensured
  split at ensured
  next made => exact .inr (made.trans ensured)
  next =>
    split at ensured
    next there => exact .inl ⟨(Except.ok.inj ensured).symm, there.2.2⟩
    next => cases ensured

theorem keeps_ensureDirectory (ensured : disk.ensureDirectory path = .ok later) :
    disk.Keeps later := by
  rcases ensureDirectory_eq_ok ensured with ⟨rfl, -⟩ | made
  · exact Keeps.refl _
  · obtain ⟨place, follows, absent, rfl⟩ := makeDirectory_eq_ok made
    exact keeps_put absent .directory

theorem grows_ensureDirectory (tree : disk.IsTree)
    (ensured : disk.ensureDirectory path = .ok later) :
    disk.Grows (OnWay disk.workingDirectory path) later := by
  rcases ensureDirectory_eq_ok ensured with ⟨rfl, -⟩ | made
  · exact Grows.refl tree _
  · obtain ⟨place, follows, absent, rfl⟩ := makeDirectory_eq_ok made
    exact grows_put tree follows absent .directory

theorem isDirectory_ensureDirectory (ensured : disk.ensureDirectory path = .ok later) :
    later.isDirectory path = true := by
  rcases ensureDirectory_eq_ok ensured with ⟨rfl, there⟩ | made
  · exact there
  · obtain ⟨place, follows, absent, rfl⟩ := makeDirectory_eq_ok made
    exact isDirectory_iff.mpr ⟨place, find?_put follows absent .directory⟩

theorem ensureDirectory_of_isDirectory (directory : disk.isDirectory path = true) :
    disk.ensureDirectory path = .ok disk := by
  obtain ⟨place, found⟩ := isDirectory_iff.mp directory
  obtain ⟨follows, there⟩ := find?_eq_some_iff.mp found
  have present : disk.makeDirectory path = .error ⟨.alreadyExists, path⟩ := by
    simp [makeDirectory, follows, there, fail, bind, Except.bind, throw, throwThe,
      MonadExceptOf.throw]
  simp [ensureDirectory, present, directory]

theorem buildDirectories_of_isDirectory (directory : disk.isDirectory path = true) :
    disk.buildDirectories path = { disk } := by
  rw [buildDirectories, ensureDirectory_of_isDirectory directory]

theorem grows_attempt {allowed : Place → Prop} {change : Except DiskError Disk} (tree : disk.IsTree)
    (grows : ∀ changed, change = .ok changed → disk.Grows allowed changed) :
    disk.Grows allowed (disk.attempt change).disk := by
  cases change with
  | ok changed => exact grows changed rfl
  | error e => exact Grows.refl tree allowed

theorem keeps_buildDirectories (disk : Disk) (path : Path) :
    disk.Keeps (disk.buildDirectories path).disk := by
  fun_induction buildDirectories disk path with
  | case1 path changed ensured => exact keeps_ensureDirectory ensured
  | case2 path e failed missing above done ih =>
    cases ensured : above.disk.ensureDirectory path with
    | ok changed => exact ih.trans (keeps_ensureDirectory ensured)
    | error e => exact ih
  | case3 path e failed missing above error stopped ih => exact ih
  | case4 path e failed missing => exact Keeps.refl disk

theorem grows_buildDirectories (tree : disk.IsTree) (path : Path) :
    disk.Grows (OnWay disk.workingDirectory path) (disk.buildDirectories path).disk := by
  fun_induction buildDirectories disk path with
  | case1 path changed ensured => exact grows_ensureDirectory tree ensured
  | case2 path e failed missing above done ih =>
    have grown := ih.mono fun _ => OnWay.of_parent
    refine grown.trans (grows_attempt grown.tree fun changed ensured => ?_)
    rw [← grown.workingDirectory]
    exact grows_ensureDirectory grown.tree ensured
  | case3 path e failed missing above error stopped ih => exact ih.mono fun _ => OnWay.of_parent
  | case4 path e failed missing => exact Grows.refl tree _

theorem isDirectory_buildDirectories (done : (disk.buildDirectories path).error? = none) :
    (disk.buildDirectories path).disk.isDirectory path = true := by
  fun_induction buildDirectories disk path with
  | case1 path changed ensured => exact isDirectory_ensureDirectory ensured
  | case2 path e failed missing above made ih =>
    cases ensured : above.disk.ensureDirectory path with
    | ok changed => exact isDirectory_ensureDirectory ensured
    | error e => simp [ensured, attempt] at done
  | case3 path e failed missing above error stopped ih => simp [stopped] at done
  | case4 path e failed missing => simp at done

/-! ## New files -/

/-- What is told of a path that leads somewhere. -/
theorem write_eq_ok {content : FileContent} (written : disk.write path content = .ok later) :
    ∃ place, disk.follow path = .ok place ∧ later = disk.put place (.file content) := by
  unfold write at written
  cases follows : disk.follow path with
  | error fault => simp [follows, fail, bind, Except.bind] at written
  | ok place =>
    cases found : disk.node? place with
    | none =>
      simp only [follows, found, fail, bind, Except.bind, pure, Except.pure, Except.ok.injEq]
        at written
      exact ⟨place, rfl, written.symm⟩
    | some node =>
      cases node with
      | directory =>
        simp [follows, found, fail, bind, Except.bind, throw, throwThe, MonadExceptOf.throw]
          at written
      | file before =>
        simp only [follows, found, fail, bind, Except.bind, pure, Except.pure, Except.ok.injEq]
          at written
        exact ⟨place, rfl, written.symm⟩

end SceneScript.Disk
