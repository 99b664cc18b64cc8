import Mountaineer.ClientBuild

/-! What a build never touches, and what running the generators again changes. Every step of
`build()`, whether it returns or raises, changes only files directly in a `_server` directory and
paths below a `_static` one: the views, and every other file and directory of the project, stay
as they were. The generators, run again on what they left, change nothing: the texts they write
depend only on the controllers, the collaborators and which view paths are files, none of which
they change; every directory they make is there, and every file they write gets the text it
already has. The second run is matched step by step against the first. -/
namespace Mountaineer.Client

/-- A build, whether it returns or raises, changes the text of no file outside the managed
directories, makes or deletes none there, and removes no directory that is not below a
`_static` one. -/
theorem build_changes_only_managed_dirs (ext : Externals) (schedule : List Nat)
    {s s' : BuildState}
    (hrun : (∃ u, build ext schedule s = .ok u s') ∨ ∃ e, build ext schedule s = .error e s') :
    (∀ q, ¬ InManagedDir q → s'.fs.files.lookup q = s.fs.files.lookup q) ∧
      ∀ p, "_static" ∉ p.tail → s.fs.isDir p → s'.fs.isDir p := by
  have hg : Guarantees KeepsUnmanaged (fun _ => True) (generateClientCode ext) fun _ => True :=
    (generateClientCode_guarantees ext).mono (fun _ _ => GeneratorStep.keepsUnmanaged)
      (fun _ _ => trivial) fun _ => id
  have h : Guarantees KeepsUnmanaged (fun _ => True) (build ext schedule) fun _ => True := by
    rw [build_eq]
    exact (validateUniquePaths_guarantees.anyError.bind fun _ _ => hg).bind fun _ _ =>
      (buildJavascriptChunks_guarantees ext schedule).anyError
  rcases hrun with ⟨_, hu⟩ | ⟨_, he⟩
  · exact (h.ok _ _ _ hu).1
  · exact (h.error _ _ _ he).1

/-- The rebuild of the one view leaves its view file `/v/h/p` as it was. -/
theorem build_changes_only_managed_dirs_rebuild :
    ¬ InManagedDir ⟨true, ["v", "h", "p"]⟩ ∧
      secondRunState.fs.files.lookup ⟨true, ["v", "h", "p"]⟩ = some "" :=
  ⟨by decide, (build_changes_only_managed_dirs _ [] (.inl ⟨_, build_secondRun⟩)).1 _ (by decide)⟩

/-- A build that a schema converter makes raise has changed neither the controllers nor any file
outside a `_server` directory: the bundles of the last build that returned, and the
`bundled_scripts` naming them, stay as they were. -/
theorem build_external_error_keeps_bundles (ext : Externals) (schedule : List Nat)
    {s s' : BuildState} {msg : String} (h : build ext schedule s = .error (.external msg) s') :
    s'.app = s.app ∧
      ∀ q, q.parent.tail.getLast? ≠ some "_server" → s'.fs.files.lookup q = s.fs.files.lookup q := by
  rw [build_eq] at h
  rcases bind_error_iff.1 h with h | ⟨_, s₁, -, h⟩
  · rcases bind_error_iff.1 h with h | ⟨_, s₀, h₀, h⟩
    · obtain ⟨_, ⟨_, he⟩⟩ := (validateUniquePaths_guarantees (R := GeneratorStep)).error _ _ _ h
      cases he
    · cases validateUniquePaths_ok h₀
      obtain ⟨hstep, -⟩ := (generateClientCode_guarantees ext).error _ _ _ h
      exact ⟨hstep.1, hstep.2.1⟩
  · obtain ⟨_, ⟨_, he⟩⟩ := (buildJavascriptChunks_guarantees ext schedule).error _ _ _ h
    cases he

/-- After the first of the two runs, a render-model converter that raises ends the next build
with the state as it was. -/
theorem build_external_error_keeps_bundles_schema :
    build { viewExternals (.ok ("c2", "m2")) with renderSchemas := fun _ => .error "schema" } []
        firstRunState = .error (.external "schema") firstRunState ∧
      firstRunState.app = firstRunState.app ∧ ∀ q, q.parent.tail.getLast? ≠ some "_server" →
        firstRunState.fs.files.lookup q = firstRunState.fs.files.lookup q :=
  have h : build { viewExternals (.ok ("c2", "m2")) with renderSchemas := fun _ => .error "schema" }
      [] firstRunState = .error (.external "schema") firstRunState := by rfl
  ⟨h, build_external_error_keeps_bundles _ [] h⟩

section Replay

variable (s T : BuildState)

/-- The second run, started from `T`, at `t'`, against the first, started from `s`, at `t`: the
controllers of `s`, the directories of `T`, and the same writes `W` into managed directories,
made on the files of `s` and on those of `T`. -/
def Replays (t t' : BuildState) : Prop :=
  t.app = s.app ∧ t'.app = t.app ∧ t'.fs.dirs = T.fs.dirs ∧
    ∃ W : List (Path × String), (∀ e ∈ W, InManagedDir e.1) ∧
      t.fs.files = assocMerge s.fs.files W ∧ t'.fs.files = assocMerge T.fs.files W

/-- A step of the first run that returns is a step of the generators and returns a value
satisfying `Q`; and while the first run stays within `T`, the second, from a state replaying the
first, takes the same step to a state replaying it, returning the same value. -/
structure Replay {α : Type} (x : BuildM α) (Q : α → Prop) : Prop where
  grows : ∀ t a t₁, x t = .ok a t₁ → t.app = s.app → GeneratorStep t t₁ ∧ Q a
  replay : ∀ t t' a t₁, x t = .ok a t₁ → GeneratorStep t₁ T → Replays s T t t' →
    ∃ t₁', x t' = .ok a t₁' ∧ Replays s T t₁ t₁'

namespace Replay

variable {s T} {α β : Type}

theorem bind {x : BuildM α} {f : α → BuildM β} {Q : α → Prop} {P : β → Prop}
    (hx : Replay s T x Q) (hf : ∀ a, Q a → Replay s T (f a) P) : Replay s T (x >>= f) P where
  grows t b t₂ h ht := by
    obtain ⟨a, t₁, h₁, h₂⟩ := bind_ok_iff.1 h
    obtain ⟨g₁, hQ⟩ := hx.grows _ _ _ h₁ ht
    obtain ⟨g₂, hP⟩ := (hf a hQ).grows _ _ _ h₂ (g₁.1.trans ht)
    exact ⟨trans_of _ g₁ g₂, hP⟩
  replay t t' b t₂ h hT hr := by
    obtain ⟨a, t₁, h₁, h₂⟩ := bind_ok_iff.1 h
    obtain ⟨g₁, hQ⟩ := hx.grows _ _ _ h₁ hr.1
    obtain ⟨g₂, -⟩ := (hf a hQ).grows _ _ _ h₂ (g₁.1.trans hr.1)
    obtain ⟨t₁', h₁', hr₁⟩ := hx.replay _ _ _ _ h₁ (trans_of _ g₂ hT) hr
    obtain ⟨t₂', h₂', hr₂⟩ := (hf a hQ).replay _ _ _ _ h₂ hT hr₁
    exact ⟨t₂', bind_ok_iff.2 ⟨a, t₁', h₁', h₂'⟩, hr₂⟩

theorem pure {a : α} {Q : α → Prop} (ha : Q a) : Replay s T (Pure.pure a : BuildM α) Q :=
  ⟨fun t _ _ h _ => by cases h; exact ⟨refl_of _ t, ha⟩,
    fun _ t' _ _ h _ hr => by cases h; exact ⟨t', rfl, hr⟩⟩

/-- Both runs read the controllers of `s`. -/
theorem readApp : Replay s T Client.readApp fun app => app = s.app :=
  ⟨fun t _ _ h ht => by cases h; exact ⟨refl_of _ t, ht⟩,
    fun _ t' _ _ h _ hr => by cases h; exact ⟨t', by rw [readApp_apply, hr.2.1], hr⟩⟩

theorem liftExcept (x : Except String α) : Replay s T (Client.liftExcept x) fun _ => True where
  grows t _ _ h _ := by
    cases x <;> cases h
    exact ⟨refl_of _ t, trivial⟩
  replay _ t' _ _ h _ hr := by
    cases x <;> cases h
    exact ⟨t', rfl, hr⟩

theorem stepLogic : StepLogic fun _ x Q => Replay s T x Q :=
  ⟨fun hx hf => hx.bind hf, fun ha => pure ha, liftExcept⟩

end Replay

variable {s T}

/-- A path outside the managed directories is a file in the second run exactly when it is one in
the first: neither run writes it, and the first left it as `s` had it. -/
theorem Replays.isFile_eq {t t' : BuildState} (hr : Replays s T t t') (hT : KeepsUnmanaged s T)
    {path : Path} (hp : ¬ InManagedDir path) : t'.fs.isFile path = t.fs.isFile path := by
  obtain ⟨-, -, -, W, hW, ht, ht'⟩ := hr
  have hk : path ∉ W.map Prod.fst := fun h => by
    obtain ⟨e, he, rfl⟩ := List.mem_map.1 h
    exact hp (hW e he)
  simp only [Fs.isFile, ht, ht', lookup_assocMerge_of_not_mem _ hk, hT.1 path hp]

/-- `get_managed_code_dir` of a path outside the managed directories: both runs compute the same
directory, which the first makes and the second finds made. -/
theorem getManagedCodeDir_replay (hT : KeepsUnmanaged s T) {path : Path}
    (hp : ¬ InManagedDir path) :
    Replay s T (getManagedCodeDir path) fun d => d.tail.getLast? = some "_server" where
  grows t d t₁ h _ := ((getManagedDirCommon_guarantees path _).ok _ _ _ h).imp_left
    GeneratorStep.of_makesDir
  replay t t' d t₁ h hT₁ hr := by
    obtain ⟨rfl, happ₁, hfiles, hdir₁, -⟩ := getManagedDirCommon_spec h
    have hd : managedDirOf t'.fs path "_server" = managedDirOf t.fs path "_server" := by
      rw [managedDirOf, managedDirOf, hr.isFile_eq hT hp]
    have hdir : t'.fs.isDir (managedDirOf t.fs path "_server") := by
      rw [Fs.isDir_iff_mem, hr.2.2.1, ← Fs.isDir_iff_mem]
      exact hT₁.2.2.1 _ hdir₁
    refine ⟨t', bind_ok_iff.2 ⟨_, _, rfl, bind_ok_iff.2 ⟨(), t',
      liftFs_ok_iff.2 ⟨_, by beta_reduce; rw [hd]; exact Fs.mkdir_of_isDir hdir, rfl⟩,
      by beta_reduce; rw [pure_apply, hd]⟩⟩, ?_⟩
    obtain ⟨happ, happ', hdirs, W, hW, ht, ht'⟩ := hr
    exact ⟨happ₁.trans happ, happ'.trans happ₁.symm, hdirs, W, hW, hfiles.trans ht, ht'⟩

/-- A generator's write of a file named other than `_server` into a `_server` directory: the
second run can write it too, and both runs add it to their writes. -/
theorem writeManaged_replay {d : Path} (hd : d.tail.getLast? = some "_server") {name : String}
    (hname : name ≠ "_server") (text : String) :
    Replay s T (writeFile (d / name) text) fun _ => True where
  grows t _ t₁ h _ := (writeManaged_guarantees hd name text).ok _ _ _ h
  replay t t' _ t₁ h hT₁ hr := by
    obtain ⟨fs, hfs, rfl⟩ := liftFs_ok_iff.1 h
    obtain ⟨hnd, hpd, rfl⟩ := Fs.writeText_eq_ok_iff.1 hfs
    obtain ⟨happ, happ', hdirs, W, hW, ht, ht'⟩ := hr
    have hnd' : t'.fs.isDir (d / name) = false := by
      rw [Bool.eq_false_iff, ne_eq, Fs.isDir_iff_mem, hdirs, ← Fs.isDir_iff_mem]
      intro h'
      rcases hT₁.2.2.2 _ h' with h' | h'
      · exact Bool.noConfusion (h'.symm.trans hnd)
      · exact hname (by simpa using h')
    have hpd' : t'.fs.isDir (d / name).parent = true := by
      rw [Fs.isDir_iff_mem, hdirs, ← Fs.isDir_iff_mem]
      exact hT₁.2.2.1 _ hpd
    refine ⟨_, liftFs_ok_iff.2 ⟨_, Fs.writeText_eq_ok_iff.2 ⟨hnd', hpd', rfl⟩, rfl⟩,
      happ, happ', hdirs, W ++ [(d / name, text)], ?_, ?_, ?_⟩
    · intro e he
      rcases List.mem_append.1 he with he | he
      · exact hW e he
      · rw [List.mem_singleton.1 he]
        exact .inl (by rwa [Path.parent_div])
    · rw [assocMerge_concat, ← ht]
    · rw [assocMerge_concat, ← ht']

/-- The generators replay, when neither the view root nor any view path lies in a managed
directory. -/
theorem generateClientCode_replay (ext : Externals) (hT : KeepsUnmanaged s T)
    (hroot : ¬ InManagedDir s.app.viewRoot)
    (hviews : ∀ c ∈ s.app.controllers, ¬ InManagedDir c.viewPath) :
    Replay s T (generateClientCode ext) fun _ => True :=
  generateClientCode_of Replay.stepLogic Replay.readApp
    (fun _ ha _ hp => getManagedCodeDir_replay hT (by
      subst ha
      rcases hp with rfl | ⟨c, hc, rfl⟩
      exacts [hroot, hviews c hc]))
    (fun _ hd _ text hname => writeManaged_replay hd hname text) ext

end Replay

/-- The generators are idempotent: run again on the state they left, they return and leave it
as it is, when neither the view root nor any view path lies in a managed directory. -/
theorem generateClientCode_idempotent (ext : Externals) {s T : BuildState}
    (h : generateClientCode ext s = .ok () T) (hroot : ¬ InManagedDir s.app.viewRoot)
    (hviews : ∀ c ∈ s.app.controllers, ¬ InManagedDir c.viewPath) :
    generateClientCode ext T = .ok () T := by
  have hstep : GeneratorStep s T := ((generateClientCode_guarantees ext).ok _ _ _ h).1
  have hr₀ : Replays s T s T := ⟨rfl, hstep.1, rfl, [], fun _ h => (by cases h), rfl, rfl⟩
  obtain ⟨T', hT', -, happ', hdirs, W, -, hW, hW'⟩ :=
    (generateClientCode_replay ext hstep.keepsUnmanaged hroot hviews).replay _ _ _ _ h
      (refl_of _ T) hr₀
  have hfiles : T'.fs.files = T.fs.files := by rw [hW', hW, assocMerge_assocMerge_self]
  rwa [BuildState.eq_of hdirs hfiles happ'] at hT'

theorem generateClientCode_oneView (bundle : Except String (String × String)) :
    generateClientCode (viewExternals bundle) (viewState viewDirs viewFiles []) =
      .ok () (viewState generatedDirs (viewFiles ++ generatedFiles) []) := by
  obtain ⟨_, s₀, h₀, h⟩ := bind_ok_iff.1 (generateClientCode_firstRun bundle)
  rwa [validateUniquePaths_ok h₀] at h

/-- Generating the one view's client code a second time leaves every file and directory as the
first time left it. -/
theorem generateClientCode_idempotent_oneView :
    generateClientCode (viewExternals (.ok ("c1", "m1")))
        (viewState generatedDirs (viewFiles ++ generatedFiles) []) =
      .ok () (viewState generatedDirs (viewFiles ++ generatedFiles) []) :=
  generateClientCode_idempotent _ (generateClientCode_oneView _) (by decide) (by decide)

end Mountaineer.Client
