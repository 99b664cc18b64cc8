import Mountaineer.ClientInflection
import Mountaineer.ClientSteps

/-! `build_javascript_chunks`. The static directory is emptied and made again; then one thread
per controller runs `spawn_builder`, whose steps (the bundling, the two writes, the append) are
atomic and interleave in any order, and the builder joins the threads in turn.
`Thread.join` waits for a thread and does not re-raise what its target raised. -/
namespace Mountaineer.Client

/-- What `spawn_builder` computes before it writes: the script's name, the map's name, the
script with its map path updated, and the map. -/
def unitPlan (ext : Externals) (viewRoot : Path) (c : Controller) :
    Except String (String × String × String × String) := do
  let (contents, mapContents) ← ext.bundleJavascript c.viewPath viewRoot
  let scriptName := underscore c.className ++ "-" ++
    ext.md5Hexdigest (ext.getCleanedJsContents contents) ++ ".js"
  let mapName := scriptName ++ ".map"
  pure (scriptName, mapName, ext.updateSourceMapPath contents mapName, mapContents)

/-- Where a thread of `spawn_builder` stands between two of its atomic steps. -/
inductive UnitPhase where
  | start
  | bundled (scriptName mapName contents mapContents : String)
  | scriptWritten (scriptName mapName mapContents : String)
  | mapWritten (scriptName : String)
  | finished
  | raised (e : BuildError)
  deriving DecidableEq, Repr

/-- The steps a thread at this phase has left at most. -/
def UnitPhase.remaining : UnitPhase → Nat
  | start => 4
  | bundled .. => 3
  | scriptWritten .. => 2
  | mapWritten _ => 1
  | finished | raised _ => 0

/-- `controller.bundled_scripts` extended by `names`. -/
def Controller.withScripts (c : Controller) (names : List String) : Controller :=
  { c with bundledScripts := c.bundledScripts ++ names }

@[simp] theorem Controller.withScripts_nil (c : Controller) : c.withScripts [] = c := by
  simp [Controller.withScripts]

@[simp] theorem Controller.withScripts_withScripts (c : Controller) (l m : List String) :
    (c.withScripts l).withScripts m = c.withScripts (l ++ m) := by
  simp [Controller.withScripts]

/-- `controller.bundled_scripts.append(script_name)` for the `i`-th controller. -/
def appendBundledScript (i : Nat) (scriptName : String) (s : BuildState) : BuildState :=
  { s with app := { s.app with
    controllers := s.app.controllers.modify (·.withScripts [scriptName]) i } }

/-- One atomic step of `spawn_builder(controller)` in the thread of the `i`-th controller `c`,
writing into `staticDir`. -/
def unitStep (ext : Externals) (viewRoot staticDir : Path) (i : Nat) (c : Controller) :
    UnitPhase → BuildState → UnitPhase × BuildState
  | .start, s =>
    match unitPlan ext viewRoot c with
    | .ok (scriptName, mapName, contents, mapContents) =>
      (.bundled scriptName mapName contents mapContents, s)
    | .error e => (.raised (.external e), s)
  | .bundled scriptName mapName contents mapContents, s =>
    match s.fs.writeText (staticDir / scriptName) contents with
    | .ok fs => (.scriptWritten scriptName mapName mapContents, { s with fs := fs })
    | .error e => (.raised (.os e), s)
  | .scriptWritten scriptName mapName mapContents, s =>
    match s.fs.writeText (staticDir / mapName) mapContents with
    | .ok fs => (.mapWritten scriptName, { s with fs := fs })
    | .error e => (.raised (.os e), s)
  | .mapWritten scriptName, s => (.finished, appendBundledScript i scriptName s)
  | p, s => (p, s)

/-- The phases of the threads, one per controller, and the state they share. -/
structure Threads where
  phases : List UnitPhase
  state : BuildState

section Run

variable (ext : Externals) (viewRoot staticDir : Path) (units : List Controller)

/-- Thread `j` takes one step; a thread that does not exist changes nothing. -/
def stepThread (t : Threads) (j : Nat) : Threads :=
  match units[j]?, t.phases[j]? with
  | some c, some p =>
    let r := unitStep ext viewRoot staticDir j c p t.state
    ⟨t.phases.set j r.1, r.2⟩
  | _, _ => t

/-- `threads[j].join()`: thread `j` runs to its end, which takes at most four steps. -/
def joinThread (t : Threads) (j : Nat) : Threads :=
  (stepThread ext viewRoot staticDir units · j)^[4] t

/-- The threads started on `s`, their steps taken in the order `schedule` gives, then joined
in turn. -/
def runThreads (schedule : List Nat) (s : BuildState) : Threads :=
  (List.range units.length).foldl (joinThread ext viewRoot staticDir units)
    (schedule.foldl (stepThread ext viewRoot staticDir units) ⟨units.map fun _ => .start, s⟩)

end Run

/-- The start of `build_javascript_chunks`: the static directory, emptied and made again. -/
def prepareStaticDir (viewRoot : Path) : BuildM Path := do
  let staticDir ← getManagedStaticDir viewRoot
  if ← readFs (·.exists staticDir) then
    liftFs (Fs.rmtree · staticDir)
  liftFs (Fs.mkdirParents false · staticDir)
  return staticDir

/-- `ClientBuilder.build_javascript_chunks`, its threads' steps taken in the order `schedule`
gives. -/
def buildJavascriptChunks (ext : Externals) (schedule : List Nat) : BuildM Unit := do
  let app ← readApp
  let staticDir ← prepareStaticDir app.viewRoot
  modify fun s => (runThreads ext app.viewRoot staticDir app.controllers schedule s).state


/-- The files a thread at a phase has written, for the plan `plan` its bundling gives. -/
def unitFiles (staticDir : Path) : Except String (String × String × String × String) →
    UnitPhase → List Path
  | .ok (a, _, _, _), .scriptWritten .. => [staticDir / a]
  | .ok (a, b, _, _), .mapWritten _ => [staticDir / a, staticDir / b]
  | .ok (a, b, _, _), .finished => [staticDir / a, staticDir / b]
  | _, _ => []

/-- The script names a thread at a phase has appended. -/
def unitAppended : Except String (String × String × String × String) → UnitPhase → List String
  | .ok (a, _, _, _), .finished => [a]
  | _, _ => []

/-- The file names a plan gives, each with the text written to it: the script, then its map. -/
def unitOutputs : Except String (String × String × String × String) → List (String × String)
  | .ok (a, b, x, y) => [(a, x), (b, y)]
  | .error _ => []

/-- The files a thread at a phase has written, each with the text it wrote. -/
def unitWrites (staticDir : Path) : Except String (String × String × String × String) →
    UnitPhase → List (Path × String)
  | .ok (a, _, x, _), .scriptWritten .. => [(staticDir / a, x)]
  | .ok (a, b, x, y), .mapWritten _ => [(staticDir / a, x), (staticDir / b, y)]
  | .ok (a, b, x, y), .finished => [(staticDir / a, x), (staticDir / b, y)]
  | _, _ => []

/-- The phases a thread with plan `plan` passes through: the names it carries are the plan's,
and it raises only what the bundler raised. -/
def PhaseOk (plan : Except String (String × String × String × String)) : UnitPhase → Prop
  | .start => True
  | .bundled a b x y => plan = .ok (a, b, x, y)
  | .scriptWritten a b y => ∃ x, plan = .ok (a, b, x, y)
  | .mapWritten a => ∃ b x y, plan = .ok (a, b, x, y)
  | .finished => ∃ q, plan = .ok q
  | .raised e => ∃ m, plan = .error m ∧ e = .external m

/-- The static directory is a directory with no directory inside it. -/
structure StaticDirReady (staticDir : Path) (fs : Fs) : Prop where
  isDir_staticDir : fs.isDir staticDir
  not_isDir_child : ∀ n : String, fs.isDir (staticDir / n) = false

theorem writeText_of_ready {staticDir : Path} {fs : Fs} (h : StaticDirReady staticDir fs)
    (n t : String) :
    fs.writeText (staticDir / n) t = .ok { fs with files := assocSet (staticDir / n) t fs.files } := by
  simp [Fs.writeText, h.isDir_staticDir, h.not_isDir_child n]

theorem isFile_assocSet (fs : Fs) (p q : Path) (t : String) :
    ({ fs with files := assocSet p t fs.files } : Fs).isFile q ↔ fs.isFile q ∨ q = p := by
  by_cases h : q = p
  · subst h; simp [Fs.isFile]
  · simp [Fs.isFile, lookup_assocSet_of_ne h, h]

@[simp] theorem modify_fun_self {α : Type} (l : List α) (i : Nat) :
    l.modify (fun x => x) i = l :=
  List.modify_id i l

@[simp] theorem unitFiles_start (staticDir : Path)
    (plan : Except String (String × String × String × String)) :
    unitFiles staticDir plan .start = [] := by
  rcases plan with _ | ⟨_, _, _, _⟩ <;> rfl

@[simp] theorem unitAppended_start (plan : Except String (String × String × String × String)) :
    unitAppended plan .start = [] := by
  rcases plan with _ | ⟨_, _, _, _⟩ <;> rfl

theorem StaticDirReady.of_dirs_eq {staticDir : Path} {fs fs' : Fs} (h : StaticDirReady staticDir fs)
    (hd : fs'.dirs = fs.dirs) : StaticDirReady staticDir fs' :=
  ⟨by simpa [Fs.isDir, hd] using h.isDir_staticDir,
    fun n => by simpa [Fs.isDir, hd] using h.not_isDir_child n⟩

/-- What one step of a thread does when the static directory is ready: the phase moves on along
the plan, the thread's next file is written, and its last step appends its script to its own
controller. -/
theorem unitStep_spec {ext : Externals} {viewRoot staticDir : Path} {i : Nat} {c : Controller}
    {p : UnitPhase} {s : BuildState} (hr : StaticDirReady staticDir s.fs)
    (hp : PhaseOk (unitPlan ext viewRoot c) p)
    (hw : ∀ q ∈ unitFiles staticDir (unitPlan ext viewRoot c) p, s.fs.isFile q) :
    let r := unitStep ext viewRoot staticDir i c p s
    PhaseOk (unitPlan ext viewRoot c) r.1 ∧ r.2.fs.dirs = s.fs.dirs ∧
      (∀ q, r.2.fs.isFile q ↔
        s.fs.isFile q ∨ q ∈ unitFiles staticDir (unitPlan ext viewRoot c) r.1) ∧
      unitFiles staticDir (unitPlan ext viewRoot c) p ⊆
        unitFiles staticDir (unitPlan ext viewRoot c) r.1 ∧
      r.2.app.viewRoot = s.app.viewRoot ∧
      ∃ d, unitAppended (unitPlan ext viewRoot c) r.1 = unitAppended (unitPlan ext viewRoot c) p ++ d ∧
        r.2.app.controllers = s.app.controllers.modify (·.withScripts d) i := by
  cases p with
  | start =>
    cases hplan : unitPlan ext viewRoot c with
    | error m => simp [unitStep, hplan, PhaseOk, unitFiles, unitAppended]
    | ok v =>
      obtain ⟨a, b, x, y⟩ := v
      simp [unitStep, hplan, PhaseOk, unitFiles, unitAppended]
  | bundled a b x y =>
    simp only [PhaseOk] at hp
    simp [unitStep, writeText_of_ready hr, hp, PhaseOk, unitFiles, unitAppended, isFile_assocSet]
  | scriptWritten a b y =>
    obtain ⟨x, hx⟩ := hp
    simp only [hx, unitFiles, List.mem_singleton, forall_eq] at hw
    simp [unitStep, writeText_of_ready hr, hx, PhaseOk, unitFiles, unitAppended, isFile_assocSet]
    refine fun q => ⟨Or.imp_right Or.inr, ?_⟩
    rintro (h | rfl | rfl)
    exacts [.inl h, .inl hw, .inr rfl]
  | mapWritten a =>
    obtain ⟨b, x, y, hx⟩ := hp
    simp [hx, unitFiles] at hw
    simp [unitStep, appendBundledScript, hx, PhaseOk, unitFiles, unitAppended, hw]
  | finished =>
    obtain ⟨⟨a, b, x, y⟩, hx⟩ := hp
    simp [hx, unitFiles] at hw
    simp [unitStep, hx, PhaseOk, unitFiles, unitAppended, hw]
  | raised e =>
    obtain ⟨m, hm, rfl⟩ := hp
    simp [unitStep, hm, PhaseOk, unitFiles, unitAppended]

/-- One step of a thread writes at most one file: the next its plan names, with the plan's text. -/
theorem unitStep_writes {ext : Externals} {viewRoot staticDir : Path} {i : Nat} {c : Controller}
    {p : UnitPhase} {s : BuildState} (hr : StaticDirReady staticDir s.fs)
    (hp : PhaseOk (unitPlan ext viewRoot c) p) :
    let r := unitStep ext viewRoot staticDir i c p s
    (unitWrites staticDir (unitPlan ext viewRoot c) r.1 =
        unitWrites staticDir (unitPlan ext viewRoot c) p ∧ r.2.fs.files = s.fs.files) ∨
      ∃ q v, unitWrites staticDir (unitPlan ext viewRoot c) r.1 =
          unitWrites staticDir (unitPlan ext viewRoot c) p ++ [(q, v)] ∧
        r.2.fs.files = assocSet q v s.fs.files := by
  cases p with
  | start =>
    left
    cases hplan : unitPlan ext viewRoot c with
    | error m => simp [unitStep, hplan, unitWrites]
    | ok v =>
      obtain ⟨a, b, x, y⟩ := v
      simp [unitStep, hplan, unitWrites]
  | bundled a b x y =>
    simp only [PhaseOk] at hp
    exact .inr ⟨staticDir / a, x, by simp [unitStep, writeText_of_ready hr, hp, unitWrites],
      by simp [unitStep, writeText_of_ready hr]⟩
  | scriptWritten a b y =>
    obtain ⟨x, hx⟩ := hp
    exact .inr ⟨staticDir / b, y, by simp [unitStep, writeText_of_ready hr, hx, unitWrites],
      by simp [unitStep, writeText_of_ready hr]⟩
  | mapWritten a =>
    obtain ⟨b, x, y, hx⟩ := hp
    exact .inl ⟨by simp [unitStep, hx, unitWrites], rfl⟩
  | finished => exact .inl ⟨rfl, rfl⟩
  | raised e => exact .inl ⟨rfl, rfl⟩

section Invariant

variable {ext : Externals} {viewRoot staticDir : Path} {units : List Controller}
  {s₀ : BuildState} {t : Threads}

/-- What holds of the threads at every point of a run started on `s₀`: each thread's phase is
one its plan allows, the files are those of `s₀` and those the threads have written, and each
controller holds the scripts its own thread has appended. -/
structure UnitsInv (ext : Externals) (viewRoot staticDir : Path) (units : List Controller)
    (s₀ : BuildState) (t : Threads) : Prop where
  length_phases : t.phases.length = units.length
  phase_ok : ∀ (j : Nat) (c : Controller) (p : UnitPhase), units[j]? = some c → t.phases[j]? = some p →
    PhaseOk (unitPlan ext viewRoot c) p
  dirs_eq : t.state.fs.dirs = s₀.fs.dirs
  isFile_iff : ∀ q, t.state.fs.isFile q ↔ s₀.fs.isFile q ∨
    ∃ (j : Nat) (c : Controller) (p : UnitPhase), units[j]? = some c ∧ t.phases[j]? = some p ∧
      q ∈ unitFiles staticDir (unitPlan ext viewRoot c) p
  viewRoot_eq : t.state.app.viewRoot = s₀.app.viewRoot
  length_controllers : t.state.app.controllers.length = units.length
  controller_eq : ∀ (j : Nat) (c : Controller) (p : UnitPhase), units[j]? = some c → t.phases[j]? = some p →
    t.state.app.controllers[j]? = some (c.withScripts (unitAppended (unitPlan ext viewRoot c) p))

theorem eq_start_of_getElem? {l : List Controller} {j : Nat} {p : UnitPhase}
    (h : (l.map fun _ => UnitPhase.start)[j]? = some p) : p = .start := by
  obtain ⟨_, _, rfl⟩ := Option.map_eq_some'.1 ((List.getElem?_map _ _ _).symm.trans h)
  rfl

/-- Reading a list after `set j a`: position `j` holds `a`, every other position what it held. -/
theorem getElem?_set_eq_some {α : Type} {l : List α} {j k : Nat} {a b : α} (hj : j < l.length) :
    (l.set j a)[k]? = some b ↔ j = k ∧ a = b ∨ j ≠ k ∧ l[k]? = some b := by
  by_cases hk : j = k
  · subst hk; simp [List.getElem?_set_self hj]
  · simp [List.getElem?_set_ne hk, hk]

/-- Every thread at its start. -/
theorem unitsInv_start (hs : s₀.app.controllers = units) :
    UnitsInv ext viewRoot staticDir units s₀ ⟨units.map fun _ => .start, s₀⟩ where
  length_phases := List.length_map _ _
  phase_ok _ _ _ _ hp := by rw [eq_start_of_getElem? hp]; trivial
  dirs_eq := rfl
  isFile_iff _ := ⟨.inl, fun h => h.elim id fun ⟨_, _, _, _, hp, hq⟩ => by
    rw [eq_start_of_getElem? hp, unitFiles_start] at hq; cases hq⟩
  viewRoot_eq := rfl
  length_controllers := by rw [hs]
  controller_eq _ _ _ hu hp := by simp [eq_start_of_getElem? hp, hs, hu]

/-- One step of any thread keeps the invariant. -/
theorem unitsInv_stepThread (hr : StaticDirReady staticDir s₀.fs)
    (h : UnitsInv ext viewRoot staticDir units s₀ t) (j : Nat) :
    UnitsInv ext viewRoot staticDir units s₀ (stepThread ext viewRoot staticDir units t j) := by
  unfold stepThread
  cases hu : units[j]? with
  | none => exact h
  | some c =>
    cases hp : t.phases[j]? with
    | none => exact h
    | some p =>
      obtain ⟨hok, hdirs, hfiles, hsub, hroot, d, hd, hctrl⟩ :=
        unitStep_spec (i := j) (hr.of_dirs_eq h.dirs_eq) (h.phase_ok j c p hu hp)
          (fun q hq => (h.isFile_iff q).2 (.inr ⟨j, c, p, hu, hp, hq⟩))
      have hj : j < t.phases.length := (List.getElem?_eq_some_iff.1 hp).1
      refine ⟨by simp [h.length_phases], ?_, hdirs.trans h.dirs_eq, ?_, hroot.trans h.viewRoot_eq,
        by simp [hctrl, h.length_controllers], ?_⟩
      · intro k c' p' hu' hp'
        rcases (getElem?_set_eq_some hj).1 hp' with ⟨rfl, rfl⟩ | ⟨-, hp'⟩
        · cases hu.symm.trans hu'; exact hok
        · exact h.phase_ok k c' p' hu' hp'
      · intro q
        rw [hfiles, h.isFile_iff, or_assoc]
        refine or_congr_right ⟨?_, ?_⟩
        · rintro (⟨k, c', p', hu', hp', hq⟩ | hq)
          · by_cases hk : j = k
            · subst hk
              cases hu.symm.trans hu'
              cases hp.symm.trans hp'
              exact ⟨j, c, _, hu, List.getElem?_set_self hj, hsub hq⟩
            · exact ⟨k, c', p', hu', (getElem?_set_eq_some hj).2 (.inr ⟨hk, hp'⟩), hq⟩
          · exact ⟨j, c, _, hu, List.getElem?_set_self hj, hq⟩
        · rintro ⟨k, c', p', hu', hp', hq⟩
          rcases (getElem?_set_eq_some hj).1 hp' with ⟨rfl, rfl⟩ | ⟨-, hp'⟩
          · cases hu.symm.trans hu'; exact .inr hq
          · exact .inl ⟨k, c', p', hu', hp', hq⟩
      · intro k c' p' hu' hp'
        rw [hctrl, List.getElem?_modify]
        rcases (getElem?_set_eq_some hj).1 hp' with ⟨rfl, rfl⟩ | ⟨hk, hp'⟩
        · cases hu.symm.trans hu'; simp [h.controller_eq j c p hu hp, hd]
        · simp [hk, h.controller_eq k c' p' hu' hp']

/-- What holds at the start and is kept by every step of every thread holds when the joins
return, whatever the schedule. -/
theorem runThreads_induction (P : Threads → Prop) {s : BuildState}
    (h₀ : P ⟨units.map fun _ => .start, s⟩)
    (hstep : ∀ t j, P t → P (stepThread ext viewRoot staticDir units t j)) (schedule : List Nat) :
    P (runThreads ext viewRoot staticDir units schedule s) := by
  have hfold : ∀ (f : Threads → Nat → Threads), (∀ t j, P t → P (f t j)) →
      ∀ (js : List Nat) (t : Threads), P t → P (js.foldl f t) :=
    fun f hf js => js.rec (fun _ h => h) fun j _ ih t h => ih _ (hf t j h)
  exact hfold _ (fun t j h => Function.Iterate.rec P (hstep · j) h 4) _ _ (hfold _ hstep _ _ h₀)

/-- The invariant holds at the end of every run: any schedule, then the joins. -/
theorem unitsInv_runThreads (hr : StaticDirReady staticDir s₀.fs)
    (hs : s₀.app.controllers = units) (schedule : List Nat) :
    UnitsInv ext viewRoot staticDir units s₀ (runThreads ext viewRoot staticDir units schedule s₀) :=
  runThreads_induction _ (unitsInv_start hs) (fun _ j h => unitsInv_stepThread hr h j) schedule

end Invariant


/-- The steps thread `j` has left at most. -/
def Threads.remainingAt (t : Threads) (j : Nat) : Nat :=
  ((t.phases[j]?).map UnitPhase.remaining).getD 0

theorem remaining_le_four (p : UnitPhase) : p.remaining ≤ 4 := by
  cases p <;> simp [UnitPhase.remaining]

theorem remaining_unitStep (ext : Externals) (viewRoot staticDir : Path) (i : Nat)
    (c : Controller) (p : UnitPhase) (s : BuildState) :
    (unitStep ext viewRoot staticDir i c p s).1.remaining ≤ p.remaining - 1 := by
  cases p <;> simp only [unitStep] <;> (try split) <;> simp [UnitPhase.remaining]

section Steps

variable {ext : Externals} {viewRoot staticDir : Path} {units : List Controller}

theorem length_stepThread (t : Threads) (j : Nat) :
    (stepThread ext viewRoot staticDir units t j).phases.length = t.phases.length := by
  unfold stepThread; split <;> simp

theorem remainingAt_stepThread_le (t : Threads) (k j : Nat) :
    (stepThread ext viewRoot staticDir units t k).remainingAt j ≤ t.remainingAt j := by
  unfold stepThread
  split
  · rename_i c p _ hp
    by_cases hk : k = j
    · subst hk
      have := remaining_unitStep ext viewRoot staticDir k c p t.state
      simp only [Threads.remainingAt, List.getElem?_set_self (List.getElem?_eq_some_iff.1 hp).1, hp,
        Option.map_some', Option.getD_some]
      omega
    · simp [Threads.remainingAt, List.getElem?_set_ne hk]
  · exact le_rfl

theorem remainingAt_stepThread_self {t : Threads} {j : Nat} (hj : j < units.length)
    (hl : t.phases.length = units.length) :
    (stepThread ext viewRoot staticDir units t j).remainingAt j ≤ t.remainingAt j - 1 := by
  have hj' : j < t.phases.length := hl ▸ hj
  have := remaining_unitStep ext viewRoot staticDir j units[j] t.phases[j] t.state
  unfold stepThread
  rw [List.getElem?_eq_getElem hj, List.getElem?_eq_getElem hj']
  simpa only [Threads.remainingAt, List.getElem?_set_self hj', List.getElem?_eq_getElem hj',
    Option.map_some', Option.getD_some] using this

/-- `join` leaves thread `j` ended. -/
theorem remainingAt_joinThread_self {t : Threads} {j : Nat} (hj : j < units.length)
    (hl : t.phases.length = units.length) :
    (joinThread ext viewRoot staticDir units t j).remainingAt j = 0 := by
  have hn : ∀ (n : Nat) (t : Threads), t.phases.length = units.length →
      ((stepThread ext viewRoot staticDir units · j)^[n] t).remainingAt j ≤ t.remainingAt j - n := by
    intro n
    induction n with
    | zero => simp
    | succ n ih =>
      intro t ht
      rw [Function.iterate_succ_apply]
      have h₁ := ih _ (show (stepThread ext viewRoot staticDir units t j).phases.length = _ from
        (length_stepThread t j).trans ht)
      have h₂ : (stepThread ext viewRoot staticDir units t j).remainingAt j ≤
          t.remainingAt j - 1 := remainingAt_stepThread_self hj ht
      omega
  have h4 : t.remainingAt j ≤ 4 := by
    unfold Threads.remainingAt
    cases t.phases[j]? <;> simp [remaining_le_four]
  have := hn 4 t hl
  unfold joinThread
  omega

theorem length_iterate_stepThread (t : Threads) (j n : Nat) :
    ((stepThread ext viewRoot staticDir units · j)^[n] t).phases.length = t.phases.length := by
  induction n generalizing t with
  | zero => rfl
  | succ n ih => rw [Function.iterate_succ_apply, ih, length_stepThread]

theorem remainingAt_joinThread_le (t : Threads) (k j : Nat) :
    (joinThread ext viewRoot staticDir units t k).remainingAt j ≤ t.remainingAt j := by
  have hn : ∀ (n : Nat) (t : Threads),
      ((stepThread ext viewRoot staticDir units · k)^[n] t).remainingAt j ≤ t.remainingAt j := by
    intro n
    induction n with
    | zero => exact fun _ => le_rfl
    | succ n ih =>
      intro t
      rw [Function.iterate_succ_apply]
      exact (ih _).trans (remainingAt_stepThread_le t k j)
  exact hn 4 t

/-- Joining the threads of `joined` in turn ends each of them, and a thread that had ended
stays ended. -/
theorem remainingAt_foldl_joinThread {joined : List Nat} (hL : ∀ j ∈ joined, j < units.length)
    {t : Threads} (ht : t.phases.length = units.length) {j : Nat}
    (hj : j ∈ joined ∨ t.remainingAt j = 0) :
    (joined.foldl (joinThread ext viewRoot staticDir units) t).remainingAt j = 0 := by
  induction joined generalizing t with
  | nil => simpa using hj
  | cons k joined ih =>
    simp only [List.forall_mem_cons] at hL
    refine ih hL.2 ((length_iterate_stepThread t k 4).trans ht) ?_
    by_cases hk : j = k
    · subst hk
      exact .inr (remainingAt_joinThread_self hL.1 ht)
    · rcases hj with hj | hj
      · exact .inl ((List.mem_cons.1 hj).resolve_left hk)
      · exact .inr (Nat.eq_zero_of_le_zero ((remainingAt_joinThread_le t k j).trans hj.le))

end Steps

/-- Every thread has ended when the joins return. -/
theorem remainingAt_runThreads (ext : Externals) (viewRoot staticDir : Path)
    (units : List Controller) (schedule : List Nat) (s : BuildState) {j : Nat}
    (hj : j < units.length) :
    (runThreads ext viewRoot staticDir units schedule s).remainingAt j = 0 := by
  have hlen : ∀ (js : List Nat) (t : Threads),
      (js.foldl (stepThread ext viewRoot staticDir units) t).phases.length = t.phases.length :=
    fun js => js.rec (fun _ => rfl) fun k _ ih t => (ih _).trans (length_stepThread t k)
  exact remainingAt_foldl_joinThread (fun k hk => List.mem_range.1 hk)
    ((hlen _ _).trans (List.length_map _ _)) (.inl (List.mem_range.2 hj))

/-- An ended thread has written the files, and appended the script, of a finished one: none
when its bundling raised. -/
theorem unitFiles_of_ended {staticDir : Path} {plan : Except String (String × String × String × String)}
    {p : UnitPhase} (h0 : p.remaining = 0) (hp : PhaseOk plan p) :
    unitFiles staticDir plan p = unitFiles staticDir plan .finished ∧
      unitAppended plan p = unitAppended plan .finished := by
  cases p with
  | finished => exact ⟨rfl, rfl⟩
  | raised e =>
    obtain ⟨m, rfl, rfl⟩ := hp
    exact ⟨rfl, rfl⟩
  | _ => simp [UnitPhase.remaining] at h0

theorem mem_unitFiles_finished {staticDir q : Path}
    {plan : Except String (String × String × String × String)} :
    q ∈ unitFiles staticDir plan .finished ↔
      ∃ a b x y, plan = .ok (a, b, x, y) ∧ (q = staticDir / a ∨ q = staticDir / b) := by
  rcases plan with _ | ⟨a, b, x, y⟩
  · simp [unitFiles]
  · simp only [unitFiles, List.mem_cons, List.mem_singleton, List.not_mem_nil, or_false]
    exact ⟨fun h => ⟨a, b, x, y, rfl, h⟩, fun ⟨_, _, _, _, h, hq⟩ => by cases h; exact hq⟩

/-- What the threads leave, whatever the schedule: the files of `s` and the script and map of
every thread whose bundling returned; each controller with its own script appended when its
bundling returned, and as it was when it raised. -/
theorem runThreads_spec (ext : Externals) (viewRoot : Path) {staticDir : Path}
    {units : List Controller} {s : BuildState} (hr : StaticDirReady staticDir s.fs) (hs : s.app.controllers = units)
    (schedule : List Nat) :
    let t := runThreads ext viewRoot staticDir units schedule s
    t.state.fs.dirs = s.fs.dirs ∧
      (∀ q, t.state.fs.isFile q ↔ s.fs.isFile q ∨ ∃ (j : Nat) (c : Controller), units[j]? = some c ∧
        q ∈ unitFiles staticDir (unitPlan ext viewRoot c) .finished) ∧
      t.state.app.viewRoot = s.app.viewRoot ∧ t.state.app.controllers.length = units.length ∧
      ∀ (j : Nat) (c : Controller), units[j]? = some c → t.state.app.controllers[j]? =
        some (c.withScripts (unitAppended (unitPlan ext viewRoot c) .finished)) := by
  intro t
  have h : UnitsInv ext viewRoot staticDir units s t := unitsInv_runThreads hr hs schedule
  have hend : ∀ (j : Nat) (c : Controller), units[j]? = some c → ∃ p, t.phases[j]? = some p ∧
      unitFiles staticDir (unitPlan ext viewRoot c) p =
        unitFiles staticDir (unitPlan ext viewRoot c) .finished ∧
      unitAppended (unitPlan ext viewRoot c) p = unitAppended (unitPlan ext viewRoot c) .finished := by
    intro j c hu
    have hj : j < units.length := (List.getElem?_eq_some_iff.1 hu).1
    have hj' : j < t.phases.length := h.length_phases ▸ hj
    have h0 := remainingAt_runThreads ext viewRoot staticDir units schedule s hj
    refine ⟨t.phases[j], List.getElem?_eq_getElem hj',
      unitFiles_of_ended ?_ (h.phase_ok j c _ hu (List.getElem?_eq_getElem hj'))⟩
    simpa [Threads.remainingAt, List.getElem?_eq_getElem hj'] using h0
  refine ⟨h.dirs_eq, fun q => ?_, h.viewRoot_eq, h.length_controllers, fun j c hu => ?_⟩
  · rw [h.isFile_iff]
    refine or_congr_right ⟨fun ⟨j, c, p, hu, hp, hq⟩ => ⟨j, c, hu, ?_⟩, fun ⟨j, c, hu, hq⟩ => ?_⟩
    · obtain ⟨p', hp', hf, -⟩ := hend j c hu
      cases hp.symm.trans hp'
      rwa [← hf]
    · obtain ⟨p, hp, hf, -⟩ := hend j c hu
      exact ⟨j, c, p, hu, hp, hf ▸ hq⟩
  · obtain ⟨p, hp, -, ha⟩ := hend j c hu
    rw [h.controller_eq j c p hu hp, ha]


/-- Some thread of `units`, at its phase in `t`, has written the text `v` to `q`. -/
def Written (ext : Externals) (viewRoot staticDir : Path) (units : List Controller) (t : Threads)
    (q : Path) (v : String) : Prop :=
  ∃ (j : Nat) (c : Controller) (p : UnitPhase), units[j]? = some c ∧ t.phases[j]? = some p ∧
    (q, v) ∈ unitWrites staticDir (unitPlan ext viewRoot c) p

/-- Every file holds a text some thread wrote there, or, where no thread has written, its text
in `s₀`. -/
def FilesFrom (ext : Externals) (viewRoot staticDir : Path) (units : List Controller)
    (s₀ : BuildState) (t : Threads) : Prop :=
  ∀ q, (∃ v, Written ext viewRoot staticDir units t q v ∧ t.state.fs.files.lookup q = some v) ∨
    ((∀ v, ¬ Written ext viewRoot staticDir units t q v) ∧
      t.state.fs.files.lookup q = s₀.fs.files.lookup q)

@[simp] theorem unitWrites_start (staticDir : Path)
    (plan : Except String (String × String × String × String)) :
    unitWrites staticDir plan .start = [] := by
  rcases plan with _ | ⟨_, _, _, _⟩ <;> rfl

theorem mem_unitWrites_finished {staticDir q : Path} {v : String}
    {plan : Except String (String × String × String × String)} :
    (q, v) ∈ unitWrites staticDir plan .finished ↔ ∃ n, (n, v) ∈ unitOutputs plan ∧ q = staticDir / n := by
  rcases plan with _ | ⟨a, b, x, y⟩
  · simp [unitWrites, unitOutputs]
  · simp only [unitWrites, unitOutputs, List.mem_cons, List.mem_singleton, List.not_mem_nil,
      or_false, Prod.mk.injEq]
    constructor
    · rintro (⟨rfl, rfl⟩ | ⟨rfl, rfl⟩)
      exacts [⟨a, .inl ⟨rfl, rfl⟩, rfl⟩, ⟨b, .inr ⟨rfl, rfl⟩, rfl⟩]
    · rintro ⟨n, ⟨rfl, rfl⟩ | ⟨rfl, rfl⟩, rfl⟩
      exacts [.inl ⟨rfl, rfl⟩, .inr ⟨rfl, rfl⟩]

/-- An ended thread has written what a finished one writes: nothing when its bundling raised. -/
theorem unitWrites_of_ended {staticDir : Path}
    {plan : Except String (String × String × String × String)} {p : UnitPhase}
    (h0 : p.remaining = 0) (hp : PhaseOk plan p) :
    unitWrites staticDir plan p = unitWrites staticDir plan .finished := by
  cases p with
  | finished => rfl
  | raised e =>
    obtain ⟨m, rfl, rfl⟩ := hp
    rfl
  | _ => simp [UnitPhase.remaining] at h0

section Files

variable {ext : Externals} {viewRoot staticDir : Path} {units : List Controller}
  {s₀ : BuildState} {t : Threads}

theorem stepThread_eq {j : Nat} {c : Controller} {p : UnitPhase} (hu : units[j]? = some c)
    (hp : t.phases[j]? = some p) :
    stepThread ext viewRoot staticDir units t j =
      ⟨t.phases.set j (unitStep ext viewRoot staticDir j c p t.state).1,
        (unitStep ext viewRoot staticDir j c p t.state).2⟩ := by
  simp [stepThread, hu, hp]

/-- A step of thread `j` adds to what has been written exactly what that step writes. -/
theorem written_stepThread {j : Nat} {c : Controller} {p : UnitPhase} (hu : units[j]? = some c)
    (hp : t.phases[j]? = some p) {w : List (Path × String)}
    (hw : unitWrites staticDir (unitPlan ext viewRoot c)
      (unitStep ext viewRoot staticDir j c p t.state).1 =
        unitWrites staticDir (unitPlan ext viewRoot c) p ++ w) (q : Path) (v : String) :
    Written ext viewRoot staticDir units (stepThread ext viewRoot staticDir units t j) q v ↔
      Written ext viewRoot staticDir units t q v ∨ (q, v) ∈ w := by
  have hj : j < t.phases.length := (List.getElem?_eq_some_iff.1 hp).1
  rw [stepThread_eq hu hp]
  constructor
  · rintro ⟨k, c', p', hu', hp', hm⟩
    rcases (getElem?_set_eq_some hj).1 hp' with ⟨rfl, rfl⟩ | ⟨-, hp'⟩
    · cases hu.symm.trans hu'
      rw [hw, List.mem_append] at hm
      exact hm.imp_left fun hm => ⟨j, c, p, hu, hp, hm⟩
    · exact .inl ⟨k, c', p', hu', hp', hm⟩
  · rintro (⟨k, c', p', hu', hp', hm⟩ | hm)
    · by_cases hk : j = k
      · subst hk
        cases hu.symm.trans hu'
        cases hp.symm.trans hp'
        exact ⟨j, c, _, hu, List.getElem?_set_self hj, hw ▸ List.mem_append_left _ hm⟩
      · exact ⟨k, c', p', hu', (getElem?_set_eq_some hj).2 (.inr ⟨hk, hp'⟩), hm⟩
    · exact ⟨j, c, _, hu, List.getElem?_set_self hj, hw ▸ List.mem_append_right _ hm⟩

theorem filesFrom_start :
    FilesFrom ext viewRoot staticDir units s₀ ⟨units.map fun _ => .start, s₀⟩ := fun _ =>
  .inr ⟨fun _ ⟨_, _, _, _, hp, hm⟩ => (by rw [eq_start_of_getElem? hp, unitWrites_start] at hm; cases hm),
    rfl⟩

/-- One step of any thread keeps every file's text accounted for. -/
theorem filesFrom_stepThread (hr : StaticDirReady staticDir s₀.fs)
    (h : UnitsInv ext viewRoot staticDir units s₀ t) (hf : FilesFrom ext viewRoot staticDir units s₀ t)
    (j : Nat) : FilesFrom ext viewRoot staticDir units s₀ (stepThread ext viewRoot staticDir units t j) := by
  cases hu : units[j]? with
  | none => rwa [show stepThread ext viewRoot staticDir units t j = t by simp [stepThread, hu]]
  | some c =>
    cases hp : t.phases[j]? with
    | none => rwa [show stepThread ext viewRoot staticDir units t j = t by simp [stepThread, hu, hp]]
    | some p =>
      intro q
      have hst : (stepThread ext viewRoot staticDir units t j).state =
          (unitStep ext viewRoot staticDir j c p t.state).2 := by rw [stepThread_eq hu hp]
      rcases unitStep_writes (i := j) (hr.of_dirs_eq h.dirs_eq) (h.phase_ok j c p hu hp) with
        ⟨hw, hfiles⟩ | ⟨q₀, v₀, hw, hfiles⟩
      · have hW : ∀ v, Written ext viewRoot staticDir units (stepThread ext viewRoot staticDir units t j) q v ↔
            Written ext viewRoot staticDir units t q v := fun v =>
          (written_stepThread hu hp (hw.trans (List.append_nil _).symm) q v).trans
            (or_iff_left (List.not_mem_nil _))
        simp only [hW, hst, hfiles]
        exact hf q
      · have hW := fun v => written_stepThread hu hp hw q v
        rw [hst, hfiles]
        by_cases hq : q = q₀
        · subst hq
          exact .inl ⟨v₀, (hW v₀).2 (.inr (List.mem_singleton_self _)), lookup_assocSet_self _ _ _⟩
        · rw [lookup_assocSet_of_ne hq]
          rcases hf q with ⟨v, hv, hl⟩ | ⟨hn, hl⟩
          · exact .inl ⟨v, (hW v).2 (.inl hv), hl⟩
          · refine .inr ⟨fun v hv => ?_, hl⟩
            rcases (hW v).1 hv with hv | hv
            exacts [hn v hv, hq (congrArg Prod.fst (List.mem_singleton.1 hv))]

end Files

/-- When the joins return, each thread stands at a phase where it has ended. -/
theorem runThreads_phase_ended (ext : Externals) (viewRoot : Path) {staticDir : Path}
    {units : List Controller} {s : BuildState} (hr : StaticDirReady staticDir s.fs)
    (hs : s.app.controllers = units) (schedule : List Nat) {j : Nat} {c : Controller}
    (hu : units[j]? = some c) :
    ∃ p, (runThreads ext viewRoot staticDir units schedule s).phases[j]? = some p ∧
      p.remaining = 0 ∧ PhaseOk (unitPlan ext viewRoot c) p := by
  have h : UnitsInv ext viewRoot staticDir units s _ := unitsInv_runThreads hr hs schedule
  have hj : j < units.length := (List.getElem?_eq_some_iff.1 hu).1
  have hj' := h.length_phases ▸ hj
  have h0 := remainingAt_runThreads ext viewRoot staticDir units schedule s hj
  refine ⟨_, List.getElem?_eq_getElem hj', ?_, h.phase_ok j c _ hu (List.getElem?_eq_getElem hj')⟩
  simpa [Threads.remainingAt, List.getElem?_eq_getElem hj'] using h0

/-- When the joins return, whatever the schedule, each file holds a text a thread whose bundling
returned wrote there, or, where none wrote, its text before the threads started. -/
theorem runThreads_lookup (ext : Externals) (viewRoot : Path) {staticDir : Path}
    {units : List Controller} {s : BuildState} (hr : StaticDirReady staticDir s.fs)
    (hs : s.app.controllers = units) (schedule : List Nat) (q : Path) :
    (∃ (j : Nat) (c : Controller) (v : String), units[j]? = some c ∧
        (q, v) ∈ unitWrites staticDir (unitPlan ext viewRoot c) .finished ∧
        (runThreads ext viewRoot staticDir units schedule s).state.fs.files.lookup q = some v) ∨
      ((∀ (j : Nat) (c : Controller) (v : String), units[j]? = some c →
          (q, v) ∉ unitWrites staticDir (unitPlan ext viewRoot c) .finished) ∧
        (runThreads ext viewRoot staticDir units schedule s).state.fs.files.lookup q =
          s.fs.files.lookup q) := by
  have hinv := runThreads_induction
    (fun t => UnitsInv ext viewRoot staticDir units s t ∧ FilesFrom ext viewRoot staticDir units s t)
    ⟨unitsInv_start hs, filesFrom_start⟩
    (fun _ j h => ⟨unitsInv_stepThread hr h.1 j, filesFrom_stepThread hr h.1 h.2 j⟩) schedule
  have hW : ∀ v, Written ext viewRoot staticDir units (runThreads ext viewRoot staticDir units schedule s) q v ↔
      ∃ (j : Nat) (c : Controller), units[j]? = some c ∧
        (q, v) ∈ unitWrites staticDir (unitPlan ext viewRoot c) .finished := fun v => by
    constructor
    · rintro ⟨j, c, p, hu, hp, hm⟩
      obtain ⟨p', hp', h0, hok⟩ := runThreads_phase_ended ext viewRoot hr hs schedule hu
      cases hp.symm.trans hp'
      exact ⟨j, c, hu, unitWrites_of_ended h0 hok ▸ hm⟩
    · rintro ⟨j, c, hu, hm⟩
      obtain ⟨p, hp, h0, hok⟩ := runThreads_phase_ended ext viewRoot hr hs schedule hu
      exact ⟨j, c, p, hu, hp, (unitWrites_of_ended h0 hok).symm ▸ hm⟩
  rcases hinv.2 q with ⟨v, hv, hl⟩ | ⟨hn, hl⟩
  · obtain ⟨j, c, hu, hm⟩ := (hW v).1 hv
    exact .inl ⟨j, c, v, hu, hm, hl⟩
  · exact .inr ⟨fun j c v hu hm => hn v ((hW v).2 ⟨j, c, hu, hm⟩), hl⟩

/-- The threads start from an empty static directory: the managed static directory of the view
root, a directory with nothing below it, every file outside it kept and the application
unchanged. -/
theorem prepareStaticDir_spec {viewRoot : Path} {s s' : BuildState} {d : Path}
    (h : prepareStaticDir viewRoot s = .ok d s') :
    d = managedDirOf s.fs viewRoot "_static" ∧ s'.app = s.app ∧ StaticDirReady d s'.fs ∧
      ∀ q, s'.fs.isFile q ↔ s.fs.isFile q ∧ d.isPrefixOf q = false := by
  simp only [prepareStaticDir, bind_ok_iff, readFs_apply, liftFs_ok_iff, pure_apply] at h
  obtain ⟨d₁, s₁, h₁, _, _, ⟨rfl, rfl⟩, h⟩ := h
  obtain ⟨rfl, happ, hfiles₁, hdir₁, -⟩ := getManagedDirCommon_spec h₁
  rw [if_pos (by simp [Fs.exists, hdir₁])] at h
  simp only [bind_ok_iff, liftFs_ok_iff, pure_apply] at h
  obtain ⟨_, _, ⟨fs₂, hrm, rfl⟩, _, _, ⟨fs₃, hmk, rfl⟩, h⟩ := h
  cases h
  obtain ⟨hfiles₃, hdir₃, hnew⟩ := Fs.mkdirParentsAux_ok hmk
  have hrm := Fs.rmtree_ok hrm
  refine ⟨rfl, happ, ⟨hdir₃, fun n => ?_⟩, fun q => ?_⟩
  · by_contra hq
    rcases hnew _ (by simpa using hq) with hq | hq
    · simp [(hrm _).1] at hq
    · simp only [Path.div_tail, List.length_append, List.length_singleton] at hq
      omega
  · simpa [Fs.isFile, hfiles₃, hfiles₁] using (hrm q).2

/-- What `build_javascript_chunks` leaves when it returns, whatever the schedule: below the
managed static directory `d` exactly the script and the map of each controller whose bundling
returned, every other file as it was, and each controller with its own script appended when
its bundling returned and as it was when it raised. -/
theorem buildJavascriptChunks_spec {ext : Externals} {schedule : List Nat} {s s' : BuildState}
    (h : buildJavascriptChunks ext schedule s = .ok () s') :
    ∃ d, d = managedDirOf s.fs s.app.viewRoot "_static" ∧
      (∀ q, s'.fs.isFile q ↔ (s.fs.isFile q ∧ d.isPrefixOf q = false) ∨
        ∃ (j : Nat) (c : Controller), s.app.controllers[j]? = some c ∧
          q ∈ unitFiles d (unitPlan ext s.app.viewRoot c) .finished) ∧
      s'.app.viewRoot = s.app.viewRoot ∧ s'.app.controllers.length = s.app.controllers.length ∧
      ∀ (j : Nat) (c : Controller), s.app.controllers[j]? = some c → s'.app.controllers[j]? =
        some (c.withScripts (unitAppended (unitPlan ext s.app.viewRoot c) .finished)) := by
  simp only [buildJavascriptChunks, bind_ok_iff, readApp_apply, modify_apply] at h
  obtain ⟨_, _, ⟨rfl, rfl⟩, d, s₁, hd, h⟩ := h
  cases h
  obtain ⟨rfl, happ, hready, hfiles⟩ := prepareStaticDir_spec hd
  obtain ⟨-, hf, hroot, hlen, hc⟩ :=
    runThreads_spec ext s.app.viewRoot hready (congrArg App.controllers happ) schedule
  refine ⟨_, rfl, fun q => ?_, hroot.trans (congrArg App.viewRoot happ), hlen, hc⟩
  rw [hf, hfiles]

/-- Emptying the static directory and making it again removes nothing outside it, and raises
only `OSError`s. -/
theorem prepareStaticDir_guarantees (viewRoot : Path) :
    Guarantees KeepsUnmanaged BuildError.IsOs (prepareStaticDir viewRoot)
      fun d => d.tail.getLast? = some "_static" := by
  refine ((getManagedDirCommon_guarantees _ _).mono (fun _ _ => MakesDir.keepsUnmanaged)
    (fun _ => id) fun _ => id).bind fun d hd => (Guarantees.readFs _).bind fun _ _ => ?_
  have hmk : Guarantees KeepsUnmanaged BuildError.IsOs
      (liftFs (Fs.mkdirParents false · d) >>= fun _ => (pure d : BuildM Path))
      fun d => d.tail.getLast? = some "_static" :=
    (Guarantees.liftFs (fun _ _ h => keepsUnmanaged_of_files_eq (Fs.mkdirParentsAux_ok h).1
      fun _ => Fs.isDir_of_mkdirParentsAux h) fun o => ⟨o, rfl⟩).bind fun _ _ => Guarantees.pure hd
  exact Guarantees.ite
    ((Guarantees.liftFs (fun _ _ => keepsUnmanaged_rmtree hd) fun o => ⟨o, rfl⟩).bind fun _ _ => hmk)
    ((Guarantees.pure (Q := fun _ => True) trivial).bind fun _ _ => hmk)

/-- Whatever order the threads step in, they write only into the static directory. -/
theorem runThreads_keepsUnmanaged (ext : Externals) (viewRoot : Path) {staticDir : Path}
    {units : List Controller} {s : BuildState} (hr : StaticDirReady staticDir s.fs)
    (hs : s.app.controllers = units) (hd : staticDir.tail.getLast? = some "_static")
    (schedule : List Nat) :
    KeepsUnmanaged s (runThreads ext viewRoot staticDir units schedule s).state := by
  refine ⟨fun q hq => ?_, fun p _ hp => ?_⟩
  · rcases runThreads_lookup ext viewRoot hr hs schedule q with ⟨_, _, _, _, hw, _⟩ | ⟨-, h⟩
    · obtain ⟨n, -, rfl⟩ := mem_unitWrites_finished.1 hw
      exact absurd (.inr (static_mem_of_isPrefixOf hd (Path.isPrefixOf_div _ _))) hq
    · exact h
  · show List.contains _ _
    rwa [(runThreads_spec ext viewRoot hr hs schedule).1]

/-- `build_javascript_chunks` changes nothing outside the static directory, and raises only
`OSError`s: a bundling that raises ends its thread, not the step. -/
theorem buildJavascriptChunks_guarantees (ext : Externals) (schedule : List Nat) :
    Guarantees KeepsUnmanaged BuildError.IsOs (buildJavascriptChunks ext schedule) fun _ => True where
  ok s _ s' h := by
    simp only [buildJavascriptChunks, bind_ok_iff, readApp_apply, modify_apply] at h
    obtain ⟨_, _, ⟨rfl, rfl⟩, d, s₃, hd, h⟩ := h
    cases h
    obtain ⟨-, happ, hready, -⟩ := prepareStaticDir_spec hd
    obtain ⟨h₁, hlast⟩ := (prepareStaticDir_guarantees _).ok _ _ _ hd
    exact ⟨trans_of _ h₁ (runThreads_keepsUnmanaged ext _ hready
      (congrArg App.controllers happ) hlast schedule), trivial⟩
  error s e s' h := by
    simp only [buildJavascriptChunks, bind_error_iff, readApp_apply, modify_apply] at h
    rcases h with h | ⟨_, _, ⟨⟩, h | ⟨_, _, _, h⟩⟩
    · nomatch h
    · exact (prepareStaticDir_guarantees _).error _ _ _ h
    · nomatch h

end Mountaineer.Client
