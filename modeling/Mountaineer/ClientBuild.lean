import Mountaineer.ClientGenerate
import Mountaineer.ClientChunks

/-! `ClientBuilder.build`: the check, the generators, then the JavaScript chunks. What a build
raises, and what it leaves in the static directory and in the controllers' `bundled_scripts`. -/
namespace Mountaineer.Client

/-- `ClientBuilder.build`, the threads of `build_javascript_chunks` stepping in the order
`schedule` gives. -/
def build (ext : Externals) (schedule : List Nat) : BuildM Unit := do
  validateUniquePaths
  generateStaticFiles ext
  generateModelDefinitions ext
  generateActionDefinitions ext
  generateGlobalModelImports ext
  generateServerProvider
  generateViewServers ext
  buildJavascriptChunks ext schedule

/-- The generators `build()` runs between the check and the chunks. -/
def generateClientCode (ext : Externals) : BuildM Unit := do
  generateStaticFiles ext
  generateModelDefinitions ext
  generateActionDefinitions ext
  generateGlobalModelImports ext
  generateServerProvider
  generateViewServers ext

theorem build_eq (ext : Externals) (schedule : List Nat) :
    build ext schedule = (validateUniquePaths >>= fun _ => generateClientCode ext) >>=
      fun _ => buildJavascriptChunks ext schedule := by
  simp only [build, generateClientCode, bind_assoc]

/-- A property of steps closed under `bind`, `pure` and `liftExcept` holds of the generators when
it holds of reading the application, of `get_managed_code_dir` of the view root and of each view
path, and of each write of a file named other than `_server` into a `_server` directory. -/
theorem generateClientCode_of {P : (α : Type) → BuildM α → (α → Prop) → Prop} (L : StepLogic P)
    {A : App → Prop} (hread : P App readApp A)
    (hdir : ∀ app, A app → ∀ path, (path = app.viewRoot ∨ ∃ c ∈ app.controllers, c.viewPath = path) →
      P Path (getManagedCodeDir path) fun d => d.tail.getLast? = some "_server")
    (hw : ∀ d : Path, d.tail.getLast? = some "_server" → ∀ name text : String, name ≠ "_server" →
      P Unit (writeFile (d / name) text) fun _ => True)
    (ext : Externals) : P Unit (generateClientCode ext) fun _ => True := by
  have hroot := fun app ha => hdir app ha _ (.inl rfl)
  have hview := fun app ha c hc => hdir app ha _ (.inr ⟨c, hc, rfl⟩)
  refine L.bind (L.bind hread fun app ha => L.bind (hroot app ha) fun d hd =>
    hw d hd _ _ (by decide)) fun _ _ => ?_
  refine L.bind (L.bind hread fun app ha => L.forM_mem fun c hc =>
    L.bind (L.liftExcept _) fun _ _ => L.bind (L.liftExcept _) fun _ _ =>
    L.bind (L.liftExcept _) fun _ _ => L.bind (hview app ha c hc) fun d hd =>
    hw d hd _ _ (by decide)) fun _ _ => ?_
  refine L.bind (L.bind hread fun app ha => L.forM_mem fun c hc =>
    L.bind (hview app ha c hc) fun d hd => L.bind (hroot app ha) fun _ _ =>
    L.bind (L.liftExcept _) fun _ _ => hw d hd _ _ (by decide)) fun _ _ => ?_
  refine L.bind (L.bind hread fun app ha => L.bind (L.mapM_mem fun c hc =>
    L.bind (hview app ha c hc) fun _ _ => L.pure trivial) fun _ _ =>
    L.bind (hroot app ha) fun d hd => hw d hd _ _ (by decide)) fun _ _ => ?_
  refine L.bind (L.bind hread fun app ha => L.bind (hroot app ha) fun d hd =>
    hw d hd _ _ (by decide)) fun _ _ => ?_
  exact L.bind hread fun app ha => L.forM_mem fun c hc => L.bind (hview app ha c hc) fun d hd =>
    L.bind (hroot app ha) fun _ _ => hw d hd _ _ (by decide)

/-- The generators change only files directly in `_server` directories, add only directories
named `_server`, and raise no `ValueError`. -/
theorem generateClientCode_guarantees (ext : Externals) :
    Guarantees GeneratorStep (fun e => ¬ e.IsValueError) (generateClientCode ext) fun _ => True :=
  generateClientCode_of (Guarantees.stepLogic fun _ ⟨_, h⟩ => nomatch h) Guarantees.readApp
    (fun _ _ path _ => (getManagedDirCommon_guarantees path "_server").mono
      (fun _ _ => GeneratorStep.of_makesDir) (fun _ => BuildError.IsOs.not_isValueError) fun _ => id)
    (fun _ hd name text _ => (writeManaged_guarantees hd name text).mono (fun _ _ => id)
      (fun _ => BuildError.IsOs.not_isValueError) fun _ => id) ext

/-- The check and the generators leave the state as a step of the generators may. -/
theorem checkAndGenerate_step {ext : Externals} {s s₁ : BuildState} {u : Unit}
    (h : (validateUniquePaths >>= fun _ => generateClientCode ext) s = .ok u s₁) :
    GeneratorStep s s₁ := by
  obtain ⟨_, s₀, h₀, h₁⟩ := bind_ok_iff.1 h
  cases validateUniquePaths_ok h₀
  exact ((generateClientCode_guarantees ext).ok _ _ _ h₁).1

/-- `build()` raises a `ValueError` exactly when the check raises it, and then in the state it
started from. -/
theorem build_valueError_iff {ext : Externals} {schedule : List Nat} {s s' : BuildState}
    {args : List String} :
    build ext schedule s = .error (.valueError args) s' ↔
      validateUniquePathsResult s.fs s.app.controllers = .error (.valueError args) ∧ s' = s := by
  constructor
  · intro h
    rw [build_eq] at h
    rcases bind_error_iff.1 h with h | ⟨_, _, -, h⟩
    · rcases bind_error_iff.1 h with h | ⟨_, _, -, h⟩
      · rw [validateUniquePaths_apply] at h
        split at h
        · cases h
        · cases h
          exact ⟨‹_›, rfl⟩
      · exact absurd ⟨_, rfl⟩ ((generateClientCode_guarantees ext).error _ _ _ h).2
    · exact absurd ⟨_, rfl⟩
        ((buildJavascriptChunks_guarantees ext schedule).error _ _ _ h).2.not_isValueError
  · rintro ⟨hv, rfl⟩
    rw [build_eq]
    exact bind_error_iff.2 (.inl (bind_error_iff.2 (.inl (by rw [validateUniquePaths_apply, hv]))))

/-- `build()` raises a `ValueError` exactly when two controllers share the parent of their
view path or a view path is missing, before it changes anything; with a shared parent the
error has one line for each controller of a group of two or more, and no other line. -/
theorem build_raises_valueError_iff (ext : Externals) (schedule : List Nat) (s : BuildState) :
    ((∃ args s', build ext schedule s = .error (.valueError args) s') ↔
      ¬ (s.app.controllers.map (·.viewPath.parent)).Nodup ∨
        ∃ c ∈ s.app.controllers, s.fs.exists c.viewPath = false) ∧
    (∀ args s', build ext schedule s = .error (.valueError args) s' → s' = s) ∧
    (¬ (s.app.controllers.map (·.viewPath.parent)).Nodup → ∃ lines,
      build ext schedule s = .error (.valueError
        ["Found duplicate view paths under controller management, ensure definitions are unique",
          "\n".intercalate lines]) s ∧
      List.Perm lines ((s.app.controllers.filter (sharesParent s.app.controllers)).map
        fun c => "  " ++ c.viewPath.parent.toString ++ ": " ++ c.repr)) := by
  refine ⟨?_, fun _ _ h => (build_valueError_iff.1 h).2, fun h => ?_⟩
  · rw [← validateUniquePathsResult_error_iff]
    constructor
    · rintro ⟨_, _, h⟩
      exact ⟨_, (build_valueError_iff.1 h).1⟩
    · rintro ⟨e, he⟩
      obtain ⟨args, rfl⟩ := validateUniquePathsResult_valueError he
      exact ⟨args, s, build_valueError_iff.2 ⟨he, rfl⟩⟩
  · obtain ⟨lines, hl, hp⟩ := @validateUniquePathsResult_of_not_nodup s.fs _ h
    exact ⟨lines, build_valueError_iff.2 ⟨hl, rfl⟩, hp⟩

theorem buildJavascriptChunks_ok_iff (ext : Externals) (schedule : List Nat) (s : BuildState) :
    (∃ s', buildJavascriptChunks ext schedule s = .ok () s') ↔
      ∃ d s₁, prepareStaticDir s.app.viewRoot s = .ok d s₁ := by
  simp only [buildJavascriptChunks, bind_ok_iff, readApp_apply, modify_apply]
  constructor
  · rintro ⟨_, _, _, h₁, d, s₁, h, -⟩
    cases h₁
    exact ⟨d, s₁, h⟩
  · rintro ⟨d, s₁, h⟩
    exact ⟨_, _, _, rfl, d, s₁, h, rfl⟩

/-- Whether `build()` returns is settled before the threads start: by the check, the
generators, and the static directory. -/
theorem build_ok_iff (ext : Externals) (schedule : List Nat) (s : BuildState) :
    (∃ s', build ext schedule s = .ok () s') ↔
      ∃ s₁ d s₂, (validateUniquePaths >>= fun _ => generateClientCode ext) s = .ok () s₁ ∧
        prepareStaticDir s₁.app.viewRoot s₁ = .ok d s₂ := by
  rw [build_eq]
  constructor
  · rintro ⟨s', h⟩
    obtain ⟨⟨⟩, s₁, h₁, h⟩ := bind_ok_iff.1 h
    obtain ⟨d, s₂, h⟩ := (buildJavascriptChunks_ok_iff ext schedule s₁).1 ⟨_, h⟩
    exact ⟨s₁, d, s₂, h₁, h⟩
  · rintro ⟨s₁, d, s₂, h₁, h⟩
    obtain ⟨s', h'⟩ := (buildJavascriptChunks_ok_iff ext schedule s₁).2 ⟨d, s₂, h⟩
    exact ⟨s', bind_ok_iff.2 ⟨(), s₁, h₁, h'⟩⟩

/-- What a build that returns leaves, whatever the schedule: each controller with this run's
script appended when its bundling returned, and as it was when it raised; and, when the view root
is not directly in a `_server` directory, below the managed static directory of the view root
exactly the script and the map of each controller whose bundling returned in this run. -/
theorem build_spec {ext : Externals} {schedule : List Nat} {s s' : BuildState}
    (h : build ext schedule s = .ok () s') :
    (s.app.viewRoot.parent.tail.getLast? ≠ some "_server" → ∀ n,
      s'.fs.isFile (managedDirOf s.fs s.app.viewRoot "_static" / n) ↔
        ∃ (j : Nat) (c : Controller) (a b x y : String), s.app.controllers[j]? = some c ∧
          unitPlan ext s.app.viewRoot c = .ok (a, b, x, y) ∧ (n = a ∨ n = b)) ∧
      ∀ (j : Nat) (c : Controller), s.app.controllers[j]? = some c → s'.app.controllers[j]? =
        some (c.withScripts (unitAppended (unitPlan ext s.app.viewRoot c) .finished)) := by
  rw [build_eq] at h
  obtain ⟨⟨⟩, s₁, h₁, h⟩ := bind_ok_iff.1 h
  have hstep := checkAndGenerate_step h₁
  obtain ⟨d, rfl, hf, -, -, hc⟩ := buildJavascriptChunks_spec h
  rw [hstep.1] at hf hc
  refine ⟨fun hroot n => ?_, hc⟩
  have hd : managedDirOf s₁.fs s.app.viewRoot "_static" = managedDirOf s.fs s.app.viewRoot "_static" := by
    simp only [managedDirOf, Fs.isFile, hstep.2.1 _ hroot]
  rw [← hd]
  simp only [hf, Path.isPrefixOf_div, Bool.true_eq_false, and_false, mem_unitFiles_finished,
    Path.div_inj, true_and, exists_and_right, false_or, exists_and_left]

/-- A controller whose bundling raised gets no script appended by a build that returns. -/
theorem unitAppended_of_bundle_error {ext : Externals} {viewRoot : Path} {c : Controller}
    {e : String} (h : ext.bundleJavascript c.viewPath viewRoot = .error e) :
    unitAppended (unitPlan ext viewRoot c) .finished = [] := by
  simp [unitPlan, h, bind, Except.bind, unitAppended]

/-- Whether `build()` returns depends neither on what the bundler does for any controller nor
on the order of the threads' steps, and a controller whose bundling raised comes out of a
returning build with no script appended. -/
theorem build_returns_whatever_units_raise (ext : Externals) (schedule schedule' : List Nat)
    (bundle : Path → Path → Except String (String × String)) (s : BuildState) :
    ((∃ s', build ext schedule s = .ok () s') ↔
      ∃ s', build { ext with bundleJavascript := bundle } schedule' s = .ok () s') ∧
    ∀ s', build ext schedule s = .ok () s' → ∀ (j : Nat) (c : Controller),
      s.app.controllers[j]? = some c →
      (∃ e, ext.bundleJavascript c.viewPath s.app.viewRoot = .error e) →
      s'.app.controllers[j]? = some c := by
  refine ⟨by rw [build_ok_iff, build_ok_iff]; rfl, fun s' h j c hc ⟨e, he⟩ => ?_⟩
  rw [(build_spec h).2 j c hc, unitAppended_of_bundle_error he, Controller.withScripts_nil]

/-- A script name that an earlier run appended to a controller's `bundled_scripts`, and that no
bundle of this run gives again, is still in the list after a build that returns, and names no
file of the managed static directory of the view root, when the view root is not directly in a
`_server` directory and the class names are ASCII, where the model's script names are Python's. -/
theorem build_keeps_deleted_script_names (ext : Externals) (schedule : List Nat)
    (s : BuildState) (hroot : s.app.viewRoot.parent.tail.getLast? ≠ some "_server")
    (hascii : ∀ c ∈ s.app.controllers, IsAscii c.className) :
    ∀ s', build ext schedule s = .ok () s' → ∀ (j : Nat) (c : Controller) (n : String),
      s.app.controllers[j]? = some c → n ∈ c.bundledScripts →
      (∀ (k : Nat) (c' : Controller) (a b x y : String), s.app.controllers[k]? = some c' →
        unitPlan ext s.app.viewRoot c' = .ok (a, b, x, y) → n ≠ a ∧ n ≠ b) →
      ∃ c', s'.app.controllers[j]? = some c' ∧ n ∈ c'.bundledScripts ∧
        s'.fs.isFile (managedDirOf s.fs s.app.viewRoot "_static" / n) = false := by
  intro s' h j c n hc hn hfresh
  obtain ⟨hf, hctrl⟩ := build_spec h
  refine ⟨_, hctrl j c hc, by simp [Controller.withScripts, hn], ?_⟩
  rw [Bool.eq_false_iff, Ne, hf hroot]
  rintro ⟨k, c', a, b, x, y, hk, hplan, rfl | rfl⟩
  exacts [(hfresh k c' _ b x y hk hplan).1 rfl, (hfresh k c' a _ x y hk hplan).2 rfl]

/-- The directories of the one view once the generators have run, and once the static directory
is made; each run of the one view below is evaluated one generator at a time. -/
def generatedDirs : List Path := viewDirs ++ [⟨true, ["v", "_server"]⟩, ⟨true, ["v", "h", "_server"]⟩]

def staticDirs : List Path := generatedDirs ++ [⟨true, ["v", "_static"]⟩]

/-- The files the generators write, in the order they first write them. -/
def generatedFiles : List (Path × String) :=
  [(⟨true, ["v", "_server", "api.ts"]⟩, ""),
    (⟨true, ["v", "h", "_server", "models.ts"]⟩, modelsText (modelSchemas [] [])),
    (⟨true, ["v", "h", "_server", "actions.ts"]⟩, actionsText "x" [] []),
    (⟨true, ["v", "_server", "models.ts"]⟩,
      "\n".intercalate [globalModelImportLine "x" (viewController [])]),
    (⟨true, ["v", "_server", "server.tsx"]⟩, serverProviderText [viewController []]),
    (⟨true, ["v", "h", "_server", "useServer.ts"]⟩, useServerText "x" (viewController []))]

def staticFiles (scriptName mapName contents mapContents : String) : List (Path × String) :=
  [(⟨true, ["v", "_static", scriptName]⟩, contents), (⟨true, ["v", "_static", mapName]⟩, mapContents)]

theorem generateClientCode_firstRun (bundle : Except String (String × String)) :
    (validateUniquePaths >>= fun _ => generateClientCode (viewExternals bundle))
        (viewState viewDirs viewFiles []) =
      .ok () (viewState generatedDirs (viewFiles ++ generatedFiles) []) := by
  have h₁ : generateStaticFiles (viewExternals bundle) (viewState viewDirs viewFiles []) =
      .ok () (viewState (viewDirs ++ [⟨true, ["v", "_server"]⟩])
        (viewFiles ++ generatedFiles.take 1) []) := rfl
  have h₂ : generateModelDefinitions (viewExternals bundle)
      (viewState (viewDirs ++ [⟨true, ["v", "_server"]⟩]) (viewFiles ++ generatedFiles.take 1) []) =
      .ok () (viewState generatedDirs (viewFiles ++ generatedFiles.take 2) []) := rfl
  have h₃ : generateActionDefinitions (viewExternals bundle)
      (viewState generatedDirs (viewFiles ++ generatedFiles.take 2) []) =
      .ok () (viewState generatedDirs (viewFiles ++ generatedFiles.take 3) []) := rfl
  have h₄ : generateGlobalModelImports (viewExternals bundle)
      (viewState generatedDirs (viewFiles ++ generatedFiles.take 3) []) =
      .ok () (viewState generatedDirs (viewFiles ++ generatedFiles.take 4) []) := rfl
  have h₅ : generateServerProvider (viewState generatedDirs (viewFiles ++ generatedFiles.take 4) []) =
      .ok () (viewState generatedDirs (viewFiles ++ generatedFiles.take 5) []) := rfl
  have h₆ : generateViewServers (viewExternals bundle)
      (viewState generatedDirs (viewFiles ++ generatedFiles.take 5) []) =
      .ok () (viewState generatedDirs (viewFiles ++ generatedFiles) []) := rfl
  exact bind_ok_iff.2 ⟨(), _, rfl, bind_ok_iff.2 ⟨(), _, h₁, bind_ok_iff.2 ⟨(), _, h₂,
    bind_ok_iff.2 ⟨(), _, h₃, bind_ok_iff.2 ⟨(), _, h₄, bind_ok_iff.2 ⟨(), _, h₅, h₆⟩⟩⟩⟩⟩⟩

/-- A bundler that raises: the build returns, with no script written and none appended. -/
theorem build_returns_after_failed_bundle :
    build (viewExternals (.error "bundle failed")) [] (viewState viewDirs viewFiles []) =
      .ok () (viewState staticDirs (viewFiles ++ generatedFiles) []) := by
  rw [build_eq]
  exact bind_ok_iff.2 ⟨(), _, generateClientCode_firstRun _, rfl⟩

/-- The first run with a bundler that raises returns, and its controller comes out as it went in. -/
theorem build_returns_whatever_units_raise_failed_bundle :
    build (viewExternals (.error "bundle failed")) [] (viewState viewDirs viewFiles []) =
      .ok () (viewState staticDirs (viewFiles ++ generatedFiles) []) ∧
    (viewState staticDirs (viewFiles ++ generatedFiles) []).app.controllers[0]? =
      some (viewController []) :=
  have h : build (viewExternals (.error "bundle failed")) [] (viewState viewDirs viewFiles []) =
      .ok () (viewState staticDirs (viewFiles ++ generatedFiles) []) := by
    rw [build_eq]
    exact bind_ok_iff.2 ⟨(), _, generateClientCode_firstRun _, rfl⟩
  ⟨h, (build_returns_whatever_units_raise _ [] [] (fun _ _ => .error "bundle failed") _).2 _ h 0 _
    rfl ⟨_, rfl⟩⟩

/-- The one view with its render model named `home_render`. -/
def homeRenderController : Controller :=
  ⟨"H", ⟨true, ["v", "h", "p"]⟩, "home_render", [], [], "h"⟩

def homeRenderState : BuildState :=
  ⟨⟨viewDirs, viewFiles⟩, ⟨⟨true, ["v"]⟩, [homeRenderController]⟩⟩

/-- The files the generators write for it, in the order they first write them. -/
def homeRenderFiles : List (Path × String) :=
  [(⟨true, ["v", "_server", "api.ts"]⟩, ""),
    (⟨true, ["v", "h", "_server", "models.ts"]⟩, modelsText (modelSchemas [] [])),
    (⟨true, ["v", "h", "_server", "actions.ts"]⟩, actionsText "x" [] []),
    (⟨true, ["v", "_server", "models.ts"]⟩,
      "\n".intercalate [globalModelImportLine "x" homeRenderController]),
    (⟨true, ["v", "_server", "server.tsx"]⟩, serverProviderText [homeRenderController]),
    (⟨true, ["v", "h", "_server", "useServer.ts"]⟩, useServerText "x" homeRenderController)]

/-- A render model named `home_render`: the generators write a `useServer.ts` that imports
`home_render` from the controller's `models.ts`, and a root `models.ts` that re-exports
`HomeRender` from the same file (`x` is its path relative to the root). -/
theorem render_model_imported_under_two_names :
    ∃ s', generateClientCode (viewExternals (.ok ("c1", "m1"))) homeRenderState = .ok () s' ∧
      s'.fs.files.lookup ⟨true, ["v", "h", "_server", "useServer.ts"]⟩ =
        some (useServerText "x" homeRenderController) ∧
      s'.fs.files.lookup ⟨true, ["v", "_server", "models.ts"]⟩ =
        some "export type \x7b HomeRender as HHomeRender \x7d from '../x'" ∧
      useServerImports "x" homeRenderController =
        "import React, \x7b useContext \x7d from 'react';\n" ++
          "import \x7b ServerContext \x7d from 'x/server';\n" ++
          "import \x7b applySideEffect \x7d from 'x/api';\n" ++
          "import \x7b home_render \x7d from './models';" := by
  have h₁ : generateStaticFiles (viewExternals (.ok ("c1", "m1"))) homeRenderState =
      .ok () ⟨⟨viewDirs ++ [⟨true, ["v", "_server"]⟩], viewFiles ++ homeRenderFiles.take 1⟩,
        homeRenderState.app⟩ := rfl
  have h₂ : generateModelDefinitions (viewExternals (.ok ("c1", "m1")))
      ⟨⟨viewDirs ++ [⟨true, ["v", "_server"]⟩], viewFiles ++ homeRenderFiles.take 1⟩,
        homeRenderState.app⟩ =
      .ok () ⟨⟨generatedDirs, viewFiles ++ homeRenderFiles.take 2⟩, homeRenderState.app⟩ := rfl
  have h₃ : generateActionDefinitions (viewExternals (.ok ("c1", "m1")))
      ⟨⟨generatedDirs, viewFiles ++ homeRenderFiles.take 2⟩, homeRenderState.app⟩ =
      .ok () ⟨⟨generatedDirs, viewFiles ++ homeRenderFiles.take 3⟩, homeRenderState.app⟩ := rfl
  have h₄ : generateGlobalModelImports (viewExternals (.ok ("c1", "m1")))
      ⟨⟨generatedDirs, viewFiles ++ homeRenderFiles.take 3⟩, homeRenderState.app⟩ =
      .ok () ⟨⟨generatedDirs, viewFiles ++ homeRenderFiles.take 4⟩, homeRenderState.app⟩ := rfl
  have h₅ : generateServerProvider
      ⟨⟨generatedDirs, viewFiles ++ homeRenderFiles.take 4⟩, homeRenderState.app⟩ =
      .ok () ⟨⟨generatedDirs, viewFiles ++ homeRenderFiles.take 5⟩, homeRenderState.app⟩ := rfl
  have h₆ : generateViewServers (viewExternals (.ok ("c1", "m1")))
      ⟨⟨generatedDirs, viewFiles ++ homeRenderFiles.take 5⟩, homeRenderState.app⟩ =
      .ok () ⟨⟨generatedDirs, viewFiles ++ homeRenderFiles⟩, homeRenderState.app⟩ := rfl
  exact ⟨_, bind_ok_iff.2 ⟨(), _, h₁, bind_ok_iff.2 ⟨(), _, h₂, bind_ok_iff.2 ⟨(), _, h₃,
    bind_ok_iff.2 ⟨(), _, h₄, bind_ok_iff.2 ⟨(), _, h₅, h₆⟩⟩⟩⟩⟩, rfl, by decide, rfl⟩

/-- The state the first of two runs leaves, its script `h-c1.js` bundled. -/
def firstRunState : BuildState :=
  viewState staticDirs (viewFiles ++ generatedFiles ++ staticFiles "h-c1.js" "h-c1.js.map" "c1" "m1")
    ["h-c1.js"]

/-- The second run rewrites every generated file with the same text. -/
theorem generateClientCode_secondRun (bundle : Except String (String × String)) :
    (validateUniquePaths >>= fun _ => generateClientCode (viewExternals bundle)) firstRunState =
      .ok () firstRunState := by
  have h₁ : generateStaticFiles (viewExternals bundle) firstRunState = .ok () firstRunState := rfl
  have h₂ : generateModelDefinitions (viewExternals bundle) firstRunState =
    .ok () firstRunState := rfl
  have h₃ : generateActionDefinitions (viewExternals bundle) firstRunState =
    .ok () firstRunState := rfl
  have h₄ : generateGlobalModelImports (viewExternals bundle) firstRunState =
    .ok () firstRunState := rfl
  have h₅ : generateServerProvider firstRunState = .ok () firstRunState := rfl
  have h₆ : generateViewServers (viewExternals bundle) firstRunState = .ok () firstRunState := rfl
  exact bind_ok_iff.2 ⟨(), _, rfl, bind_ok_iff.2 ⟨(), _, h₁, bind_ok_iff.2 ⟨(), _, h₂,
    bind_ok_iff.2 ⟨(), _, h₃, bind_ok_iff.2 ⟨(), _, h₄, bind_ok_iff.2 ⟨(), _, h₅, h₆⟩⟩⟩⟩⟩⟩

/-- The state the second run leaves, its bundle now `h-c2.js`. -/
def secondRunState : BuildState :=
  viewState staticDirs (viewFiles ++ generatedFiles ++ staticFiles "h-c2.js" "h-c2.js.map" "c2" "m2")
    ["h-c1.js", "h-c2.js"]

theorem build_secondRun :
    build (viewExternals (.ok ("c2", "m2"))) [] firstRunState = .ok () secondRunState := by
  rw [build_eq]
  exact bind_ok_iff.2 ⟨(), _, generateClientCode_secondRun _, rfl⟩

/-- Two runs, the view's bundle changing between them: after the second, `bundled_scripts`
still lists `h-c1.js`, which names no file. -/
theorem rebuild_keeps_deleted_script_name :
    build (viewExternals (.ok ("c1", "m1"))) [] (viewState viewDirs viewFiles []) =
      .ok () firstRunState ∧
    build (viewExternals (.ok ("c2", "m2"))) [] firstRunState =
      .ok () (viewState staticDirs
        (viewFiles ++ generatedFiles ++ staticFiles "h-c2.js" "h-c2.js.map" "c2" "m2")
        ["h-c1.js", "h-c2.js"]) ∧
    (viewState staticDirs
        (viewFiles ++ generatedFiles ++ staticFiles "h-c2.js" "h-c2.js.map" "c2" "m2")
        ["h-c1.js", "h-c2.js"]).fs.isFile ⟨true, ["v", "_static", "h-c1.js"]⟩ = false := by
  refine ⟨?_, build_secondRun, by decide⟩
  rw [build_eq]
  exact bind_ok_iff.2 ⟨(), _, generateClientCode_firstRun _, rfl⟩

/-- The second run's bundle gives only `h-c2.js`, so `h-c1.js` is fresh: it stays listed and
names no file. -/
theorem build_keeps_deleted_script_names_rebuild :
    firstRunState.app.viewRoot.parent.tail.getLast? ≠ some "_server" ∧
    (∀ c ∈ firstRunState.app.controllers, IsAscii c.className) ∧
    ∃ c', secondRunState.app.controllers[0]? = some c' ∧ "h-c1.js" ∈ c'.bundledScripts ∧
      secondRunState.fs.isFile
        (managedDirOf firstRunState.fs firstRunState.app.viewRoot "_static" / "h-c1.js") = false :=
  ⟨by decide, by decide, build_keeps_deleted_script_names _ [] firstRunState (by decide) (by decide) _
    build_secondRun 0 _ "h-c1.js" rfl (.head _) fun k c' a b x y hk hp => by
      match k, hk with
      | 0, hk =>
        obtain rfl := Option.some.inj hk
        obtain ⟨rfl, rfl, -⟩ := Prod.mk.inj_iff.1 (Except.ok.inj hp)
        exact ⟨by decide, by decide⟩⟩

end Mountaineer.Client
