import Mathlib.Data.String.Basic
import Mathlib.Data.List.Sort
import Mountaineer.ClientInflection
import Mountaineer.ClientSteps
import Mountaineer.ClientJs

/-! The generated TypeScript: `models.ts`, `actions.ts` and `useServer.ts` in each controller's
managed directory, and `api.ts`, `models.ts` and `server.tsx` in the view root's. Each generator
is its text, then the writes the source makes. -/
namespace Mountaineer.Client


/-- The `schemas` dict: the render model's declarations, then the components', a component
replacing a declaration of the same name where it stands. -/
def modelSchemas (render components : List (String × String)) : List (String × String) :=
  assocMerge (assocMerge [] render) components

/-- The text of a controller's `models.ts`: the declarations sorted by name, names compared as
Python compares `str`, code point by code point (core's order on `String`). -/
def modelsText (schemas : List (String × String)) : String :=
  "\n\n".intercalate ((schemas.mergeSort fun a b => @decide _ (String.decLE a.1 b.1)).map Prod.snd)

/-- The loop over `base.components.schemas`: each component converted by
`convert_schema_to_interface`, in order, the first error ending it. -/
def convertComponents (convert : String → Except String String) :
    List (String × String) → Except String (List (String × String))
  | [] => .ok []
  | (schemaName, component) :: rest => do
    let schema ← convert component
    let rest ← convertComponents convert rest
    pure ((schemaName, schema) :: rest)

/-- `ClientBuilder.generate_model_definitions`: the OpenAPI document first, then the render
model, then the components. -/
def generateModelDefinitions (ext : Externals) : BuildM Unit := do
  let app ← readApp
  app.controllers.forM fun c => do
    let base ← liftExcept (ext.openapiComponents c)
    let render ← liftExcept (ext.renderSchemas c)
    let components ← liftExcept (convertComponents (ext.componentInterface c) base)
    let managedCodeDir ← getManagedCodeDir c.viewPath
    writeFile (managedCodeDir / "models.ts") (modelsText (modelSchemas render components))

/-- The converted components keep the names of the document's, in order. -/
theorem convertComponents_keys {convert : String → Except String String} :
    ∀ {base components : List (String × String)}, convertComponents convert base = .ok components →
      components.map Prod.fst = base.map Prod.fst
  | [], _, h => by cases h; rfl
  | (n, x) :: base, components, h => by
    simp only [convertComponents] at h
    cases hx : convert x <;> cases hr : convertComponents convert base <;>
      simp only [hx, hr, bind, Except.bind, pure, Except.pure, reduceCtorEq] at h
    cases h
    simp only [List.map_cons, convertComponents_keys hr]

/-- What `generate_model_definitions` writes when it returns: for each controller in turn, the
`models.ts` of its managed code directory, from what its converters gave. -/
theorem generateModelDefinitions_writes {ext : Externals} {s s' : BuildState}
    (h : generateModelDefinitions ext s = .ok () s') :
    s'.app = s.app ∧ ∃ W, List.Forall₂ (fun c e => ∃ fs base render components,
      ext.openapiComponents c = .ok base ∧ ext.renderSchemas c = .ok render ∧
      convertComponents (ext.componentInterface c) base = .ok components ∧
      e = (managedDirOf fs c.viewPath "_server" / "models.ts",
        modelsText (modelSchemas render components))) s.app.controllers W ∧
      s'.fs.files = assocMerge s.fs.files W := by
  obtain ⟨_, _, ⟨⟩, h⟩ := bind_ok_iff.1 h
  refine forM_writes (fun c _ t t₁ hc => ?_) h
  simp only [bind_ok_iff, liftExcept_ok_iff] at hc
  obtain ⟨base, _, ⟨hb, rfl⟩, render, _, ⟨hr, rfl⟩, comps, _, ⟨hcomps, rfl⟩, d, t₂, hd, hw⟩ := hc
  obtain ⟨rfl, happ, hfiles, -⟩ := getManagedDirCommon_spec hd
  obtain ⟨happ', hfiles'⟩ := writeFile_ok hw
  exact ⟨happ'.trans happ, _, ⟨_, base, render, comps, hb, hr, hcomps, rfl⟩, by rw [hfiles', hfiles]⟩

/-- The text of a controller's `actions.ts`. -/
def actionsText (rootApiImportPath : String) (outputSchemas requiredTypes : List String) :
    String :=
  "\n\n".intercalate
    (("import \x7b __request, FetchErrorBase \x7d from '" ++ rootApiImportPath ++ "';\n" ++
      "import type \x7b " ++ ", ".intercalate requiredTypes ++ " \x7d from './models';") ::
      outputSchemas)

/-- `ClientBuilder.generate_action_definitions`. -/
def generateActionDefinitions (ext : Externals) : BuildM Unit := do
  let app ← readApp
  app.controllers.forM fun c => do
    let controllerCodeDir ← getManagedCodeDir c.viewPath
    let rootCodeDir ← getManagedCodeDir app.viewRoot
    let controllerActionPath := controllerCodeDir / "actions.ts"
    let rootApiImportPath := ext.generateRelativeImport controllerActionPath (rootCodeDir / "api.ts")
    let (outputSchemas, requiredTypes) ← liftExcept (ext.actionSchemas c)
    writeFile controllerActionPath (actionsText rootApiImportPath outputSchemas requiredTypes)

/-- Python's `a < b` on `str`, code point by code point, by which
`sorted(schemas.items(), key=lambda x: x[0])` orders `models.ts`: core's order on `String`, which
Mathlib's `LinearOrder` on `List Char` gives its properties. -/
def strLt (a b : String) : Bool := @decide _ (String.decLt a b)

theorem strLt_iff (a b : String) : strLt a b = true ↔ a.data < b.data :=
  decide_eq_true_iff.trans (List.lt_iff_lex_lt a.data b.data)

theorem strLt_irrefl (a : String) : strLt a a = false :=
  Bool.eq_false_iff.2 fun h => lt_irrefl a.data ((strLt_iff a a).1 h)

theorem strLt_trans {a b c : String} (hab : strLt a b = true) (hbc : strLt b c = true) :
    strLt a c = true :=
  (strLt_iff a c).2 (((strLt_iff a b).1 hab).trans ((strLt_iff b c).1 hbc))

theorem strLt_trichotomy (a b : String) : strLt a b = true ∨ a = b ∨ strLt b a = true := by
  rcases lt_trichotomy a.data b.data with h | h | h
  · exact .inl ((strLt_iff a b).2 h)
  · exact .inr (.inl (String.ext h))
  · exact .inr (.inr ((strLt_iff b a).2 h))

theorem strLt_asymm {a b : String} (h : strLt a b = true) : strLt b a = false :=
  Bool.eq_false_iff.2 fun h' => Bool.false_ne_true ((strLt_irrefl a).symm.trans (strLt_trans h h'))

theorem decide_strLe (a b : String) : @decide _ (String.decLE a b) = !strLt b a :=
  decide_not


/-- `sorted` on the items, by `a[0] <= b[0]`, leaves each name no greater than the next. -/
theorem mergeSort_names_le (schemas : List (String × String)) :
    (schemas.mergeSort fun a b => @decide _ (String.decLE a.1 b.1)).Pairwise
      fun x y => strLt y.1 x.1 = false := by
  have hle : ∀ x y : String × String,
      @decide _ (String.decLE x.1 y.1) = true ↔ strLt y.1 x.1 = false := fun x y => by
    rw [decide_strLe, Bool.not_eq_true']
  refine (List.sorted_mergeSort (fun a b c hab hbc => ?_) (fun a b => ?_) schemas).imp
    fun h => (hle _ _).1 h
  · rw [hle] at hab hbc ⊢
    rcases strLt_trichotomy c.1 b.1 with h | h | h
    · rw [hbc] at h; cases h
    · rwa [h]
    · exact Bool.eq_false_iff.2 fun hca => by rw [strLt_trans h hca] at hab; cases hab
  · rw [Bool.or_eq_true, hle, hle]
    cases h : strLt b.1 a.1
    exacts [.inl rfl, .inr (strLt_asymm h)]

/-- With distinct names, the sorted declarations stand in strictly increasing name order. -/
theorem mergeSort_names_lt {schemas : List (String × String)} (hs : (schemas.map Prod.fst).Nodup) :
    (schemas.mergeSort fun a b => @decide _ (String.decLE a.1 b.1)).Pairwise
      fun x y => strLt x.1 y.1 := by
  have hnd := ((List.mergeSort_perm schemas fun a b => @decide _ (String.decLE a.1 b.1)).map
    Prod.fst).nodup_iff.2 hs
  refine ((mergeSort_names_le schemas).and (List.pairwise_map.1 hnd)).imp fun {x y} ⟨hle, hne⟩ => ?_
  rcases strLt_trichotomy x.1 y.1 with h | h | h
  exacts [h, absurd h hne, by rw [hle] at h; cases h]

/-- Two lists in strictly increasing name order with the same members are the same list. -/
theorem eq_of_names_lt {l l' : List (String × String)}
    (hl : l.Pairwise fun x y => strLt x.1 y.1) (hl' : l'.Pairwise fun x y => strLt x.1 y.1)
    (hm : ∀ x, x ∈ l ↔ x ∈ l') : l = l' := by
  have hnd : ∀ {l : List (String × String)}, l.Pairwise (fun x y => strLt x.1 y.1) → l.Nodup :=
    fun h => h.imp fun {x y} hxy e => by subst e; rw [strLt_irrefl] at hxy; cases hxy
  haveI : IsAntisymm (String × String) fun x y => strLt x.1 y.1 = true :=
    ⟨fun _ _ hxy hyx => absurd ((strLt_asymm hxy).symm.trans hyx) Bool.false_ne_true⟩
  exact List.eq_of_perm_of_sorted ((List.perm_ext_iff_of_nodup (hnd hl) (hnd hl')).2 hm) hl hl'

theorem nodup_modelSchemas (render components : List (String × String)) :
    ((modelSchemas render components).map Prod.fst).Nodup :=
  have h₀ : (([] : List (String × String)).map Prod.fst).Nodup := List.nodup_nil
  nodup_keys_assocMerge (nodup_keys_assocMerge h₀ render) components

/-- A name of the components reads from them, any other from the render model. -/
theorem lookup_modelSchemas {render components : List (String × String)}
    (hr : (render.map Prod.fst).Nodup) (hc : (components.map Prod.fst).Nodup) (n : String) :
    (modelSchemas render components).lookup n = (components.lookup n).or (render.lookup n) := by
  rw [modelSchemas, lookup_assocMerge _ hc, assocMerge_nil_left hr]

/-- The text of a `models.ts` is a function of the two dicts it is made from, whatever order
they are iterated in: the declarations of their union, a component replacing a render
declaration of the same name, in strictly increasing name order and joined by blank lines. -/
theorem modelsText_eq_sorted_union {render components : List (String × String)}
    (hr : (render.map Prod.fst).Nodup) (hc : (components.map Prod.fst).Nodup) :
    (∀ render' components', render'.Perm render → components'.Perm components →
      modelsText (modelSchemas render' components') = modelsText (modelSchemas render components)) ∧
    ∃ decls : List (String × String), decls.Pairwise (fun x y => strLt x.1 y.1) ∧
      (∀ n d, (n, d) ∈ decls ↔ (components.lookup n).or (render.lookup n) = some d) ∧
      modelsText (modelSchemas render components) = "\n\n".intercalate (decls.map Prod.snd) := by
  have hmem : ∀ {r c : List (String × String)}, (r.map Prod.fst).Nodup →
      (c.map Prod.fst).Nodup → ∀ n d, (n, d) ∈ (modelSchemas r c).mergeSort
        (fun a b => @decide _ (String.decLE a.1 b.1)) ↔ (c.lookup n).or (r.lookup n) = some d :=
    fun hr hc n d => by
      rw [List.mem_mergeSort, ← lookup_eq_some_iff_mem (nodup_modelSchemas _ _),
        lookup_modelSchemas hr hc]
  refine ⟨fun r' c' hr' hc' => ?_,
    _, mergeSort_names_lt (nodup_modelSchemas _ _), hmem hr hc, rfl⟩
  have hr'' := (hr'.map Prod.fst).nodup_iff.2 hr
  have hc'' := (hc'.map Prod.fst).nodup_iff.2 hc
  rw [modelsText, modelsText, eq_of_names_lt (mergeSort_names_lt (nodup_modelSchemas r' c'))
    (mergeSort_names_lt (nodup_modelSchemas render components)) fun ⟨n, d⟩ => by
      rw [hmem hr'' hc'', hmem hr hc, lookup_perm hr' hr'' n, lookup_perm hc' hc'' n]]

/-- `ClientBuilder.generate_static_files`. -/
def generateStaticFiles (ext : Externals) : BuildM Unit := do
  let app ← readApp
  let managedCodeDir ← getManagedCodeDir app.viewRoot
  writeFile (managedCodeDir / "api.ts") ext.apiTs

/-- The re-export of one controller's render model in the root `models.ts`. -/
def globalModelImportLine (relativeImportPath : String) (c : Controller) : String :=
  "export type \x7b " ++ getRenderLocalState c ++ " as " ++ getControllerRenderGlobalType c ++
    " \x7d from '../" ++ relativeImportPath ++ "'"

/-- `ClientBuilder.generate_global_model_imports`. -/
def generateGlobalModelImports (ext : Externals) : BuildM Unit := do
  let app ← readApp
  let lines ← app.controllers.mapM fun c => do
    let controllerModelPath := (← getManagedCodeDir c.viewPath) / "models.ts"
    pure (globalModelImportLine (ext.generateRelativeImport app.viewRoot controllerModelPath) c)
  let managedDir ← getManagedCodeDir app.viewRoot
  writeFile (managedDir / "models.ts") ("\n".intercalate lines)

/-- The field of `ServerState` for one controller. -/
def serverStateLine (c : Controller) : String :=
  getControllerGlobalState c ++ "?: ControllerTypes." ++ getControllerRenderGlobalType c

/-- The entry of one controller in the object the provider's `useState` starts from:
`K: GLOBAL_STATE[K]`. -/
def initialStateItem (c : Controller) : Option String × JsExpr :=
  (some (getControllerGlobalState c),
    .index (.ident "GLOBAL_STATE") (.ident (getControllerGlobalState c)))

/-- The props the provider passes to `ServerContext.Provider`, besides its children. -/
def providerProps : List (String × JsExpr) :=
  [("serverState", .ident "serverState"), ("setServerState", .ident "setServerState")]

/-- The text of `server.tsx`. -/
def serverProviderText (controllers : List Controller) : String :=
  "\n\n".intercalate
    ["import React, \x7b createContext, useState, ReactNode \x7d from 'react';\n" ++
        "import type * as ControllerTypes from './models';",
      "interface ServerState \x7b\n" ++
        ",\n".intercalate (controllers.map fun c => "  " ++ serverStateLine c) ++ "\n\x7d",
      "export const ServerContext = createContext<\x7b\n" ++ "  serverState: ServerState\n" ++
        "  setServerState: (state: ServerState | ((prevState: ServerState) => ServerState)) => void\n" ++
        "\x7d>(undefined as any)",
      "export const ServerProvider = (\x7b children \x7d: \x7b children: ReactNode \x7d) => \x7b\n" ++
        "const [serverState, setServerState] = useState<ServerState>(\x7b\n" ++
        ",\n".intercalate (controllers.map fun c => "  " ++ JsExpr.printItem (initialStateItem c)) ++
        "\n\x7d);\n" ++ "return <ServerContext.Provider\n" ++
        "\n".intercalate (providerProps.map fun p => p.1 ++ "=\x7b" ++ p.2.print ++ "\x7d") ++
        ">\n" ++ "\x7bchildren\x7d</ServerContext.Provider>\n" ++ "\x7d;"]

/-- Controllers with distinct CamelCase class names get distinct keys: one `ServerState` field
each, and distinct slices for their hooks to read and write. -/
theorem serverState_keys_nodup_of_camel {controllers : List Controller}
    (hcamel : ∀ c ∈ controllers, isCamelWord c.className)
    (hnames : (controllers.map (·.className)).Nodup) :
    (controllers.map getControllerGlobalState).Nodup := by
  have h : controllers.map getControllerGlobalState =
      (controllers.map (·.className)).map fun n => upper (underscore n) := by
    simp [List.map_map, Function.comp_def, getControllerGlobalState]
  rw [h]
  refine hnames.map_on fun a ha b hb hab => upper_underscore_inj_of_camel ?_ ?_ hab
  · obtain ⟨c, hc, rfl⟩ := List.mem_map.1 ha; exact hcamel c hc
  · obtain ⟨c, hc, rfl⟩ := List.mem_map.1 hb; exact hcamel c hc

theorem serverState_keys_nodup_home_dashboard :
    ((∀ c ∈ [(⟨"HomeController", ⟨true, ["views", "home", "page.tsx"]⟩, "HomeRender", [], [],
        "home"⟩ : Controller), ⟨"DashboardController", ⟨true, ["views", "dashboard", "page.tsx"]⟩,
        "DashboardRender", [], [], "dashboard"⟩], isCamelWord c.className) ∧
      ([(⟨"HomeController", ⟨true, ["views", "home", "page.tsx"]⟩, "HomeRender", [], [],
        "home"⟩ : Controller), ⟨"DashboardController", ⟨true, ["views", "dashboard", "page.tsx"]⟩,
        "DashboardRender", [], [], "dashboard"⟩].map (·.className)).Nodup) ∧
    ([(⟨"HomeController", ⟨true, ["views", "home", "page.tsx"]⟩, "HomeRender", [], [],
        "home"⟩ : Controller), ⟨"DashboardController", ⟨true, ["views", "dashboard", "page.tsx"]⟩,
        "DashboardRender", [], [], "dashboard"⟩].map getControllerGlobalState).Nodup :=
  ⟨⟨by decide, by decide⟩, serverState_keys_nodup_of_camel (by decide) (by decide)⟩

/-- `ClientBuilder.generate_server_provider`. -/
def generateServerProvider : BuildM Unit := do
  let app ← readApp
  let managedDir ← getManagedCodeDir app.viewRoot
  writeFile (managedDir / "server.tsx") (serverProviderText app.controllers)


/-- The property of the hook's result for one client function: a side effect is wrapped so
that its result updates the controller's slice. -/
def actionItem (m : ActionMetadata) : Option String × JsExpr :=
  match m.actionType with
  | .sideeffect => (some m.functionName,
      .call "applySideEffect" [.ident m.functionName, .ident "setControllerState"])
  | .passthrough => (some m.functionName, .ident m.functionName)

/-- The controller's slice of the server state, `serverState['K']`. -/
def serverStateSlice (c : Controller) : JsExpr :=
  .index (.ident "serverState") (.str (getControllerGlobalState c))

/-- The object the updater that `setControllerState` passes to `setServerState` returns:
`{...state, K: state.K ? {...state.K, ...payload,} : undefined}`. -/
def updaterBody (key : String) : JsExpr :=
  .object [(none, .ident "state"),
    (some key, .cond (.member (.ident "state") key)
      (.object [(none, .member (.ident "state") key), (none, .ident "payload")] true) .undefined)]
    false

/-- The properties of the object `useServer()` returns. -/
def hookItems (c : Controller) : List (Option String × JsExpr) :=
  (none, serverStateSlice c) :: c.clientFunctions.map actionItem

/-- The imports of a controller's `useServer.ts`. -/
def useServerImports (relativeServerPath : String) (c : Controller) : String :=
  "import React, \x7b useContext \x7d from 'react';\n" ++
    "import \x7b ServerContext \x7d from '" ++ relativeServerPath ++ "/server';\n" ++
    "import \x7b applySideEffect \x7d from '" ++ relativeServerPath ++ "/api';\n" ++
    "import \x7b " ++ c.renderModelName ++ " \x7d from './models';" ++
    (if c.clientFunctions.isEmpty then ""
      else "import \x7b " ++ ", ".intercalate (c.clientFunctions.map (·.functionName)) ++
        " \x7d from './actions';")

/-- The text of a controller's `useServer.ts`. -/
def useServerText (relativeServerPath : String) (c : Controller) : String :=
  "\n\n".intercalate
    [useServerImports relativeServerPath c,
      "export type " ++ c.renderModelName ++ "Optional = Partial<" ++ c.renderModelName ++ ">;",
      "export const useServer = () => \x7b\n" ++
        "const \x7b serverState, setServerState \x7d = useContext(ServerContext);\n" ++
        "const setControllerState = (payload: " ++ c.renderModelName ++ "Optional) => \x7b\n" ++
        "setServerState((state) => (" ++ (updaterBody (getControllerGlobalState c)).print ++
        "))\n" ++ "\x7d;\n" ++ "return \x7b\n" ++
        JsExpr.printItem (none, serverStateSlice c) ++ ",\n" ++
        ",\n".intercalate (c.clientFunctions.map fun m => JsExpr.printItem (actionItem m)) ++
        "\x7d\n" ++ "\x7d;"]

/-- `ClientBuilder.generate_view_servers`. -/
def generateViewServers (ext : Externals) : BuildM Unit := do
  let app ← readApp
  app.controllers.forM fun c => do
    let controllerModelPath ← getManagedCodeDir c.viewPath
    let globalServerPath ← getManagedCodeDir app.viewRoot
    let relativeServerPath := ext.generateRelativeImport controllerModelPath globalServerPath
    writeFile (controllerModelPath / "useServer.ts") (useServerText relativeServerPath c)

/-- Controllers `A` (render model `BRender`) and `AB` (render model `Render`) have different
keys, and the root `models.ts` re-exports both render models under the alias `ABRender`. -/
theorem global_model_imports_repeat_alias :
    getControllerGlobalState ⟨"A", ⟨true, ["views", "a", "page.tsx"]⟩, "BRender", [], [], "a"⟩ ≠
      getControllerGlobalState ⟨"AB", ⟨true, ["views", "ab", "page.tsx"]⟩, "Render", [], [], "ab"⟩ ∧
    globalModelImportLine "a/_server/models.ts"
        ⟨"A", ⟨true, ["views", "a", "page.tsx"]⟩, "BRender", [], [], "a"⟩ =
      "export type \x7b BRender as ABRender \x7d from '../a/_server/models.ts'" ∧
    globalModelImportLine "ab/_server/models.ts"
        ⟨"AB", ⟨true, ["views", "ab", "page.tsx"]⟩, "Render", [], [], "ab"⟩ =
      "export type \x7b Render as ABRender \x7d from '../ab/_server/models.ts'" := by
  decide

/-- The one view: a view root `/v` with one controller `H`, whose view is the file `/v/h/p`,
with the scripts bundled so far. -/
def viewController (scripts : List String) : Controller :=
  ⟨"H", ⟨true, ["v", "h", "p"]⟩, "R", [], scripts, "h"⟩

def oneView (scripts : List String) : App := ⟨⟨true, ["v"]⟩, [viewController scripts]⟩

/-- Collaborators that convert nothing and relate every two paths by `x`, and a bundler whose
script stands for its own hash. -/
def viewExternals (bundle : Except String (String × String)) : Externals where
  apiTs := ""
  openapiComponents _ := .ok []
  renderSchemas _ := .ok []
  componentInterface _ x := .ok x
  actionSchemas _ := .ok ([], [])
  generateRelativeImport _ _ := "x"
  bundleJavascript _ _ := bundle
  getCleanedJsContents s := s
  md5Hexdigest s := s
  updateSourceMapPath s _ := s

def viewState (dirs : List Path) (files : List (Path × String)) (scripts : List String) :
    BuildState :=
  ⟨⟨dirs, files⟩, oneView scripts⟩

def viewDirs : List Path := [⟨true, []⟩, ⟨true, ["v"]⟩, ⟨true, ["v", "h"]⟩]

def viewFiles : List (Path × String) := [(⟨true, ["v", "h", "p"]⟩, "")]

/-- Each `models.ts` that `generate_model_definitions` writes is a function of the two dicts the
converters give for its controller, whatever order either is iterated in: the declarations of
their union, a component replacing a render declaration of the same name, in strictly
increasing name order and joined by blank lines. -/
theorem generateModelDefinitions_sorted_union {ext : Externals} {s s' : BuildState}
    (h : generateModelDefinitions ext s = .ok () s')
    (hr : ∀ c render, ext.renderSchemas c = .ok render → (render.map Prod.fst).Nodup)
    (hc : ∀ c base, ext.openapiComponents c = .ok base → (base.map Prod.fst).Nodup) :
    ∃ W, s'.fs.files = assocMerge s.fs.files W ∧
      List.Forall₂ (fun c e => ∃ fs base render components, ext.openapiComponents c = .ok base ∧
        ext.renderSchemas c = .ok render ∧ convertComponents (ext.componentInterface c) base = .ok components ∧
        e.1 = managedDirOf fs c.viewPath "_server" / "models.ts" ∧
        (∀ render' components', render'.Perm render → components'.Perm components →
          modelsText (modelSchemas render' components') = e.2) ∧
        ∃ decls : List (String × String), decls.Pairwise (fun x y => strLt x.1 y.1) ∧
          (∀ n x, (n, x) ∈ decls ↔ (components.lookup n).or (render.lookup n) = some x) ∧
          e.2 = "\n\n".intercalate (decls.map Prod.snd)) s.app.controllers W := by
  obtain ⟨-, W, hW, hfiles⟩ := generateModelDefinitions_writes h
  refine ⟨W, hfiles, hW.imp fun c e ⟨fs, base, render, comps, hb, hre, hcomps, he⟩ => ?_⟩
  have hcn : (comps.map Prod.fst).Nodup := by
    rw [convertComponents_keys hcomps]
    exact hc c base hb
  obtain ⟨hperm, decls, hd, hmem, htext⟩ := modelsText_eq_sorted_union (hr c render hre) hcn
  subst he
  exact ⟨fs, base, render, comps, hb, hre, hcomps, rfl, hperm, decls, hd, hmem, htext⟩

/-- The one view's collaborators with a render model `HomeRender` and a component `Item`. -/
def homeSchemas : Externals :=
  { viewExternals (.ok ("c1", "m1")) with
    openapiComponents := fun _ => .ok [("Item", "\x7b\x7d")]
    renderSchemas := fun _ => .ok [("HomeRender", "export interface HomeRender \x7b\x7d")]
    componentInterface := fun _ x => .ok ("export interface Item " ++ x) }

theorem generateModelDefinitions_sorted_union_home :
    ∃ s', generateModelDefinitions homeSchemas (viewState viewDirs viewFiles []) = .ok () s' ∧
      ∃ W, s'.fs.files = assocMerge (viewState viewDirs viewFiles []).fs.files W ∧
      List.Forall₂ (fun c e => ∃ fs base render components,
        homeSchemas.openapiComponents c = .ok base ∧ homeSchemas.renderSchemas c = .ok render ∧
        convertComponents (homeSchemas.componentInterface c) base = .ok components ∧
        e.1 = managedDirOf fs c.viewPath "_server" / "models.ts" ∧
        (∀ render' components', render'.Perm render → components'.Perm components →
          modelsText (modelSchemas render' components') = e.2) ∧
        ∃ decls : List (String × String), decls.Pairwise (fun x y => strLt x.1 y.1) ∧
          (∀ n x, (n, x) ∈ decls ↔ (components.lookup n).or (render.lookup n) = some x) ∧
          e.2 = "\n\n".intercalate (decls.map Prod.snd))
        (viewState viewDirs viewFiles []).app.controllers W :=
  have h : generateModelDefinitions homeSchemas (viewState viewDirs viewFiles []) = .ok ()
      (viewState (viewDirs ++ [⟨true, ["v", "h", "_server"]⟩])
        (viewFiles ++ [(⟨true, ["v", "h", "_server", "models.ts"]⟩, modelsText
          (modelSchemas [("HomeRender", "export interface HomeRender \x7b\x7d")]
            [("Item", "export interface Item \x7b\x7d")]))]) []) := rfl
  ⟨_, h, generateModelDefinitions_sorted_union h (fun _ _ h => by cases h; decide)
    fun _ _ h => by cases h; decide⟩

end Mountaineer.Client
