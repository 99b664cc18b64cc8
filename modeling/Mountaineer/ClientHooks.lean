import Mountaineer.ClientGenerate

/-! What the emitted `ServerProvider` and `useServer()` do on a page. A context reader gets the
`value` prop of the nearest `Provider` above it; `useState` starts from its argument; the hook
destructures what `useContext` gives. -/
namespace Mountaineer.Client

/-- The value a `<Context.Provider ...props>` element supplies: its `value` prop, and
`undefined` when it has none. -/
def providerValue (env : List (String × JsValue)) (props : List (String × JsExpr)) :
    Except JsError JsValue :=
  match props.lookup "value" with
  | some e => e.eval env
  | none => .ok .undefined

/-- `const { names } = v`. -/
def destructure (v : JsValue) (names : List String) :
    Except JsError (List (String × JsValue)) :=
  names.mapM fun n => do pure (n, ← v.getProp n)

/-- The names the hook module binds besides the destructured ones: `setControllerState`, the
imported `applySideEffect` and the imported client functions. -/
def hookBindings (c : Controller) : List (String × JsValue) :=
  ("setControllerState", .fn "setControllerState") :: ("applySideEffect", .fn "applySideEffect") ::
    c.clientFunctions.map fun m => (m.functionName, .fn m.functionName)

/-- The first render of `ServerProvider` on a page whose globals are `page`, then
`useServer()` of controller `c` beneath it: the object the hook returns, or what is thrown. -/
def useServerOnPage (controllers : List Controller) (c : Controller)
    (page : List (String × JsValue)) : Except JsError JsValue := do
  let serverState ← (JsExpr.object (controllers.map initialStateItem) false).eval page
  let value ← providerValue [("serverState", serverState), ("setServerState", .fn "setServerState")]
    providerProps
  let bound ← destructure value ["serverState", "setServerState"]
  (JsExpr.object (hookItems c) false).eval (bound ++ hookBindings c)

/-- The provider passes `serverState` and `setServerState` as props of their own, so it
supplies no value. -/
theorem providerValue_providerProps (env : List (String × JsValue)) :
    providerValue env providerProps = .ok .undefined := rfl

/-- For no registry, controller or page does the hook return: the provider's initial state
throws, or destructuring the value it does not supply throws. -/
theorem useServerOnPage_throws (controllers : List Controller) (c : Controller)
    (page : List (String × JsValue)) : ∃ e, useServerOnPage controllers c page = .error e := by
  unfold useServerOnPage
  cases h : (JsExpr.object (controllers.map initialStateItem) false).eval page with
  | error e => exact ⟨e, by simp [h, bind, Except.bind]⟩
  | ok v => exact ⟨_, by simp [h, bind, Except.bind, providerValue_providerProps, destructure,
      JsValue.getProp, List.mapM_cons]; rfl⟩

end Mountaineer.Client
