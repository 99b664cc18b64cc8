import Mathlib.Data.List.Basic

/-! `mountaineer.dependencies.base`. `DependenciesBaseMeta.__new__` warns that every subclass of
`DependenciesBase` is deprecated, and refuses a class body that binds a static method, which
FastAPI would not recognise as a coroutine. `get_function_dependencies` resolves a callable's
dependencies with FastAPI's `solve_dependencies`, on a synthetic request when it is given none,
and refuses a resolution that made background tasks or met errors. -/
namespace Mountaineer.Dependencies

/-- What a class body binds a name to, as far as the metaclass tells values apart. -/
inductive Attr where
  | staticmethod
  | other
  deriving DecidableEq, Repr

/-- The text of the `DeprecationWarning` every subclass of `DependenciesBase` gets. -/
def deprecationMessage : String :=
  "DependenciesBase is deprecated and will be removed in a future version.\n" ++
    "Import modules to form dependencies. See mountaineer.dependencies.core for an example."

/-- The `TypeError` for the static method `attrName` of the class `name`. -/
def staticMethodMessage (name attrName : String) : String :=
  "Static methods are not allowed in dependency wrapper '" ++ name ++
    "'. Found static method: '" ++ attrName ++ "'."

/-- The loop over `namespace.items()`, which raises at the first static method. -/
def checkNamespace (name : String) : List (String × Attr) → Except String Unit
  | [] => .ok ()
  | (attrName, attrValue) :: rest =>
    if attrValue = .staticmethod then .error (staticMethodMessage name attrName)
    else checkNamespace name rest

/-- `DependenciesBaseMeta.__new__(cls, name, bases, namespace)`: the warnings it emits, then the
class it makes or the `TypeError` it raises. -/
def dependenciesBaseMetaNew (name : String) (body : List (String × Attr)) :
    List String × Except String Unit :=
  (if name ≠ "DependenciesBase" then [deprecationMessage] else [], checkNamespace name body)

theorem checkNamespace_eq_ok_iff (name : String) :
    ∀ body : List (String × Attr),
      checkNamespace name body = .ok () ↔ ∀ e ∈ body, e.2 ≠ .staticmethod
  | [] => by simp [checkNamespace]
  | (attrName, attrValue) :: rest => by
    by_cases h : attrValue = .staticmethod
    · simp [checkNamespace, h]
    · simp [checkNamespace, h, checkNamespace_eq_ok_iff name rest]

theorem checkNamespace_eq_error_iff (name msg : String) :
    ∀ body : List (String × Attr), checkNamespace name body = .error msg ↔
      ∃ before attrName after, body = before ++ (attrName, .staticmethod) :: after ∧
        (∀ e ∈ before, e.2 ≠ .staticmethod) ∧ msg = staticMethodMessage name attrName
  | [] => by simp [checkNamespace]
  | (attrName, attrValue) :: rest => by
    by_cases h : attrValue = .staticmethod
    · subst h
      simp only [checkNamespace, if_pos, Except.error.injEq]
      constructor
      · rintro rfl
        exact ⟨[], attrName, rest, rfl, by simp, rfl⟩
      · rintro ⟨_ | ⟨e, before⟩, a, after, he, hb, rfl⟩
        · obtain ⟨⟨rfl, -⟩, -⟩ := List.cons.inj he
          rfl
        · obtain ⟨rfl, -⟩ := List.cons.inj he
          exact absurd rfl (hb _ (.head _))
    · simp only [checkNamespace, h, if_false, checkNamespace_eq_error_iff name msg rest]
      constructor
      · rintro ⟨before, a, after, rfl, hb, rfl⟩
        refine ⟨(attrName, attrValue) :: before, a, after, rfl, ?_, rfl⟩
        simpa [h] using hb
      · rintro ⟨_ | ⟨e, before⟩, a, after, he, hb, rfl⟩
        · exact absurd (congrArg Prod.snd (List.cons.inj he).1) h
        · obtain ⟨-, rfl⟩ := List.cons.inj he
          exact ⟨before, a, after, rfl, fun e' he' => hb e' (.tail _ he'), rfl⟩

/-- A class is made exactly when its body binds no static method; otherwise the `TypeError`
names the class and the first static method of its body. Every class but `DependenciesBase`
gets the deprecation warning, whatever its body: the warning comes before the check, so a
refused class gets it too. -/
theorem dependenciesBaseMetaNew_spec (name : String) (body : List (String × Attr)) :
    ((dependenciesBaseMetaNew name body).2 = .ok () ↔
      ∀ e ∈ body, e.2 ≠ .staticmethod) ∧
    (∀ msg, (dependenciesBaseMetaNew name body).2 = .error msg ↔
      ∃ before attrName after, body = before ++ (attrName, .staticmethod) :: after ∧
        (∀ e ∈ before, e.2 ≠ .staticmethod) ∧ msg = staticMethodMessage name attrName) ∧
    (dependenciesBaseMetaNew name body).1 =
      if name = "DependenciesBase" then [] else [deprecationMessage] :=
  ⟨checkNamespace_eq_ok_iff name body, fun msg => checkNamespace_eq_error_iff name msg body,
    by by_cases h : name = "DependenciesBase" <;> simp [dependenciesBaseMetaNew, h]⟩

example : dependenciesBaseMetaNew "UserDependencies"
    [("get_user", .other), ("get_session", .staticmethod), ("get_db", .staticmethod)] =
      ([deprecationMessage], .error
        "Static methods are not allowed in dependency wrapper 'UserDependencies'. Found static method: 'get_session'.") :=
  rfl

/-- The request `get_function_dependencies` passes to `solve_dependencies`, by the path of its
scope. -/
structure Request where
  path : String
  deriving DecidableEq, Repr

/-- What `solve_dependencies` returns that the function reads: the values, the `repr` of each
error, and whether it made a `BackgroundTasks`. -/
structure Solved where
  values : List (String × String)
  errors : List String
  backgroundTasks : Bool
  deriving DecidableEq, Repr

/-- `f"{errors}"` of a list: the `repr`s of its items, in brackets. -/
def reprList (items : List String) : String := "[" ++ ", ".intercalate items ++ "]"

/-- The `RuntimeError` of a resolution that made background tasks. -/
def backgroundTasksMessage : String :=
  "Background tasks are not supported when calling a static function, due to undesirable " ++
    "side-effects."

/-- `if not url: url = "/synthetic"`: the path the dependant is resolved on. -/
def resolvedPath (url : Option String) : String :=
  match url with
  | some u => if u = "" then "/synthetic" else u
  | none => "/synthetic"

/-- What `get_function_dependencies` makes of what `solve_dependencies` returned: background
tasks are refused first, then errors, and otherwise the values are yielded. -/
def checkResolution (solved : Solved) : Except String (List (String × String)) :=
  if solved.backgroundTasks then .error backgroundTasksMessage
  else if solved.errors ≠ [] then
    .error ("Errors encountered while resolving dependencies: " ++ reprList solved.errors)
  else .ok solved.values

/-- `get_function_dependencies(callable=..., url=url, request=request,
dependency_overrides=overrides)`, with `solve` standing for `solve_dependencies` on the dependant
`get_dependant(call=callable, path=url)`, the request, and whether an override provider is
passed: the values it yields, or the `RuntimeError` it raises. -/
def getFunctionDependencies (solve : String → Request → Bool → Solved) (url : Option String)
    (request : Option Request) (overrides : Option (List (String × String))) :
    Except String (List (String × String)) :=
  let url := resolvedPath url
  let request := request.getD ⟨url⟩
  checkResolution (solve url request (overrides.any fun o => !o.isEmpty))

theorem checkResolution_spec (solved : Solved) :
    (∀ values, checkResolution solved = .ok values ↔
      solved.backgroundTasks = false ∧ solved.errors = [] ∧ values = solved.values) ∧
    (solved.backgroundTasks = true → checkResolution solved = .error backgroundTasksMessage) ∧
    (solved.backgroundTasks = false → solved.errors ≠ [] → checkResolution solved =
      .error ("Errors encountered while resolving dependencies: " ++ reprList solved.errors)) := by
  obtain ⟨values, errors, _ | _⟩ := solved <;> by_cases he : errors = [] <;>
    simp [checkResolution, he, eq_comm]

/-- The function yields values exactly when FastAPI's resolution made no background tasks and
met no error, and then yields its values; a resolution that made background tasks is refused
whatever its errors, and one with errors is refused with their list. The resolution is on the
URL, or `/synthetic`, with the request given, or a synthetic one for that path, and with an
override provider exactly when some override is given. -/
theorem getFunctionDependencies_spec (solve : String → Request → Bool → Solved)
    (url : Option String) (request : Option Request)
    (overrides : Option (List (String × String))) :
    let solved := solve (resolvedPath url) (request.getD ⟨resolvedPath url⟩)
      (overrides.any fun o => !o.isEmpty)
    (∀ values, getFunctionDependencies solve url request overrides = .ok values ↔
      solved.backgroundTasks = false ∧ solved.errors = [] ∧ values = solved.values) ∧
    (solved.backgroundTasks = true →
      getFunctionDependencies solve url request overrides = .error backgroundTasksMessage) ∧
    (solved.backgroundTasks = false → solved.errors ≠ [] →
      getFunctionDependencies solve url request overrides =
        .error ("Errors encountered while resolving dependencies: " ++ reprList solved.errors)) :=
  checkResolution_spec _

/-- A missing request is a synthetic one for the resolved path, an empty override dict is no
overrides, and an empty URL is a missing one. -/
theorem getFunctionDependencies_defaults (solve : String → Request → Bool → Solved)
    (url : Option String) (request : Option Request)
    (overrides : Option (List (String × String))) :
    getFunctionDependencies solve url none overrides =
      getFunctionDependencies solve url (some ⟨resolvedPath url⟩) overrides ∧
    getFunctionDependencies solve url request (some []) =
      getFunctionDependencies solve url request none ∧
    getFunctionDependencies solve (some "") request overrides =
      getFunctionDependencies solve none request overrides :=
  ⟨rfl, rfl, rfl⟩

end Mountaineer.Dependencies
