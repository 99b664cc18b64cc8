import Mountaineer.PyDict

/-! What `ClientBuilder` (`filzl/client_interface/builder.py`) reads and changes: `pathlib`
paths, the file system under them, the registry of controllers, and the build monad, in which
an exception keeps the file system as far as the raising step had changed it. -/
namespace Mountaineer.Client

/-- A parsed `pathlib.PurePosixPath`: whether it is absolute, and its parts below the root. -/
structure Path where
  root : Bool
  tail : List String
  deriving DecidableEq, Repr

namespace Path

/-- `Path.parent`, which is the path itself when nothing is below its root. -/
def parent (p : Path) : Path := ⟨p.root, p.tail.dropLast⟩

/-- `path / name` for a name of one part. -/
instance : HDiv Path String Path := ⟨fun p name => ⟨p.root, p.tail ++ [name]⟩⟩

@[simp] theorem div_root (p : Path) (n : String) : (p / n).root = p.root := rfl
@[simp] theorem div_tail (p : Path) (n : String) : (p / n).tail = p.tail ++ [n] := rfl
@[simp] theorem parent_div (p : Path) (n : String) : (p / n).parent = p := by
  simp [parent]

theorem div_inj {p q : Path} {m n : String} : p / m = q / n ↔ p = q ∧ m = n := by
  constructor
  · intro h
    have hr := congrArg Path.root h
    have ht := congrArg Path.tail h
    simp only [div_root, div_tail] at hr ht
    obtain ⟨ht, hn⟩ := List.append_inj' ht rfl
    exact ⟨by cases p; cases q; simp_all, by simpa using hn⟩
  · rintro ⟨rfl, rfl⟩; rfl

/-- `str(path)`. -/
def toString (p : Path) : String :=
  match p.root, p.tail with
  | true, t => "/" ++ "/".intercalate t
  | false, [] => "."
  | false, t => "/".intercalate t

/-- `q` is `p` or lies below it. -/
def isPrefixOf (p q : Path) : Bool := p.root == q.root && p.tail.isPrefixOf q.tail

@[simp] theorem isPrefixOf_div (p : Path) (n : String) : p.isPrefixOf (p / n) := by
  simp [isPrefixOf, List.isPrefixOf_iff_prefix]

end Path

/-- The `OSError`s of the file operations. -/
inductive OsError where
  | fileExists (p : Path)
  | fileNotFound (p : Path)
  | notADirectory (p : Path)
  | isADirectory (p : Path)
  deriving DecidableEq, Repr

/-- A file system: the directories, and each file with its text. -/
structure Fs where
  dirs : List Path
  files : List (Path × String)
  deriving Repr

namespace Fs

/-- `path.is_dir()`. -/
def isDir (fs : Fs) (p : Path) : Bool := fs.dirs.contains p

/-- `path.is_file()`. -/
def isFile (fs : Fs) (p : Path) : Bool := (fs.files.lookup p).isSome

/-- `path.exists()`. -/
def «exists» (fs : Fs) (p : Path) : Bool := fs.isFile p || fs.isDir p

/-- `os.mkdir(path)`. -/
def osMkdir (fs : Fs) (p : Path) : Except OsError Fs :=
  if fs.exists p then .error (.fileExists p)
  else if fs.isDir p.parent then .ok { fs with dirs := fs.dirs ++ [p] }
  else if fs.isFile p.parent then .error (.notADirectory p)
  else .error (.fileNotFound p)

/-- `path.mkdir(exist_ok=existOk)`. -/
def mkdir (existOk : Bool) (fs : Fs) (p : Path) : Except OsError Fs :=
  match osMkdir fs p with
  | .error e => if existOk && fs.isDir p then .ok fs else .error e
  | r => r

/-- `path.mkdir(parents=True, exist_ok=existOk)`, `n` bounding the ancestors it may make. -/
def mkdirParentsAux (existOk : Bool) (fs : Fs) (p : Path) : Nat → Except OsError Fs
  | 0 => mkdir existOk fs p
  | n + 1 =>
    match osMkdir fs p with
    | .error (.fileNotFound _) =>
      if p.parent = p then .error (.fileNotFound p)
      else do
        let fs ← mkdirParentsAux true fs p.parent n
        mkdir existOk fs p
    | .error e => if existOk && fs.isDir p then .ok fs else .error e
    | r => r

/-- `path.mkdir(parents=True, exist_ok=existOk)`. -/
def mkdirParents (existOk : Bool) (fs : Fs) (p : Path) : Except OsError Fs :=
  mkdirParentsAux existOk fs p p.tail.length

/-- `shutil.rmtree(path)`. -/
def rmtree (fs : Fs) (p : Path) : Except OsError Fs :=
  if fs.isDir p then
    .ok ⟨fs.dirs.filter (!p.isPrefixOf ·), fs.files.filter (!p.isPrefixOf ·.1)⟩
  else if fs.isFile p then .error (.notADirectory p)
  else .error (.fileNotFound p)

/-- `path.write_text(text)`. -/
def writeText (fs : Fs) (p : Path) (text : String) : Except OsError Fs :=
  if fs.isDir p then .error (.isADirectory p)
  else if fs.isDir p.parent then .ok { fs with files := assocSet p text fs.files }
  else if fs.isFile p.parent then .error (.notADirectory p)
  else .error (.fileNotFound p)

theorem isDir_iff_mem (fs : Fs) (p : Path) : fs.isDir p ↔ p ∈ fs.dirs := List.elem_iff

/-- A successful `mkdir` finds `p` a directory already, or adds it and nothing else. -/
theorem mkdir_ok {existOk : Bool} {fs fs' : Fs} {p : Path} (h : mkdir existOk fs p = .ok fs') :
    fs' = fs ∧ fs.isDir p ∨ fs' = { fs with dirs := fs.dirs ++ [p] } := by
  unfold mkdir osMkdir at h
  split_ifs at h <;> simp_all

/-- A successful `mkdir` keeps the files and leaves `p` a directory, the one it may add. -/
theorem mkdir_spec {existOk : Bool} {fs fs' : Fs} {p : Path} (h : mkdir existOk fs p = .ok fs') :
    fs'.files = fs.files ∧ fs'.isDir p ∧ ∀ q, fs'.isDir q → fs.isDir q ∨ q = p := by
  rcases mkdir_ok h with ⟨rfl, hp⟩ | rfl
  · exact ⟨rfl, hp, fun _ => .inl⟩
  · exact ⟨rfl, by simp [isDir_iff_mem], fun q hq => by simpa [isDir_iff_mem] using hq⟩

/-- `mkdir(parents=True)` keeps the files, leaves `p` a directory, and adds no directory
deeper than `p`. -/
theorem mkdirParentsAux_ok {existOk : Bool} {fs fs' : Fs} {p : Path} {n : Nat}
    (h : mkdirParentsAux existOk fs p n = .ok fs') :
    fs'.files = fs.files ∧ fs'.isDir p ∧
      ∀ q, fs'.isDir q → fs.isDir q ∨ q.tail.length ≤ p.tail.length := by
  induction n generalizing existOk fs p fs' with
  | zero =>
    obtain ⟨hf, hp, hq⟩ := mkdir_spec h
    exact ⟨hf, hp, fun q h' => (hq q h').imp_right fun hqp => by rw [hqp]⟩
  | succ n ih =>
    simp only [mkdirParentsAux] at h
    split at h
    · split_ifs at h
      cases h₁ : mkdirParentsAux true fs p.parent n with
      | error => simp [h₁, bind, Except.bind] at h
      | ok fs₁ =>
        simp only [h₁, bind, Except.bind] at h
        obtain ⟨hf₁, -, hq₁⟩ := ih h₁
        obtain ⟨hf, hp, hq⟩ := mkdir_spec h
        refine ⟨hf.trans hf₁, hp, fun q h' => ?_⟩
        rcases hq q h' with h' | rfl
        · exact (hq₁ q h').imp_right fun h => h.trans (by simp [Path.parent])
        · exact .inr le_rfl
    · split_ifs at h with hd
      cases h
      exact ⟨rfl, (Bool.and_eq_true _ _ ▸ hd).2, fun q h' => .inl h'⟩
    · obtain ⟨hf, hp, hq⟩ := mkdir_spec (show mkdir false fs p = .ok fs' by simp [mkdir, h])
      exact ⟨hf, hp, fun q h' => (hq q h').imp_right fun hqp => by rw [hqp]⟩

theorem isDir_of_mkdir {existOk : Bool} {fs fs' : Fs} {p q : Path}
    (h : mkdir existOk fs p = .ok fs') (hq : fs.isDir q) : fs'.isDir q := by
  rcases mkdir_ok h with ⟨rfl, -⟩ | rfl
  · exact hq
  · simp only [isDir_iff_mem, List.mem_append] at hq ⊢
    exact .inl hq

/-- `mkdir(parents=True)` removes no directory. -/
theorem isDir_of_mkdirParentsAux {existOk : Bool} {fs fs' : Fs} {p q : Path} {n : Nat}
    (h : mkdirParentsAux existOk fs p n = .ok fs') (hq : fs.isDir q) : fs'.isDir q := by
  induction n generalizing existOk fs p fs' with
  | zero => exact isDir_of_mkdir h hq
  | succ n ih =>
    simp only [mkdirParentsAux] at h
    split at h
    · split_ifs at h
      cases h₁ : mkdirParentsAux true fs p.parent n with
      | error => simp [h₁, bind, Except.bind] at h
      | ok fs₁ =>
        simp only [h₁, bind, Except.bind] at h
        exact isDir_of_mkdir h (ih h₁ hq)
    · split_ifs at h
      cases h
      exact hq
    · exact isDir_of_mkdir (show mkdir false fs p = .ok fs' by simp [mkdir, h]) hq

/-- `rmtree` removes the directory and everything below it. -/
theorem rmtree_ok {fs fs' : Fs} {p : Path} (h : rmtree fs p = .ok fs') :
    ∀ q, (fs'.isDir q ↔ fs.isDir q ∧ p.isPrefixOf q = false) ∧
      (fs'.isFile q ↔ fs.isFile q ∧ p.isPrefixOf q = false) := by
  unfold rmtree at h
  split_ifs at h
  cases h
  intro q
  by_cases hq : p.isPrefixOf q <;> simp [isDir_iff_mem, isFile, lookup_filter_key, hq]

/-- `mkdir(exist_ok=True)` on a directory does nothing. -/
theorem mkdir_of_isDir {fs : Fs} {p : Path} (h : fs.isDir p) : mkdir true fs p = .ok fs := by
  simp [mkdir, osMkdir, «exists», h]

/-- A write returns exactly when the path is no directory and its parent is one. -/
theorem writeText_eq_ok_iff {fs fs' : Fs} {p : Path} {t : String} :
    writeText fs p t = .ok fs' ↔
      fs.isDir p = false ∧ fs.isDir p.parent = true ∧ fs' = { fs with files := assocSet p t fs.files } := by
  unfold writeText
  split_ifs with h₁ h₂
  · simp [h₁]
  · simp [h₁, h₂, eq_comm]
  · simp [h₂]
  · simp [h₂]

/-- Writing a file keeps the directories, and the file then exists. -/
theorem writeText_ok {fs fs' : Fs} {p : Path} {t : String} (h : writeText fs p t = .ok fs') :
    fs'.dirs = fs.dirs ∧ fs'.files = assocSet p t fs.files := by
  simp only [writeText] at h
  split_ifs at h
  cases h
  exact ⟨rfl, rfl⟩

end Fs

/-- `FunctionActionType` of a client function, as far as the builder tells its values apart. -/
inductive FunctionActionType where
  | sideeffect
  | passthrough
  deriving DecidableEq, Repr

/-- The metadata of one function of `controller._get_client_functions()`. -/
structure ActionMetadata where
  functionName : String
  actionType : FunctionActionType
  deriving DecidableEq, Repr

/-- What the builder reads of a mounted controller. `renderModelName` is the `__name__` of its
render model, `repr` the text `str(controller)` gives. -/
structure Controller where
  className : String
  viewPath : Path
  renderModelName : String
  clientFunctions : List ActionMetadata
  bundledScripts : List String
  repr : String
  deriving DecidableEq, Repr

/-- The application: its view root and its controllers in registration order. -/
structure App where
  viewRoot : Path
  controllers : List Controller
  deriving Repr

theorem App.eq_of {a b : App} (hv : a.viewRoot = b.viewRoot)
    (hc : a.controllers = b.controllers) : a = b := by
  cases a; cases b; cases hv; cases hc; rfl

/-- The exceptions `build()` can end with; `external` is one raised by code outside the
builder (the schema converters, the bundler). -/
inductive BuildError where
  | valueError (args : List String)
  | os (e : OsError)
  | external (msg : String)
  deriving DecidableEq, Repr

/-- What a build changes: the file system and the controllers' `bundled_scripts`. -/
structure BuildState where
  fs : Fs
  app : App

theorem BuildState.eq_of {t u : BuildState} (hd : t.fs.dirs = u.fs.dirs)
    (hf : t.fs.files = u.fs.files) (ha : t.app = u.app) : t = u := by
  obtain ⟨⟨_, _⟩, _⟩ := t
  obtain ⟨⟨_, _⟩, _⟩ := u
  cases hd; cases hf; cases ha; rfl

/-- A step of `build()`: it returns or raises, and the state it reached stays either way. -/
abbrev BuildM := EStateM BuildError BuildState

/-- Run a file operation on the build's file system. -/
def liftFs (f : Fs → Except OsError Fs) : BuildM Unit := fun s =>
  match f s.fs with
  | .ok fs => .ok () { s with fs := fs }
  | .error e => .error (.os e) s

theorem bind_ok_iff {α β : Type} {x : BuildM α} {f : α → BuildM β} {s s' : BuildState} {b : β} :
    (x >>= f) s = .ok b s' ↔ ∃ a s₁, x s = .ok a s₁ ∧ f a s₁ = .ok b s' := by
  change EStateM.bind x f s = _ ↔ _
  unfold EStateM.bind
  cases x s with
  | ok a s₁ => exact ⟨fun h => ⟨a, s₁, rfl, h⟩, fun ⟨_, _, h₁, h⟩ => by cases h₁; exact h⟩
  | error => simp

theorem bind_error_iff {α β : Type} {x : BuildM α} {f : α → BuildM β} {s s' : BuildState}
    {e : BuildError} :
    (x >>= f) s = .error e s' ↔
      x s = .error e s' ∨ ∃ a s₁, x s = .ok a s₁ ∧ f a s₁ = .error e s' := by
  change EStateM.bind x f s = _ ↔ _
  unfold EStateM.bind
  cases x s with
  | ok a s₁ => exact ⟨fun h => .inr ⟨a, s₁, rfl, h⟩, fun h => by
      rcases h with h | ⟨_, _, h₁, h⟩
      · cases h
      · cases h₁; exact h⟩
  | error => simp

@[simp] theorem pure_apply {α : Type} (a : α) (s : BuildState) :
    (pure a : BuildM α) s = .ok a s := rfl

/-- Read the file system. -/
def readFs {α : Type} (f : Fs → α) : BuildM α := fun s => .ok (f s.fs) s

/-- Read the application. -/
def readApp : BuildM App := fun s => .ok s.app s

@[simp] theorem readFs_apply {α : Type} (f : Fs → α) (s : BuildState) :
    readFs f s = .ok (f s.fs) s := rfl

@[simp] theorem readApp_apply (s : BuildState) : readApp s = .ok s.app s := rfl

@[simp] theorem modify_apply (f : BuildState → BuildState) (s : BuildState) :
    (modify f : BuildM PUnit) s = .ok () (f s) := rfl

theorem liftFs_ok_iff {f : Fs → Except OsError Fs} {s s' : BuildState} {u : Unit} :
    liftFs f s = .ok u s' ↔ ∃ fs, f s.fs = .ok fs ∧ s' = { s with fs := fs } := by
  unfold liftFs
  split <;> simp_all [eq_comm]

/-- `path.write_text(text)` in a build. -/
def writeFile (p : Path) (text : String) : BuildM Unit := liftFs (Fs.writeText · p text)

/-- A result of code outside the builder: an error it raises ends the build. -/
def liftExcept {α : Type} (x : Except String α) : BuildM α := fun s =>
  match x with
  | .ok a => .ok a s
  | .error e => .error (.external e) s

theorem liftExcept_ok_iff {α : Type} {x : Except String α} {s s' : BuildState} {a : α} :
    liftExcept x s = .ok a s' ↔ x = .ok a ∧ s' = s := by
  unfold liftExcept
  split <;> simp_all [eq_comm]

/-- A write that returns keeps the controllers and sets the file's text. -/
theorem writeFile_ok {p : Path} {text : String} {s s' : BuildState} {u : Unit}
    (h : writeFile p text s = .ok u s') :
    s'.app = s.app ∧ s'.fs.files = assocSet p text s.fs.files := by
  obtain ⟨fs, hfs, rfl⟩ := liftFs_ok_iff.1 h
  exact ⟨rfl, (Fs.writeText_ok hfs).2⟩

/-- The collaborators `builder.py` calls and the values they give. `openapiComponents` is
`OpenAPIDefinition(**self.openapi_from_controller(c)).components.schemas` for a controller, or
what building that document raises; `renderSchemas` the items the schema converter gives for
its render model; `componentInterface` what `convert_schema_to_interface` gives for one
component; `actionSchemas` the values of `output_schemas` and `required_types` of the action
converter on the controller's OpenAPI document; `bundleJavascript` what
`bundle_javascript(view_path, view_root)` returns or raises. -/
structure Externals where
  apiTs : String
  openapiComponents : Controller → Except String (List (String × String))
  renderSchemas : Controller → Except String (List (String × String))
  componentInterface : Controller → String → Except String String
  actionSchemas : Controller → Except String (List String × List String)
  generateRelativeImport : Path → Path → String
  bundleJavascript : Path → Path → Except String (String × String)
  getCleanedJsContents : String → String
  md5Hexdigest : String → String
  updateSourceMapPath : String → String → String

end Mountaineer.Client
