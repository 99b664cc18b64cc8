import Mountaineer.ClientPaths

/-! What a step of `build()` may do, said once for each step and carried through the ways the
builder combines steps. A step guarantees a relation between the state it starts from and every
state it reaches, whether it returns or raises, what it returns and what it raises
(`Guarantees`). Every property of steps closed under `bind`, `pure` and `liftExcept` holds of a
loop over the controllers once it holds of the loop's body (`StepLogic`). -/
namespace Mountaineer.Client

/-- The exception is a `ValueError`, the kind `validate_unique_paths` raises. -/
def BuildError.IsValueError (e : BuildError) : Prop := ∃ args, e = .valueError args

/-- The exception is an `OSError`, the kind a file operation raises. -/
def BuildError.IsOs (e : BuildError) : Prop := ∃ o, e = .os o

theorem BuildError.IsOs.not_isValueError {e : BuildError} (h : e.IsOs) : ¬ e.IsValueError := by
  obtain ⟨o, rfl⟩ := h
  rintro ⟨_, ⟨⟩⟩

/-- Every state `x` reaches from `s` stands in `R` to `s`; a value it returns satisfies `Q`, and
an exception it raises satisfies `E`. -/
structure Guarantees {α : Type} (R : BuildState → BuildState → Prop) (E : BuildError → Prop)
    (x : BuildM α) (Q : α → Prop) : Prop where
  ok : ∀ s a s', x s = .ok a s' → R s s' ∧ Q a
  error : ∀ s e s', x s = .error e s' → R s s' ∧ E e

/-- A property of steps closed under the three ways the generators combine steps. -/
structure StepLogic (P : (α : Type) → BuildM α → (α → Prop) → Prop) : Prop where
  bind : ∀ {α β : Type} {x : BuildM α} {f : α → BuildM β} {Q : α → Prop} {Q' : β → Prop},
    P α x Q → (∀ a, Q a → P β (f a) Q') → P β (x >>= f) Q'
  pure : ∀ {α : Type} {a : α} {Q : α → Prop}, Q a → P α (Pure.pure a) Q
  liftExcept : ∀ {α : Type} (x : Except String α), P α (Client.liftExcept x) fun _ => True

namespace StepLogic

variable {P : (α : Type) → BuildM α → (α → Prop) → Prop} {β γ : Type}

theorem forM_mem (L : StepLogic P) {l : List γ} {f : γ → BuildM PUnit}
    (hf : ∀ a ∈ l, P PUnit (f a) fun _ => True) : P PUnit (l.forM f) fun _ => True := by
  induction l with
  | nil => exact L.pure trivial
  | cons a l ih => exact L.bind (hf a (.head _)) fun _ _ => ih fun b hb => hf b (.tail _ hb)

theorem mapM_mem (L : StepLogic P) {l : List γ} {f : γ → BuildM β}
    (hf : ∀ a ∈ l, P β (f a) fun _ => True) : P (List β) (l.mapM f) fun _ => True := by
  induction l with
  | nil => exact L.pure trivial
  | cons a l ih =>
    rw [List.mapM_cons]
    exact L.bind (hf a (.head _)) fun _ _ =>
      L.bind (ih fun b hb => hf b (.tail _ hb)) fun _ _ => L.pure trivial

end StepLogic

namespace Guarantees

variable {α β : Type} {R : BuildState → BuildState → Prop} {E : BuildError → Prop}

theorem mono {R' : BuildState → BuildState → Prop} {E' : BuildError → Prop} {x : BuildM α}
    {Q Q' : α → Prop} (h : Guarantees R E x Q) (hR : ∀ s s', R s s' → R' s s')
    (hE : ∀ e, E e → E' e) (hQ : ∀ a, Q a → Q' a) : Guarantees R' E' x Q' where
  ok s a s' hx := (h.ok s a s' hx).imp (hR s s') (hQ a)
  error s e s' hx := (h.error s e s' hx).imp (hR s s') (hE e)

/-- Forgetting what a step raises. -/
theorem anyError {x : BuildM α} {Q : α → Prop} (h : Guarantees R E x Q) :
    Guarantees R (fun _ => True) x Q :=
  h.mono (fun _ _ => id) (fun _ _ => trivial) fun _ => id

theorem ite {c : Prop} [Decidable c] {x y : BuildM α} {Q : α → Prop} (hx : Guarantees R E x Q)
    (hy : Guarantees R E y Q) : Guarantees R E (if c then x else y) Q := by
  split <;> assumption

variable [IsPreorder BuildState R]

theorem bind {x : BuildM α} {f : α → BuildM β} {Q : α → Prop} {P : β → Prop}
    (hx : Guarantees R E x Q) (hf : ∀ a, Q a → Guarantees R E (f a) P) :
    Guarantees R E (x >>= f) P where
  ok s b s' h := by
    obtain ⟨a, s₁, h₁, h₂⟩ := bind_ok_iff.1 h
    obtain ⟨hR₁, hQ⟩ := hx.ok _ _ _ h₁
    obtain ⟨hR₂, hP⟩ := (hf a hQ).ok _ _ _ h₂
    exact ⟨trans_of R hR₁ hR₂, hP⟩
  error s e s' h := by
    rcases bind_error_iff.1 h with h | ⟨a, s₁, h₁, h₂⟩
    · exact hx.error _ _ _ h
    · obtain ⟨hR₁, hQ⟩ := hx.ok _ _ _ h₁
      obtain ⟨hR₂, hE⟩ := (hf a hQ).error _ _ _ h₂
      exact ⟨trans_of R hR₁ hR₂, hE⟩

theorem pure {a : α} {Q : α → Prop} (ha : Q a) : Guarantees R E (Pure.pure a : BuildM α) Q :=
  ⟨fun s _ _ h => by cases h; exact ⟨refl_of R s, ha⟩, fun _ _ _ h => by cases h⟩

theorem readFs (f : Fs → α) : Guarantees R E (Client.readFs f) fun a => ∃ fs, f fs = a :=
  ⟨fun s _ _ h => by cases h; exact ⟨refl_of R s, _, rfl⟩, fun _ _ _ h => by cases h⟩

theorem readApp : Guarantees R E Client.readApp fun _ => True :=
  ⟨fun s _ _ h => by cases h; exact ⟨refl_of R s, trivial⟩, fun _ _ _ h => by cases h⟩

theorem liftExcept (hE : ∀ m, E (.external m)) (x : Except String α) :
    Guarantees R E (Client.liftExcept x) fun _ => True where
  ok s _ _ h := by
    cases x <;> cases h
    exact ⟨refl_of R s, trivial⟩
  error s _ _ h := by
    cases x <;> cases h
    exact ⟨refl_of R s, hE _⟩

/-- A file operation whose every success stands in `R`; a failing one changes nothing and raises
an `OSError`. -/
theorem liftFs {f : Fs → Except OsError Fs} (hf : ∀ s fs, f s.fs = .ok fs → R s { s with fs := fs })
    (hE : ∀ o, E (.os o)) : Guarantees R E (Client.liftFs f) fun _ => True where
  ok s _ _ h := by
    obtain ⟨fs, hfs, rfl⟩ := liftFs_ok_iff.1 h
    exact ⟨hf s fs hfs, trivial⟩
  error s _ _ h := by
    unfold Client.liftFs at h
    split at h <;> cases h
    exact ⟨refl_of R s, hE _⟩

/-- The guarantees of steps that raise only what `E` allows of code outside the builder form a
step logic. -/
theorem stepLogic (hE : ∀ m, E (.external m)) : StepLogic fun _ x Q => Guarantees R E x Q :=
  ⟨fun hx hf => hx.bind hf, fun ha => pure ha, liftExcept hE⟩

end Guarantees

/-- A loop whose body, for each item, keeps the controllers and sets one file, sets the files
it lists, in order. -/
theorem forM_writes {γ : Type} {l : List γ} {f : γ → BuildM PUnit} {W : γ → Path × String → Prop}
    (hf : ∀ a ∈ l, ∀ t t₁, f a t = .ok () t₁ →
      t₁.app = t.app ∧ ∃ e, W a e ∧ t₁.fs.files = assocSet e.1 e.2 t.fs.files)
    {t t' : BuildState} (h : l.forM f t = .ok () t') :
    t'.app = t.app ∧ ∃ es, List.Forall₂ W l es ∧ t'.fs.files = assocMerge t.fs.files es := by
  induction l generalizing t with
  | nil =>
    cases h
    exact ⟨rfl, [], .nil, rfl⟩
  | cons a l ih =>
    obtain ⟨⟨⟩, t₁, h₁, h₂⟩ := bind_ok_iff.1 h
    obtain ⟨happ₁, e, he, hfiles₁⟩ := hf a (.head _) _ _ h₁
    obtain ⟨happ, es, hes, hfiles⟩ := ih (fun b hb => hf b (.tail _ hb)) h₂
    exact ⟨happ.trans happ₁, e :: es, .cons he hes, by rw [hfiles, hfiles₁, assocMerge_cons]⟩

/-- `validate_unique_paths` only reads, and raises only `ValueError`s. -/
theorem validateUniquePaths_apply (s : BuildState) :
    validateUniquePaths s = match validateUniquePathsResult s.fs s.app.controllers with
      | .ok () => .ok () s
      | .error e => .error e s := rfl

theorem validateUniquePaths_ok {s s' : BuildState} {u : Unit}
    (h : validateUniquePaths s = .ok u s') : s' = s := by
  rw [validateUniquePaths_apply] at h
  split at h <;> cases h
  rfl

/-- Every error of the check is a `ValueError`. -/
theorem validateUniquePathsResult_valueError {fs : Fs} {cs : List Controller} {e : BuildError}
    (h : validateUniquePathsResult fs cs = .error e) : e.IsValueError := by
  unfold validateUniquePathsResult at h
  dsimp only at h
  split_ifs at h
  · cases h; exact ⟨_, rfl⟩
  · split at h <;> cases h; exact ⟨_, rfl⟩

theorem validateUniquePaths_guarantees {R : BuildState → BuildState → Prop}
    [IsPreorder BuildState R] :
    Guarantees R BuildError.IsValueError validateUniquePaths fun _ => True where
  ok s _ _ h := by
    cases validateUniquePaths_ok h
    exact ⟨refl_of R s, trivial⟩
  error s _ _ h := by
    rw [validateUniquePaths_apply] at h
    split at h <;> cases h
    exact ⟨refl_of R s, validateUniquePathsResult_valueError ‹_›⟩

/-- `s'` is `s` with at most directories added, each named `m`: the step
`get_managed_dir_common(path, m)` takes. -/
def MakesDir (m : String) (s s' : BuildState) : Prop :=
  s'.app = s.app ∧ s'.fs.files = s.fs.files ∧ (∀ p, s.fs.isDir p → s'.fs.isDir p) ∧
    ∀ p, s'.fs.isDir p → s.fs.isDir p ∨ p.tail.getLast? = some m

instance (m : String) : IsPreorder BuildState (MakesDir m) where
  refl _ := ⟨rfl, rfl, fun _ h => h, fun _ h => .inl h⟩
  trans _ _ _ h₁ h₂ := ⟨h₂.1.trans h₁.1, h₂.2.1.trans h₁.2.1, fun p h => h₂.2.2.1 p (h₁.2.2.1 p h),
    fun p h => (h₂.2.2.2 p h).elim (h₁.2.2.2 p) .inr⟩

@[simp] theorem managedDirOf_getLast (fs : Fs) (path : Path) (m : String) :
    (managedDirOf fs path m).tail.getLast? = some m := by
  simp only [managedDirOf, Path.div_tail, List.getLast?_concat]

theorem getManagedDirCommon_guarantees (path : Path) (m : String) :
    Guarantees (MakesDir m) BuildError.IsOs (getManagedDirCommon path m)
      fun d => d.tail.getLast? = some m :=
  (Guarantees.readFs _).bind fun dir ⟨fs, hd⟩ =>
    have hm : dir.tail.getLast? = some m := hd ▸ managedDirOf_getLast fs path m
    (Guarantees.liftFs (fun _ _ h => ⟨rfl, (Fs.mkdir_spec h).1, fun _ => Fs.isDir_of_mkdir h,
      fun q hq => ((Fs.mkdir_spec h).2.2 q hq).imp_right fun (hq : q = dir) => hq ▸ hm⟩)
      fun o => ⟨o, rfl⟩).bind fun _ _ => Guarantees.pure hm

/-- A step of the generators: the controllers stay, every file not directly in a `_server`
directory keeps its text or its absence, no directory goes, and each directory added is named
`_server`. -/
def GeneratorStep (s s' : BuildState) : Prop :=
  s'.app = s.app ∧
    (∀ q, q.parent.tail.getLast? ≠ some "_server" → s'.fs.files.lookup q = s.fs.files.lookup q) ∧
    (∀ p, s.fs.isDir p → s'.fs.isDir p) ∧
    ∀ p, s'.fs.isDir p → s.fs.isDir p ∨ p.tail.getLast? = some "_server"

instance : IsPreorder BuildState GeneratorStep where
  refl _ := ⟨rfl, fun _ _ => rfl, fun _ h => h, fun _ h => .inl h⟩
  trans _ _ _ h₁ h₂ := ⟨h₂.1.trans h₁.1, fun q hq => (h₂.2.1 q hq).trans (h₁.2.1 q hq),
    fun p h => h₂.2.2.1 p (h₁.2.2.1 p h), fun p h => (h₂.2.2.2 p h).elim (h₁.2.2.2 p) .inr⟩

theorem GeneratorStep.of_makesDir {s s' : BuildState} (h : MakesDir "_server" s s') :
    GeneratorStep s s' :=
  ⟨h.1, fun _ _ => congrArg (List.lookup _) h.2.1, h.2.2⟩

/-- A generator's write, into the `_server` directory `get_managed_code_dir` gave. -/
theorem writeManaged_guarantees {d : Path} (hd : d.tail.getLast? = some "_server")
    (name text : String) :
    Guarantees GeneratorStep BuildError.IsOs (writeFile (d / name) text) fun _ => True :=
  .liftFs (fun s fs h => by
    obtain ⟨hdirs, hfiles⟩ := Fs.writeText_ok h
    have hdir : ∀ p, fs.isDir p = s.fs.isDir p := fun p => by
      simp only [Fs.isDir, hdirs]
    refine ⟨rfl, fun q hq => ?_, fun p hp => (hdir p).trans hp,
      fun p hp => .inl ((hdir p).symm.trans hp)⟩
    show fs.files.lookup q = _
    rw [hfiles, lookup_assocSet_of_ne]
    rintro rfl
    exact hq (by rwa [Path.parent_div])) fun o => ⟨o, rfl⟩

/-- A path `build()` may write or delete: a file directly in a `_server` directory, or a path
with a `_static` directory above it. -/
def InManagedDir (q : Path) : Prop := q.parent.tail.getLast? = some "_server" ∨ "_static" ∈ q.tail

instance : DecidablePred InManagedDir := fun _ => instDecidableOr

/-- `s'` has each file outside the managed directories with the text `s` gives it, or, like
`s`, not at all, and each directory of `s` that is not below a `_static` directory. -/
def KeepsUnmanaged (s s' : BuildState) : Prop :=
  (∀ q, ¬ InManagedDir q → s'.fs.files.lookup q = s.fs.files.lookup q) ∧
    ∀ p, "_static" ∉ p.tail → s.fs.isDir p → s'.fs.isDir p

instance : IsPreorder BuildState KeepsUnmanaged where
  refl _ := ⟨fun _ _ => rfl, fun _ _ h => h⟩
  trans _ _ _ h₁ h₂ :=
    ⟨fun q hq => (h₂.1 q hq).trans (h₁.1 q hq), fun p hp h => h₂.2 p hp (h₁.2 p hp h)⟩

theorem GeneratorStep.keepsUnmanaged {s s' : BuildState} (h : GeneratorStep s s') :
    KeepsUnmanaged s s' :=
  ⟨fun q hq => h.2.1 q fun h' => hq (.inl h'), fun p _ => h.2.2.1 p⟩

theorem MakesDir.keepsUnmanaged {m : String} {s s' : BuildState} (h : MakesDir m s s') :
    KeepsUnmanaged s s' :=
  ⟨fun _ _ => congrArg (List.lookup _) h.2.1, fun p _ => h.2.2.1 p⟩

/-- Everything below a directory named `_static` has a `_static` part. -/
theorem static_mem_of_isPrefixOf {d q : Path} (hd : d.tail.getLast? = some "_static")
    (h : d.isPrefixOf q = true) : "_static" ∈ q.tail := by
  simp only [Path.isPrefixOf, Bool.and_eq_true, List.isPrefixOf_iff_prefix] at h
  exact h.2.subset (List.mem_of_getLast?_eq_some hd)

/-- A file operation that keeps the files and removes no directory keeps everything unmanaged. -/
theorem keepsUnmanaged_of_files_eq {s : BuildState} {fs : Fs} (hf : fs.files = s.fs.files)
    (hd : ∀ p, s.fs.isDir p → fs.isDir p) : KeepsUnmanaged s { s with fs := fs } :=
  ⟨fun _ _ => congrArg (List.lookup _) hf, fun p _ => hd p⟩

/-- `rmtree` of a `_static` directory removes nothing unmanaged. -/
theorem keepsUnmanaged_rmtree {d : Path} (hd : d.tail.getLast? = some "_static") {s : BuildState}
    {fs : Fs} (h : s.fs.rmtree d = .ok fs) : KeepsUnmanaged s { s with fs := fs } := by
  unfold Fs.rmtree at h
  split_ifs at h
  cases h
  refine ⟨fun q hq => ?_, fun q hq hd' => ?_⟩
  · show (s.fs.files.filter fun e => !d.isPrefixOf e.1).lookup q = _
    refine (lookup_filter_key (fun k => !d.isPrefixOf k) _ _).trans (if_pos ?_)
    simpa using fun h => hq (.inr (static_mem_of_isPrefixOf hd h))
  · simp only [Fs.isDir_iff_mem, List.mem_filter] at hd' ⊢
    exact ⟨hd', by simpa using fun h => hq (static_mem_of_isPrefixOf hd h)⟩

end Mountaineer.Client
