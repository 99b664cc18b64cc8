import Mountaineer.ClientModel

/-! Where the builder writes (`get_managed_dir_common`) and the check it runs before writing
anything (`validate_unique_paths`). The check groups controllers by the parent of the view
path; the managed directory is below the view path itself when that is a directory. -/
namespace Mountaineer.Client

/-- The directory `get_managed_dir_common(path, managed_dir)` returns: `managed_dir` below
`path`, or below its parent when `path` is a file. -/
def managedDirOf (fs : Fs) (path : Path) (managedDir : String) : Path :=
  (if fs.isFile path then path.parent else path) / managedDir

/-- `ClientBuilder.get_managed_dir_common`, which also makes the directory. -/
def getManagedDirCommon (path : Path) (managedDir : String) : BuildM Path := do
  let dir ← readFs (managedDirOf · path managedDir)
  liftFs (Fs.mkdir true · dir)
  return dir

/-- `ClientBuilder.get_managed_code_dir`. -/
def getManagedCodeDir (path : Path) : BuildM Path := getManagedDirCommon path "_server"

/-- `ClientBuilder.get_managed_static_dir`. -/
def getManagedStaticDir (path : Path) : BuildM Path := getManagedDirCommon path "_static"

/-- `get_managed_dir_common` returns the directory it computes from the file system it reads,
leaves it a directory, and changes nothing else. -/
theorem getManagedDirCommon_spec {path : Path} {m : String} {s s' : BuildState} {d : Path}
    (h : getManagedDirCommon path m s = .ok d s') :
    d = managedDirOf s.fs path m ∧ s'.app = s.app ∧ s'.fs.files = s.fs.files ∧ s'.fs.isDir d ∧
      ∀ q, s'.fs.isDir q → s.fs.isDir q ∨ q = d := by
  simp only [getManagedDirCommon, bind_ok_iff, readFs_apply, liftFs_ok_iff, pure_apply] at h
  obtain ⟨_, _, ⟨rfl, rfl⟩, _, _, ⟨fs, hfs, rfl⟩, h⟩ := h
  cases h
  exact ⟨rfl, rfl, (Fs.mkdir_spec hfs).1, (Fs.mkdir_spec hfs).2.1, (Fs.mkdir_spec hfs).2.2⟩

/-- One pass of the grouping loop: `view_counts[Path(view_path).parent].append(controller)`. -/
def addViewCount (acc : List (Path × List Controller)) (c : Controller) :
    List (Path × List Controller) :=
  assocSet c.viewPath.parent ((acc.lookup c.viewPath.parent).getD [] ++ [c]) acc

/-- `view_counts`, a `defaultdict(list)` of controllers keyed by the parent of the view path. -/
def viewCounts (controllers : List Controller) : List (Path × List Controller) :=
  controllers.foldl addViewCount []

/-- `duplicate_views`. -/
def duplicateViews (controllers : List Controller) : List (Path × List Controller) :=
  (viewCounts controllers).filter fun g => 1 < g.2.length

/-- The line of the error for one controller of a duplicate group. -/
def duplicateLine (view : Path) (controller : Controller) : String :=
  "  " ++ view.toString ++ ": " ++ controller.repr

/-- `validate_unique_paths` on the file system it reads. -/
def validateUniquePathsResult (fs : Fs) (controllers : List Controller) : Except BuildError Unit :=
  let duplicates := duplicateViews controllers
  if duplicates ≠ [] then
    .error (.valueError
      ["Found duplicate view paths under controller management, ensure definitions are unique",
        "\n".intercalate (duplicates.flatMap fun g => g.2.map (duplicateLine g.1))])
  else
    match controllers.find? (fun c => !fs.exists c.viewPath) with
    | some c => .error (.valueError ["View path " ++ c.viewPath.toString ++
        " does not exist, ensure it is created before running the server"])
    | none => .ok ()

/-- `ClientBuilder.validate_unique_paths`: it only reads. -/
def validateUniquePaths : BuildM Unit := fun s =>
  match validateUniquePathsResult s.fs s.app.controllers with
  | .ok () => .ok () s
  | .error e => .error e s

theorem viewCounts_append (cs : List Controller) (c : Controller) :
    viewCounts (cs ++ [c]) = addViewCount (viewCounts cs) c := by
  simp [viewCounts, List.foldl_append]

/-- Each group holds, in registration order, exactly the controllers with its parent, and
every parent has one group. -/
theorem mem_viewCounts (cs : List Controller) :
    ((viewCounts cs).map Prod.fst).Nodup ∧ ∀ g, g ∈ viewCounts cs ↔
      g.1 ∈ cs.map (·.viewPath.parent) ∧ g.2 = cs.filter (·.viewPath.parent = g.1) := by
  induction cs using List.reverseRecOn with
  | nil => simp [viewCounts]
  | append_singleton cs c ih =>
    obtain ⟨hnd, hmem⟩ := ih
    set k := c.viewPath.parent
    have hold : ((viewCounts cs).lookup k).getD [] = cs.filter (·.viewPath.parent = k) := by
      cases hl : (viewCounts cs).lookup k with
      | none =>
        have hk : k ∉ cs.map (·.viewPath.parent) := fun hk => by
          simpa using List.lookup_eq_none_iff.1 hl _
            ((hmem (k, cs.filter (·.viewPath.parent = k))).2 ⟨hk, rfl⟩)
        exact (List.filter_eq_nil_iff.2 (by simpa using hk)).symm
      | some l => simpa using ((hmem (k, l)).1 (mem_of_lookup_eq_some hl)).2
    rw [viewCounts_append, addViewCount, hold]
    refine ⟨?_, fun g => ?_⟩
    · rw [keys_assocSet]; split_ifs with hk
      · exact hnd
      · exact hnd.append (List.nodup_singleton _) (by simpa using hk)
    rw [mem_assocSet_iff hnd, hmem]
    obtain ⟨v, l⟩ := g
    by_cases hv : v = k
    · subst hv
      simp [List.filter_append, k]
    · have hc : ¬ c.viewPath.parent = v := Ne.symm hv
      simp [List.filter_append, hc, hv]

theorem count_map_eq_length_filter {α β : Type} [DecidableEq β] (f : α → β) (l : List α) (b : β) :
    (l.map f).count b = (l.filter (f · = b)).length := by
  rw [List.count, List.countP_map, List.countP_eq_length_filter]
  rfl

/-- Splitting off one element of a key-indexed concatenation. -/
theorem flatMap_ite_cons_perm {α β : Type} [DecidableEq β] {K : List β} (hK : K.Nodup)
    {b : β} (hb : b ∈ K) (a : α) (g : β → List α) :
    List.Perm (K.flatMap fun v => if b = v then a :: g v else g v) (a :: K.flatMap g) := by
  induction K with
  | nil => simp at hb
  | cons v K ih =>
    rw [List.nodup_cons] at hK
    simp only [List.flatMap_cons]
    by_cases hv : b = v
    · subst hv
      have hrest : (K.flatMap fun v => if b = v then a :: g v else g v) = K.flatMap g :=
        List.flatMap_congr fun w hw => if_neg fun h : b = w => hK.1 (h ▸ hw)
      simp [hrest]
    · have hb' : b ∈ K := (List.mem_cons.1 hb).resolve_left hv
      rw [if_neg hv]
      exact ((ih hK.2 hb').append_left _).trans List.perm_middle

/-- Concatenating, over distinct keys covering every element, the elements of each key gives
the list back up to order. -/
theorem flatMap_filter_perm {α β : Type} [DecidableEq β] (f : α → β) {K : List β}
    (hK : K.Nodup) {l : List α} (hl : ∀ a ∈ l, f a ∈ K) :
    List.Perm (K.flatMap fun v => l.filter (f · = v)) l := by
  induction l with
  | nil => simp
  | cons a l ih =>
    simp only [List.forall_mem_cons] at hl
    simp only [List.filter_cons, decide_eq_true_eq]
    exact (flatMap_ite_cons_perm hK hl.1 a _).trans ((ih hl.2).cons a)

theorem viewCounts_eq_map (cs : List Controller) : viewCounts cs =
    ((viewCounts cs).map Prod.fst).map fun v => (v, cs.filter (·.viewPath.parent = v)) := by
  rw [List.map_map]
  refine (List.map_id _).symm.trans (List.map_congr_left fun g hg => ?_)
  obtain ⟨v, l⟩ := g
  have h := (((mem_viewCounts cs).2 (v, l)).1 hg).2
  simp only at h
  simp [h]

/-- The controller is in a group of two or more controllers with one parent. -/
def sharesParent (cs : List Controller) (c : Controller) : Bool :=
  1 < (cs.filter (·.viewPath.parent = c.viewPath.parent)).length

/-- The duplicate groups hold each controller that shares its parent once, with that parent,
and no other controller. -/
theorem duplicateViews_perm (cs : List Controller) :
    List.Perm ((duplicateViews cs).flatMap fun g => g.2.map (g.1, ·))
      ((cs.filter (sharesParent cs)).map fun c => (c.viewPath.parent, c)) := by
  obtain ⟨hnd, hmem⟩ := mem_viewCounts cs
  set K := (viewCounts cs).map Prod.fst
  set F := fun v => cs.filter (·.viewPath.parent = v)
  set K' := K.filter fun v => 1 < (F v).length
  have hdup : duplicateViews cs = K'.map fun v => (v, F v) := by
    rw [duplicateViews, viewCounts_eq_map, List.filter_map]; rfl
  have hpair : ∀ v, (F v).map (v, ·) = (F v).map fun c => (c.viewPath.parent, c) :=
    fun v => List.map_congr_left fun c hc => by simp [F] at hc; rw [hc.2]
  have hF : ∀ v ∈ K', F v = (cs.filter (sharesParent cs)).filter (·.viewPath.parent = v) := by
    intro v hv
    simp only [K', List.mem_filter, decide_eq_true_eq] at hv
    rw [List.filter_filter]
    exact List.filter_congr fun c _ => by
      by_cases hc : c.viewPath.parent = v <;> simp [sharesParent, hc, hv.2, F]
  have hcover : ∀ c ∈ cs.filter (sharesParent cs), c.viewPath.parent ∈ K' := by
    intro c hc
    rw [List.mem_filter] at hc
    refine List.mem_filter.2 ⟨List.mem_map.2 ⟨(c.viewPath.parent, F c.viewPath.parent),
      (hmem _).2 ⟨List.mem_map_of_mem _ hc.1, rfl⟩, rfl⟩, by simpa [sharesParent] using hc.2⟩
  rw [hdup, List.flatMap_map]
  simp only [hpair, ← List.map_flatMap]
  refine List.Perm.map _ ?_
  rw [List.flatMap_congr hF]
  exact flatMap_filter_perm _ (hnd.filter _) hcover

theorem duplicateViews_ne_nil_iff (cs : List Controller) :
    duplicateViews cs ≠ [] ↔ ¬ (cs.map (·.viewPath.parent)).Nodup := by
  have hmem := (mem_viewCounts cs).2
  rw [List.nodup_iff_count_le_one]
  simp only [duplicateViews, ne_eq, List.filter_eq_nil_iff, decide_eq_true_eq, not_forall,
    not_not, not_le, count_map_eq_length_filter, exists_prop]
  constructor
  · rintro ⟨g, hg, hlen⟩
    exact ⟨g.1, ((hmem g).1 hg).2 ▸ hlen⟩
  · rintro ⟨v, hv⟩
    have hin : v ∈ cs.map (·.viewPath.parent) := by
      by_contra hn
      rw [List.filter_eq_nil_iff.2 (by simpa using hn)] at hv
      simp at hv
    exact ⟨_, (hmem (v, _)).2 ⟨hin, rfl⟩, hv⟩

/-- The check raises exactly when two controllers share the parent of their view path or a
view path is missing. -/
theorem validateUniquePathsResult_error_iff (fs : Fs) (cs : List Controller) :
    (∃ e, validateUniquePathsResult fs cs = .error e) ↔
      ¬ (cs.map (·.viewPath.parent)).Nodup ∨ ∃ c ∈ cs, fs.exists c.viewPath = false := by
  rw [← duplicateViews_ne_nil_iff]
  unfold validateUniquePathsResult
  by_cases hd : duplicateViews cs = []
  · simp only [hd, ne_eq, not_true_eq_false, if_false, false_or]
    cases hf : cs.find? (fun c => !fs.exists c.viewPath) with
    | none => simpa using hf
    | some c => simpa using ⟨c, List.mem_of_find?_eq_some hf, by simpa using List.find?_some hf⟩
  · simp [hd]

/-- With a shared parent the error has one line for each controller in a group of two or
more, with its parent, and no other line. -/
theorem validateUniquePathsResult_of_not_nodup {fs : Fs} {cs : List Controller}
    (h : ¬ (cs.map (·.viewPath.parent)).Nodup) : ∃ lines,
      validateUniquePathsResult fs cs = .error (.valueError
        ["Found duplicate view paths under controller management, ensure definitions are unique",
          "\n".intercalate lines]) ∧
      List.Perm lines ((cs.filter (sharesParent cs)).map fun c => duplicateLine c.viewPath.parent c) := by
  have hd := (duplicateViews_ne_nil_iff cs).2 h
  refine ⟨(duplicateViews cs).flatMap fun g => g.2.map (duplicateLine g.1),
    by simp [validateUniquePathsResult, hd], ?_⟩
  have hp := (duplicateViews_perm cs).map fun g : Path × Controller => duplicateLine g.1 g.2
  simpa [List.map_flatMap, List.map_map, Function.comp_def] using hp

/-- A view directory and a view file inside it pass the check, and both controllers get the
managed code directory `/app/views/home/_server`. -/
theorem validated_views_share_managed_code_dir :
    validateUniquePathsResult
        ⟨[⟨true, []⟩, ⟨true, ["app"]⟩, ⟨true, ["app", "views"]⟩, ⟨true, ["app", "views", "home"]⟩],
          [(⟨true, ["app", "views", "home", "page.tsx"]⟩, "")]⟩
        [⟨"HomeController", ⟨true, ["app", "views", "home"]⟩, "HomeRender", [], [], "home"⟩,
          ⟨"PageController", ⟨true, ["app", "views", "home", "page.tsx"]⟩, "PageRender", [], [],
            "page"⟩] = .ok () ∧
      managedDirOf
          ⟨[⟨true, []⟩, ⟨true, ["app"]⟩, ⟨true, ["app", "views"]⟩,
            ⟨true, ["app", "views", "home"]⟩], [(⟨true, ["app", "views", "home", "page.tsx"]⟩, "")]⟩
          ⟨true, ["app", "views", "home"]⟩ "_server" =
        managedDirOf
          ⟨[⟨true, []⟩, ⟨true, ["app"]⟩, ⟨true, ["app", "views"]⟩,
            ⟨true, ["app", "views", "home"]⟩], [(⟨true, ["app", "views", "home", "page.tsx"]⟩, "")]⟩
          ⟨true, ["app", "views", "home", "page.tsx"]⟩ "_server" := by
  decide

end Mountaineer.Client
