import Mountaineer.ClientModel

/-! `inflection.underscore` and `inflection.camelize`, from which the builder derives every
generated name, one structurally recursive pass per `re.sub`. The classes `[A-Z]` and `[a-z]`
of the patterns are ASCII; `\d`, `str.lower` and `str.upper` are Unicode in Python, and are read
here with core's `Char.isDigit`, `toLower` and `toUpper`, which are ASCII. The model therefore
computes Python's names for ASCII text (`IsAscii`), and every result about the names of a whole
registry assumes its class names are ASCII. -/
namespace Mountaineer.Client

section Ascii

theorem char_toNat_ofNat {m : Nat} (h : m < 0xd800) : (Char.ofNat m).toNat = m := by
  have hv : m.isValidChar := Or.inl h
  simp [Char.ofNat, hv, Char.ofNatAux, Char.toNat, UInt32.toNat]

theorem char_toNat_inj {c d : Char} : c.toNat = d.toNat ↔ c = d :=
  ⟨fun h => Char.ext (UInt32.toNat.inj h), fun h => h ▸ rfl⟩

theorem toNat_toUpper (c : Char) :
    c.toUpper.toNat = if 97 ≤ c.toNat ∧ c.toNat ≤ 122 then c.toNat - 32 else c.toNat := by
  simp only [Char.toUpper, ge_iff_le]
  split_ifs
  · exact char_toNat_ofNat (by omega)
  · rfl

theorem toNat_toLower (c : Char) :
    c.toLower.toNat = if 65 ≤ c.toNat ∧ c.toNat ≤ 90 then c.toNat + 32 else c.toNat := by
  simp only [Char.toLower, ge_iff_le]
  split_ifs
  · exact char_toNat_ofNat (by omega)
  · rfl

theorem isUpper_iff (c : Char) : c.isUpper ↔ 65 ≤ c.toNat ∧ c.toNat ≤ 90 := by
  simp [Char.isUpper, Char.toNat, UInt32.le_def, BitVec.le_def, UInt32.toNat]

theorem isLower_iff (c : Char) : c.isLower ↔ 97 ≤ c.toNat ∧ c.toNat ≤ 122 := by
  simp [Char.isLower, Char.toNat, UInt32.le_def, BitVec.le_def, UInt32.toNat]

theorem isDigit_iff (c : Char) : c.isDigit ↔ 48 ≤ c.toNat ∧ c.toNat ≤ 57 := by
  simp [Char.isDigit, Char.toNat, UInt32.le_def, BitVec.le_def, UInt32.toNat]

theorem isAlphanum_iff (c : Char) : c.isAlphanum ↔ c.isUpper ∨ c.isLower ∨ c.isDigit := by
  simp [Char.isAlphanum, Char.isAlpha, or_assoc]

end Ascii

/-- Text of ASCII characters only, on which core's character classes and case maps are
Python's. -/
def IsAscii (s : String) : Prop := ∀ c ∈ s.data, c.toNat < 128

instance : DecidablePred IsAscii := fun s => inferInstanceAs (Decidable (∀ c ∈ s.data, c.toNat < 128))

/-- `re.sub(r"([A-Z]+)([A-Z][a-z])", r"\1_\2", ·)`; `run` holds the upper-case letters read
since the last other character. -/
def splitAcronymAux (run : List Char) : List Char → List Char
  | [] => run
  | c :: cs =>
    if c.isUpper then splitAcronymAux (run ++ [c]) cs
    else if c.isLower && 2 ≤ run.length then
      run.dropLast ++ '_' :: run.getLast! :: c :: splitAcronymAux [] cs
    else run ++ c :: splitAcronymAux [] cs

/-- `re.sub(r"([a-z\d])([A-Z])", r"\1_\2", ·)`. -/
def splitCamel : List Char → List Char
  | c :: d :: cs =>
    if (c.isLower || c.isDigit) && d.isUpper then c :: '_' :: d :: splitCamel cs
    else c :: splitCamel (d :: cs)
  | cs => cs

/-- `inflection.underscore`, on ASCII text. -/
def underscore (word : String) : String :=
  ⟨((splitCamel (splitAcronymAux [] word.data)).map fun c => if c = '-' then '_' else c).map
    Char.toLower⟩

/-- `str.upper`, on ASCII text. -/
def upper (s : String) : String := ⟨s.data.map Char.toUpper⟩

/-- `re.sub(r"(?:^|_)(.)", lambda m: m.group(1).upper(), ·)` past the first character: an
underscore and the character after it become that character in upper case. -/
def camelizeRest : List Char → List Char
  | '_' :: c :: cs => if c = '\n' then '_' :: camelizeRest (c :: cs) else c.toUpper :: camelizeRest cs
  | c :: cs => c :: camelizeRest cs
  | [] => []

/-- `inflection.camelize(string)`, whose `uppercase_first_letter` is `True`, on ASCII text. -/
def camelize (string : String) : String :=
  ⟨match string.data with
    | c :: cs => if c = '\n' then camelizeRest (c :: cs) else c.toUpper :: camelizeRest cs
    | [] => []⟩

/-- `ClientBuilder.get_controller_global_state`. -/
def getControllerGlobalState (controller : Controller) : String :=
  upper (underscore controller.className)

/-- `ClientBuilder.get_controller_render_global_type`. -/
def getControllerRenderGlobalType (controller : Controller) : String :=
  getControllerGlobalState controller ++ camelize controller.renderModelName

/-- `ClientBuilder.get_render_local_state`. -/
def getRenderLocalState (controller : Controller) : String :=
  camelize controller.renderModelName

/-- Class names that differ only in the case of an acronym share a key: `HTMLPage` and
`HtmlPage` both give `HTML_PAGE`. -/
theorem different_class_names_share_key :
    ¬ ∀ c₁ c₂ : Controller, c₁.className ≠ c₂.className →
      getControllerGlobalState c₁ ≠ getControllerGlobalState c₂ := fun h =>
  h ⟨"HTMLPage", ⟨true, ["views", "html"]⟩, "PageRender", [], [], "html"⟩
    ⟨"HtmlPage", ⟨true, ["views", "page"]⟩, "PageRender", [], [], "page"⟩ (by decide) (by decide)

/-- The rest of a CamelCase class name after the character `p`: ASCII letters and digits, no
upper-case letter right after another. -/
def camelTail : Char → List Char → Bool
  | _, [] => true
  | p, c :: cs => c.isAlphanum && !(p.isUpper && c.isUpper) && camelTail c cs

/-- A class name of CamelCase words: an ASCII upper-case letter, then ASCII letters and digits
with no two upper-case letters in a row. -/
def isCamelWord (name : String) : Bool :=
  match name.data with
  | c :: cs => c.isUpper && camelTail c cs
  | [] => false

/-- What the dash replacement, `lower` and `upper` do to one character of the key. -/
def caseFold (c : Char) : Char := (if c = '-' then '_' else c).toLower.toUpper

/-- The key character sequence of a CamelCase name after its first letter. -/
def camelKeyTail (cs : List Char) : List Char :=
  cs.flatMap fun d => if d.isUpper then ['_', d] else [d.toUpper]

theorem upper_underscore_data (w : String) :
    (upper (underscore w)).data = (splitCamel (splitAcronymAux [] w.data)).map caseFold := by
  simp [upper, underscore, caseFold, List.map_map, Function.comp_def]

theorem ne_dash_of_alphanum {c : Char} (h : c.isAlphanum) : c ≠ '-' := by
  rintro rfl; revert h; decide

theorem caseFold_of_upper {c : Char} (h : c.isUpper) : caseFold c = c := by
  have ha : c.isAlphanum := by simp [Char.isAlphanum, Char.isAlpha, h]
  have hd := ne_dash_of_alphanum ha
  rw [isUpper_iff] at h
  rw [caseFold, if_neg hd, ← char_toNat_inj, toNat_toUpper, toNat_toLower]
  split_ifs <;> omega

theorem caseFold_of_not_upper {c : Char} (ha : c.isAlphanum) (h : ¬ c.isUpper) :
    caseFold c = c.toUpper := by
  rw [isUpper_iff] at h
  rw [caseFold, if_neg (ne_dash_of_alphanum ha), ← char_toNat_inj, toNat_toUpper, toNat_toUpper,
    toNat_toLower]
  split_ifs <;> omega

theorem toUpper_ne_underscore {c : Char} (ha : c.isAlphanum) : c.toUpper ≠ '_' := by
  rw [isAlphanum_iff, isUpper_iff, isLower_iff, isDigit_iff] at ha
  rw [Ne, ← char_toNat_inj, toNat_toUpper]
  have : '_'.toNat = 95 := rfl
  split_ifs <;> omega

/-- `toUpper` is injective on the characters that are not upper-case letters already. -/
theorem toUpper_inj {c d : Char} (hc : ¬ c.isUpper) (hd : ¬ d.isUpper)
    (h : c.toUpper = d.toUpper) : c = d := by
  rw [isUpper_iff] at hc hd
  rw [← char_toNat_inj, toNat_toUpper, toNat_toUpper] at h
  rw [← char_toNat_inj]
  split_ifs at h <;> omega

theorem alphanum_of_camelTail {p : Char} {l : List Char} (h : camelTail p l) :
    ∀ d ∈ l, d.isAlphanum := by
  induction l generalizing p with
  | nil => simp
  | cons c cs ih =>
    simp only [camelTail, Bool.and_eq_true] at h
    exact List.forall_mem_cons.2 ⟨h.1.1, ih h.2⟩

/-- No acronym run: the first `re.sub` of `underscore` leaves a CamelCase name alone. -/
theorem splitAcronymAux_of_camelTail {p : Char} {l : List Char} (h : camelTail p l) :
    splitAcronymAux [] l = l ∧ (p.isUpper → splitAcronymAux [p] l = p :: l) := by
  induction l generalizing p with
  | nil => simp [splitAcronymAux]
  | cons c cs ih =>
    simp only [camelTail, Bool.and_eq_true, Bool.not_eq_true', Bool.and_eq_false_iff] at h
    obtain ⟨⟨-, hpc⟩, ht⟩ := h
    obtain ⟨ih₁, ih₂⟩ := ih ht
    refine ⟨?_, fun hp => ?_⟩
    · by_cases hc : c.isUpper
      · simp [splitAcronymAux, hc, ih₂ hc]
      · simp [splitAcronymAux, hc, ih₁]
    · have hc : c.isUpper = false := by simpa [hp] using hpc
      simp [splitAcronymAux, hc, ih₁]

theorem lower_or_digit_of_upper {c : Char} (h : c.isUpper) :
    (c.isLower || c.isDigit) = false := by
  rw [isUpper_iff] at h
  have h₁ : ¬ c.isLower := by rw [isLower_iff]; omega
  have h₂ : ¬ c.isDigit := by rw [isDigit_iff]; omega
  simp_all

theorem splitCamel_cons_of_not {c : Char} (h : (c.isLower || c.isDigit) = false)
    (cs : List Char) : splitCamel (c :: cs) = c :: splitCamel cs := by
  cases cs with
  | nil => rfl
  | cons d ds => simp [splitCamel, h]

/-- On a CamelCase name the second `re.sub` puts an underscore before each later capital. -/
theorem splitCamel_of_camelTail {p : Char} {l : List Char} (hp : p.isAlphanum)
    (h : camelTail p l) :
    splitCamel (p :: l) = p :: l.flatMap fun d => if d.isUpper then ['_', d] else [d] := by
  induction l generalizing p with
  | nil => rfl
  | cons d ds ih =>
    simp only [camelTail, Bool.and_eq_true, Bool.not_eq_true', Bool.and_eq_false_iff] at h
    obtain ⟨⟨hd, hpd⟩, ht⟩ := h
    have ih' := ih hd ht
    by_cases hu : d.isUpper
    · have hp' : (p.isLower || p.isDigit) = true := by
        rw [isAlphanum_iff] at hp
        rcases hpd with h | h
        · rcases hp with h' | h' | h' <;> simp_all
        · simp_all
      have hds : splitCamel ds = ds.flatMap fun d => if d.isUpper then ['_', d] else [d] := by
        simpa [splitCamel_cons_of_not (lower_or_digit_of_upper hu)] using ih'
      simp [splitCamel, hp', hu, hds]
    · simp [splitCamel, hu, ih']

/-- The key of a CamelCase name: its first letter, then each later capital behind an
underscore and every other character in upper case. -/
theorem upper_underscore_of_camel {c : Char} {cs : List Char} (hc : c.isUpper)
    (ht : camelTail c cs) : (upper (underscore ⟨c :: cs⟩)).data = c :: camelKeyTail cs := by
  have hca : c.isAlphanum := by simp [Char.isAlphanum, Char.isAlpha, hc]
  have hsplit : splitAcronymAux [] (c :: cs) = c :: cs := by
    simp [splitAcronymAux, hc, (splitAcronymAux_of_camelTail ht).2 hc]
  rw [upper_underscore_data]
  change List.map caseFold (splitCamel (splitAcronymAux [] (c :: cs))) = _
  rw [hsplit, splitCamel_of_camelTail hca ht]
  simp only [List.map_cons, caseFold_of_upper hc, camelKeyTail, List.map_flatMap]
  congr 1
  refine List.flatMap_congr fun d hd => ?_
  have hda := alphanum_of_camelTail ht d hd
  by_cases hu : d.isUpper
  · simp [hu, caseFold_of_upper hu, show caseFold '_' = '_' by decide]
  · simp [hu, caseFold_of_not_upper hda hu]

theorem camelKeyTail_inj {l m : List Char} (hl : ∀ d ∈ l, d.isAlphanum)
    (hm : ∀ d ∈ m, d.isAlphanum) (h : camelKeyTail l = camelKeyTail m) : l = m := by
  induction l generalizing m with
  | nil =>
    cases m with
    | nil => rfl
    | cons e es => by_cases he : e.isUpper <;> simp [camelKeyTail, he] at h
  | cons d ds ih =>
    cases m with
    | nil => by_cases hd : d.isUpper <;> simp [camelKeyTail, hd] at h
    | cons e es =>
      simp only [List.forall_mem_cons] at hl hm
      have ih' := fun h' => ih hl.2 hm.2 h'
      by_cases hd : d.isUpper <;> by_cases he : e.isUpper <;>
        simp only [camelKeyTail, List.flatMap_cons, hd, he, if_true, if_false, Bool.false_eq_true,
          List.cons_append, List.singleton_append, List.cons.injEq] at h
      · exact congrArg₂ _ h.2.1 (ih' h.2.2)
      · exact absurd h.1.symm (toUpper_ne_underscore hm.1)
      · exact absurd h.1 (toUpper_ne_underscore hl.1)
      · exact congrArg₂ _ (toUpper_inj hd he h.1) (ih' h.2)

/-- `underscore` then `upper` tells CamelCase names apart. -/
theorem upper_underscore_inj_of_camel {s t : String} (hs : isCamelWord s) (ht : isCamelWord t)
    (h : upper (underscore s) = upper (underscore t)) : s = t := by
  obtain ⟨_ | ⟨c, cs⟩⟩ := s
  · simp [isCamelWord] at hs
  obtain ⟨_ | ⟨d, ds⟩⟩ := t
  · simp [isCamelWord] at ht
  simp only [isCamelWord, Bool.and_eq_true] at hs ht
  have hd := congrArg String.data h
  rw [upper_underscore_of_camel hs.1 hs.2, upper_underscore_of_camel ht.1 ht.2,
    List.cons.injEq] at hd
  rw [hd.1, camelKeyTail_inj (alphanum_of_camelTail hs.2) (alphanum_of_camelTail ht.2) hd.2]

end Mountaineer.Client
