import Typewright.Proofs.Outcome
import Typewright.Proofs.Path
import Typewright.Pg.Import

/-!
# Where specifiers lead

The specifier of the model types is followed from the directory of the data-access file. Followed
from there, it leads to the file of the declarations, without its suffix, wherever the two files lie
(`resolve_typesModule`).

A specifier that does not start with `./` or `../`, and is neither `.` nor `..`, is read as the name
of a package. Whether a point is put in front is decided by the first character of the way, and a
point may also be the first character of a hidden name. So a specifier is relative unless the
declarations lie further down from the data-access file under a hidden name
(`typesModule_isRelative_iff`).
-/

namespace Typewright

/-- The path that a setting gives, if it is set to a text. -/
def Config.path? (c : Config) (s : Setting) : Option Path :=
  if c.flag s then (c.value s).str?.map Path.ofString else none

section Settings

variable {c : Config} {s : Setting} {p : Path}

theorem Config.path?_eq_some (h : c.path? s = some p) :
    ∃ t, c.flag s = true ∧ c.value s = .str t ∧ p = Path.ofString t := by
  rw [path?] at h
  split at h
  · next on =>
      obtain ⟨t, ht, rfl⟩ := Option.map_eq_some_iff.1 h
      refine ⟨t, on, ?_, rfl⟩
      cases hv : c.value s <;> rw [hv] at ht <;> cases ht
      rfl
  · cases h

theorem Config.path?_eq_none (texts : c.flag s = true → ∃ t, c.value s = .str t)
    (h : c.path? s = none) : c.flag s = false := by
  cases on : c.flag s with
  | false => rfl
  | true =>
      obtain ⟨t, ht⟩ := texts on
      rw [path?, if_pos on, ht] at h
      cases h

end Settings

namespace Pg

/-! ## Reading a specifier -/

/-- A specifier that is read as the way to a file and not as the name of a package. -/
def IsRelative (s : String) : Prop :=
  s = "." ∨ s = ".." ∨ "./".toList <+: s.toList ∨ "../".toList <+: s.toList

instance (s : String) : Decidable (IsRelative s) :=
  inferInstanceAs (Decidable (_ ∨ _ ∨ _ ∨ _))

/-- Whether a specifier is relative is decided by what stands before its first slash. -/
theorem isRelative_iff (s : String) : IsRelative s ↔
    (Text.split '/' s.toList).head? = some Path.here.toList ∨
      (Text.split '/' s.toList).head? = some Path.up.toList := by
  rw [Text.head?_split_eq_some_iff (by decide), Text.head?_split_eq_some_iff (by decide),
    String.toList_inj, String.toList_inj]
  simp only [IsRelative, Path.here, Path.up]
  tauto

theorem isRelative_here (s : String) : IsRelative ("./" ++ s) :=
  Or.inr (Or.inr (Or.inl ⟨s.toList, (String.toList_append ..).symm⟩))

/-- A name that starts with a point but says where to go downwards. -/
structure IsHidden (name : String) : Prop where
  point : name.toList.head? = some '.'
  notHere : name ≠ Path.here
  notUp : name ≠ Path.up

section Ways

variable {first : String} {way rest : List String}

theorem isRelative_intercalate (plain : ∀ part ∈ first :: rest, Path.IsPlain part) :
    IsRelative (String.intercalate "/" (first :: rest)) ↔ first = Path.here ∨ first = Path.up := by
  rw [isRelative_iff, Text.split_intercalate rfl (List.cons_ne_nil first rest)
    fun part hp => (plain part hp).whole]
  simp [String.toList_inj]

theorem head?_intercalate (plain : Path.IsPlain first) :
    (String.intercalate "/" (first :: rest)).toList.head? = first.toList.head? := by
  cases hf : first.toList with
  | nil => exact absurd (String.toList_eq_nil_iff.1 hf) plain.something
  | cons c cs =>
      rw [Text.intercalate_cons_eq_join, String.toList_append, hf]
      rfl

/-- A way is read from its text, whether a point was put in front or not. -/
theorem ofString_dotted (plain : ∀ part ∈ way, Path.IsPlain part) :
    Path.ofString (dotted (Path.relativeText way)) = ⟨"", way.filter Path.isPart⟩ := by
  cases way with
  | nil => rfl
  | cons first rest =>
      have read := Path.ofString_intercalate (List.cons_ne_nil first rest) plain
      rw [Path.relativeText, if_neg (List.cons_ne_nil first rest), dotted]
      split
      · exact read
      · rw [Path.ofString_here, read]

/-- The text of a way is a relative specifier unless the way starts with a hidden name. -/
theorem isRelative_dotted_iff (plain : ∀ part ∈ way, Path.IsPlain part) :
    IsRelative (dotted (Path.relativeText way)) ↔ ∀ first ∈ way.head?, ¬ IsHidden first := by
  cases way with
  | nil => exact iff_of_true (by decide) (by simp)
  | cons first rest =>
      have head : (String.intercalate "/" (first :: rest)).toList.head? = first.toList.head? :=
        head?_intercalate (plain first List.mem_cons_self)
      have read := isRelative_intercalate plain
      rw [Path.relativeText, if_neg (List.cons_ne_nil first rest), dotted, head, List.head?_cons]
      simp only [Option.mem_some_iff, forall_eq']
      split
      · next point =>
          rw [read]
          constructor
          · rintro (rfl | rfl) hidden
            · exact hidden.notHere rfl
            · exact hidden.notUp rfl
          · intro shown
            by_contra other
            rw [not_or] at other
            exact shown ⟨point, other.1, other.2⟩
      · next noPoint =>
          exact iff_of_true (isRelative_here _) fun hidden => noPoint hidden.point

end Ways

/-! ## Ways from the data-access file to the declarations -/

/-- Whether the declarations lie further down from the data-access file, under a hidden name. -/
def HiddenBelow (directory : List String) (declarations dataAccess : Path) : Prop :=
  ∃ name rest, IsHidden name ∧ Path.resolve directory declarations =
    Path.resolve directory dataAccess.parent ++ name :: rest

section Specifiers

variable {directory : List String} {declarations dataAccess : Path}

theorem plain_way (seen : ∀ part ∈ directory, Path.IsPlain part)
    (plain : ∀ part ∈ declarations.parts, Path.IsPlain part) (start : List String) :
    ∀ part ∈ Path.between start (Path.resolve directory declarations), Path.IsPlain part := by
  intro part hp
  rcases Path.mem_between hp with rfl | hp
  · exact Path.plain_up
  · exact (Path.mem_of_mem_resolve hp).elim (seen part) (plain part)

/-- Followed from the directory of the data-access file, a specifier leads to the declarations. -/
theorem resolve_specifier (seen : ∀ part ∈ directory, Path.IsPlain part)
    (plain : ∀ part ∈ declarations.parts, Path.IsPlain part) :
    Path.resolve directory (dataAccess.parent.join
        (Path.ofString (specifier directory declarations dataAccess))) =
      Path.resolve directory declarations := by
  have settled := Path.settled_resolve directory declarations
  have plain := plain_way seen plain (Path.resolve directory dataAccess.parent)
  -- Every part of the way says where to go, so that none is lost when the specifier is read.
  have kept : (Path.between (Path.resolve directory dataAccess.parent)
      (Path.resolve directory declarations)).filter Path.isPart =
        Path.between (Path.resolve directory dataAccess.parent)
          (Path.resolve directory declarations) := by
    refine List.filter_eq_self.2 fun part hp => Path.isPart_iff.2 ⟨(plain part hp).something, ?_⟩
    rcases Path.mem_between hp with rfl | hp
    · decide
    · exact (settled part hp).2
  rw [specifier, ofString_dotted plain, Path.resolve_join rfl, kept]
  exact Path.follow_between settled _

/-- A specifier is relative unless the declarations lie further down under a hidden name. -/
theorem specifier_isRelative_iff (seen : ∀ part ∈ directory, Path.IsPlain part)
    (plain : ∀ part ∈ declarations.parts, Path.IsPlain part) :
    IsRelative (specifier directory declarations dataAccess) ↔
      ¬ HiddenBelow directory declarations dataAccess := by
  rw [specifier, isRelative_dotted_iff (plain_way seen plain _), HiddenBelow]
  generalize Path.resolve directory dataAccess.parent = start
  generalize Path.resolve directory declarations = target
  constructor
  · rintro shown ⟨name, rest, hidden, rfl⟩
    rw [Path.between_append, List.head?_cons] at shown
    exact shown name rfl hidden
  · intro apart first hf hidden
    obtain ⟨rest, way⟩ := List.head?_eq_some_iff.1 hf
    rcases Path.between_cases start target with ⟨_, upwards⟩ | below
    · rw [way] at upwards
      exact hidden.notUp (List.cons.inj upwards).1
    · rw [way] at below
      exact apart ⟨first, rest, hidden, below⟩

end Specifiers

/-! ## The specifier that a configuration gives -/

section Settings

variable {directory : List String} {c : Config} {output declarations dataAccess : Path}

theorem typesModule_of_unset (h : c.flag .output = false) :
    typesModule directory c = .ok defaultModule := by
  rw [typesModule, h]
  rfl

theorem typesModule_of_output (h : c.path? .output = some output)
    (cut : output.withoutSuffix? = some declarations) (alone : c.flag .pgOutput = false) :
    typesModule directory c = .ok ("./" ++ declarations.name) := by
  obtain ⟨t, on, value, rfl⟩ := Config.path?_eq_some h
  simp only [typesModule, on, value, alone, Value.path, ok_bind, cut]
  rfl

theorem typesModule_of_both (h : c.path? .output = some output)
    (cut : output.withoutSuffix? = some declarations) (hp : c.path? .pgOutput = some dataAccess) :
    typesModule directory c = .ok (specifier directory declarations dataAccess) := by
  obtain ⟨t, on, value, rfl⟩ := Config.path?_eq_some h
  obtain ⟨u, on', value', rfl⟩ := Config.path?_eq_some hp
  simp only [typesModule, on, value, on', value', Value.path, ok_bind, cut]
  rfl

theorem plain_declarations (h : c.path? .output = some output) (named : output.name ≠ "")
    (cut : output.withoutSuffix? = some declarations) :
    ∀ part ∈ declarations.parts, Path.IsPlain part := by
  obtain ⟨t, _, _, rfl⟩ := Config.path?_eq_some h
  exact Path.plain_withoutSuffix? (fun _ => Path.plain_of_mem_ofString) named cut

end Settings

/-- The specifier of the model types, followed from the directory of the data-access file, leads to
the file of the declarations without its suffix, whatever the working directory is. -/
theorem resolve_typesModule (cwd : String) {c : Config} {output dataAccess : Path}
    (ho : c.path? .output = some output) (hp : c.path? .pgOutput = some dataAccess)
    (named : output.name ≠ "") :
    ∃ declarations s, output.withoutSuffix? = some declarations ∧
      typesModule (Path.ofString cwd).parts c = .ok s ∧
      Path.resolve (Path.ofString cwd).parts (dataAccess.parent.join (Path.ofString s)) =
        Path.resolve (Path.ofString cwd).parts declarations := by
  obtain ⟨declarations, cut⟩ := Path.exists_withoutSuffix? named
  exact ⟨declarations, _, cut, typesModule_of_both ho cut hp,
    resolve_specifier (fun _ => Path.plain_of_mem_ofString) (plain_declarations ho named cut)⟩

/-- A configuration of the file of the declarations and the data-access file. -/
def filesConfig (output pgOutput : String) : Config :=
  (Config.default.set .output (.str output)).set .pgOutput (.str pgOutput)

/-- From a directory in the working directory to one beside it. -/
theorem resolve_typesModule_of_shop :
    ∃ declarations s, (Path.ofString "..//gen/./types.d.ts").withoutSuffix? = some declarations ∧
      typesModule (Path.ofString "/home/dev/shop").parts
        (filesConfig "..//gen/./types.d.ts" "src/db/../pg.ts") = .ok s ∧
      s = "../../gen/types.d" ∧
      Path.resolve (Path.ofString "/home/dev/shop").parts
          ((Path.ofString "src/db/../pg.ts").parent.join (Path.ofString s)) =
        Path.resolve (Path.ofString "/home/dev/shop").parts declarations := by
  obtain ⟨declarations, s, cut, made, leads⟩ :=
    resolve_typesModule "/home/dev/shop"
      (c := filesConfig "..//gen/./types.d.ts" "src/db/../pg.ts") rfl rfl (by decide)
  have specifier := made.symm.trans
    (rfl : _ = (.ok "../../gen/types.d" : Except Misuse String))
  exact ⟨declarations, s, cut, made, Except.ok.inj specifier, leads⟩

/-- The specifier of the model types is relative unless both files are configured and the
declarations lie further down from the data-access file under a hidden name. -/
theorem typesModule_isRelative_iff (cwd : String) {c : Config}
    (texts : ∀ s ∈ [Setting.output, Setting.pgOutput], c.flag s = true → ∃ t, c.value s = .str t)
    (named : ∀ output ∈ c.path? .output, output.name ≠ "") :
    ∃ s, typesModule (Path.ofString cwd).parts c = .ok s ∧
      (IsRelative s ↔ ¬ ∃ output ∈ c.path? .output, ∃ dataAccess ∈ c.path? .pgOutput,
        ∃ declarations ∈ output.withoutSuffix?,
          HiddenBelow (Path.ofString cwd).parts declarations dataAccess) := by
  cases ho : c.path? .output with
  | none =>
      have unset := Config.path?_eq_none (texts .output (by simp)) ho
      exact ⟨_, typesModule_of_unset unset, iff_of_true (by decide) (by simp)⟩
  | some output =>
      have named := named output ho
      obtain ⟨declarations, cut⟩ := Path.exists_withoutSuffix? named
      cases hp : c.path? .pgOutput with
      | none =>
          have unset := Config.path?_eq_none (texts .pgOutput (by simp)) hp
          exact ⟨_, typesModule_of_output ho cut unset, iff_of_true (isRelative_here _) (by simp)⟩
      | some dataAccess =>
          refine ⟨_, typesModule_of_both ho cut hp, ?_⟩
          rw [specifier_isRelative_iff (fun _ => Path.plain_of_mem_ofString)
            (plain_declarations ho named cut)]
          simp [cut]

/-- A hidden name further on does no harm. -/
theorem typesModule_isRelative_of_hiddenFile :
    ∃ s, typesModule (Path.ofString "/src").parts (filesConfig "gen/.types.ts" "pg.ts") = .ok s ∧
      IsRelative s := by
  obtain ⟨s, made, relative_iff⟩ := typesModule_isRelative_iff "/src"
    (c := filesConfig "gen/.types.ts" "pg.ts")
    (by simpa using ⟨fun _ => ⟨_, rfl⟩, fun _ => ⟨_, rfl⟩⟩)
    (by
      rintro output ⟨⟩
      decide)
  refine ⟨s, made, relative_iff.2 ?_⟩
  rintro ⟨_, ⟨⟩, _, ⟨⟩, _, ⟨⟩, name, rest, hidden, below⟩
  have place : ["src", "gen", ".types"] = ["src"] ++ name :: rest := below
  rw [List.singleton_append, List.cons.injEq, List.cons.injEq] at place
  exact absurd (place.2.1 ▸ hidden.point) (by decide)

/-- The declarations in a hidden directory beside the data-access file are imported as a package. -/
theorem typesModule_of_hiddenDirectory :
    (Path.ofString ".gen/types.ts").root = "" ∧ (Path.ofString ".gen/types.ts").name = "types.ts" ∧
      (Path.ofString "pg.ts").root = "" ∧
      typesModule (Path.ofString "/src").parts (filesConfig ".gen/types.ts" "pg.ts") =
        .ok ".gen/types" ∧
      ¬ IsRelative ".gen/types" :=
  ⟨by decide, by decide, by decide, rfl, by decide⟩

end Pg

end Typewright
