import Typewright.Proofs.Annotations.Lines
import Typewright.Proofs.Layout.Names
import Typewright.Proofs.Layout.Sections
import Typewright.Proofs.TypeScript.File

/-!
# TypeScript sections are tidy

The type of a field is on one line (`oneLine_text`): it is made of names, of settings, or of an
annotation, which is taken from one line of the documentation. So what a property has after its
documentation is a line, and the documentation is a block that stands. From there on pieces are put
together as the texts of declarations are: every line ends with a brace, a comma, a semicolon or a
quote, and the only empty line inside a section comes between a constant object and the type of its
values.
-/

namespace Typewright

open Layout

/-! ## Annotations -/

namespace Annotations

theorem mem_of_mem_beforeLastBracket {l body : List Char} (h : beforeLastBracket l = some body) :
    ∀ c ∈ body, c ∈ l := by
  induction l generalizing body with
  | nil => cases h
  | cons a l ih =>
      rw [beforeLastBracket] at h
      cases inner : beforeLastBracket l with
      | some rest =>
          rw [inner] at h
          cases h
          intro c hc
          obtain rfl | hc := List.mem_cons.1 hc
          · exact List.mem_cons_self
          · exact List.mem_cons_of_mem a (ih inner c hc)
      | none =>
          rw [inner] at h
          dsimp only at h
          split at h
          · cases h
            intro c hc
            cases hc
          · cases h

/-- A bracket is on the line that it is read from. -/
theorem mem_of_mem_lineBracket? {l body : List Char} (h : lineBracket? l = some body) :
    ∀ c ∈ body, c ∈ l := by
  have inside : ∀ c ∈ Text.dropBlanks l, c ∈ l :=
    fun c hc => (List.dropWhile_suffix Text.isBlank).subset hc
  rw [lineBracket?] at h
  split at h
  · next rest start =>
      intro c hc
      exact inside c (start ▸ List.mem_cons_of_mem _ (mem_of_mem_beforeLastBracket h c hc))
  · next rest start =>
      intro c hc
      have mem := mem_of_mem_beforeLastBracket h c hc
      exact inside c (start ▸ List.mem_cons_of_mem _ (List.mem_cons_of_mem _ mem))
  · cases h

theorem newline_not_mem_bracket? {doc body : List Char} (h : bracket? doc = some body) :
    '\n' ∉ body := by
  rw [bracket?_eq] at h
  obtain ⟨l, hl, hb⟩ := List.exists_of_findSome?_eq_some h
  intro feed
  exact Text.not_mem_of_mem_split '\n' doc l hl (mem_of_mem_lineBracket? hb _ feed)

/-- The type of a tag ends before the line does. -/
theorem newline_not_mem_tagBody? {cs body : List Char} (h : tagBody? cs = some body) :
    '\n' ∉ body := by
  induction cs generalizing body with
  | nil => cases h
  | cons c rest ih =>
      rw [tagBody?] at h
      split at h
      · cases h
        exact List.not_mem_nil
      · split at h
        · cases h
        · next other =>
            obtain ⟨inner, hi, rfl⟩ := Option.map_eq_some_iff.1 h
            rw [List.mem_cons, not_or]
            exact ⟨Ne.symm other, ih hi⟩

theorem newline_not_mem_tag? {doc body : List Char} (h : tag? doc = some body) : '\n' ∉ body := by
  induction doc with
  | nil => cases h
  | cons c rest ih =>
      rw [tag?] at h
      split at h
      · next found =>
          cases h
          obtain ⟨after, _, ha⟩ := Option.bind_eq_some_iff.1 found
          rw [afterTagWord?] at ha
          split at ha
          · exact newline_not_mem_tagBody? ha
          · cases ha
      · exact ih h

theorem oneLine_grouped {body : List Char} (h : '\n' ∉ body) : OneLine (grouped body) := by
  rw [OneLine, grouped, String.toList_ofList]
  simpa using h

theorem oneLine_qualified {c : Config} (settings : c.Unspaced) {body : List Char}
    (h : '\n' ∉ body) (isLiteral : Bool) : OneLine (qualified c isLiteral body) := by
  have space := (settings.settings .annotationSpace rfl (by decide)).display
  have outer := (settings.settings .namespaceType rfl (by decide)).display
  have inner := (settings.settings .useType rfl (by decide)).display
  rw [qualified]
  split
  · exact oneLine_grouped h
  · split
    · simp only [oneLine_append]
      exact ⟨⟨⟨⟨⟨space, by decide⟩, inner⟩, by decide⟩, oneLine_asciiText _⟩, by decide⟩
    · simp only [oneLine_append]
      exact ⟨⟨outer, by decide⟩, by rwa [OneLine, String.toList_ofList]⟩

/-- The type that a documentation gives is on one line, however many the documentation has. -/
theorem oneLine_resolve {c : Config} (settings : c.Unspaced) (doc : List Char) :
    OneLine (resolve c doc) := by
  have bracket : OneLine (ofBracket c doc) := by
    rw [ofBracket]
    split
    · decide
    · decide
    · next body _ found =>
        exact oneLine_qualified settings (newline_not_mem_bracket? found) _
  rw [resolve]
  split
  · exact bracket
  · exact bracket
  · next body _ found => exact oneLine_grouped (newline_not_mem_tag? found)

end Annotations

namespace TypeScript

variable {c : Config} {n : Naming} {d : Datamodel}

/-! ## Types of fields -/

theorem oneLine_scalarExpression (settings : c.Unspaced) {scalar : Scalar} {s : String}
    (h : scalarExpression c scalar = .ok (.str s)) : OneLine s := by
  rw [scalarExpression] at h
  cases hr : representation scalar with
  | inl setting =>
      rw [hr] at h
      have configured : (c.value setting).IsOneLine := by
        refine settings.settings setting ?_ ?_
        all_goals cases scalar <;> cases hr <;> decide
      obtain ⟨bar, _, h⟩ := bind_eq_ok.1 h
      cases bar with
      | true =>
          cases pure_eq_ok.1 h
          simp only [oneLine_append]
          exact ⟨⟨by decide, configured.display⟩, by decide⟩
      | false =>
          rw [pure_eq_ok.1 h] at configured
          exact configured
  | inr type =>
      rw [hr] at h
      cases h
      cases scalar <;> cases hr <;> decide

theorem oneLine_scalarType (settings : c.Unspaced) {tag : Value} {s : String}
    (h : scalarType c tag = .ok s) : OneLine s := by
  obtain ⟨v, hv, h⟩ := bind_eq_ok.1 h
  rw [tagExpression] at hv
  cases hs : Scalar.ofTag? tag with
  | none =>
      rw [hs] at hv
      exact absurd hv mismatched_ne_ok
  | some scalar =>
      rw [hs] at hv
      cases v with
      | str t =>
          cases pure_eq_ok.1 h
          exact oneLine_scalarExpression settings (ofMisuse_eq_ok.1 hv)
      | _ => cases h

theorem oneLine_plainType (settings : c.Unspaced) {f : Field} {expression : String}
    (he : OneLine expression) {t : FieldType} (h : plainType c f expression = .ok t) :
    OneLine t.text := by
  obtain ⟨present, _, h⟩ := bind_eq_ok.1 h
  cases present with
  | true =>
      obtain ⟨doc, _, h⟩ := bind_eq_ok.1 h
      cases pure_eq_ok.1 h
      exact Annotations.oneLine_resolve settings doc.toList
  | false =>
      cases pure_eq_ok.1 h
      exact he

theorem oneLine_keyType (words : d.Unspaced) (names : n.Trimmed) {m : Model}
    (hm : m ∈ d.models ++ d.types) {relation : Field} (hr : relation ∈ m.fields) {t : FieldType}
    (h : keyType n m relation = .ok t) : OneLine t.text := by
  obtain ⟨name, hn, rfl⟩ | ⟨name, field, rest, hn, keys, rfl⟩ := keyType_eq_ok.1 h
  · exact (names.composite hn).oneLine
  · have key : field.IsWord := words.relations m hm relation hr field (by simp [keys])
    simp only [FieldType.text, oneLine_append]
    exact ⟨⟨⟨(names.model hn).oneLine, by decide⟩, key.display.oneLine⟩, by decide⟩

/-- The type of a field is on one line. -/
theorem oneLine_text (words : d.Unspaced) (settings : c.Unspaced) (names : n.Trimmed) {m : Model}
    (hm : m ∈ d.models ++ d.types) {f : Field} {t : FieldType}
    (h : fieldType c n m f = .ok t) : OneLine t.text := by
  rw [fieldType] at h
  cases kind : f.kind with
  | scalar =>
      rw [kind] at h
      obtain ⟨expression, he, h⟩ := bind_eq_ok.1 h
      cases hr : m.relationFor? f.name with
      | some relation =>
          rw [hr] at h
          exact oneLine_keyType words names hm (List.mem_of_find?_eq_some hr) h
      | none =>
          rw [hr] at h
          exact oneLine_plainType settings (oneLine_scalarType settings he) h
  | object =>
      rw [kind] at h
      obtain ⟨name, hr, rfl⟩ | ⟨name, hr, rfl⟩ := objectFieldType_eq_ok.1 h
      · exact (names.composite hr).oneLine
      · exact (names.model hr).oneLine
  | enum =>
      rw [kind] at h
      obtain ⟨name, hn, rfl⟩ := map_eq_ok.1 h
      exact (names.enumName hn).oneLine
  | unsupported =>
      rw [kind] at h
      cases h
      decide

/-! ## Properties -/

/-- The line of a property comes after anything on a line. -/
theorem follows_line {p : Property} (hn : OneLine p.name.display) (ht : OneLine p.type) :
    Follows p.line := by
  have expression : OneLine p.expression := by
    simp only [Property.expression, oneLine_append]
    refine ⟨⟨ht, ?_⟩, ?_⟩ <;> split <;> decide
  have mark : OneLine (if p.isOptional.truthy then "?" else "") := by
    split <;> decide
  rw [Property.line]
  simp only [String.append_assoc]
  exact (IsLine.append hn (.append mark
    (.append (by decide) (.append expression (by decide))))).margin

theorem follows_property {p : Property} (hn : OneLine p.name.display) (ht : OneLine p.type) :
    Follows p.text := by
  refine Follows.append ?_ (follows_line hn ht)
  rw [Property.commentText]
  split
  · exact (stands_docComment 2 _).next
  · exact follows_empty

/-- Every property of a model comes after anything on a line. -/
theorem follows_of_properties (words : d.Unspaced) (settings : c.Unspaced) (names : n.Trimmed)
    {m : Model} (hm : m ∈ d.models ++ d.types) {ps : List Property}
    (h : properties c n m = .ok ps) : ∀ p ∈ ps, Follows p.text := by
  intro p hp
  obtain ⟨found, hf, rfl⟩ := properties_eq_ok.1 h
  obtain ⟨o, ho, hop⟩ := List.mem_filterMap.1 hp
  obtain ⟨f, hfm, made⟩ := mapM_ok_mem_result hf o ho
  obtain ⟨t, ht, declared⟩ := property_eq_ok.1 made
  rw [declare?] at declared
  split at declared
  · subst declared
    cases hop
  · subst declared
    cases hop
    exact follows_property (words.fields m hm f hfm).display.oneLine
      (oneLine_text words settings names hm ht)

/-! ## Declarations -/

theorem stands_model {decl : ModelDeclaration} (hn : OneLine decl.name)
    (hp : ∀ p ∈ decl.properties, Follows p.text) : Stands decl.text := by
  have opening : IsLine decl.opening := by
    rw [ModelDeclaration.opening]
    split
    · exact (by decide : IsLine " \x7b").append (oneLine_append.2 ⟨by decide, hn⟩)
    · exact (by decide : IsLine " = \x7b").append (oneLine_append.2 ⟨by decide, hn⟩)
  have closing : Follows decl.closing := by
    rw [ModelDeclaration.closing]
    split <;> decide
  refine Stands.append (opening.stands.append (follows_join ?_)) closing
  intro s hs
  obtain ⟨p, hmem, rfl⟩ := List.mem_map.1 hs
  exact hp p hmem

theorem follows_memberLines {between : String} (hb : OneLine between) {values : List Value}
    (h : ∀ v ∈ values, v.IsOneLine) : Follows (memberLines between values) := by
  refine follows_intercalate (by decide) fun s hs => ?_
  obtain ⟨v, hv, rfl⟩ := List.mem_map.1 hs
  simp only [String.append_assoc]
  exact (IsLine.append (h v hv).display (.append hb (h v hv).quoted)).margin

theorem stands_enum {decl : EnumDeclaration} (hn : OneLine decl.name)
    (hv : ∀ v ∈ decl.values, v.IsOneLine) : Stands decl.text := by
  rw [EnumDeclaration.text]
  cases decl.shape with
  | native =>
      have opening : IsLine ("export enum " ++ decl.name ++ " \x7b") :=
        .append (oneLine_append.2 ⟨by decide, hn⟩) (by decide)
      exact (opening.stands.append (follows_memberLines (by decide) hv)).append (by decide)
  | stringUnion =>
      have union : OneLine (String.intercalate " | " (decl.values.map Value.quoted)) := by
        refine oneLine_intercalate (by decide) fun s hs => ?_
        obtain ⟨v, hmem, rfl⟩ := List.mem_map.1 hs
        exact (hv v hmem).quoted.oneLine
      refine (IsLine.append ?_ (by decide)).stands
      simp only [oneLine_append]
      exact ⟨⟨⟨by decide, hn⟩, by decide⟩, union⟩
  | object =>
      have opening : IsLine ("export const " ++ decl.name ++ " = \x7b") :=
        .append (oneLine_append.2 ⟨by decide, hn⟩) (by decide)
      have type : IsLine (decl.name ++ (" = (typeof " ++ (decl.name ++ (")[keyof typeof " ++
          (decl.name ++ "];"))))) :=
        .append hn (.append (by decide) (.append hn (.append (by decide) (.append hn (by decide)))))
      have closing : Follows ("\n\x7d as const;\n\nexport type " ++ (decl.name ++ (" = (typeof " ++
          (decl.name ++ (")[keyof typeof " ++ (decl.name ++ "];")))))) :=
        Leads.append (by decide : Leads .ink _ .blank) (type.stands.leads .blank)
      have members := follows_memberLines (by decide : OneLine ": ") hv
      have whole := (opening.stands.append members).append closing
      simp only [String.append_assoc] at whole ⊢
      exact whole

/-! ## Sections -/

theorem stands_helperSection {used : List Helper} {s : String} (h : s ∈ helperSection used) :
    Stands s := by
  rw [helperSection] at h
  split at h
  · cases h
  · next some_helper =>
    rw [List.mem_singleton.1 h]
    refine stands_intercalate Stands.next (by simpa using some_helper) fun t ht => ?_
    obtain ⟨helper, _, rfl⟩ := List.mem_map.1 ht
    cases helper <;> decide +kernel

theorem stands_texts (words : d.Unspaced) (settings : c.Unspaced) (names : n.Trimmed)
    {ds : Declarations} (h : declarations c n d = .ok ds) : ∀ s ∈ ds.texts, Stands s := by
  obtain ⟨he, hm, ht⟩ := declarations_eq_ok.1 h
  have model {m : Model} (mem : m ∈ d.models ++ d.types) {decl : ModelDeclaration}
      (made : modelDeclaration c n m = .ok decl) : Stands decl.text := by
    obtain ⟨_, hp, hn⟩ := modelDeclaration_eq_ok.1 made
    exact stands_model (names.declarationName hn).oneLine
      (follows_of_properties words settings names mem hp)
  intro s hs
  rw [Declarations.texts, List.mem_append, List.mem_append, List.mem_map, List.mem_map,
    List.mem_map] at hs
  obtain (⟨decl, hd, rfl⟩ | ⟨decl, hd, rfl⟩) | ⟨decl, hd, rfl⟩ := hs
  · obtain ⟨e, mem, made⟩ := mapM_ok_mem_result he decl hd
    obtain ⟨_, hn, hv⟩ := enumDeclaration_eq_ok.1 made
    exact stands_enum (names (p := .enums) hn).oneLine
      fun v h => (words.values e mem v (hv ▸ h)).isOneLine
  · obtain ⟨m, mem, made⟩ := mapM_ok_mem_result hm decl hd
    exact model (List.mem_append_left _ mem) made
  · obtain ⟨m, mem, made⟩ := mapM_ok_mem_result ht decl hd
    exact model (List.mem_append_right _ mem) made

theorem codeSection_eq_nil {setting : Setting} (off : c.flag setting = false) :
    codeSection c setting = .ok [] := by
  rw [Config.flag] at off
  rw [codeSection]
  simp only [off, Bool.false_eq_true, if_false]

/-- Every section of a TypeScript file stands. -/
theorem stands_of_sections (words : d.Unspaced) (settings : c.Unspaced) (names : n.Trimmed)
    {parts : List String} (h : sections c n d = .ok parts) : ∀ s ∈ parts, Stands s := by
  obtain ⟨ds, hd, h⟩ := bind_eq_ok.1 h
  rw [codeSection_eq_nil settings.codeless.1, codeSection_eq_nil settings.codeless.2] at h
  cases h
  intro s hs
  rw [List.append_nil, List.append_nil, List.mem_append, List.mem_append] at hs
  obtain (hs | hs) | hs := hs
  · exact stands_headerSection hs
  · exact stands_helperSection hs
  · exact stands_texts words settings names hd s hs

end TypeScript

end Typewright
