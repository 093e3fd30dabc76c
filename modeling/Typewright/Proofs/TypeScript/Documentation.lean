import Typewright.Proofs.Layout.Pieces
import Typewright.Proofs.Text.Comments
import Typewright.Proofs.TypeScript.Relations

/-!
# Documentation stays in its comments

The documentation of a field is written as a comment above its property, on one line or on several.
It is written as it is. So if the mark for the end of a comment is in it, its comment ends there, and
what comes after the mark is code. `documentation_contained_iff` is the main statement: the comments
of a declaration are those that were written, and its code is the lines of its properties, if and
only if no documentation has such a mark in it.

The statement is about names and types without line feeds in which no comment starts
(`ModelDeclaration.Undelimited`).
-/

namespace Typewright

open Text

/-! ## Documentation -/

/-- What a value has to show, if it is set. -/
def Value.shown? (v : Value) : Option String := if v.truthy then some v.display else none

theorem Value.shown?_orElse_null (v : Value) : (v.orElse .null).shown? = v.shown? := by
  rw [shown?, shown?, truthy_orElse, orElse]
  cases v.truthy with
  | true => rfl
  | false => rfl

/-- The documentation of the fields that have properties, in order. -/
def Model.documented (c : Config) (n : Naming) (m : Model) : List String :=
  (m.declared c n).filterMap fun f => f.documentation.shown?

namespace Layout

/-- A line in a documentation block over several lines. -/
def blockLine (width : Nat) (l : List Char) : List Char :=
  dropBlanksEnd (margin width ++ [' ', '*', ' '] ++ l)

/-- What a documentation block has between the marks of a comment. -/
def docBody (width : Nat) (s : String) : List Char :=
  if '\n' ∈ s.toList then
    '*' :: '\n' :: (unlines ((lines s.toList).map (blockLine width)) ++
      '\n' :: (margin width ++ [' ']))
  else '*' :: ' ' :: (s.toList ++ [' '])

/-- A documentation block is a comment behind its margin. -/
theorem docComment_eq (width : Nat) (s : String) :
    docComment width s =
      String.ofList (margin width) ++ String.ofList (commentChars (docBody width s)) := by
  by_cases several : '\n' ∈ s.toList
  · have some_line : (lines s.toList).map (blockLine width) ≠ [] := by
      simp [lines, split_ne_nil]
    have block : unlines (blockLines width (lines s.toList)) = margin width ++ ['/', '*', '*'] ++
        '\n' :: (unlines ((lines s.toList).map (blockLine width)) ++
          '\n' :: (margin width ++ [' ', '*', '/'])) := by
      rw [← unlines_concat some_line, ← unlines_cons (by simp)]
      rfl
    rw [docComment, if_pos (by simpa using several), block, docBody, if_pos several,
      ← String.ofList_append]
    simp [commentChars]
  · rw [docComment, if_neg (by simpa using several), docBody, if_neg several,
      ← String.ofList_append]
    simp [commentChars]

theorem not_mem_margin {c : Char} (hc : c ≠ ' ') (width : Nat) : c ∉ margin width :=
  fun mem => hc (List.eq_of_mem_replicate mem)

/-- What stands before a line in a block does not end the comment. -/
theorem commentEnd_infix_blockLine {width : Nat} {l : List Char} :
    ['*', '/'] <:+: blockLine width l ↔ ['*', '/'] <:+: l := by
  have whole : margin width ++ [' ', '*', ' '] ++ l = (margin width ++ [' ', '*']) ++ ' ' :: l := by
    simp
  have before : ¬ ['*', '/'] <:+: margin width ++ [' ', '*'] := by
    intro inside
    have slash : '/' ∈ margin width ++ [' ', '*'] := inside.subset (by simp)
    simp [not_mem_margin] at slash
  rw [blockLine, pair_infix_dropBlanksEnd (by decide) (by decide), whole,
    pair_infix_append_cons (by decide) (by decide), or_iff_right before]

/-- A block has the mark for the end of a comment in it just where the documentation has. -/
theorem commentEnd_infix_docBody {width : Nat} {s : String} :
    ['*', '/'] <:+: docBody width s ↔ ['*', '/'] <:+: s.toList := by
  rw [docBody]
  split
  · have whole : unlines (lines s.toList) = s.toList := join_split '\n' s.toList
    have each : ['*', '/'] <:+: unlines ((lines s.toList).map (blockLine width)) ↔
        ['*', '/'] <:+: s.toList := by
      conv_rhs => rw [← whole, pair_infix_unlines (by decide) (by decide)]
      rw [pair_infix_unlines (by decide) (by decide)]
      simp only [List.mem_map, exists_exists_and_eq_and, commentEnd_infix_blockLine]
    have last : ¬ ['*', '/'] <:+: margin width ++ [' '] := by
      intro inside
      have star : '*' ∈ margin width ++ [' '] := inside.subset (by simp)
      simp [not_mem_margin] at star
    rw [pair_infix_cons, pair_infix_cons, pair_infix_append_cons (by decide) (by decide), each,
      or_iff_left last]
    simp
  · rw [pair_infix_cons, pair_infix_cons, pair_infix_append_cons (by decide) (by decide)]
    simp

end Layout

namespace TypeScript

open Layout (OneLine docBody docComment docComment_eq commentEnd_infix_docBody oneLine_append)

/-! ## Code without comments -/

/-- A text on one line in which no comment starts. -/
structure Undelimited (s : String) : Prop where
  oneLine : OneLine s
  free : ¬ ['/', '*'] <:+: s.toList

instance (s : String) : Decidable (Undelimited s) :=
  decidable_of_iff (OneLine s ∧ ¬ ['/', '*'] <:+: s.toList) ⟨fun h => ⟨h.1, h.2⟩, fun h => ⟨h.1, h.2⟩⟩

/-- A declaration whose names and types are on one line and start no comment. -/
structure ModelDeclaration.Undelimited (decl : ModelDeclaration) : Prop where
  name : TypeScript.Undelimited decl.name
  names : ∀ p ∈ decl.properties, TypeScript.Undelimited p.name.display
  types : ∀ p ∈ decl.properties, TypeScript.Undelimited p.type

instance (decl : ModelDeclaration) : Decidable decl.Undelimited :=
  decidable_of_iff (TypeScript.Undelimited decl.name ∧
      (∀ p ∈ decl.properties, TypeScript.Undelimited p.name.display) ∧
      ∀ p ∈ decl.properties, TypeScript.Undelimited p.type)
    ⟨fun h => ⟨h.1, h.2.1, h.2.2⟩, fun h => ⟨h.1, h.2, h.3⟩⟩

/-- The line of a property, without the line feed before it. -/
def Property.ownLine (p : Property) : String :=
  "  " ++ p.name.display ++ (if p.isOptional.truthy then "?" else "") ++ ": " ++ p.expression ++ ";"

/-- The documentation of a property, if there is any. -/
def Property.doc? (p : Property) : Option String := p.comment.shown?

/-- The last line of a declaration. -/
def ModelDeclaration.lastLine (decl : ModelDeclaration) : String :=
  match decl.shape with
  | .interface => "\x7d"
  | .typeAlias => "\x7d;"

/-- The lines of a declaration without documentation. -/
def ModelDeclaration.codeLines (decl : ModelDeclaration) : List String :=
  decl.opening :: (decl.properties.map Property.ownLine ++ [decl.lastLine])

/-- The comments of a declaration are those that are written for a list of documentations, and its
code is what it is without them, up to lines of blanks. -/
structure ModelDeclaration.Contains (decl : ModelDeclaration) (docs : List String) : Prop where
  comments : (Text.comments decl.text).map ("  " ++ ·) = docs.map (docComment 2)
  code : (lines (uncommented decl.text).toList).filter (fun l => !allBlank l) =
    decl.codeLines.map String.toList

section Code

variable {p : Property} {decl : ModelDeclaration}

theorem Property.line_eq (p : Property) : p.line = "\n" ++ p.ownLine := by
  have margin : "\n  " = "\n" ++ "  " := rfl
  rw [line, ownLine, margin]
  simp only [String.append_assoc]

theorem ModelDeclaration.closing_eq (decl : ModelDeclaration) :
    decl.closing = "\n" ++ decl.lastLine := by
  rw [closing, lastLine]
  cases decl.shape with
  | interface => rfl
  | typeAlias => rfl

/-- What comes after the type of a property on its line. -/
def Property.ending (p : Property) : String :=
  (if p.isList.truthy then "[]" else "") ++ ((if p.nullable then " | null" else "") ++ ";")

theorem Property.ending_spec (p : Property) :
    IsCode p.ending ∧ p.ending ≠ "" ∧ p.ending.toList.head? ≠ some '*' := by
  rw [ending]
  cases p.isList.truthy <;> cases p.nullable <;> decide

/-- What comes after a name or type keeps it from starting a comment. -/
theorem isCode_line (name : Undelimited p.name.display) (type : Undelimited p.type) :
    IsCode p.line := by
  obtain ⟨ending, something, head⟩ := p.ending_spec
  have typed := (by decide : IsCode ": ").append (isCode_append type.free ending something head)
  have optional : IsCode (if p.isOptional.truthy then "?" else "") := by
    split <;> decide
  have line := isCode_append name.free (optional.append typed) (by simp) (by split <;> simp)
  rw [Property.ending] at line
  rw [Property.line, Property.expression]
  simp only [String.append_assoc] at line ⊢
  exact (by decide : IsCode "\n  ").append line

theorem ModelDeclaration.Undelimited.isCode_line (names : decl.Undelimited) :
    ∀ p ∈ decl.properties, IsCode p.line :=
  fun p hp => TypeScript.isCode_line (names.names p hp) (names.types p hp)

theorem isCode_opening (name : Undelimited decl.name) : IsCode decl.opening := by
  rw [ModelDeclaration.opening]
  split
  · rw [String.append_assoc]
    exact (by decide : IsCode "export interface ").append
      (isCode_append name.free (by decide) (by decide) (by decide))
  · rw [String.append_assoc]
    exact (by decide : IsCode "export type ").append
      (isCode_append name.free (by decide) (by decide) (by decide))

theorem isCode_closing (decl : ModelDeclaration) : IsCode decl.closing := by
  rw [ModelDeclaration.closing]
  split <;> decide

end Code

/-! ## The comments of properties -/

section Comments

variable {p : Property} {ps : List Property} {closing : String}

theorem Property.text_of_undocumented (h : p.doc? = none) : p.text = p.line := by
  rw [doc?, Value.shown?] at h
  rw [text, commentText]
  split at h
  · cases h
  · next off => rw [if_neg off, String.empty_append]

/-- The documentation of a property is a comment in its text. -/
theorem Property.text_of_documented {doc : String} (h : p.doc? = some doc) :
    p.text = "\n  " ++ (String.ofList (commentChars (docBody 2 doc)) ++ p.line) := by
  rw [doc?, Value.shown?] at h
  split at h
  · next on =>
      cases h
      have margin : "\n  " = "\n" ++ "  " := rfl
      rw [text, commentText, if_pos on, docComment_eq, margin]
      simp only [String.append_assoc]
      rfl
  · cases h

/-- The comments that are read from properties are those that are written for them if no
documentation ends its comment. Otherwise the first that does is in a shorter comment. -/
theorem comments_properties_iff (code : ∀ p ∈ ps, IsCode p.line) (hc : IsCode closing) :
    (comments (String.join (ps.map Property.text) ++ closing)).map ("  " ++ ·) =
        (ps.filterMap Property.doc?).map (docComment 2) ↔
      ∀ doc ∈ ps.filterMap Property.doc?, ¬ ['*', '/'] <:+: doc.toList := by
  induction ps with
  | nil => simp [hc.comments_eq_nil]
  | cons p ps ih =>
      have line := code p List.mem_cons_self
      have ih := ih fun q hq => code q (List.mem_cons_of_mem p hq)
      rw [List.map_cons, String.join_cons, String.append_assoc]
      cases h : p.doc? with
      | none =>
          rw [Property.text_of_undocumented h, line.comments_append, List.filterMap_cons_none h]
          exact ih
      | some doc =>
          have margin : IsCode "\n  " := by decide
          have block : docComment 2 doc = "  " ++ String.ofList (commentChars (docBody 2 doc)) :=
            docComment_eq 2 doc
          rw [List.filterMap_cons_some h, List.map_cons, List.forall_mem_cons, block,
            Property.text_of_documented h, String.append_assoc, margin.comments_append,
            String.append_assoc, ← @commentEnd_infix_docBody 2]
          by_cases early : ['*', '/'] <:+: docBody 2 doc
          · obtain ⟨shorter, rest, read, lt⟩ := exists_shorter_comment early
              (p.line ++ (String.join (ps.map Property.text) ++ closing))
            rw [read]
            refine iff_of_false (fun same => ?_) fun all => all.1 early
            have head := (List.cons.inj same).1
            rw [String.append_right_inj, String.ofList_inj] at head
            rw [head] at lt
            exact lt_irrefl _ lt
          · rw [comments_comment_append early, line.comments_append]
            simp [ih, early]

end Comments

/-! ## The code of properties -/

section Code

variable {p : Property} {ps : List Property} {closing : String} {decl : ModelDeclaration}

/-- The lines that are left of a property without its comment: the margin of the comment is. -/
def Property.leftLines (p : Property) : List String :=
  match p.doc? with
  | some _ => ["  ", p.ownLine]
  | none => [p.ownLine]

/-- Outside of the comments, properties are their lines if no documentation ends its comment. -/
theorem uncommented_properties (code : ∀ p ∈ ps, IsCode p.line) (hc : IsCode closing)
    (contained : ∀ doc ∈ ps.filterMap Property.doc?, ¬ ['*', '/'] <:+: doc.toList) :
    uncommented (String.join (ps.map Property.text) ++ closing) =
      String.join ((ps.flatMap Property.leftLines).map ("\n" ++ ·)) ++ closing := by
  induction ps with
  | nil => simp [hc.uncommented_eq]
  | cons p ps ih =>
      have line := code p List.mem_cons_self
      have ih := ih fun q hq => code q (List.mem_cons_of_mem p hq)
      rw [List.map_cons, String.join_cons, String.append_assoc]
      cases h : p.doc? with
      | none =>
          rw [List.filterMap_cons_none h] at contained
          rw [Property.text_of_undocumented h, line.uncommented_append, ih contained,
            List.flatMap_cons, Property.leftLines, h]
          simp [Property.line_eq, String.append_assoc]
      | some doc =>
          rw [List.filterMap_cons_some h, List.forall_mem_cons] at contained
          have margin : IsCode "\n  " := by decide
          have free : ¬ ['*', '/'] <:+: docBody 2 doc := commentEnd_infix_docBody.not.2 contained.1
          rw [Property.text_of_documented h, String.append_assoc, margin.uncommented_append,
            String.append_assoc, uncommented_comment_append free, line.uncommented_append,
            ih contained.2, List.flatMap_cons, Property.leftLines, h]
          simp [Property.line_eq, String.append_assoc]

theorem oneLine_opening (name : Undelimited decl.name) : OneLine decl.opening := by
  rw [ModelDeclaration.opening]
  split
  · exact ((by decide : OneLine "export interface ").append name.oneLine).append (by decide)
  · exact ((by decide : OneLine "export type ").append name.oneLine).append (by decide)

theorem oneLine_ownLine (name : Undelimited p.name.display) (type : Undelimited p.type) :
    OneLine p.ownLine := by
  simp only [Property.ownLine, Property.expression, oneLine_append]
  refine ⟨⟨⟨⟨⟨by decide, name.oneLine⟩, ?_⟩, by decide⟩, ⟨type.oneLine, ?_⟩, ?_⟩, by decide⟩
  all_goals split <;> decide

theorem Property.ownLine_of_mem_leftLines {l : String} (hl : l ∈ p.leftLines) :
    l = "  " ∨ l = p.ownLine := by
  rw [leftLines] at hl
  split at hl
  · simpa using hl
  · exact Or.inr (List.mem_singleton.1 hl)

/-- A line with a character that is no blank is not blank. -/
theorem allBlank_eq_false {l : List Char} {c : Char} (hc : c ∈ l) (ink : isBlank c = false) :
    allBlank l = false := by
  rw [allBlank, List.all_eq_false]
  exact ⟨c, hc, by simp [ink]⟩

theorem allBlank_ownLine (p : Property) : allBlank p.ownLine.toList = false :=
  allBlank_eq_false (c := ';') (by simp [Property.ownLine]) (by decide)

theorem allBlank_opening (decl : ModelDeclaration) : allBlank decl.opening.toList = false := by
  rw [ModelDeclaration.opening]
  split <;> exact allBlank_eq_false (c := 'e') (by simp) (by decide)

theorem allBlank_lastLine (decl : ModelDeclaration) : allBlank decl.lastLine.toList = false := by
  rw [ModelDeclaration.lastLine]
  split <;> decide

theorem filter_leftLines (ps : List Property) :
    (ps.flatMap Property.leftLines).filter (fun l => !allBlank l.toList) =
      ps.map Property.ownLine := by
  induction ps with
  | nil => rfl
  | cons p ps ih =>
      have line : [p.ownLine].filter (fun l => !allBlank l.toList) = [p.ownLine] :=
        List.filter_cons_of_pos (by simp [allBlank_ownLine])
      have own : p.leftLines.filter (fun l => !allBlank l.toList) = [p.ownLine] := by
        rw [Property.leftLines]
        split
        · rwa [List.filter_cons_of_neg (by decide)]
        · exact line
      rw [List.flatMap_cons, List.filter_append, own, ih]
      rfl

/-- The lines outside of the comments are those of the code if no documentation ends its comment. -/
theorem uncommented_lines (names : decl.Undelimited)
    (contained : ∀ doc ∈ decl.properties.filterMap Property.doc?, ¬ ['*', '/'] <:+: doc.toList) :
    (lines (uncommented decl.text).toList).filter (fun l => !allBlank l) =
      decl.codeLines.map String.toList := by
  -- What is left are lines of their own.
  have left : uncommented decl.text = String.intercalate "\n"
      (decl.opening :: (decl.properties.flatMap Property.leftLines ++ [decl.lastLine])) := by
    rw [ModelDeclaration.text, String.append_assoc,
      (isCode_opening names.name).uncommented_append,
      uncommented_properties names.isCode_line (isCode_closing decl) contained, intercalate_cons_eq_join,
      ModelDeclaration.closing_eq, List.map_append, String.join_append]
    simp
  have each : ∀ l ∈ decl.opening :: (decl.properties.flatMap Property.leftLines ++ [decl.lastLine]),
      '\n' ∉ l.toList := by
    intro l hl
    rw [List.mem_cons, List.mem_append, List.mem_flatMap, List.mem_singleton] at hl
    obtain rfl | ⟨p, hp, hl⟩ | rfl := hl
    · exact oneLine_opening names.name
    · obtain rfl | rfl := Property.ownLine_of_mem_leftLines hl
      · decide
      · exact oneLine_ownLine (names.names p hp) (names.types p hp)
    · rw [ModelDeclaration.lastLine]
      split <;> decide
  rw [left, lines_intercalate (List.cons_ne_nil _ _) each, List.filter_map, Function.comp_def,
    List.filter_cons_of_pos (by simp [allBlank_opening]), List.filter_append, filter_leftLines,
    List.filter_cons_of_pos (by simp [allBlank_lastLine]), ModelDeclaration.codeLines]
  rfl

end Code

/-! ## Declarations -/

/-- A declaration has a property for each declared field, in order. Its comments are those that are
written for the fields, and its code is the lines of the properties, if and only if the mark for the
end of a comment is in no documentation. -/
theorem documentation_contained_iff {c : Config} {n : Naming} {m : Model} {decl : ModelDeclaration}
    (made : modelDeclaration c n m = .ok decl) (names : decl.Undelimited) :
    decl.properties.map (·.name) = (m.declared c n).map (·.name) ∧
      (decl.Contains (m.documented c n) ↔
        ∀ doc ∈ m.documented c n, ¬ ['*', '/'] <:+: doc.toList) := by
  obtain ⟨_, hp, _⟩ := modelDeclaration_eq_ok.1 made
  have docs : decl.properties.filterMap Property.doc? = m.documented c n := by
    have same (f : Field) (t : FieldType) : (declare c f t).doc? = f.documentation.shown? :=
      f.documentation.shown?_orElse_null
    have each := congrArg (List.filterMap id) (properties_map same hp)
    rwa [List.filterMap_map, List.filterMap_map] at each
  have read : comments decl.text =
      comments (String.join (decl.properties.map Property.text) ++ decl.closing) := by
    rw [ModelDeclaration.text, String.append_assoc, (isCode_opening names.name).comments_append]
  have comments_iff := comments_properties_iff names.isCode_line (isCode_closing decl)
  rw [← read, docs] at comments_iff
  refine ⟨properties_map (fun _ _ => rfl) hp, fun h => comments_iff.1 h.comments, fun h => ?_⟩
  exact ⟨comments_iff.2 h, uncommented_lines names (by rwa [docs])⟩

/-- Guests, with some documentation of their names. -/
def guest (documentation : String) : Model where
  name := .str "Guest"
  dbName := .null
  documentation := .null
  fields :=
    [{ Datamodel.plainField "name" .scalar "String" with documentation := .str documentation },
      Datamodel.plainField "age" .scalar "Int",
      { Datamodel.plainField "about" .scalar "String" with
        documentation := .str "What they say.\n\n/* In a few lines. * /" }]

/-- A list of guests. -/
def guests (documentation : String) : Datamodel where
  models := [guest documentation]
  enums := []
  types := []

/-- The documentation of guests stays in its comments. -/
theorem guest_documentation_contained :
    ∃ n decl, Naming.build Config.default (guests "As it is written.") = .ok n ∧
      modelDeclaration Config.default n (guest "As it is written.") = .ok decl ∧
      decl.Undelimited ∧
      decl.properties.map (·.name) = [.str "name", .str "age", .str "about"] ∧
      decl.Contains ["As it is written.", "What they say.\n\n/* In a few lines. * /"] := by
  have made : ∃ n decl, Naming.build Config.default (guests "As it is written.") = .ok n ∧
      modelDeclaration Config.default n (guest "As it is written.") = .ok decl ∧
      decl.Undelimited ∧ (guest "As it is written.").declared Config.default n =
        (guest "As it is written.").fields := ⟨_, _, rfl, rfl, by decide +kernel, rfl⟩
  obtain ⟨n, decl, hn, hd, undelimited, declared⟩ := made
  obtain ⟨names, contains_iff⟩ := documentation_contained_iff hd undelimited
  rw [Model.documented, declared] at contains_iff
  rw [declared] at names
  exact ⟨n, decl, hn, hd, undelimited, names, contains_iff.2 (by decide +kernel)⟩

/-- The file of guests whose documentation ends its comment. -/
def guestCode : String :=
  "// This file was auto-generated by schema-typegen\n\nexport interface Guest \x7b\n" ++
    "  /** */ secret: any; /* */\n  name: string;\n  age: number;\n" ++
    "  /**\n   * What they say.\n   *\n   * /* In a few lines. * /\n   */\n  about: string;\n\x7d\n"

/-- Documentation of guests that ends its comment is code. -/
theorem guest_documentation_escapes :
    ∃ g n decl, generate .typeScript ["src"] Config.default (guests "*/ secret: any; /*") = .ok g ∧
      g.code = guestCode ∧
      Naming.build Config.default (guests "*/ secret: any; /*") = .ok n ∧
      modelDeclaration Config.default n (guest "*/ secret: any; /*") = .ok decl ∧
      decl.Undelimited ∧ ¬ decl.Contains ((guest "*/ secret: any; /*").documented Config.default n) := by
  refine ⟨_, _, _, rfl, by decide +kernel, rfl, rfl, by decide +kernel, fun h => ?_⟩
  exact absurd h.comments (by decide +kernel)

end TypeScript

end Typewright
