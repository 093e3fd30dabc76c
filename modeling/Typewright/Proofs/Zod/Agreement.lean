import Typewright.Proofs.Naming
import Typewright.Proofs.TypeScript.File
import Typewright.Proofs.Zod.File

/-!
# Declarations and schemas agree

A model has a declaration and a schema, made apart from its fields. A schema checks every field that
is no object, and the declaration has a property for each of these: this makes a *row*, a field with
its property and its entry. Both say of the field whether it holds a list, whether its value may be
null, and whether its value may be missing. These are *modifiers*: flags of a property, and text
around the base expression of an entry, from which they can be read off (`Modifiers.schema_eq_iff`).

`objectSchema_agrees` is the main statement: the rows of a model are in the order of its
declaration and of its schema, and in each row the modifiers are the same. The one exception is a
type that the documentation gives, which is never the item of a list.
-/

namespace Typewright

open TypeScript (FieldType Property ModelDeclaration declare declare? fieldType property
  modelDeclaration)
open Datamodel (plainField)
open Zod (ObjectSchema entry objectSchema baseSchema)

/-! ## Modifiers -/

/-- What is said of a field beside its type. -/
structure Modifiers where
  list : Bool
  nullable : Bool
  /-- Whether the value may be missing. -/
  optional : Bool
  deriving DecidableEq, Repr

namespace Modifiers

/-- What an expression ends with. -/
def ending (nullable optional : Bool) : String :=
  (if nullable then ".nullable()" else "") ++ (if optional then ".optional()" else "")

/-- A base expression with modifiers. -/
def schema (k : Modifiers) (base : String) : String :=
  (if k.list then "z.array(" ++ base ++ ")" else base) ++ ending k.nullable k.optional

theorem ending_inj : ∀ {b c b' c' : Bool}, ending b c = ending b' c' → b = b' ∧ c = c' := by decide

/-- A list adds nine characters, and each of the others eleven. -/
theorem length_schema (k : Modifiers) (base : String) :
    (k.schema base).length =
      base.length + 9 * k.list.toNat + 11 * (k.nullable.toNat + k.optional.toNat) := by
  have ends : ∀ b c : Bool, (ending b c).length = 11 * (b.toNat + c.toNat) := by decide
  have array : "z.array(".length + ")".length = 9 := by decide
  rw [schema, String.length_append, ends]
  cases k.list with
  | false => simp
  | true =>
      rw [if_pos rfl, String.length_append, String.length_append, Bool.toNat_true]
      omega

/-- The modifiers of an expression can be read off. -/
theorem schema_eq_iff {k l : Modifiers} {base : String} :
    k.schema base = l.schema base ↔ k = l := by
  constructor
  · intro h
    -- Lengths that differ by nine do not differ by a multiple of eleven.
    have list : k.list = l.list := by
      have lengths := congrArg String.length h
      rw [length_schema, length_schema] at lengths
      have injective : ∀ b c : Bool, b.toNat = c.toNat → b = c := by decide
      have := k.list.toNat_le
      have := l.list.toNat_le
      exact injective _ _ (by omega)
    rw [schema, schema, list] at h
    obtain ⟨nullable, optional⟩ := ending_inj (String.append_right_inj _ |>.1 h)
    cases k
    cases l
    cases list
    cases nullable
    cases optional
    rfl
  · rintro rfl
    rfl

end Modifiers

/-- The modifiers that a field asks for. -/
def Field.modifiers (c : Config) (f : Field) : Modifiers where
  list := f.isList.truthy
  nullable := !f.isRequired.truthy
  optional := !f.isRequired.truthy && c.flag .optionalNullables

def TypeScript.Property.modifiers (p : Property) : Modifiers where
  list := p.isList.truthy
  nullable := p.nullable
  optional := p.isOptional.truthy

/-- The modifiers left to a type. A type from the documentation is the whole type, and no item of a
list. -/
def TypeScript.FieldType.leaves (k : Modifiers) : FieldType → Modifiers
  | .annotated _ => { k with list := false }
  | _ => k

/-- A schema has the modifiers of its field. -/
theorem Zod.modified_eq (c : Config) (f : Field) (base : String) :
    Zod.modified c f base = (f.modifiers c).schema base := by
  rw [Zod.modified, Zod.ending, Modifiers.schema, Modifiers.ending, Field.modifiers]
  cases f.isRequired.truthy with
  | true => rfl
  | false => simp

/-- A property that is no relation has those modifiers of its field that its type leaves. -/
theorem TypeScript.modifiers_declare {c : Config} {f : Field} {t : FieldType}
    (h : t.isRelation = false) : (declare c f t).modifiers = t.leaves (f.modifiers c) := by
  have optional : (TypeScript.optionalMark c f t).truthy = (f.modifiers c).optional := by
    rw [TypeScript.optionalMark, h, Value.truthy_orElse, Field.modifiers]
    cases f.isRequired.truthy with
    | true => rfl
    | false => rfl
  rw [Property.modifiers, declare, optional]
  cases t <;> rfl

/-! ## Rows -/

/-- A field with its property and its entry. -/
structure Row where
  field : Field
  property : Property
  entry : Zod.Entry

/-- A property and an entry of a field, with the same modifiers. -/
structure Row.Agrees (c : Config) (n : Naming) (m : Model) (r : Row) : Prop where
  property : TypeScript.property c n m r.field = .ok (some r.property)
  entry : Zod.entry c n r.field = .ok (some r.entry)
  propertyName : r.property.name = r.field.name
  entryName : r.entry.name = r.field.name
  /-- The modifiers of the entry are those of the property. -/
  modifiers : ∃ t enum base k, fieldType c n m r.field = .ok t ∧
    (r.field.kind = .enum → n.enumName r.field.type = .ok enum) ∧
    baseSchema c r.field enum = .ok base ∧
    (∀ l : Modifiers, r.entry.schema = l.schema base ↔ l = k) ∧
    r.property.modifiers = t.leaves k

section Fields

variable {c : Config} {n : Naming} {m : Model} {f : Field}

/-- The entry of a field that is no object is its base expression with its modifiers. -/
theorem Zod.entry_eq_ok {o : Option Zod.Entry} (hk : f.kind ≠ .object) (h : entry c n f = .ok o) :
    ∃ enum base, (f.kind = .enum → n.enumName f.type = .ok enum) ∧
      baseSchema c f enum = .ok base ∧ o = some ⟨f.name, (f.modifiers c).schema base⟩ := by
  rw [Zod.entry] at h
  cases kind : f.kind with
  | object => exact absurd kind hk
  | enum =>
      rw [kind] at h
      obtain ⟨enum, he, rfl⟩ := map_eq_ok.1 h
      exact ⟨enum, enum, fun _ => he, by rw [baseSchema, kind], by rw [Zod.modified_eq]⟩
  | scalar | unsupported =>
      rw [kind] at h
      obtain ⟨base, hb, rfl⟩ := map_eq_ok.1 h
      exact ⟨"", base, fun x => (by cases x), hb, by rw [Zod.modified_eq]⟩

/-- A field that is no object makes a row. -/
theorem exists_row {o : Option Property} {o' : Option Zod.Entry} (hk : f.kind ≠ .object)
    (hp : property c n m f = .ok o) (he : entry c n f = .ok o') :
    ∃ r : Row, r.field = f ∧ o = some r.property ∧ o' = some r.entry ∧ r.Agrees c n m := by
  obtain ⟨t, ht, rfl⟩ := TypeScript.property_eq_ok.1 hp
  obtain ⟨enum, base, hn, hb, rfl⟩ := Zod.entry_eq_ok hk he
  have notRelation := TypeScript.isRelation_of_kind hk ht
  have declared : declare? c f t = some (declare c f t) := by
    rw [declare?, notRelation]
    rfl
  rw [declared] at hp
  exact ⟨⟨f, _, _⟩, rfl, declared, rfl, hp, he, rfl, rfl, t, enum, base, f.modifiers c, ht, hn, hb,
    fun l => Modifiers.schema_eq_iff.trans eq_comm, TypeScript.modifiers_declare notRelation⟩

/-- The fields of a model make rows in the order of their properties and of their entries. -/
theorem exists_rows {fs : List Field} {ps : List (Option Property)} {es : List (Option Zod.Entry)}
    (hp : List.Forall₂ (fun f o => property c n m f = .ok o) fs ps)
    (he : List.Forall₂ (fun f o => entry c n f = .ok o) fs es) :
    ∃ rows : List Row, rows.map (·.field) = fs.filter (·.kind ≠ .object) ∧
      (rows.map (·.property)).Sublist (ps.filterMap id) ∧
      rows.map (·.entry) = es.filterMap id ∧ ∀ r ∈ rows, r.Agrees c n m := by
  -- Along the fields, both lists have something for each. Only objects can be without an entry,
  -- and then a property, if there is one, stands between those of the rows.
  induction hp generalizing es with
  | nil =>
      cases he
      exact ⟨[], rfl, .slnil, rfl, by simp⟩
  | @cons f o fs ps hpf _ ih =>
      cases he with
      | @cons _ o' _ es hef he =>
          obtain ⟨rows, fields, properties, entries, agree⟩ := ih he
          by_cases hk : f.kind = .object
          · have noEntry : o' = none := by
              rw [Zod.entry, hk] at hef
              cases hef
              rfl
            subst noEntry
            refine ⟨rows, ?_, ?_, entries, agree⟩
            · rw [fields, List.filter_cons_of_neg (by simpa using hk)]
            · cases o with
              | none => exact properties
              | some p => exact properties.cons p
          · obtain ⟨r, rfl, rfl, rfl, hr⟩ := exists_row hk hpf hef
            refine ⟨r :: rows, ?_, properties.cons_cons _, ?_, ?_⟩
            · rw [List.map_cons, fields, List.filter_cons_of_pos (by simpa using hk)]
            · rw [List.map_cons, entries]
              rfl
            · exact List.forall_mem_cons.2 ⟨hr, agree⟩

end Fields

/-! ## Models -/

/-- The schema of a model has an entry for each field that is no object, in order. Each such field
has a property too, in the same order, with the modifiers of the entry. -/
theorem objectSchema_agrees {c : Config} {n : Naming} {m : Model} {decl : ModelDeclaration}
    {s : ObjectSchema} (hd : modelDeclaration c n m = .ok decl)
    (hs : objectSchema c n m = .ok s) :
    s.entries.map (·.name) = (m.fields.filter (·.kind ≠ .object)).map (·.name) ∧
      ∃ rows : List Row, rows.map (·.field) = m.fields.filter (·.kind ≠ .object) ∧
        (rows.map (·.property)).Sublist decl.properties ∧ rows.map (·.entry) = s.entries ∧
        ∀ r ∈ rows, r.Agrees c n m := by
  obtain ⟨_, hp, _⟩ := TypeScript.modelDeclaration_eq_ok.1 hd
  obtain ⟨ps, hps, properties⟩ := TypeScript.properties_eq_ok.1 hp
  obtain ⟨_, es, hes, entries⟩ := Zod.objectSchema_eq_ok.1 hs
  obtain ⟨rows, hf, hsub, he, agree⟩ := exists_rows (mapM_eq_ok.1 hps) (mapM_eq_ok.1 hes)
  refine ⟨?_, rows, hf, by rw [properties]; exact hsub, by rw [entries]; exact he, agree⟩
  rw [entries, ← he, ← hf, List.map_map, List.map_map]
  exact List.map_congr_left fun r hr => (agree r hr).entryName

/-- Drafts, with tags whose type the documentation gives and roles that may be missing. -/
def draft : Model where
  name := .str "Draft"
  dbName := .null
  documentation := .null
  fields :=
    [plainField "id" .scalar "Int",
     { plainField "tags" .scalar "String" with
       isRequired := .bool false, isList := .bool true, documentation := .str "@type \x7bTag\x7d" },
     { plainField "roles" .enum "Role" with isRequired := .bool false, isList := .bool true },
     plainField "next" .object "Draft"]

/-- The data model of drafts. -/
def drafts : Datamodel where
  models := [draft]
  enums := [{ name := .str "Role", values := [.str "READER"], documentation := .null }]
  types := []

/-- A configuration under which what may be null may be missing. -/
def optionalNullables : Config := Config.default.set .optionalNullables (.bool true)

/-- The tags of a draft are a list in its schema only. -/
theorem draft_objectSchema_agrees :
    ∃ n decl s, Naming.build optionalNullables drafts = .ok n ∧
      modelDeclaration optionalNullables n draft = .ok decl ∧
      objectSchema optionalNullables n draft = .ok s ∧
      decl.properties.map Property.modifiers =
        [⟨false, false, false⟩, ⟨false, true, true⟩, ⟨true, true, true⟩, ⟨false, false, true⟩] ∧
      s.entries.map (·.schema) =
        ["z.number().int()", "z.array(z.string()).nullable().optional()",
          "z.array(Role).nullable().optional()"] ∧
      s.entries.map (·.name) = (draft.fields.filter (·.kind ≠ .object)).map (·.name) ∧
      ∃ rows : List Row, rows.map (·.field) = draft.fields.filter (·.kind ≠ .object) ∧
        (rows.map (·.property)).Sublist decl.properties ∧ rows.map (·.entry) = s.entries ∧
        ∀ r ∈ rows, r.Agrees optionalNullables n draft := by
  have made : ∃ n decl s, Naming.build optionalNullables drafts = .ok n ∧
      modelDeclaration optionalNullables n draft = .ok decl ∧
      objectSchema optionalNullables n draft = .ok s ∧
      decl.properties.map Property.modifiers =
        [⟨false, false, false⟩, ⟨false, true, true⟩, ⟨true, true, true⟩, ⟨false, false, true⟩] ∧
      s.entries.map (·.schema) =
        ["z.number().int()", "z.array(z.string()).nullable().optional()",
          "z.array(Role).nullable().optional()"] :=
    ⟨_, _, _, rfl, rfl, rfl, rfl, rfl⟩
  obtain ⟨n, decl, s, hn, hd, hs, modifiers, schemas⟩ := made
  exact ⟨n, decl, s, hn, hd, hs, modifiers, schemas, objectSchema_agrees hd hs⟩

end Typewright
