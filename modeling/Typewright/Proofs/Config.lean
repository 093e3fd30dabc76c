import Typewright.Config

/-!
# Configurations of the declared types

A setting is declared to hold a text, a text or nothing, or a truth value. A configuration is *well
typed* if every setting holds what it is declared to; what is not configured does
(`Config.default_wellTyped`). Custom values are of any kind.
-/

namespace Typewright

/-- What a setting is declared to hold. -/
inductive SettingType where
  /-- A text. -/
  | text
  /-- A text, or nothing. -/
  | optionalText
  /-- A truth value. -/
  | flag
  deriving DecidableEq, Repr

/-- Whether a value is of a declared type. -/
def SettingType.Admits : SettingType → Value → Prop
  | text, v => ∃ s, v = .str s
  | optionalText, v => v = .null ∨ ∃ s, v = .str s
  | flag, v => ∃ b, v = .bool b

/-- The declared type of a setting. -/
def Setting.type : Setting → SettingType
  | annotationSpace | namespaceType | useType | prefixCode | suffixCode | output | zodOutput
  | pgOutput => .optionalText
  | optionalRelations | omitRelations | optionalNullables | formatOutput
  | strictValidationScalars => .flag
  | _ => .text

/-- Every setting holds a value of its declared type. -/
def Config.WellTyped (c : Config) : Prop := ∀ s : Setting, s.type.Admits (c.value s)

theorem Setting.default_admitted (s : Setting) : s.type.Admits s.default := by
  cases s with
  | annotationSpace | namespaceType | useType | prefixCode | suffixCode | output | zodOutput
  | pgOutput => exact Or.inl rfl
  | _ => exact ⟨_, rfl⟩

theorem Config.default_wellTyped : Config.default.WellTyped := Setting.default_admitted

end Typewright
