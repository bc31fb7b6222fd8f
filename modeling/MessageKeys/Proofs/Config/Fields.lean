import Mathlib.Data.List.Perm.Basic
import MessageKeys.Config.Json
import MessageKeys.Proofs.Json.Printed

/-!
# The fields of a configuration

A configuration is written as an object with one member for each field, and read field by field. A
field that is not given has its default, and members under other names do not count, so that a name
that is written in one way and read in another would go unnoticed. Here every field has one
description, which says under which names it is read and how its values are written, and writing and
reading are both compared with it.

## Main definitions

* `MessageKeys.Json.Codec` — how the values of a type are written, and read in just this form.
* `MessageKeys.Config.Field` — the fields of a configuration, with their names and codecs.

## Main results

* `MessageKeys.Config.ofFields?_eq_some_iff` — a configuration is read field by field.
* `MessageKeys.Config.ofJson?_object_eq_some_iff` — which objects are read as a configuration.
* `MessageKeys.Config.ofJson?_toJson`, `MessageKeys.Config.ofText?_pretty` — what is written is read
  again.
* `MessageKeys.Config.ofJson?_fields` — the fields of a configuration that is read.
* `MessageKeys.Config.json_fields` — what is written, and what is read from any object.
-/

namespace MessageKeys

/-! ### Values of fields -/

namespace Json

/-- How the values of a type are written, and read in just this form. -/
structure Codec (α : Type) where
  write : α → Json
  read? : Json → Option α
  read?_eq_some_iff : ∀ value a, read? value = some a ↔ value = write a

theorem mapM_text?_eq_some_iff {items : List Json} {texts : List String} :
    items.mapM text? = some texts ↔ items = texts.map string := by
  induction items generalizing texts with
  | nil => cases texts <;> simp
  | cons item items ih =>
    rw [List.mapM_cons]
    cases item with
    | string text => cases texts <;> simp [text?, Option.bind_eq_some_iff, ih, and_comm]
    | _ => cases texts <;> simp [text?]

namespace Codec

/-- Texts are written as strings. -/
def text : Codec String where
  write := string
  read? := text?
  read?_eq_some_iff value a := by cases value <;> simp [text?]

/-- Lists of texts are written as arrays of strings. -/
def texts : Codec (List String) where
  write := ofTexts
  read? := texts?
  read?_eq_some_iff value a := by
    cases value <;> simp [texts?, items?, ofTexts, mapM_text?_eq_some_iff]

/-- A character is written as a string of one character. -/
def char : Codec Char where
  write c := string (String.singleton c)
  read? := char?
  read?_eq_some_iff value c := by
    cases value with
    | string text =>
      rw [char?, string.injEq, ← String.toList_inj, String.toList_singleton]
      split <;> simp_all
    | _ => simp [char?]

/-- Truth values are written as such. -/
def truth : Codec Bool where
  write := bool
  read? := truth?
  read?_eq_some_iff value a := by cases value <;> simp [truth?]

end Codec

/-! ### Fields of a record -/

namespace Fields

variable {α : Type} {f g : Fields} {names : List String} {read? : Json → Option α} {default a : α}

/-- A field has its default if it is not given, or else the value that is given once. -/
theorem getD?_eq_some_iff :
    f.getD? names read? default = some a ↔
      (f.under names = [] ∧ a = default) ∨
        ∃ value, f.under names = [value] ∧ read? value = some a := by
  unfold getD?
  cases hunder : f.under names with
  | nil => simp [eq_comm]
  | cons value rest => cases rest <;> simp

/-- The order in which a record gives its members does not matter to a field. -/
theorem getD?_eq_of_perm (h : (f.under names).Perm (g.under names)) (read? : Json → Option α)
    (default : α) : f.getD? names read? default = g.getD? names read? default := by
  have hnil : f.under names = [] ↔ g.under names = [] := by
    rw [← List.perm_nil, ← List.perm_nil]
    exact ⟨h.symm.trans, h.trans⟩
  have hone (value : Json) : f.under names = [value] ↔ g.under names = [value] := by
    rw [← List.perm_singleton, ← List.perm_singleton]
    exact ⟨h.symm.trans, h.trans⟩
  refine Option.ext fun a => ?_
  rw [getD?_eq_some_iff, getD?_eq_some_iff, hnil]
  simp only [hone]

theorem mem_under {value : Json} :
    value ∈ f.under names ↔ ∃ name ∈ names, (name, value) ∈ f.members := by
  simp [under, and_comm]

theorem under_eq_nil_iff : f.under names = [] ↔ ∀ member ∈ f.members, member.1 ∉ names := by
  simp only [List.eq_nil_iff_forall_not_mem, mem_under, not_exists, not_and, Prod.forall]
  exact ⟨fun h name value hmem hname => h value name hname hmem,
    fun h value name hname hmem => h name value hmem hname⟩

/-- Members under other names do not count. -/
theorem under_filter {known : List String} (h : names ⊆ known) (members : List (String × Json)) :
    under ⟨members.filter fun member => known.contains member.1⟩ names = under ⟨members⟩ names := by
  rw [under, under, List.filterMap_filter]
  congr 1
  funext member
  by_cases hname : member.1 ∈ names
  · simp [hname, h hname]
  · simp [hname]

end Fields

end Json

/-! ### The fields -/

namespace Config

open Json (Codec)

/-- The fields of a configuration, by the types of their values. -/
inductive Field : Type → Type where
  | messagesRoot : Field String
  | ignores : Field (List String)
  | defaultNamespace : Field String
  | nsSeparator : Field Char
  | keySeparator : Field Char
  | pluralSeparator : Field String
  | pluralVariants : Field (List String)
  | suppressUnresolvedDefaultNs : Field Bool

namespace Field

variable {α : Type}

/-- The name under which a field is written. -/
def name : Field α → String
  | messagesRoot => "messagesRoot"
  | ignores => "ignores"
  | defaultNamespace => "defaultNamespace"
  | nsSeparator => "nsSeparator"
  | keySeparator => "keySeparator"
  | pluralSeparator => "pluralSeparator"
  | pluralVariants => "pluralVariants"
  | suppressUnresolvedDefaultNs => "suppressUnresolvedDefaultNs"

/-- The names under which a field is read: that under which it is written, and for the messages root
another one. -/
def names : Field α → List String
  | messagesRoot => ["messagesRoot", "messagesDir"]
  | field => [field.name]

/-- How the values of a field are written and read. -/
def codec : Field α → Codec α
  | messagesRoot | defaultNamespace | pluralSeparator => .text
  | ignores | pluralVariants => .texts
  | nsSeparator | keySeparator => .char
  | suppressUnresolvedDefaultNs => .truth

/-- The value of a field. -/
def value : Field α → Config → α
  | messagesRoot => Config.messagesRoot
  | ignores => Config.ignores
  | defaultNamespace => Config.defaultNamespace
  | nsSeparator => Config.nsSeparator
  | keySeparator => Config.keySeparator
  | pluralSeparator => Config.pluralSeparator
  | pluralVariants => Config.pluralVariants
  | suppressUnresolvedDefaultNs => Config.suppressUnresolvedDefaultNs

end Field

/-- A configuration is read field by field. -/
theorem ofFields?_eq_some_iff {f : Json.Fields} {c : Config} :
    ofFields? f = some c ↔ ∀ {α : Type} (field : Field α),
      f.getD? field.names field.codec.read? (field.value default) = some (field.value c) := by
  simp only [ofFields?, Option.bind_eq_bind, Option.bind_eq_some_iff]
  constructor
  · rintro ⟨_, h₁, _, h₂, _, h₃, _, h₄, _, h₅, _, h₆, _, h₇, _, h₈, ⟨⟩⟩ α field
    cases field with
    | messagesRoot => exact h₁
    | ignores => exact h₂
    | defaultNamespace => exact h₃
    | nsSeparator => exact h₄
    | keySeparator => exact h₅
    | pluralSeparator => exact h₆
    | pluralVariants => exact h₇
    | suppressUnresolvedDefaultNs => exact h₈
  · intro h
    exact ⟨_, h .messagesRoot, _, h .ignores, _, h .defaultNamespace, _, h .nsSeparator, _,
      h .keySeparator, _, h .pluralSeparator, _, h .pluralVariants, _,
      h .suppressUnresolvedDefaultNs, rfl⟩

/-! ### Objects -/

variable {α : Type} {members others : List (String × Json)} {c : Config}

/-- The names under which some field is read. -/
def knownNames : List String := "messagesDir" :: fieldNames

theorem Field.names_subset (field : Field α) : field.names ⊆ knownNames := by
  cases field <;> decide

/-- An object is read as a configuration if every field is given once, under one of its names, and
as it is written, or not at all; then the configuration has its default. -/
theorem ofJson?_object_eq_some_iff :
    ofJson? (.object members) = some c ↔ ∀ {α : Type} (field : Field α),
      (Json.Fields.under ⟨members⟩ field.names = [] ∧ field.value c = field.value default) ∨
        Json.Fields.under ⟨members⟩ field.names = [field.codec.write (field.value c)] := by
  change ofFields? ⟨members⟩ = some c ↔ _
  rw [ofFields?_eq_some_iff]
  simp only [Json.Fields.getD?_eq_some_iff, Codec.read?_eq_some_iff, exists_eq_right]

/-- What is written is read again. -/
theorem ofJson?_toJson (c : Config) : ofJson? c.toJson = some c := by
  refine ofJson?_object_eq_some_iff.mpr fun field => .inr ?_
  cases field <;> rfl

theorem isTextual_ofTexts (texts : List String) : (Json.ofTexts texts).IsTextual :=
  .array (List.forall_mem_map.mpr fun text _ => .string text)

theorem isTextual_toJson (c : Config) : c.toJson.IsTextual := by
  refine .object ?_
  simp only [List.forall_mem_cons, List.not_mem_nil, false_imp_iff, implies_true, and_true]
  exact ⟨.string _, isTextual_ofTexts _, .string _, .string _, .string _, .string _,
    isTextual_ofTexts _, .bool _⟩

/-- What is printed is read again. -/
theorem ofText?_pretty (c : Config) : ofText? c.toJson.pretty = some c := by
  rw [ofText?, Json.read_pretty c.isTextual_toJson]
  exact ofJson?_toJson c

/-- Neither the order of the members matters nor what is given under other names. -/
theorem ofJson?_object_congr
    (h : (members.filter fun member => knownNames.contains member.1).Perm
      (others.filter fun member => knownNames.contains member.1)) :
    ofJson? (.object members) = ofJson? (.object others) := by
  have hunder {α : Type} (field : Field α) :
      (Json.Fields.under ⟨members⟩ field.names).Perm (Json.Fields.under ⟨others⟩ field.names) := by
    rw [← Json.Fields.under_filter field.names_subset members,
      ← Json.Fields.under_filter field.names_subset others]
    exact h.filterMap _
  refine Option.ext fun c => ?_
  change ofFields? ⟨members⟩ = some c ↔ ofFields? ⟨others⟩ = some c
  rw [ofFields?_eq_some_iff, ofFields?_eq_some_iff]
  simp only [Json.Fields.getD?_eq_of_perm (hunder _)]

/-- A field of a configuration that is read is the default if it is not given, and otherwise what is
given. -/
theorem ofJson?_fields (h : ofJson? (.object members) = some c) (field : Field α) :
    ((∀ member ∈ members, member.1 ∉ field.names) → field.value c = field.value default) ∧
      ∀ member ∈ members, member.1 ∈ field.names →
        member.2 = field.codec.write (field.value c) := by
  rcases ofJson?_object_eq_some_iff.mp h field with ⟨hnone, hdefault⟩ | hgiven
  · refine ⟨fun _ => hdefault, fun member hmem hname => ?_⟩
    exact absurd hname (Json.Fields.under_eq_nil_iff.mp hnone member hmem)
  · constructor
    · intro habsent
      rw [Json.Fields.under_eq_nil_iff.mpr habsent] at hgiven
      cases hgiven
    · intro member hmem hname
      have hunder := Json.Fields.mem_under.mpr ⟨member.1, hname, hmem⟩
      rw [hgiven] at hunder
      exact List.mem_singleton.mp hunder

/-- **Writing and reading a configuration.** A configuration is written as an object with just its
fields, each under its name, and is read again from this object and from its text. A configuration
that is read from any object has the given value in each field that the object gives under one of
its names, and the default in each other field. Any object that gives the same under these names, in
any order and with any other members, is read as the same configuration. -/
theorem json_fields :
    (∀ c : Config, ofJson? c.toJson = some c ∧ ofText? c.toJson.pretty = some c ∧
      ∃ members, c.toJson = .object members ∧ members.map Prod.fst = fieldNames ∧
        ∀ {α : Type} (field : Field α),
          (field.name, field.codec.write (field.value c)) ∈ members) ∧
    ∀ (members : List (String × Json)) (c : Config), ofJson? (.object members) = some c →
      (∀ {α : Type} (field : Field α),
        ((∀ member ∈ members, member.1 ∉ field.names) → field.value c = field.value default) ∧
          ∀ member ∈ members, member.1 ∈ field.names →
            member.2 = field.codec.write (field.value c)) ∧
      ∀ others : List (String × Json),
        (members.filter fun member => knownNames.contains member.1).Perm
            (others.filter fun member => knownNames.contains member.1) →
          ofJson? (.object others) = some c := by
  refine ⟨fun c => ⟨ofJson?_toJson c, ofText?_pretty c, _, rfl, rfl, fun field => ?_⟩,
    fun members c hread => ?_⟩
  · cases field <;> simp [Field.name, Field.value, Field.codec, Codec.text, Codec.texts, Codec.char,
      Codec.truth]
  · exact ⟨ofJson?_fields hread, fun others hperm => (ofJson?_object_congr hperm).symm.trans hread⟩

/-- A messages root under its other name, and a name that no field has. -/
example :
    ofJson? (.object [("messagesDir", .string "texts"), ("indent", .string "tab")]) =
      some { (default : Config) with messagesRoot := "texts" } := by
  decide +kernel

end Config

end MessageKeys
