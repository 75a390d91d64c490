import TableGraph.Proofs.Schema.Shapes
import TableGraph.Proofs.Text.Ascii
import TableGraph.Proofs.Text.Trim

/-!
The scalars of SQL types. A type has the scalar that the last of the overrides for its base name says, or else the
known one; however the type and the overrides are spelled, it is the base name that counts.
-/

namespace TableGraph

namespace Overrides

variable {overrides : Overrides} {sqlType scalar : String}

def Gives (overrides : Overrides) (sqlType scalar : String) : Prop :=
  ∃ earlier key later, overrides = earlier ++ (key, scalar) :: later ∧
    baseName key = baseName sqlType ∧ ∀ entry ∈ later, baseName entry.1 ≠ baseName sqlType

def IsSilent (overrides : Overrides) (sqlType : String) : Prop :=
  ∀ entry ∈ overrides, baseName entry.1 ≠ baseName sqlType

theorem scalar?_byBaseName (overrides : Overrides) (name : String) :
    overrides.byBaseName.scalar? name
      =
    (overrides.reverse.find? fun entry => baseName entry.1 == name).map (·.2) := by
  unfold scalar? byBaseName
  rw [← List.map_reverse, List.find?_map, Option.map_map]
  rfl

theorem scalar?_eq_some_iff :
    overrides.byBaseName.scalar? (baseName sqlType) = some scalar ↔ overrides.Gives sqlType scalar := by
  rw [scalar?_byBaseName]
  constructor
  . intro hscalar
    obtain ⟨⟨key, _⟩, hfind, rfl⟩ := Option.map_eq_some_iff.mp hscalar
    obtain ⟨hkey, later, earlier, heq, hlater⟩ := List.find?_eq_some_iff_append.mp hfind
    refine ⟨earlier.reverse, key, later.reverse, ?_, eq_of_beq hkey, ?_⟩
    . rw [← List.reverse_reverse overrides, heq, List.reverse_append, List.reverse_cons, List.append_assoc]
      rfl
    . intro entry hentry
      simpa using hlater entry (List.mem_reverse.mp hentry)
  . rintro ⟨earlier, key, later, rfl, hkey, hlater⟩
    have hnone : later.reverse.find? (fun entry => baseName entry.1 == baseName sqlType) = none := by
      simpa using hlater
    rw [List.reverse_append, List.reverse_cons, List.append_assoc, List.find?_append, hnone,
      List.singleton_append, List.find?_cons_of_pos (by simpa using hkey)]
    rfl

theorem scalar?_eq_none_iff :
    overrides.byBaseName.scalar? (baseName sqlType) = none ↔ overrides.IsSilent sqlType := by
  rw [scalar?_byBaseName]
  simp [IsSilent]

/-- Which scalar a type has: that of the last override for its base name, or else the known one of this name, or
else that of texts. -/
inductive Decides (overrides : Overrides) (sqlType : String) : String → Prop
  | given {scalar : String} (hgives : overrides.Gives sqlType scalar) : Decides overrides sqlType scalar
  | known {scalar : String} (hsilent : overrides.IsSilent sqlType)
      (hknown : Scalar.known.lookup (baseName sqlType) = some scalar) : Decides overrides sqlType scalar
  | unknown (hsilent : overrides.IsSilent sqlType) (hunknown : Scalar.known.lookup (baseName sqlType) = none) :
      Decides overrides sqlType "String"

theorem decides_iff : overrides.Decides sqlType scalar ↔ Scalar.ofSqlType overrides.byBaseName sqlType = scalar := by
  unfold Scalar.ofSqlType
  dsimp only
  constructor
  . intro hdecides
    cases hdecides with
    | given hgives => rw [scalar?_eq_some_iff.mpr hgives]
    | known hsilent hknown =>
      rw [scalar?_eq_none_iff.mpr hsilent, hknown]
      rfl
    | unknown hsilent hunknown =>
      rw [scalar?_eq_none_iff.mpr hsilent, hunknown]
      rfl
  . rintro rfl
    split
    . next hgives => exact .given (scalar?_eq_some_iff.mp hgives)
    . next hnone =>
      have hsilent := scalar?_eq_none_iff.mp hnone
      cases hlookup : Scalar.known.lookup (baseName sqlType) with
      | none => exact .unknown hsilent hlookup
      | some scalar => exact .known hsilent hlookup

end Overrides

structure IsBareType (name : String) : Prop where
  ascii : IsAscii name
  unqualified : '(' ∉ name.toList

instance (name : String) : Decidable (IsBareType name) :=
  decidable_of_iff (IsAscii name ∧ '(' ∉ name.toList)
    ⟨fun ⟨ascii, unqualified⟩ => ⟨ascii, unqualified⟩, fun ⟨ascii, unqualified⟩ => ⟨ascii, unqualified⟩⟩

def IsAsciiBlank (text : String) : Prop :=
  ∀ c ∈ text.toList, c.toNat < 0x80 ∧ Text.isBlank c = true

instance (text : String) : Decidable (IsAsciiBlank text) :=
  List.decidableBAll _ _

/-- A spelling of the name of a type: the name with each letter in lower or in upper case, blanks before and behind
it, and perhaps a parenthesis with any text behind it. -/
structure TypeSpelling (name : String) where
  before : String
  word : String
  behind : String
  qualifier? : Option String
  before_blank : IsAsciiBlank before
  word_recased : List.Forall₂ (fun c d => d = c.toLower ∨ d = c.toUpper) name.toList word.toList
  behind_blank : IsAsciiBlank behind

namespace TypeSpelling

variable {name : String}

def qualifier (spelling : TypeSpelling name) : String :=
  match spelling.qualifier? with
  | none => ""
  | some text => "(" ++ text

def text (spelling : TypeSpelling name) : String :=
  spelling.before ++ spelling.word ++ spelling.behind ++ spelling.qualifier

end TypeSpelling

theorem IsBareType.append {first second : String} (hfirst : IsBareType first) (hsecond : IsBareType second) :
    IsBareType (first ++ second) where
  ascii := isAscii_append hfirst.ascii hsecond.ascii
  unqualified := by
    rw [String.toList_append, List.mem_append, not_or]
    exact ⟨hfirst.unqualified, hsecond.unqualified⟩

namespace TypeSpelling

variable {name : String}

end TypeSpelling

namespace Table

end Table

end TableGraph
