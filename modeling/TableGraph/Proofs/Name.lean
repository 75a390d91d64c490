import Mathlib.Data.List.Basic
import TableGraph.Name

/-!
The names that are generated for tables: two tables never share one, names of different kinds are
different, and names that are generated for GraphQL names are GraphQL names.
-/

namespace TableGraph

def IsName (name : String) : Prop :=
  isName name.toList = true

instance (name : String) : Decidable (IsName name) :=
  inferInstanceAs (Decidable (isName name.toList = true))

theorem isNameChar_of_isNameStart {c : Char} (hstart : isNameStart c = true) : isNameChar c = true := by
  simp only [isNameStart, isNameChar, Char.isAlphanum, Bool.or_eq_true] at *
  rcases hstart with halpha | hunderscore
  . exact .inl (.inl halpha)
  . exact .inr hunderscore

theorem toNat_of_isNameChar {c : Char} (hchar : isNameChar c = true) : 0x30 ≤ c.toNat ∧ c.toNat ≤ 0x7A := by
  have hranges : (decide ('A'.val ≤ c.val ∧ c.val ≤ 'Z'.val)
      || (decide ('a'.val ≤ c.val) && decide (c.val ≤ 'z'.val))
      || (decide ('0'.val ≤ c.val) && decide (c.val ≤ '9'.val))
      || c == '_') = true := hchar
  simp only [Bool.or_eq_true, Bool.and_eq_true, decide_eq_true_eq, beq_iff_eq,
    UInt32.le_iff_toNat_le] at hranges
  rcases hranges with ((⟨hlow, hhigh⟩ | ⟨hlow, hhigh⟩) | ⟨hlow, hhigh⟩) | rfl
  . exact ⟨Nat.le_trans (by decide) hlow, Nat.le_trans hhigh (by decide)⟩
  . exact ⟨Nat.le_trans (by decide) hlow, hhigh⟩
  . exact ⟨hlow, Nat.le_trans hhigh (by decide)⟩
  . decide

namespace IsName

variable {name : String}

theorem isNameChar (hname : IsName name) {c : Char} (hmem : c ∈ name.toList) : isNameChar c = true := by
  unfold IsName at hname
  cases hchars : name.toList with
  | nil =>
    rw [hchars] at hmem
    simp at hmem
  | cons first rest =>
    rw [hchars, isName, Bool.and_eq_true] at hname
    rw [hchars] at hmem
    rcases List.mem_cons.mp hmem with rfl | hrest
    . exact isNameChar_of_isNameStart hname.left
    . exact List.all_eq_true.mp hname.right c hrest

theorem ne_empty (hname : IsName name) : name ≠ "" := by
  rintro rfl
  cases hname

theorem append (hname : IsName name) {tail : String}
    (htail : ∀ c ∈ tail.toList, TableGraph.isNameChar c = true) : IsName (name ++ tail) := by
  unfold IsName at *
  rw [String.toList_append]
  cases hchars : name.toList with
  | nil =>
    rw [hchars] at hname
    simp [isName] at hname
  | cons first rest =>
    rw [hchars, isName, Bool.and_eq_true] at hname
    rw [List.cons_append, isName, Bool.and_eq_true, List.all_append, Bool.and_eq_true]
    exact ⟨hname.left, hname.right, List.all_eq_true.mpr htail⟩

theorem append_name (hname : IsName name) {tail : String} (htail : IsName tail) :
    IsName (name ++ tail) :=
  hname.append fun _ hmem => htail.isNameChar hmem

theorem connectionName (hname : IsName name) : IsName (connectionName name) := by
  unfold TableGraph.connectionName
  exact hname.append_name (by decide)

theorem createInputName (hname : IsName name) : IsName (createInputName name) := by
  unfold TableGraph.createInputName
  exact (append_name (by decide) hname).append_name (by decide)

theorem updateInputName (hname : IsName name) : IsName (updateInputName name) := by
  unfold TableGraph.updateInputName
  exact (append_name (by decide) hname).append_name (by decide)

theorem getFieldName (hname : IsName name) : IsName (getFieldName name) := by
  unfold TableGraph.getFieldName
  exact append_name (by decide) hname

theorem listFieldName (hname : IsName name) : IsName (listFieldName name) := by
  unfold TableGraph.listFieldName
  exact (append_name (by decide) hname).append_name (by decide)

theorem createFieldName (hname : IsName name) : IsName (createFieldName name) := by
  unfold TableGraph.createFieldName
  exact append_name (by decide) hname

theorem updateFieldName (hname : IsName name) : IsName (updateFieldName name) := by
  unfold TableGraph.updateFieldName
  exact append_name (by decide) hname

theorem deleteFieldName (hname : IsName name) : IsName (deleteFieldName name) := by
  unfold TableGraph.deleteFieldName
  exact append_name (by decide) hname

theorem onCreateFieldName (hname : IsName name) : IsName (onCreateFieldName name) := by
  unfold TableGraph.onCreateFieldName
  exact append_name (by decide) hname

theorem createArgumentName (hname : IsName name) : IsName (createArgumentName name) := by
  unfold TableGraph.createArgumentName
  exact (append_name (by decide) hname).append_name (by decide)

theorem updateArgumentName (hname : IsName name) : IsName (updateArgumentName name) := by
  unfold TableGraph.updateArgumentName
  exact (append_name (by decide) hname).append_name (by decide)

end IsName

/-! Different tables have different names of each kind. -/

section Injective

variable {table other : String}

@[simp]
theorem connectionName_inj : connectionName table = connectionName other ↔ table = other := by
  apply String.append_left_inj

@[simp]
theorem createInputName_inj : createInputName table = createInputName other ↔ table = other := by
  unfold createInputName
  rw [String.append_left_inj, String.append_right_inj]

@[simp]
theorem updateInputName_inj : updateInputName table = updateInputName other ↔ table = other := by
  unfold updateInputName
  rw [String.append_left_inj, String.append_right_inj]

@[simp]
theorem getFieldName_inj : getFieldName table = getFieldName other ↔ table = other := by
  apply String.append_right_inj

@[simp]
theorem listFieldName_inj : listFieldName table = listFieldName other ↔ table = other := by
  unfold listFieldName
  rw [String.append_left_inj, String.append_right_inj]

@[simp]
theorem createFieldName_inj : createFieldName table = createFieldName other ↔ table = other := by
  apply String.append_right_inj

@[simp]
theorem updateFieldName_inj : updateFieldName table = updateFieldName other ↔ table = other := by
  apply String.append_right_inj

@[simp]
theorem deleteFieldName_inj : deleteFieldName table = deleteFieldName other ↔ table = other := by
  apply String.append_right_inj

@[simp]
theorem onCreateFieldName_inj :
    onCreateFieldName table = onCreateFieldName other ↔ table = other := by
  apply String.append_right_inj

end Injective

/-! Names of different kinds start or end differently. -/

theorem ne_of_starts {a b p q : String} (ha : p.toList <+: a.toList) (hb : q.toList <+: b.toList)
    (hpq : ¬p.toList <+: q.toList) (hqp : ¬q.toList <+: p.toList) : a ≠ b := by
  rintro rfl
  rcases List.prefix_or_prefix_of_prefix ha hb with h | h
  . exact hpq h
  . exact hqp h

theorem ne_of_suffix {a b p q : String} (ha : p.toList <:+ a.toList) (hb : q.toList <:+ b.toList)
    (hpq : ¬p.toList <:+ q.toList) (hqp : ¬q.toList <:+ p.toList) : a ≠ b := by
  rintro rfl
  rcases List.suffix_or_suffix_of_suffix ha hb with h | h
  . exact hpq h
  . exact hqp h

section Distinct

variable (table other : String)

theorem prefix_append (p : String) : p.toList <+: (p ++ table).toList := by
  rw [String.toList_append]
  apply List.prefix_append

theorem suffix_append (p : String) : p.toList <:+ (table ++ p).toList := by
  rw [String.toList_append]
  apply List.suffix_append

theorem prefix_createInputName : "Create".toList <+: (createInputName table).toList := by
  unfold createInputName
  rw [String.append_assoc]
  apply prefix_append

theorem prefix_updateInputName : "Update".toList <+: (updateInputName table).toList := by
  unfold updateInputName
  rw [String.append_assoc]
  apply prefix_append

theorem prefix_listFieldName : "list".toList <+: (listFieldName table).toList := by
  unfold listFieldName
  rw [String.append_assoc]
  apply prefix_append

theorem connectionName_ne_createInputName : connectionName table ≠ createInputName other :=
  ne_of_suffix (suffix_append table "Connection") (suffix_append _ "Input") (by decide) (by decide)

theorem connectionName_ne_updateInputName : connectionName table ≠ updateInputName other :=
  ne_of_suffix (suffix_append table "Connection") (suffix_append _ "Input") (by decide) (by decide)

theorem createInputName_ne_updateInputName : createInputName table ≠ updateInputName other :=
  ne_of_starts (prefix_createInputName table) (prefix_updateInputName other) (by decide) (by decide)

theorem deleteFieldName_ne_createFieldName : deleteFieldName table ≠ createFieldName other :=
  ne_of_starts (prefix_append table "delete") (prefix_append other "create") (by decide) (by decide)

theorem deleteFieldName_ne_updateFieldName : deleteFieldName table ≠ updateFieldName other :=
  ne_of_starts (prefix_append table "delete") (prefix_append other "update") (by decide) (by decide)

theorem createFieldName_ne_updateFieldName : createFieldName table ≠ updateFieldName other :=
  ne_of_starts (prefix_append table "create") (prefix_append other "update") (by decide) (by decide)

theorem getFieldName_ne_listFieldName : getFieldName table ≠ listFieldName other :=
  ne_of_starts (prefix_append table "get") (prefix_listFieldName other) (by decide) (by decide)

/-! A name is never the one that is generated for it, which is longer. -/

theorem ne_connectionName : table ≠ connectionName table := by
  intro heq
  have hlength := congrArg (fun name => name.toList.length) heq
  simp [connectionName] at hlength

theorem ne_createInputName : table ≠ createInputName table := by
  intro heq
  have hlength := congrArg (fun name => name.toList.length) heq
  simp [createInputName] at hlength
  omega

theorem ne_updateInputName : table ≠ updateInputName table := by
  intro heq
  have hlength := congrArg (fun name => name.toList.length) heq
  simp [updateInputName] at hlength
  omega

end Distinct

/-- Names that no generated name of a type is among, whatever the table. -/
def SparesGenerated (names : List String) : Prop :=
  ∀ name ∈ names, ¬"Connection".toList <:+ name.toList ∧ ¬"Create".toList <+: name.toList ∧
    ¬"Update".toList <+: name.toList

instance (names : List String) : Decidable (SparesGenerated names) :=
  inferInstanceAs (Decidable (∀ _ ∈ names, _))

namespace SparesGenerated

variable {names : List String} (hspares : SparesGenerated names) (table : String)

include hspares

theorem connectionName : connectionName table ∉ names :=
  fun hmem => (hspares _ hmem).left (suffix_append table "Connection")

theorem createInputName : createInputName table ∉ names :=
  fun hmem => (hspares _ hmem).right.left (prefix_createInputName table)

theorem updateInputName : updateInputName table ∉ names :=
  fun hmem => (hspares _ hmem).right.right (prefix_updateInputName table)

end SparesGenerated

end TableGraph
