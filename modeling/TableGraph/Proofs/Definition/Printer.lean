import TableGraph.Definition.Printer
import TableGraph.Proofs.Text.Layout

/-!
Printed definitions are told apart: the text of a definition with GraphQL names and without subscriptions
tells the definition, and where it ends if an empty line follows.
-/

namespace TableGraph

open Text

def isTypeChar (c : Char) : Bool :=
  isNameChar c || c == '[' || c == ']' || c == '!'

namespace TypeRef

variable {type other : TypeRef}

theorem isTypeChar_print (htype : IsName type.name) : ∀ c ∈ type.print.toList, isTypeChar c = true := by
  induction type with
  | named name =>
    intro c hmem
    have hchar : isNameChar c = true := htype.isNameChar hmem
    simp [isTypeChar, hchar]
  | list item ih =>
    rw [print, String.toList_append, String.toList_append, List.forall_mem_append, List.forall_mem_append]
    exact ⟨⟨by simp [isTypeChar], ih htype⟩, by simp [isTypeChar]⟩
  | nonNull type ih =>
    rw [print, String.toList_append, List.forall_mem_append]
    exact ⟨ih htype, by simp [isTypeChar]⟩

theorem named_ne_list {name : String} (hname : IsName name) (item : TypeRef) :
    (named name).print ≠ (list item).print := by
  intro heq
  have hlacks : Lacks '[' (named name).print := lacks_of_isName hname rfl
  rw [heq] at hlacks
  simp [print, Lacks] at hlacks

theorem named_ne_nonNull {name : String} (hname : IsName name) (type : TypeRef) :
    (named name).print ≠ (nonNull type).print := by
  intro heq
  have hlacks : Lacks '!' (named name).print := lacks_of_isName hname rfl
  rw [heq] at hlacks
  simp [print, Lacks] at hlacks

theorem list_ne_nonNull (item type : TypeRef) : (list item).print ≠ (nonNull type).print :=
  ne_of_suffix (suffix_append _ "]") (suffix_append _ "!") (by decide) (by decide)

theorem print_inj (htype : IsName type.name) (hother : IsName other.name) (heq : type.print = other.print) :
    type = other := by
  induction type generalizing other with
  | named name =>
    cases other with
    | named other => exact congrArg named heq
    | list item => exact absurd heq (named_ne_list htype item)
    | nonNull type => exact absurd heq (named_ne_nonNull htype type)
  | list item ih =>
    cases other with
    | named other => exact absurd heq.symm (named_ne_list hother item)
    | list other =>
      rw [print, print, String.append_left_inj, String.append_right_inj] at heq
      exact congrArg list (ih htype hother heq)
    | nonNull type => exact absurd heq (list_ne_nonNull item type)
  | nonNull type ih =>
    cases other with
    | named other => exact absurd heq.symm (named_ne_nonNull hother type)
    | list item => exact absurd heq.symm (list_ne_nonNull item type)
    | nonNull other =>
      rw [print, print, String.append_left_inj] at heq
      exact congrArg nonNull (ih htype hother heq)

theorem print_append_inj (htype : IsName type.name) (hother : IsName other.name) {rest otherRest : List Char}
    (hrest : Ends isTypeChar rest) (hotherRest : Ends isTypeChar otherRest)
    (heq : type.print.toList ++ rest = other.print.toList ++ otherRest) : type = other ∧ rest = otherRest := by
  obtain ⟨hprint, hrests⟩ :=
    append_inj_of_ends (isTypeChar_print htype) (isTypeChar_print hother) hrest hotherRest heq
  exact ⟨print_inj htype hother (String.toList_inj.mp hprint), hrests⟩

end TypeRef

theorem name_append_inj {name other : String} (hname : IsName name) (hother : IsName other)
    {rest otherRest : List Char} (hrest : Ends isNameChar rest) (hotherRest : Ends isNameChar otherRest)
    (heq : name.toList ++ rest = other.toList ++ otherRest) : name = other ∧ rest = otherRest := by
  obtain ⟨hnames, hrests⟩ :=
    append_inj_of_ends (fun _ hmem => hname.isNameChar hmem) (fun _ hmem => hother.isNameChar hmem)
      hrest hotherRest heq
  exact ⟨String.toList_inj.mp hnames, hrests⟩

structure InputValue.IsPlain (value : InputValue) : Prop where
  name : IsName value.name
  type : IsName value.type.name

structure Field.IsPlain (field : Field) : Prop where
  name : IsName field.name
  args : ∀ arg ∈ field.args, arg.IsPlain
  type : IsName field.type.name
  subscriptions : field.subscriptions = []

namespace InputValue

variable {value other : InputValue}

theorem lacks_print (hvalue : value.IsPlain) : Lacks '\n' value.print := by
  unfold print
  rw [lacks_append_iff, lacks_append_iff]
  refine ⟨⟨lacks_of_isName hvalue.name rfl, by decide⟩, ?_⟩
  intro hmem
  exact absurd (TypeRef.isTypeChar_print hvalue.type _ hmem) (by decide)

theorem print_ne_empty (value : InputValue) : value.print ≠ "" := by
  simp [print]

theorem toList_print (value : InputValue) :
    value.print.toList = value.name.toList ++ ':' :: ' ' :: value.type.print.toList := by
  simp [print]

theorem print_append_inj (hvalue : value.IsPlain) (hother : other.IsPlain) {rest otherRest : List Char}
    (hrest : Ends isTypeChar rest) (hotherRest : Ends isTypeChar otherRest)
    (heq : value.print.toList ++ rest = other.print.toList ++ otherRest) : value = other ∧ rest = otherRest := by
  obtain ⟨name, type⟩ := value
  obtain ⟨otherName, otherType⟩ := other
  simp only [toList_print, List.append_assoc, List.cons_append] at heq
  obtain ⟨rfl, htail⟩ :=
    name_append_inj hvalue.name hother.name (ends_cons (by decide) _) (ends_cons (by decide) _) heq
  simp only [List.cons.injEq, true_and] at htail
  obtain ⟨rfl, hrests⟩ := TypeRef.print_append_inj hvalue.type hother.type hrest hotherRest htail
  exact ⟨rfl, hrests⟩

end InputValue

theorem toList_printArgs {first : String} {rest : List String} (hnonempty : ∀ arg ∈ first :: rest, arg ≠ "")
    (hlines : ∀ arg ∈ first :: rest, Lacks '\n' arg) :
    (printArgs (first :: rest)).toList
      =
    '(' :: (first.toList ++ rest.flatMap ([',', ' '] ++ ·.toList) ++ [')']) := by
  have hunbroken : ¬(first :: rest).any (·.contains '\n') = true := by
    rw [Bool.not_eq_true, List.any_eq_false]
    intro arg harg
    rw [String.contains_char_eq]
    simpa [Lacks] using hlines arg harg
  have hjoined := joinParts_ne_empty ", " (hnonempty first List.mem_cons_self) rest
  unfold printArgs bracket
  rw [if_neg hunbroken, if_neg (by simpa using hjoined), joinParts_of_nonempty hnonempty,
    String.toList_append, String.toList_append, toList_intercalate_cons]
  simp

/-! The arguments of a field, in front of the colon before its type. -/

section Args

variable {args others : List InputValue}

theorem toList_printArgs_print {first : InputValue} {rest : List InputValue}
    (hargs : ∀ arg ∈ first :: rest, arg.IsPlain) :
    (printArgs ((first :: rest).map InputValue.print)).toList
      =
    '(' :: (first.print.toList ++ rest.flatMap ([',', ' '] ++ ·.print.toList) ++ [')']) := by
  rw [List.map_cons, toList_printArgs, List.flatMap_map]
  . rw [← List.map_cons, List.forall_mem_map]
    exact fun arg _ => arg.print_ne_empty
  . rw [← List.map_cons, List.forall_mem_map]
    exact fun arg harg => InputValue.lacks_print (hargs arg harg)

theorem lacks_printArgs (hargs : ∀ arg ∈ args, arg.IsPlain) :
    Lacks '\n' (printArgs (args.map InputValue.print)) := by
  cases args with
  | nil => decide
  | cons first rest =>
    have hlacks : ∀ arg ∈ first :: rest, '\n' ∉ arg.print.toList :=
      fun arg harg => InputValue.lacks_print (hargs arg harg)
    rw [List.forall_mem_cons] at hlacks
    unfold Lacks
    rw [toList_printArgs_print hargs]
    simpa using hlacks

theorem ends_printArgs (hargs : ∀ arg ∈ args, arg.IsPlain) (rest : List Char) :
    Ends isNameChar ((printArgs (args.map InputValue.print)).toList ++ ':' :: rest) := by
  cases args with
  | nil => exact ends_cons (by decide) rest
  | cons first args =>
    rw [toList_printArgs_print hargs]
    exact ends_cons (by decide) _

theorem printArgs_append_inj (hargs : ∀ arg ∈ args, arg.IsPlain) (hothers : ∀ arg ∈ others, arg.IsPlain)
    {rest otherRest : List Char}
    (heq : (printArgs (args.map InputValue.print)).toList ++ ':' :: rest
      = (printArgs (others.map InputValue.print)).toList ++ ':' :: otherRest) :
    args = others ∧ rest = otherRest := by
  cases args with
  | nil =>
    cases others with
    | nil => exact ⟨rfl, List.tail_eq_of_cons_eq heq⟩
    | cons other others =>
      rw [toList_printArgs_print hothers] at heq
      exact absurd (List.head_eq_of_cons_eq heq) (by decide)
  | cons arg args =>
    cases others with
    | nil =>
      rw [toList_printArgs_print hargs] at heq
      exact absurd (List.head_eq_of_cons_eq heq) (by decide)
    | cons other others =>
      rw [toList_printArgs_print hargs, toList_printArgs_print hothers] at heq
      simp only [List.cons_append, List.append_assoc] at heq
      have hmark : ∀ rest, Ends isTypeChar ([',', ' '] ++ rest) := fun rest => ends_cons (by decide) _
      have hclose : ∀ rest, Ends isTypeChar ([')'] ++ rest) := fun rest => ends_cons (by decide) _
      rw [List.forall_mem_cons] at hargs hothers
      obtain ⟨rfl, hrest⟩ := InputValue.print_append_inj hargs.left hothers.left
        (follows_flatMap hmark hclose args _) (follows_flatMap hmark hclose others _)
        (List.tail_eq_of_cons_eq heq)
      obtain ⟨rfl, hlast⟩ := flatMap_append_inj hmark hclose (by simp)
        (fun arg harg other hother _ _ hfollows hotherFollows =>
          InputValue.print_append_inj (hargs.right arg harg) (hothers.right other hother) hfollows hotherFollows)
        hrest
      exact ⟨rfl, List.tail_eq_of_cons_eq hlast⟩

end Args

namespace Field

variable {field other : Field}

theorem print_of_isPlain (hfield : field.IsPlain) :
    field.print = field.name ++ printArgs (field.args.map InputValue.print) ++ ": " ++ field.type.print := by
  unfold print
  rw [hfield.subscriptions]
  exact String.append_empty

theorem lacks_print (hfield : field.IsPlain) : Lacks '\n' field.print := by
  rw [print_of_isPlain hfield, lacks_append_iff, lacks_append_iff, lacks_append_iff]
  refine ⟨⟨⟨lacks_of_isName hfield.name rfl, lacks_printArgs hfield.args⟩, by decide⟩, ?_⟩
  intro hmem
  exact absurd (TypeRef.isTypeChar_print hfield.type _ hmem) (by decide)

theorem print_ne_empty (field : Field) : field.print ≠ "" := by
  simp [print]

theorem print_append_inj (hfield : field.IsPlain) (hother : other.IsPlain) {rest otherRest : List Char}
    (hrest : Ends isTypeChar rest) (hotherRest : Ends isTypeChar otherRest)
    (heq : field.print.toList ++ rest = other.print.toList ++ otherRest) : field = other ∧ rest = otherRest := by
  rw [print_of_isPlain hfield, print_of_isPlain hother] at heq
  obtain ⟨name, args, type, subscriptions⟩ := field
  obtain ⟨otherName, otherArgs, otherType, otherSubscriptions⟩ := other
  have hcolon : ": ".toList = [':', ' '] := by decide
  simp only [String.toList_append, List.append_assoc, hcolon, List.cons_append, List.nil_append] at heq
  obtain ⟨rfl, htail⟩ := name_append_inj hfield.name hother.name (ends_printArgs hfield.args _)
    (ends_printArgs hother.args _) heq
  obtain ⟨rfl, htype⟩ := printArgs_append_inj hfield.args hother.args htail
  obtain ⟨rfl, hrests⟩ := TypeRef.print_append_inj hfield.type hother.type hrest hotherRest
    (List.tail_eq_of_cons_eq htype)
  obtain rfl := hfield.subscriptions
  obtain rfl := hother.subscriptions
  exact ⟨rfl, hrests⟩

end Field

def InputValue.toField (value : InputValue) : Field where
  name := value.name
  type := value.type

namespace InputValue

theorem print_toField (value : InputValue) : value.toField.print = value.print := by
  have hempty : printArgs [] = "" := by decide
  unfold toField Field.print print
  rw [List.map_nil, hempty, String.append_empty]
  exact String.append_empty

theorem IsPlain.toField {value : InputValue} (hvalue : value.IsPlain) : value.toField.IsPlain where
  name := hvalue.name
  args := by simp [InputValue.toField]
  type := hvalue.type
  subscriptions := rfl

theorem toField_inj {value other : InputValue} (heq : value.toField = other.toField) : value = other := by
  obtain ⟨name, type⟩ := value
  obtain ⟨otherName, otherType⟩ := other
  cases heq
  rfl

end InputValue

/-! The fields of a definition behind its name. -/

section Fields

variable {fields others : List Field}

def printFields : List Field → List Char
  | [] => []
  | first :: rest =>
    ' ' :: '\x7b' :: ((first :: rest).flatMap (['\n', ' ', ' '] ++ ·.print.toList) ++ ['\n', '\x7d'])

theorem toList_joinParts_block {keyword name : String} (hkeyword : keyword ≠ "") (hname : name ≠ "")
    (hfields : ∀ field ∈ fields, field.IsPlain) :
    (joinParts " " [keyword, name, block (fields.map Field.print)]).toList
      =
    keyword.toList ++ ' ' :: (name.toList ++ printFields fields) := by
  cases fields with
  | nil =>
    have hblock : block [] = "" := by decide
    simp [joinParts, hkeyword, hname, hblock, printFields]
  | cons first rest =>
    have hblock : (block ((first :: rest).map Field.print)).toList
        = '\x7b' :: ((first :: rest).flatMap (['\n', ' ', ' '] ++ ·.print.toList) ++ ['\n', '\x7d']) := by
      rw [List.map_cons, toList_block, ← List.map_cons, List.flatMap_map]
      . rw [← List.map_cons, List.forall_mem_map]
        exact fun field _ => field.print_ne_empty
      . rw [← List.map_cons, List.forall_mem_map]
        exact fun field hfield => Field.lacks_print (hfields field hfield)
    have hnonempty : block ((first :: rest).map Field.print) ≠ "" := by
      rw [← String.toList_inj.ne, hblock]
      simp
    rw [joinParts_of_nonempty, toList_intercalate_cons, List.flatMap_cons, List.flatMap_cons, hblock,
      printFields]
    . simp
    . simp only [List.forall_mem_cons]
      exact ⟨hkeyword, hname, hnonempty, by simp⟩

theorem ends_printFields (fields : List Field) (rest : List Char) :
    Ends isNameChar (printFields fields ++ '\n' :: rest) := by
  cases fields with
  | nil => exact ends_cons (by decide) rest
  | cons field fields => exact ends_cons (by decide) _

theorem printFields_append_inj (hfields : ∀ field ∈ fields, field.IsPlain)
    (hothers : ∀ field ∈ others, field.IsPlain) {rest otherRest : List Char}
    (heq : printFields fields ++ '\n' :: rest = printFields others ++ '\n' :: otherRest) :
    fields = others ∧ rest = otherRest := by
  have hmark : ∀ rest, Ends isTypeChar (['\n', ' ', ' '] ++ rest) := fun rest => ends_cons (by decide) _
  have hclose : ∀ rest, Ends isTypeChar (['\n', '\x7d'] ++ rest) := fun rest => ends_cons (by decide) _
  cases fields with
  | nil =>
    cases others with
    | nil => exact ⟨rfl, List.tail_eq_of_cons_eq heq⟩
    | cons other others => exact absurd (List.head_eq_of_cons_eq heq) (by decide)
  | cons field fields =>
    cases others with
    | nil => exact absurd (List.head_eq_of_cons_eq heq) (by decide)
    | cons other others =>
      rw [printFields, printFields] at heq
      simp only [List.cons_append, List.append_assoc, List.cons.injEq, true_and] at heq
      obtain ⟨hsame, hrest⟩ := flatMap_append_inj hmark hclose (by simp)
        (fun field hfield other hother _ _ hfollows hotherFollows =>
          Field.print_append_inj (hfields field hfield) (hothers other hother) hfollows hotherFollows)
        heq
      exact ⟨hsame, List.tail_eq_of_cons_eq hrest⟩

end Fields

namespace Definition

theorem print_ne_empty (definition : Definition) : definition.print ≠ "" := by
  cases definition with
  | object type =>
    rw [print, ObjectType.print]
    exact joinParts_ne_empty " " (by decide) _
  | input type =>
    rw [print, InputType.print]
    exact joinParts_ne_empty " " (by decide) _
  | schema roots =>
    rw [print, RootTypes.print]
    exact joinParts_ne_empty " " (by decide) _

def IsPlain : Definition → Prop
  | .object type => IsName type.name ∧ ∀ field ∈ type.fields, field.IsPlain
  | .input type => IsName type.name ∧ ∀ value ∈ type.fields, value.IsPlain
  | .schema _ => False

theorem toList_print_object {type : ObjectType} (htype : (object type).IsPlain) :
    (object type).print.toList = "type".toList ++ ' ' :: (type.name.toList ++ printFields type.fields) :=
  toList_joinParts_block (by decide) htype.left.ne_empty htype.right

theorem toList_print_input {type : InputType} (htype : (input type).IsPlain) :
    (input type).print.toList
      =
    "input".toList ++ ' ' :: (type.name.toList ++ printFields (type.fields.map (·.toField))) := by
  have hfields : ∀ field ∈ type.fields.map (·.toField), field.IsPlain := by
    rw [List.forall_mem_map]
    exact fun value hvalue => (htype.right value hvalue).toField
  have hprint : type.fields.map InputValue.print = (type.fields.map (·.toField)).map Field.print := by
    rw [List.map_map]
    exact List.map_congr_left fun value _ => value.print_toField.symm
  rw [print, InputType.print, hprint]
  exact toList_joinParts_block (by decide) htype.left.ne_empty hfields

theorem printHead_append_inj {name other : String} {fields others : List Field} (hname : IsName name)
    (hother : IsName other) (hfields : ∀ field ∈ fields, field.IsPlain)
    (hothers : ∀ field ∈ others, field.IsPlain) {rest otherRest : List Char}
    (heq : name.toList ++ (printFields fields ++ '\n' :: rest)
      = other.toList ++ (printFields others ++ '\n' :: otherRest)) :
    name = other ∧ fields = others ∧ rest = otherRest := by
  obtain ⟨hnames, htail⟩ :=
    name_append_inj hname hother (ends_printFields fields rest) (ends_printFields others otherRest) heq
  exact ⟨hnames, printFields_append_inj hfields hothers htail⟩

theorem print_append_inj {definition other : Definition} (hdefinition : definition.IsPlain)
    (hother : other.IsPlain) {rest otherRest : List Char}
    (heq : definition.print.toList ++ '\n' :: rest = other.print.toList ++ '\n' :: otherRest) :
    definition = other ∧ rest = otherRest := by
  have htype : "type".toList = ['t', 'y', 'p', 'e'] := by decide
  have hinput : "input".toList = ['i', 'n', 'p', 'u', 't'] := by decide
  cases definition with
  | schema roots => cases hdefinition
  | object type =>
    rw [toList_print_object hdefinition, htype] at heq
    cases other with
    | schema roots => cases hother
    | input other =>
      rw [toList_print_input hother, hinput] at heq
      exact absurd (List.head_eq_of_cons_eq heq) (by decide)
    | object other =>
      rw [toList_print_object hother, htype] at heq
      simp only [List.cons_append, List.nil_append, List.append_assoc, List.cons.injEq, true_and] at heq
      obtain ⟨name, fields⟩ := type
      obtain ⟨otherName, otherFields⟩ := other
      obtain ⟨rfl, rfl, hrest⟩ :=
        printHead_append_inj hdefinition.left hother.left hdefinition.right hother.right heq
      exact ⟨rfl, hrest⟩
  | input type =>
    rw [toList_print_input hdefinition, hinput] at heq
    cases other with
    | schema roots => cases hother
    | object other =>
      rw [toList_print_object hother, htype] at heq
      exact absurd (List.head_eq_of_cons_eq heq) (by decide)
    | input other =>
      rw [toList_print_input hother, hinput] at heq
      simp only [List.cons_append, List.nil_append, List.append_assoc, List.cons.injEq, true_and] at heq
      obtain ⟨name, fields⟩ := type
      obtain ⟨otherName, otherFields⟩ := other
      obtain ⟨rfl, hfields, hrest⟩ := printHead_append_inj hdefinition.left hother.left
        (List.forall_mem_map.mpr fun value hvalue => (hdefinition.right value hvalue).toField)
        (List.forall_mem_map.mpr fun value hvalue => (hother.right value hvalue).toField) heq
      obtain rfl : fields = otherFields :=
        List.map_injective_iff.mpr (fun _ _ => InputValue.toField_inj) hfields
      exact ⟨rfl, hrest⟩

end Definition

end TableGraph
