import TableGraph.Proofs.Name
import TableGraph.Proofs.Text.Ascii
import TableGraph.Proofs.Text.Runs
import TableGraph.TypeSystem.Basic

/-!
When a document is a type system: it has no violations exactly if its type names are distinct and none is
a scalar of the service, the fields of each definition are distinct, and every type that is referred to is
known. A document all of whose names are GraphQL names has no other fault.
-/

namespace TableGraph

theorem Text.lowerAfter_of_ascii {cs : List Char} (hascii : ∀ c ∈ cs, c.toNat < 0x80) (inWord : Bool) :
    lowerAfter inWord cs = cs.map Char.toLower := by
  induction cs generalizing inWord with
  | nil => rfl
  | cons c cs ih =>
    have hc : c.toNat < 0x80 := hascii c List.mem_cons_self
    have hsigma : c ≠ 'Σ' := by
      rintro rfl
      exact absurd hc (by decide)
    unfold lowerAfter
    dsimp only
    rw [ih fun d hd => hascii d (List.mem_cons_of_mem c hd), if_neg (by simp [hsigma]), lowerChar, if_pos hc]
    rfl

theorem IsName.isAscii {name : String} (hname : IsName name) : IsAscii name := by
  intro c hc
  have hhigh := (toNat_of_isNameChar (hname.isNameChar hc)).right
  omega

theorem isMeasurable_of_isAscii {name : String} (hname : IsAscii name) (candidate : String) :
    isMeasurable name candidate = true := by
  have hlength : (Text.lower name.toList).length = name.length := by
    unfold Text.lower
    rw [Text.lowerAfter_of_ascii hname, List.length_map]
    rfl
  unfold isMeasurable
  dsimp only
  rw [hlength, decide_eq_true (Nat.min_le_left _ _), Bool.or_true]

theorem mem_of_mem_near {name : String} {candidates : List String} {entry : Nat × String}
    (hentry : entry ∈ near name candidates) : entry.2 ∈ candidates := by
  obtain ⟨candidate, hcandidate, heq⟩ := List.mem_filterMap.mp hentry
  dsimp only at heq
  split at heq
  . cases heq
    exact List.mem_eraseDups.mp hcandidate
  . cases heq

theorem suggestionProblem?_of_isAscii {name : String} (hname : IsAscii name) {candidates : List String}
    {problem : SuggestionProblem} (hproblem : suggestionProblem? name candidates = some problem) :
    ∃ candidate ∈ candidates, ∃ digits,
      Text.overlongRun? candidate = some digits ∧ problem = .overlongRun digits := by
  have hmeasurable : candidates.all (isMeasurable name) = true :=
    List.all_eq_true.mpr fun candidate _ => isMeasurable_of_isAscii hname candidate
  rw [suggestionProblem?, if_pos hmeasurable] at hproblem
  obtain ⟨digits, hdigits, rfl⟩ := Option.map_eq_some_iff.mp hproblem
  obtain ⟨entry, hentry, hlong⟩ := List.exists_of_findSome?_eq_some hdigits
  exact ⟨entry.2, mem_of_mem_near hentry, digits, hlong, rfl⟩

theorem mem_near {name candidate : String} {candidates : List String} (hcandidate : candidate ∈ candidates)
    (hlower : Text.lower name.toList = Text.lower candidate.toList) :
    (nameDistance name candidate, candidate) ∈ near name candidates := by
  have hnear : nameDistance name candidate ≤ suggestionBound name := by
    have hdistance : nameDistance name candidate ≤ 1 := by
      unfold nameDistance
      simp only [hlower, beq_self_eq_true, if_true]
      split
      . exact Nat.zero_le 1
      . exact Nat.le_refl 1
    unfold suggestionBound
    omega
  refine List.mem_filterMap.mpr ⟨candidate, List.mem_eraseDups.mpr hcandidate, ?_⟩
  rw [if_pos hnear]

theorem suggestionProblem?_ne_none {name candidate : String} {candidates : List String}
    (hcandidate : candidate ∈ candidates) (hlower : Text.lower name.toList = Text.lower candidate.toList)
    (hlong : ¬Text.HasShortRuns candidate.toList) : suggestionProblem? name candidates ≠ none := by
  unfold suggestionProblem?
  split
  . intro hnone
    rw [Option.map_eq_none_iff, List.findSome?_eq_none_iff] at hnone
    exact hlong (Text.overlongRun?_eq_none_iff.mp (hnone _ (mem_near hcandidate hlower)))
  . exact Option.some_ne_none _

theorem nameRefusal?_of_isName {name : String} (hname : IsName name) : nameRefusal? name = none := by
  unfold IsName at hname
  unfold nameRefusal?
  cases hchars : name.toList with
  | nil =>
    rw [hchars] at hname
    simp [isName] at hname
  | cons first rest =>
    rw [hchars, isName, Bool.and_eq_true] at hname
    simp [hname.left, hname.right]

namespace Definition

def names : Definition → List String
  | .object type => type.name :: type.fields.flatMap fun field => field.name :: field.args.map (·.name)
  | .input type => type.name :: type.fields.map (·.name)
  | .schema _ => []

theorem forall_mem_names_object {type : ObjectType} {p : String → Prop} :
    (∀ name ∈ (object type).names, p name)
      ↔
    p type.name ∧ ∀ field ∈ type.fields, p field.name ∧ ∀ arg ∈ field.args, p arg.name := by
  unfold names
  simp only [List.forall_mem_cons, List.forall_mem_flatMap, List.forall_mem_map]

theorem forall_mem_names_input {type : InputType} {p : String → Prop} :
    (∀ name ∈ (input type).names, p name) ↔ p type.name ∧ ∀ field ∈ type.fields, p field.name := by
  unfold names
  rw [List.forall_mem_cons, List.forall_mem_map]

theorem nameRefusals_eq_nil {definition : Definition} (hnames : ∀ name ∈ definition.names, IsName name) :
    definition.nameRefusals = [] := by
  cases definition with
  | schema => rfl
  | input type =>
    unfold nameRefusals
    rw [List.filterMap_eq_nil_iff]
    intro field hfield
    apply nameRefusal?_of_isName
    exact (forall_mem_names_input.mp hnames).right field hfield
  | object type =>
    have hfields := (forall_mem_names_object.mp hnames).right
    unfold nameRefusals
    rw [List.append_eq_nil_iff, List.filterMap_eq_nil_iff, List.filterMap_eq_nil_iff]
    refine ⟨?_, ?_⟩
    . intro arg harg
      obtain ⟨field, hfield, harg⟩ := List.mem_flatMap.mp harg
      rw [nameRefusal?_of_isName ((hfields field hfield).right arg harg), Option.map_none]
    . intro field hfield
      apply nameRefusal?_of_isName
      exact (hfields field hfield).left

theorem name?_mem_names {definition : Definition} {name : String} (hname : definition.name? = some name) :
    name ∈ definition.names := by
  cases definition with
  | schema => cases hname
  | input type =>
    cases hname
    exact List.mem_cons_self
  | object type =>
    cases hname
    exact List.mem_cons_self

end Definition

namespace Document

theorem repeats_eq_nil_iff (seen names : List String) :
    repeats seen names = [] ↔ names.Nodup ∧ ∀ name ∈ names, name ∉ seen := by
  induction names generalizing seen with
  | nil => simp [repeats]
  | cons name names ih =>
    unfold repeats
    split
    . next hseen =>
      have hmem : name ∈ seen := by simpa using hseen
      simp [hmem]
    . next hseen =>
      have hmem : name ∉ seen := by simpa using hseen
      rw [ih, List.nodup_cons]
      constructor
      . rintro ⟨hnodup, hfresh⟩
        refine ⟨⟨fun h => hfresh name h List.mem_cons_self, hnodup⟩, ?_⟩
        intro other hother
        rcases List.mem_cons.mp hother with rfl | hother
        . exact hmem
        . exact fun h => hfresh other hother (List.mem_cons_of_mem name h)
      . rintro ⟨⟨hname, hnodup⟩, hfresh⟩
        refine ⟨hnodup, ?_⟩
        intro other hother h
        rcases List.mem_cons.mp h with rfl | h
        . exact hname hother
        . exact hfresh other (List.mem_cons_of_mem name hother) h

theorem fieldsOf_eq_nil {document : Document} {name : String} (hname : name ∉ document.typeNames) :
    document.fieldsOf name = [] := by
  unfold fieldsOf
  rw [List.flatMap_eq_nil_iff]
  intro definition hmem
  rw [List.mem_filter, beq_iff_eq] at hmem
  exact absurd (List.mem_filterMap.mpr ⟨definition, hmem.left, hmem.right⟩) hname

/-- What is asked of a definition behind others. -/
structure Fits (before : Document) (known : List String) (definition : Definition) : Prop where
  fresh : ∀ name, definition.name? = some name → name ∉ Scalar.serviceNames ++ before.typeNames
  fields : definition.fieldNames.Nodup
  references : ∀ name ∈ definition.references, name ∈ known

theorem violationsOf_eq_nil_iff (before : Document) (known : List String) (definition : Definition) :
    violationsOf before known definition = [] ↔ Fits before known definition := by
  have hunknown : ((definition.references.filter (!known.contains ·)).map fun name =>
      Violation.unknownType name (suggestions name known)) = []
        ↔
      ∀ name ∈ definition.references, name ∈ known := by
    simp
  unfold violationsOf
  dsimp only
  rw [List.append_eq_nil_iff, List.append_eq_nil_iff, hunknown]
  cases hname : definition.name? with
  | none =>
    -- only a schema has no name, and it has no fields either
    have hfields : definition.fieldNames = [] := by
      cases definition with
      | object => simp [Definition.name?] at hname
      | input => simp [Definition.name?] at hname
      | schema => rfl
    constructor
    . rintro ⟨-, hreferences⟩
      exact ⟨by simp [hname], by simp [hfields], hreferences⟩
    . intro hfits
      exact ⟨⟨rfl, rfl⟩, hfits.references⟩
  | some name =>
    dsimp only
    by_cases hmem : name ∈ Scalar.serviceNames ++ before.typeNames
    . have hcontains : (Scalar.serviceNames ++ before.typeNames).contains name = true := by
        simpa using hmem
      rw [if_pos hcontains]
      constructor
      . rintro ⟨⟨htypes, -⟩, -⟩
        simp at htypes
      . intro hfits
        exact absurd hmem (hfits.fresh name hname)
    . -- no type of that name is there yet, so neither are fields of it
      have hcontains : ¬(Scalar.serviceNames ++ before.typeNames).contains name = true := by
        simpa using hmem
      have hbefore : before.fieldsOf name = [] :=
        fieldsOf_eq_nil fun h => hmem (List.mem_append_right _ h)
      rw [if_neg hcontains, hbefore, List.map_eq_nil_iff, repeats_eq_nil_iff]
      constructor
      . rintro ⟨⟨-, hnodup, -⟩, hreferences⟩
        refine ⟨?_, hnodup, hreferences⟩
        intro other hother
        obtain rfl : name = other := by simpa [hname] using hother
        exact hmem
      . intro hfits
        exact ⟨⟨rfl, hfits.fields, by simp⟩, hfits.references⟩

theorem typeNames_append (document other : Document) :
    typeNames (document ++ other) = document.typeNames ++ other.typeNames := by
  apply List.filterMap_append

theorem typeNames_cons (definition : Definition) (document : Document) :
    typeNames (definition :: document) = definition.name?.toList ++ document.typeNames := by
  unfold typeNames
  rw [List.filterMap_cons]
  cases definition.name? with
  | none => rfl
  | some name => rfl

theorem fresh_cons_iff (name? : Option String) (taken before names : List String) :
    ((∀ name, name? = some name → name ∉ taken ++ before) ∧
      names.Nodup ∧ ∀ name ∈ names, name ∉ taken ++ (before ++ name?.toList))
      ↔
    (name?.toList ++ names).Nodup ∧ ∀ name ∈ name?.toList ++ names, name ∉ taken ++ before := by
  cases name? with
  | none => simp
  | some first =>
    simp only [Option.toList_some, List.singleton_append, List.nodup_cons, List.forall_mem_cons,
      ← List.append_assoc, List.mem_append, List.mem_singleton, Option.some.injEq, forall_eq']
    constructor
    . rintro ⟨hfirst, hnodup, hnames⟩
      refine ⟨⟨fun h => hnames first h (.inr rfl), hnodup⟩, hfirst, ?_⟩
      intro name hname h
      exact hnames name hname (.inl h)
    . rintro ⟨⟨hmem, hnodup⟩, hfirst, hnames⟩
      refine ⟨hfirst, hnodup, ?_⟩
      rintro name hname (h | rfl)
      . exact hnames name hname h
      . exact hmem hname

theorem violationsFrom_eq_nil_iff (before : Document) (known : List String) (document : Document) :
    violationsFrom before known document = []
      ↔
    (document.typeNames.Nodup ∧
      ∀ name ∈ document.typeNames, name ∉ Scalar.serviceNames ++ before.typeNames) ∧
    (∀ definition ∈ document, definition.fieldNames.Nodup) ∧
    ∀ definition ∈ document, ∀ name ∈ definition.references, name ∈ known := by
  induction document generalizing before with
  | nil => simp [violationsFrom, typeNames]
  | cons definition document ih =>
    have hbefore : typeNames (before ++ [definition]) = before.typeNames ++ definition.name?.toList := by
      rw [typeNames_append, typeNames_cons]
      simp [typeNames]
    unfold violationsFrom
    rw [List.append_eq_nil_iff, violationsOf_eq_nil_iff, ih, hbefore, typeNames_cons,
      ← fresh_cons_iff, List.forall_mem_cons, List.forall_mem_cons]
    constructor
    . rintro ⟨hfits, htypes, hfields, hreferences⟩
      exact ⟨⟨hfits.fresh, htypes⟩, ⟨hfits.fields, hfields⟩, hfits.references, hreferences⟩
    . rintro ⟨⟨hfresh, htypes⟩, ⟨hfirst, hfields⟩, hknown, hreferences⟩
      exact ⟨⟨hfresh, hfirst, hknown⟩, htypes, hfields, hreferences⟩

/-- The names of types are told apart, none is declared by the service, the fields of each definition are
told apart, and all types that are referred to are known. -/
theorem violations_eq_nil_iff (document : Document) :
    document.violations = []
      ↔
    (document.typeNames.Nodup ∧ ∀ name ∈ document.typeNames, name ∉ Scalar.serviceNames) ∧
    (∀ definition ∈ document, definition.fieldNames.Nodup) ∧
    ∀ definition ∈ document, ∀ name ∈ definition.references, name ∈ document.knownNames := by
  unfold violations
  rw [violationsFrom_eq_nil_iff]
  simp only [typeNames, List.filterMap_nil, List.append_nil]

theorem failure?_eq_some {document : Document} {failure : Failure}
    (hfailure : document.failure? = some failure) :
    (∃ fault, failure = .fault fault ∧ fault.kind = .schema) ∨
    ∃ problem, document.suggestionProblem? = some problem ∧ failure = problem.failure := by
  unfold failure? at hfailure
  split at hfailure
  . next problem hproblem => exact .inr ⟨problem, hproblem, (Option.some.inj hfailure).symm⟩
  . left
    obtain ⟨fault, hfault, rfl⟩ := Option.map_eq_some_iff.mp hfailure
    obtain ⟨refusal, -, rfl⟩ := Option.map_eq_some_iff.mp hfault
    exact ⟨_, rfl, rfl⟩

theorem violations_eq_nil_of_failure? {document : Document} (hfailure : document.failure? = none) :
    document.violations = [] := by
  unfold failure? at hfailure
  split at hfailure
  . cases hfailure
  . rw [Option.map_eq_none_iff] at hfailure
    unfold fault? at hfailure
    rw [Option.map_eq_none_iff] at hfailure
    unfold refusal? at hfailure
    split at hfailure
    . next hviolations => exact hviolations
    . cases hfailure

theorem suggestionProblem?_of_violations {document : Document} (hviolations : document.violations = []) :
    document.suggestionProblem? = none := by
  have hknown := ((violations_eq_nil_iff document).mp hviolations).right.right
  have hnone : document.unknownNames = [] := by
    unfold unknownNames
    rw [List.filter_eq_nil_iff]
    intro name hname
    obtain ⟨definition, hmem, hname⟩ := List.mem_flatMap.mp hname
    simp [hknown definition hmem name hname]
  rw [suggestionProblem?, hnone]
  rfl

theorem suggestionProblem?_of_references {document : Document}
    (hreferences : ∀ definition ∈ document, ∀ name ∈ definition.references, IsAscii name)
    {problem : SuggestionProblem} (hproblem : document.suggestionProblem? = some problem) :
    ∃ name ∈ document.knownNames, ∃ digits,
      Text.overlongRun? name = some digits ∧ problem = .overlongRun digits := by
  obtain ⟨name, hname, hproblem⟩ := List.exists_of_findSome?_eq_some hproblem
  obtain ⟨definition, hmem, hname⟩ := List.mem_flatMap.mp (List.mem_of_mem_filter hname)
  exact suggestionProblem?_of_isAscii (hreferences definition hmem name hname) hproblem

/-- An unknown name cannot be looked up if it differs in its case only from a known one with too many digits. -/
theorem suggestionProblem?_of_overlong {document : Document} {definition : Definition} (hmem : definition ∈ document)
    {name known : String} (hname : name ∈ definition.references) (hunknown : name ∉ document.knownNames)
    (hknown : known ∈ document.knownNames) (hlower : Text.lower name.toList = Text.lower known.toList)
    (hlong : ¬Text.HasShortRuns known.toList) : document.suggestionProblem? ≠ none := by
  intro hnone
  refine suggestionProblem?_ne_none hknown hlower hlong (List.findSome?_eq_none_iff.mp hnone name ?_)
  exact List.mem_filter.mpr ⟨List.mem_flatMap.mpr ⟨definition, hmem, hname⟩, by simpa using hunknown⟩

theorem suggestionProblem?_of_hasShortRuns {document : Document}
    (hreferences : ∀ definition ∈ document, ∀ name ∈ definition.references, IsAscii name)
    (hknown : ∀ name ∈ document.knownNames, Text.HasShortRuns name.toList) :
    document.suggestionProblem? = none := by
  rw [Option.eq_none_iff_forall_ne_some]
  intro problem hproblem
  obtain ⟨name, hname, digits, hdigits, -⟩ := suggestionProblem?_of_references hreferences hproblem
  rw [Text.overlongRun?_eq_none_iff.mpr (hknown name hname)] at hdigits
  cases hdigits

theorem failure?_of_suggestionProblem? {document : Document}
    (hreferences : ∀ definition ∈ document, ∀ name ∈ definition.references, IsAscii name)
    {problem : SuggestionProblem} (hproblem : document.suggestionProblem? = some problem) :
    ∃ digits, Text.maxDigits < digits ∧ problem = .overlongRun digits ∧
      document.failure? = some (.overlong (some digits)) := by
  obtain ⟨name, -, digits, hdigits, rfl⟩ := suggestionProblem?_of_references hreferences hproblem
  refine ⟨digits, Text.lt_of_overlongRun? hdigits, rfl, ?_⟩
  rw [failure?, hproblem]
  rfl

theorem failure?_of_names {document : Document}
    (hnames : ∀ definition ∈ document, ∀ name ∈ definition.names, IsName name) :
    (document.violations = [] → document.failure? = none) ∧
    (document.violations ≠ [] → document.suggestionProblem? = none →
      ∃ fault, document.failure? = some (.fault fault) ∧ fault.kind = .schema) := by
  have hnone : document.nameRefusals = [] := by
    unfold nameRefusals
    rw [List.append_eq_nil_iff, List.filterMap_eq_nil_iff, List.flatMap_eq_nil_iff]
    refine ⟨?_, ?_⟩
    . intro name hname
      obtain ⟨definition, hmem, hname⟩ := List.mem_filterMap.mp hname
      apply nameRefusal?_of_isName
      exact hnames definition (List.mem_of_mem_filter hmem) name (Definition.name?_mem_names hname)
    . intro definition hmem
      exact Definition.nameRefusals_eq_nil (hnames definition (List.mem_of_mem_filter hmem))
  refine ⟨?_, ?_⟩
  . intro hviolations
    unfold failure? fault? refusal?
    rw [suggestionProblem?_of_violations hviolations, hviolations, hnone]
    rfl
  . intro hviolations hproblem
    unfold failure? fault? refusal?
    rw [hproblem]
    dsimp only
    split
    . next heq => exact absurd heq hviolations
    . exact ⟨_, rfl, rfl⟩

end Document
end TableGraph
