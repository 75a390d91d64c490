import TableGraph.Fault.Shared
import TableGraph.Proofs.Fault.Call

/-!
Faults of reports that share records of details. A report writes the details of its own fault into the record that it
is given, so a record holds what all reports wrote that were given it, and every fault that refers to it shows all of
that. Faults keep apart exactly if no report has anything to write that is not in its record already.
-/

namespace TableGraph

namespace Details

variable {details entries : Details} {name : String} {value : Json}

theorem put_of_lookup_eq_some (hvalue : List.lookup name details = some value) : details.put name value = details := by
  induction details with
  | nil => cases hvalue
  | cons entry rest ih =>
    obtain ⟨first, old⟩ := entry
    rw [lookup_cons] at hvalue
    unfold put
    by_cases hfirst : first = name
    . rw [if_pos hfirst.symm] at hvalue
      rw [if_pos (beq_iff_eq.mpr hfirst), hfirst, Option.some.inj hvalue]
    . rw [if_neg (Ne.symm hfirst)] at hvalue
      rw [if_neg (by simpa using hfirst), ih hvalue]

theorem putAll_of_lookup_eq_some (hentries : ∀ entry ∈ entries, List.lookup entry.1 details = some entry.2) :
    details.putAll entries = details := by
  induction entries with
  | nil => rfl
  | cons entry entries ih =>
    rw [List.forall_mem_cons] at hentries
    rw [putAll_cons, put_of_lookup_eq_some hentries.left, ih hentries.right]

theorem lookup_putAll_of_not_mem (details : Details) (hname : name ∉ entries.map (·.1)) :
    List.lookup name (details.putAll entries) = List.lookup name details := by
  induction entries generalizing details with
  | nil => rfl
  | cons entry entries ih =>
    rw [List.map_cons, List.mem_cons, not_or] at hname
    rw [putAll_cons, ih _ hname.right, lookup_put, if_neg hname.left]

theorem lookup_putAll_of_mem (details : Details) (hnames : (entries.map (·.1)).Nodup) :
    ∀ entry ∈ entries, List.lookup entry.1 (details.putAll entries) = some entry.2 := by
  induction entries generalizing details with
  | nil => simp
  | cons entry entries ih =>
    rw [List.map_cons, List.nodup_cons] at hnames
    rw [List.forall_mem_cons, putAll_cons, lookup_putAll_of_not_mem _ hnames.left, lookup_put, if_pos rfl]
    exact ⟨rfl, ih _ hnames.right⟩

theorem putAll_eq_self_iff (hnames : (entries.map (·.1)).Nodup) :
    details.putAll entries = details ↔ ∀ entry ∈ entries, List.lookup entry.1 details = some entry.2 := by
  constructor
  . intro heq entry hentry
    have hfound := lookup_putAll_of_mem details hnames entry hentry
    rwa [heq] at hfound
  . exact putAll_of_lookup_eq_some

end Details

namespace Report

theorem names_textEntry (name : String) (value? : Option String) :
    ((textEntry name value?).map (·.1)).Sublist [name] := by
  unfold textEntry
  split
  . split
    . exact List.nil_sublist _
    . exact List.Sublist.refl _
  . exact List.nil_sublist _

theorem nodup_entries (report : Report) : (report.entries.map (·.1)).Nodup := by
  have htable := names_textEntry "table" report.table?
  have hcolumn := names_textEntry "column" report.column?
  have hoperation := names_textEntry "operation" report.operation?
  have hdatabase := names_textEntry "database" report.database?
  have hkeys : ((report.keyColumns?.map fun names => ("primary_keys", Json.list (names.map .text))).toList.map
      (·.1)).Sublist ["primary_keys"] := by
    cases report.keyColumns? with
    | none => exact List.nil_sublist _
    | some names => exact List.Sublist.refl _
  unfold entries
  cases report.kind with
  | general => exact List.nodup_nil
  | schema =>
    rw [List.map_append]
    exact (show ["table", "column"].Nodup by decide).sublist (htable.append hcolumn)
  | primaryKey =>
    rw [List.map_append, List.map_append]
    exact (show ["primary_keys", "table", "column"].Nodup by decide).sublist ((hkeys.append htable).append hcolumn)
  | introspection =>
    rw [List.map_append, List.map_append]
    exact (show ["operation", "table", "database"].Nodup by decide).sublist
      ((hoperation.append htable).append hdatabase)
  | template =>
    rw [List.map_append]
    exact (show ["table", "operation"].Nodup by decide).sublist (htable.append hoperation)

end Report

namespace SharedDetails

variable {records : SharedDetails} {name : String}

def names (records : SharedDetails) : List String :=
  records.map (·.1)

theorem names_set (records : SharedDetails) (name : String) (details : Details) :
    (records.set name details).names = records.names := by
  unfold names set
  rw [List.map_map]
  rfl

theorem get_set_self (hname : name ∈ records.names) (details : Details) :
    (records.set name details).get name = details := by
  induction records with
  | nil => cases hname
  | cons record records ih =>
    obtain ⟨first, old⟩ := record
    unfold get set names at *
    rw [List.map_cons, List.lookup_cons]
    rw [List.map_cons, List.mem_cons] at hname
    by_cases hfirst : name = first
    . rw [beq_iff_eq.mpr hfirst, if_pos (beq_iff_eq.mpr hfirst.symm)]
      rfl
    . rw [beq_eq_false_iff_ne.mpr hfirst]
      exact ih (hname.resolve_left hfirst)

theorem get_set_of_ne {other : String} (hother : other ≠ name) (records : SharedDetails) (details : Details) :
    (records.set name details).get other = records.get other := by
  induction records with
  | nil => rfl
  | cons record records ih =>
    obtain ⟨first, old⟩ := record
    unfold get set at *
    rw [List.map_cons, List.lookup_cons, List.lookup_cons]
    by_cases hfirst : other = first
    . rw [beq_iff_eq.mpr hfirst, if_neg (by simpa using hfirst ▸ hother)]
    . rw [beq_eq_false_iff_ne.mpr hfirst]
      exact ih

end SharedDetails

theorem Report.detailsIn_faultSharing (report : Report) (name : String) (records later : SharedDetails) :
    (report.faultSharing name records).1.detailsIn later
      =
    if (records.get name).putAll report.entries = [] then [] else later.get name := by
  unfold Report.faultSharing
  dsimp only
  generalize (records.get name).putAll report.entries = details
  cases details with
  | nil => rfl
  | cons entry rest => rfl

structure SharingReport where
  report : Report
  record? : Option String := none

namespace SharingReport

def given (sharing : SharingReport) (records : SharedDetails) : Details :=
  match sharing.record? with
  | some name => records.get name
  | none => sharing.report.details

def fault (sharing : SharingReport) (records : SharedDetails) : SharingFault × SharedDetails :=
  match sharing.record? with
  | some name => sharing.report.faultSharing name records
  | none => (⟨sharing.report.fault, none⟩, records)

def faults : List SharingReport → SharedDetails → List SharingFault × SharedDetails
  | [], records => ([], records)
  | sharing :: reports, records =>
    let (fault, changed) := sharing.fault records
    let (later, final) := faults reports changed
    (fault :: later, final)

def shown? (reports : List SharingReport) (records : SharedDetails) (place : Nat) : Option Details :=
  (faults reports records).1[place]?.map (·.detailsIn (faults reports records).2)

def written (name : String) (reports : List SharingReport) : Details :=
  reports.flatMap fun sharing => if sharing.record? = some name then sharing.report.entries else []

def HasRecord (records : SharedDetails) (sharing : SharingReport) : Prop :=
  ∀ name, sharing.record? = some name → name ∈ records.names

variable {sharing : SharingReport} {reports before after : List SharingReport} {records : SharedDetails}

theorem names_fault (sharing : SharingReport) (records : SharedDetails) :
    (sharing.fault records).2.names = records.names := by
  unfold fault
  split
  . exact SharedDetails.names_set ..
  . rfl

theorem faults_append (before after : List SharingReport) (records : SharedDetails) :
    faults (before ++ after) records
      =
    ((faults before records).1 ++ (faults after (faults before records).2).1,
      (faults after (faults before records).2).2) := by
  induction before generalizing records with
  | nil => rfl
  | cons sharing before ih =>
    rw [List.cons_append, faults]
    dsimp only
    rw [ih]
    rfl

theorem length_faults (reports : List SharingReport) (records : SharedDetails) :
    (faults reports records).1.length = reports.length := by
  induction reports generalizing records with
  | nil => rfl
  | cons sharing reports ih =>
    rw [faults, List.length_cons, List.length_cons, ih]

theorem written_of_shared {name : String} (hname : sharing.record? = some name) :
    written name [sharing] = sharing.report.entries := by
  unfold written
  rw [List.flatMap_singleton, if_pos hname]

theorem written_append (name : String) (before after : List SharingReport) :
    written name (before ++ after) = written name before ++ written name after :=
  List.flatMap_append

theorem get_fault (hrecord : HasRecord records sharing) (name : String) :
    (sharing.fault records).2.get name = (records.get name).putAll (written name [sharing]) := by
  unfold written
  rw [List.flatMap_singleton]
  unfold fault
  cases hname : sharing.record? with
  | none => rfl
  | some own =>
    change (records.set own _).get name = _
    by_cases hown : own = name
    . rw [if_pos (congrArg some hown), ← hown, SharedDetails.get_set_self (hrecord own hname)]
    . rw [if_neg (fun heq => hown (Option.some.inj heq)), SharedDetails.get_set_of_ne (Ne.symm hown)]
      rfl

theorem get_faults (hrecords : ∀ sharing ∈ reports, HasRecord records sharing) (name : String) :
    (faults reports records).2.get name = (records.get name).putAll (written name reports) := by
  induction reports generalizing records with
  | nil => rfl
  | cons sharing reports ih =>
    rw [List.forall_mem_cons] at hrecords
    have hlater : ∀ later ∈ reports, HasRecord (sharing.fault records).2 later := by
      intro later hlater own hown
      rw [names_fault]
      exact hrecords.right later hlater own hown
    change (faults reports (sharing.fault records).2).2.get name = _
    rw [ih hlater, get_fault hrecords.left, ← Details.putAll_append, ← written_append]
    rfl

theorem getElem?_faults (before after : List SharingReport) (sharing : SharingReport) (records : SharedDetails) :
    (faults (before ++ sharing :: after) records).1[before.length]?
      =
    some (sharing.fault (faults before records).2).1 := by
  rw [faults_append]
  dsimp only
  rw [List.getElem?_append_right (Nat.le_of_eq (length_faults before records)), length_faults, Nat.sub_self]
  rfl

theorem shown?_append (before after : List SharingReport) (sharing : SharingReport) (records : SharedDetails) :
    shown? (before ++ sharing :: after) records before.length
      =
    some ((sharing.fault (faults before records).2).1.detailsIn (faults (before ++ sharing :: after) records).2) := by
  unfold shown?
  rw [getElem?_faults]
  rfl

theorem shown?_of_own (hown : sharing.record? = none) :
    shown? (before ++ sharing :: after) records before.length
      =
    some (sharing.report.details.putAll sharing.report.entries) := by
  rw [shown?_append]
  unfold fault
  rw [hown]
  rfl

theorem shown?_of_shared {name : String} (hname : sharing.record? = some name)
    (hrecords : ∀ other ∈ before ++ sharing :: after, HasRecord records other) :
    shown? (before ++ sharing :: after) records before.length
      =
    some (if (records.get name).putAll (written name (before ++ [sharing])) = [] then []
      else (records.get name).putAll (written name (before ++ sharing :: after))) := by
  have hbefore : ∀ other ∈ before, HasRecord records other :=
    fun other hother => hrecords other (List.mem_append_left _ hother)
  rw [shown?_append, ← get_faults hrecords, written_append, Details.putAll_append, ← get_faults hbefore,
    written_of_shared hname]
  unfold fault
  rw [hname]
  exact congrArg some (Report.detailsIn_faultSharing ..)

/-- The faults keep apart, and the records are left as they are: at any time a fault shows the details that its report
was given, with those that follow from what it concerns. -/
structure KeepApart (reports : List SharingReport) (records : SharedDetails) : Prop where
  kept : ∀ made, made <+: reports → ∀ name, (faults made records).2.get name = records.get name
  shown : ∀ before sharing after, before ++ sharing :: after <+: reports →
    shown? (before ++ sharing :: after) records before.length
      =
    some ((sharing.given records).putAll sharing.report.entries)

/-- All that follows from what a report concerns is in the record that it is given. -/
def AddsNothing (records : SharedDetails) (sharing : SharingReport) : Prop :=
  ∀ name, sharing.record? = some name →
    ∀ entry ∈ sharing.report.entries, List.lookup entry.1 (records.get name) = some entry.2

theorem putAll_written_of_addsNothing (hnothing : ∀ sharing ∈ reports, AddsNothing records sharing) (name : String) :
    (records.get name).putAll (written name reports) = records.get name := by
  apply Details.putAll_of_lookup_eq_some
  unfold written
  intro entry hentry
  obtain ⟨sharing, hsharing, hwritten⟩ := List.mem_flatMap.mp hentry
  split at hwritten
  . next hname => exact hnothing sharing hsharing name hname entry hwritten
  . cases hwritten

theorem keepApart_iff (hrecords : ∀ sharing ∈ reports, HasRecord records sharing) :
    KeepApart reports records ↔ ∀ sharing ∈ reports, AddsNothing records sharing := by
  constructor
  . intro hapart sharing hsharing name hname
    obtain ⟨before, after, rfl⟩ := List.append_of_mem hsharing
    have hstart : before ++ [sharing] <+: before ++ sharing :: after :=
      (List.prefix_append_right_inj before).mpr ⟨after, rfl⟩
    have hhas : ∀ other ∈ before ++ [sharing], HasRecord records other :=
      fun other hother => hrecords other (hstart.subset hother)
    -- what the record holds in front of the report and behind it is the same
    have hbefore := hapart.kept before (List.prefix_append ..) name
    have hbehind := hapart.kept (before ++ [sharing]) hstart name
    rw [get_faults hhas, written_append, Details.putAll_append, written_of_shared hname,
      ← get_faults fun other hother => hhas other (List.mem_append_left _ hother), hbefore] at hbehind
    exact (Details.putAll_eq_self_iff sharing.report.nodup_entries).mp hbehind
  . intro hnothing
    have hkept {made : List SharingReport} (hmade : made <+: reports) (name : String) :
        (records.get name).putAll (written name made) = records.get name :=
      putAll_written_of_addsNothing (fun other hother => hnothing other (hmade.subset hother)) name
    constructor
    . intro made hmade name
      rw [get_faults fun other hother => hrecords other (hmade.subset hother), hkept hmade]
    . intro before sharing after hmade
      have hmem : sharing ∈ reports := hmade.subset (by simp)
      have hstart : before ++ [sharing] <+: before ++ sharing :: after :=
        (List.prefix_append_right_inj before).mpr ⟨after, rfl⟩
      unfold given
      cases hname : sharing.record? with
      | none => exact shown?_of_own hname
      | some name =>
        dsimp only
        rw [shown?_of_shared hname fun other hother => hrecords other (hmade.subset hother), hkept hmade,
          hkept (hstart.trans hmade), Details.putAll_of_lookup_eq_some (hnothing sharing hmem name hname)]
        split
        . next hempty => rw [hempty]
        . rfl

/--
What faults show that may share records. A fault that was given no record shows its own details. One that was given
a record shows what the record held at first and all that was written into it since, by reports before and behind its
own, unless there was nothing in it when the fault was made; then it shows nothing. A record holds the same in the end.
So faults keep apart, and their records stay as they are, exactly if no report has anything to write that is not
in its record.
-/
theorem shown?_faults (reports : List SharingReport) (records : SharedDetails)
    (hrecords : ∀ sharing ∈ reports, HasRecord records sharing) :
    (∀ name, (faults reports records).2.get name = (records.get name).putAll (written name reports)) ∧
    (∀ before sharing after, reports = before ++ sharing :: after →
      shown? reports records before.length
        =
      some (match sharing.record? with
        | none => sharing.report.details.putAll sharing.report.entries
        | some name =>
          if (records.get name).putAll (written name (before ++ [sharing])) = [] then []
          else (records.get name).putAll (written name reports))) ∧
    (KeepApart reports records ↔ ∀ sharing ∈ reports, AddsNothing records sharing) := by
  refine ⟨get_faults hrecords, ?_, keepApart_iff hrecords⟩
  rintro before sharing after rfl
  cases hname : sharing.record? with
  | none => exact shown?_of_own hname
  | some name => exact shown?_of_shared hname hrecords

def twoTables : List SharingReport := [
  ⟨{ kind := .schema, message := "no such type", table? := some "author", column? := some "born" }, some "run"⟩,
  ⟨{ kind := .schema, message := "no columns", table? := some "book" }, some "run"⟩]

def runRecord : SharedDetails :=
  [("run", [("file", .text "shop.sql")])]

theorem shown?_faults_twoTables :
    (∀ sharing ∈ twoTables, HasRecord runRecord sharing) ∧
    shown? twoTables runRecord 0
      =
    some [("file", .text "shop.sql"), ("table", .text "book"), ("column", .text "born")] := by
  have hrecords : ∀ sharing ∈ twoTables, HasRecord runRecord sharing := by
    unfold twoTables HasRecord
    simp [runRecord, SharedDetails.names]
  obtain ⟨-, hshown, -⟩ := shown?_faults twoTables runRecord hrecords
  exact ⟨hrecords, hshown [] _ _ rfl⟩

/-- The second fault shows the column of the first one, and the record has what neither of them was given. -/
theorem not_keepApart_twoTables :
    shown? twoTables runRecord 1
      =
    some [("file", .text "shop.sql"), ("table", .text "book"), ("column", .text "born")] ∧
    (faults twoTables runRecord).2.get "run"
      =
    [("file", .text "shop.sql"), ("table", .text "book"), ("column", .text "born")] ∧
    ¬KeepApart twoTables runRecord := by
  refine ⟨rfl, rfl, ?_⟩
  intro hapart
  have hkept := congrArg List.length (hapart.kept twoTables List.prefix_rfl "run")
  cases hkept

end SharingReport

end TableGraph
