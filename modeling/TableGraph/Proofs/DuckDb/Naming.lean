import Mathlib.Data.List.TakeDrop
import Mathlib.Data.List.TakeWhile
import TableGraph.DuckDb.Catalog

/-!
What the name of a file tells of the name of its database. The stem of a file's name ends at its last point, the name
of the database at its first one, and a reserved name gets an ending. The two are the same for a name of one part that
is not reserved, alone or with one ending behind it, and for no other.
-/

namespace TableGraph
namespace FilePath

open DuckDb

variable {path : FilePath} {cs base ending : List Char}

theorem ne_point_of_not_mem (hcs : '.' ∉ cs) : ∀ c ∈ cs, (c != '.') = true := by
  intro c hc
  rw [bne_iff_ne]
  rintro rfl
  exact hcs hc

theorem not_mem_takeWhile_point (cs : List Char) : '.' ∉ cs.takeWhile (· != '.') :=
  fun hmem => absurd (List.mem_takeWhile_imp hmem) (by decide)

theorem takeWhile_append_point (hcs : '.' ∉ cs) (rest : List Char) :
    (cs ++ '.' :: rest).takeWhile (· != '.') = cs := by
  rw [List.takeWhile_append_of_pos (ne_point_of_not_mem hcs), List.takeWhile_cons, if_neg (by decide), List.append_nil]

theorem exists_last_point (hcs : '.' ∈ cs) : ∃ base ending, cs = base ++ '.' :: ending ∧ '.' ∉ ending := by
  obtain ⟨before, after, heq, hbefore⟩ := List.eq_append_cons_of_mem (List.mem_reverse.mpr hcs)
  refine ⟨after.reverse, before.reverse, ?_, fun hmem => hbefore (List.mem_reverse.mp hmem)⟩
  rw [← List.reverse_reverse cs, heq, List.reverse_append, List.reverse_cons, List.append_assoc, List.singleton_append]

theorem stem_of_no_points (hname : '.' ∉ path.name.toList) : path.stem = path.name := by
  have hspan : path.name.toList.reverse.span (· != '.') = (path.name.toList.reverse, []) := by
    have hall := ne_point_of_not_mem (mt List.mem_reverse.mp hname)
    rw [List.span_eq_takeWhile_dropWhile, List.takeWhile_eq_self_iff.mpr hall, List.dropWhile_eq_nil_iff.mpr hall]
  unfold stem
  dsimp only
  rw [hspan]

theorem stem_of_last_point (hname : path.name.toList = base ++ '.' :: ending) (hending : '.' ∉ ending) :
    path.stem = if ending = [] ∨ base = [] then path.name else String.ofList base := by
  have hspan : path.name.toList.reverse.span (· != '.') = (ending.reverse, '.' :: base.reverse) := by
    have hall := ne_point_of_not_mem (mt List.mem_reverse.mp hending)
    rw [hname, List.reverse_append, List.reverse_cons, List.append_assoc, List.singleton_append,
      List.span_eq_takeWhile_dropWhile, List.takeWhile_append_of_pos hall, List.dropWhile_append_of_pos hall]
    simp
  unfold stem
  dsimp only
  rw [hspan]
  simp

theorem databaseName_of_takeWhile {first : String} (hname : path.name.toList.takeWhile (· != '.') = first.toList) :
    databaseName path = if first ∈ reservedNames then first ++ "_db" else first := by
  unfold databaseName
  dsimp only
  rw [hname, String.ofList_toList]
  simp

theorem no_points_databaseName (path : FilePath) : '.' ∉ (databaseName path).toList := by
  have hname := not_mem_takeWhile_point path.name.toList
  rw [databaseName_of_takeWhile (String.toList_ofList).symm]
  split
  . rw [String.toList_append, List.mem_append, String.toList_ofList]
    exact not_or.mpr ⟨hname, by decide⟩
  . rwa [String.toList_ofList]

theorem eq_databaseName_iff {first : String} (hname : path.name.toList.takeWhile (· != '.') = first.toList) :
    first = databaseName path ↔ first ∉ reservedNames := by
  rw [databaseName_of_takeWhile hname]
  split
  . next hreserved =>
    have hlonger : first ≠ first ++ "_db" := by
      intro heq
      have hlength := congrArg String.length heq
      rw [String.length_append] at hlength
      exact absurd hlength (by simp)
    exact iff_of_false hlonger (not_not_intro hreserved)
  . next hreserved => exact iff_of_true rfl hreserved

/-- The name of a file is one part, or one part with an ending, and the part is not reserved. -/
def TellsDatabase (path : FilePath) : Prop :=
  ∃ base : String, '.' ∉ base.toList ∧ base ∉ reservedNames ∧
    (path.name = base ∨
      base ≠ "" ∧ ∃ ending : String, ending ≠ "" ∧ '.' ∉ ending.toList ∧ path.name = base ++ "." ++ ending)

theorem stem_of_tellsDatabase (hpath : path.TellsDatabase) : path.stem = databaseName path := by
  obtain ⟨base, hbase, hreserved, hname | ⟨hnonempty, ending, hending, hpoints, hname⟩⟩ := hpath
  . have htake : path.name.toList.takeWhile (· != '.') = base.toList := by
      rw [hname, List.takeWhile_eq_self_iff.mpr (ne_point_of_not_mem hbase)]
    rw [stem_of_no_points (hname ▸ hbase), hname]
    exact (eq_databaseName_iff htake).mpr hreserved
  . have hlist : path.name.toList = base.toList ++ '.' :: ending.toList := by
      rw [hname, String.toList_append, String.toList_append, List.append_assoc]
      rfl
    have htake : path.name.toList.takeWhile (· != '.') = base.toList := by
      rw [hlist, takeWhile_append_point hbase]
    rw [stem_of_last_point hlist hpoints, if_neg (by simp [hnonempty, hending]), String.ofList_toList]
    exact (eq_databaseName_iff htake).mpr hreserved

theorem tellsDatabase_of_stem (hstem : path.stem = databaseName path) : path.TellsDatabase := by
  -- the name of a database has no points, and so the stem has none
  have hpoints := no_points_databaseName path
  rw [← hstem] at hpoints
  by_cases hname : '.' ∈ path.name.toList
  . obtain ⟨base, ending, hlist, hending⟩ := exists_last_point hname
    rw [stem_of_last_point hlist hending] at hpoints hstem
    split at hpoints
    . exact absurd hname hpoints
    . next hends =>
      rw [if_neg hends] at hstem
      have htake : path.name.toList.takeWhile (· != '.') = (String.ofList base).toList := by
        rw [String.toList_ofList] at hpoints ⊢
        rw [hlist, takeWhile_append_point hpoints]
      refine ⟨String.ofList base, hpoints, (eq_databaseName_iff htake).mp hstem, .inr ⟨?_, String.ofList ending, ?_⟩⟩
      . simpa using (not_or.mp hends).right
      . refine ⟨by simpa using (not_or.mp hends).left, by rwa [String.toList_ofList], ?_⟩
        rw [← String.toList_inj, hlist]
        simp
  . have htake : path.name.toList.takeWhile (· != '.') = path.name.toList :=
      List.takeWhile_eq_self_iff.mpr (ne_point_of_not_mem hname)
    rw [stem_of_no_points hname] at hstem
    exact ⟨path.name, hname, (eq_databaseName_iff htake).mp hstem, .inl rfl⟩

theorem tellsDatabase_iff : path.TellsDatabase ↔ path.stem = databaseName path :=
  ⟨stem_of_tellsDatabase, tellsDatabase_of_stem⟩

instance (path : FilePath) : Decidable path.TellsDatabase :=
  decidable_of_iff _ tellsDatabase_iff.symm

example : ¬(FilePath.ofString "shop.v1.duckdb").TellsDatabase := by decide +kernel

theorem stem_ne_empty (hpath : ¬path.TellsDatabase) : path.stem ≠ "" := by
  intro hstem
  have hname : path.name = "" := by
    by_cases hpoint : '.' ∈ path.name.toList
    . obtain ⟨base, ending, hlist, hending⟩ := exists_last_point hpoint
      rw [stem_of_last_point hlist hending] at hstem
      split at hstem
      . exact hstem
      . next hends => exact absurd (.inr (String.ofList_eq_empty_iff.mp hstem)) hends
    . rwa [stem_of_no_points hpoint] at hstem
  exact hpath ⟨"", by decide, by decide, .inl hname⟩

end FilePath
end TableGraph
