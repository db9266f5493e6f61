import EnvAudit.Proofs.Declaration.Reading

/-! Layers. Of the declarations of a name in several files the last one of the last file that has any survives. -/
namespace EnvAudit.Declaration
open Logged

def value? (declarations : List Declaration) (name : String) : Option String := (find? declarations name).map (·.value)

theorem keepLast_concat (declarations : List Declaration) (next : Declaration) :
    keepLast (declarations ++ [next]) = (keepLast declarations).filter (·.name != next.name) ++ [next] := by
  rw [keepLast, List.foldl_append]
  rfl

theorem nodup_names_keepLast (declarations : List Declaration) : (names (keepLast declarations)).Nodup := by
  induction declarations using List.reverseRecOn with
  | nil => exact List.nodup_nil
  | append_singleton declarations next ih =>
    rw [keepLast_concat, names, List.map_append, List.map_singleton, List.nodup_append]
    refine ⟨ih.sublist (List.filter_sublist.map _), List.nodup_singleton _, ?_⟩
    intro name early own late
    obtain ⟨declaration, kept, rfl⟩ := List.mem_map.mp early
    rw [List.mem_singleton.mp late]
    simpa using (List.mem_filter.mp kept).2

theorem find?_keepLast (declarations : List Declaration) (name : String) :
    find? (keepLast declarations) name = find? declarations.reverse name := by
  induction declarations using List.reverseRecOn with
  | nil => rfl
  | append_singleton declarations next ih =>
    unfold find? at ih ⊢
    rw [keepLast_concat, List.find?_append, List.reverse_append, List.reverse_singleton, List.singleton_append]
    by_cases same : next.name = name
    · have gone : ((keepLast declarations).filter (·.name != next.name)).find? (·.name == name) = none := by
        refine List.find?_eq_none.mpr fun declaration member => ?_
        have other := (List.mem_filter.mp member).2
        simpa [same] using other
      rw [gone, List.find?_cons_of_pos (by simp [same]), List.find?_cons_of_pos (by simp [same])]
      rfl
    · have kept : ((keepLast declarations).filter (·.name != next.name)).find? (·.name == name) =
          (keepLast declarations).find? (·.name == name) := by
        rw [List.find?_filter]
        congr 1
        funext declaration
        by_cases named : declaration.name = name
        · simp [named, Ne.symm same]
        · simp [named]
      rw [kept, ih, List.find?_cons_of_neg (by simp [same]), List.find?_cons_of_neg (by simp [same])]
      simp

theorem mem_names_keepLast {declarations : List Declaration} {name : String} :
    name ∈ names (keepLast declarations) ↔ name ∈ names declarations := by
  have found (ds : List Declaration) : name ∈ names ds ↔ (find? ds name).isSome = true := by
    simp [names, find?]
  rw [found, find?_keepLast, find?, List.find?_isSome, names]
  simp

variable {disk : Disk} {root : Path} {name : String}

theorem nodup_names_readFiles {paths : List String} {found : Declarations}
    (gives : Gives (readFiles disk root paths) found) : (names found.declared).Nodup := by
  obtain ⟨parts, _, gives⟩ := gives.of_bind
  cases (yields_pure _).eq_ok gives
  exact nodup_names_keepLast _

def lastIn? (disk : Disk) (root : Path) (name path : String) : Option String :=
  match contents disk root path with
  | .ok part => value? part.declared.reverse name
  | .error _ => none

def survivor? (disk : Disk) (root : Path) (name : String) (paths : List String) : Option String :=
  paths.reverse.findSome? (lastIn? disk root name)

@[simp] theorem survivor?_nil : survivor? disk root name [] = none := rfl

theorem survivor?_cons (first : String) (rest : List String) :
    survivor? disk root name (first :: rest) =
      (survivor? disk root name rest).or (lastIn? disk root name first) := by
  simp [survivor?, List.findSome?_append]

theorem value?_flatMap {paths : List String} {parts : List Declarations}
    (read : List.Forall₂ (fun path part => contents disk root path = .ok part) paths parts) :
    value? (parts.flatMap (·.declared)).reverse name = survivor? disk root name paths := by
  induction read with
  | nil => rfl
  | @cons path part paths parts ok _ ih =>
    have here : lastIn? disk root name path = value? part.declared.reverse name := by
      unfold lastIn?
      have read : contents disk root path = .ok part := ok
      rw [read]
    rw [survivor?_cons, ← ih, here, List.flatMap_cons, List.reverse_append]
    simp only [value?, find?, List.find?_append, Option.map_or]

theorem value?_readFiles {paths : List String} {found : Declarations}
    (gives : Gives (readFiles disk root paths) found) :
    value? found.declared name = survivor? disk root name paths := by
  have read := (readFiles_yields disk root paths).eq_ok gives
  obtain ⟨parts, given, same⟩ := Outcome.bind_eq_ok.mp read
  cases same
  have last := @value?_flatMap disk root name _ _ (Outcome.mapM_eq_ok.mp given)
  rw [value?, ← find?_keepLast] at last
  exact last

end EnvAudit.Declaration
