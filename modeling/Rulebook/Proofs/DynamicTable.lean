/-
  Rulebook.Proofs.DynamicTable

  The templates of dynamic fields that assignments leave: a field keeps the place
  of its first dynamic assignment and the template of its last
  (`names_templatesAfter`, `get?_templatesAfter`).
-/
import Rulebook.Proofs.Roster
import Rulebook.Proofs.RuleLine

namespace Rulebook.Rule

open Line (Assignment)

/-- The templates are those of the dynamic assignments, set one after the other. -/
theorem templatesAfter_eq_foldl (templates : Roster String) (assignments : List Assignment) :
    templatesAfter templates assignments =
      (assignments.filter (·.dynamic)).foldl
        (fun templates a => templates.set a.field a.template) templates := by
  rw [List.foldl_filter]
  rfl

/-- The fields of the table, in the order in which they were first assigned as dynamic ones. -/
theorem names_templatesAfter (templates : Roster String) (assignments : List Assignment) :
    (templatesAfter templates assignments).names =
      templates.names ++
        (((assignments.filter (·.dynamic)).map (·.field)).filter
          (· ∉ templates.names)).eraseDups := by
  rw [templatesAfter_eq_foldl]
  exact Roster.names_foldl_change _ _ _ _

/-- A field that is only assigned as a static one has no template. -/
theorem not_mem_names_templatesAfter {assignments : List Assignment} {field : String}
    (h : ∀ a ∈ assignments, a.field = field → a.dynamic = false) :
    field ∉ (templatesAfter ∅ assignments).names := by
  rw [names_templatesAfter, Roster.names_empty, List.nil_append]
  intro hmem
  obtain ⟨hmem, -⟩ := List.mem_filter.mp (List.mem_eraseDups.mp hmem)
  obtain ⟨a, ha, hfield⟩ := List.mem_map.mp hmem
  obtain ⟨ha, hdynamic⟩ := List.mem_filter.mp ha
  rw [h a ha hfield] at hdynamic
  cases hdynamic

/-- If no field is assigned twice, the templates are those of the dynamic assignments. -/
theorem entries_templatesAfter {templates : Roster String} {assignments : List Assignment}
    (hnodup : (assignments.map (·.field)).Nodup)
    (hnew : ∀ a ∈ assignments, a.field ∉ templates.names) :
    (templatesAfter templates assignments).entries =
      templates.entries ++ (assignments.filter (·.dynamic)).map (·.entry) := by
  induction assignments generalizing templates with
  | nil => simp [templatesAfter]
  | cons a assignments ih =>
    rw [List.map_cons, List.nodup_cons] at hnodup
    rw [templatesAfter, List.foldl_cons]
    cases hd : a.dynamic with
    | false =>
      rw [List.filter_cons_of_neg (by simp [hd])]
      exact ih hnodup.2 fun b hb => hnew b (List.mem_cons_of_mem _ hb)
    | true =>
      -- the field is new, so its template goes to the end, in front of the later ones
      have hfield : a.field ∉ templates.names := hnew a (by simp)
      have hentries := Roster.entries_set_of_not_mem hfield a.template
      have hset : ∀ b ∈ assignments, b.field ∉ (templates.set a.field a.template).names := by
        intro b hb hmem
        rw [Roster.names, hentries, List.map_append, List.mem_append] at hmem
        rcases hmem with hmem | hmem
        · exact hnew b (List.mem_cons_of_mem _ hb) hmem
        · have hsame : b.field = a.field := by simpa using hmem
          exact hnodup.1 (hsame ▸ List.mem_map_of_mem hb)
      rw [List.filter_cons_of_pos (by simp [hd])]
      have hrest := ih hnodup.2 hset
      simp only [templatesAfter, hentries] at hrest
      simp [hrest, Assignment.entry]

/-- The template of a field: that of the last dynamic assignment to it. -/
theorem get?_templatesAfter (templates : Roster String) (assignments : List Assignment)
    (field : String) :
    (templatesAfter templates assignments).get? field =
      ((assignments.filter fun a => a.dynamic && a.field == field).getLast?.map
        (·.template)).or (templates.get? field) := by
  rw [templatesAfter_eq_foldl, Roster.get?_foldl_set, List.filter_filter]
  simp only [Bool.and_comm]

end Rulebook.Rule
