import Krepe.RoundTrip.Dump

open std hdf5 outcome

namespace krepe

open impl

/-- Without a link there are no outputs to look for. -/
theorem has_output_of_links {file : File} {root : List String} (hroot : file.links? [] = some root)
    (hfree : "out" ∉ root) : ScopeGuard.has_output file = .ok false := by
  obtain ⟨node, hnode, rfl⟩ := Option.map_eq_some_iff.mp hroot
  rw [ScopeGuard.has_output, hnode]
  simp only [hfree, if_false]
  rfl

/-- Outputs are looked for if their group has the views. -/
theorem has_output_of_out {file : File} {root out : List String} (hroot : file.links? [] = some root)
    (hout : "out" ∈ root) (hlinks : file.links? ["out"] = some out) :
    ScopeGuard.has_output file = .ok (decide ("views" ∈ out)) := by
  obtain ⟨node, hnode, rfl⟩ := Option.map_eq_some_iff.mp hroot
  obtain ⟨group, hgroup, rfl⟩ := Option.map_eq_some_iff.mp hlinks
  rw [ScopeGuard.has_output, hnode]
  simp only [hout, hgroup, if_true]
  rfl

section

variable {machine : CaptureMachine} {snapshot : AllocationSnapshot} {done : List hdf5.Call}
  {file final : File}

/-- However far the outputs were written, the inputs are loaded like before. -/
theorem load_input_of_done (hdone : done <+: write_snapshot machine "out" snapshot)
    (hexec : exec done file = some final) (replay : ReplayMachine) :
    ScopeGuard.load_input replay final = ScopeGuard.load_input replay file := by
  have hbelow := (below_write_snapshot machine "out" snapshot).subset hdone.subset
  exact load_input_congr fun path hpath hother =>
    exec_below_frame hbelow hexec hother (by simpa using hpath)

/-- Outputs are looked for once the group of their groups is there. -/
theorem has_output_of_done (hdone : done <+: write_snapshot machine "out" snapshot)
    (hexec : exec done file = some final) {links : List String} (hroot : file.links? [] = some links)
    (hlinks : "out" ∉ links) (hnew : ∀ path, ["out"] <+: path → file path = none) :
    ScopeGuard.has_output final = .ok (decide (.H5Gcreate2 ["out"] "views" ∈ done)) := by
  have hstart : file.links? ["out"] = none := by
    simp [File.links?, File.group?, hnew ["out"] (List.prefix_refl _)]
  have hrootMem := @mem_filter_iff (links_relevant []) (.H5Gcreate2 [] "out") (by simp [links_relevant]) done
  have houtMem := @mem_filter_iff (links_relevant ["out"]) (.H5Gcreate2 [] "out") (by simp [links_relevant]) done
  have hviewsMem := @mem_filter_iff (links_relevant ["out"]) (.H5Gcreate2 ["out"] "views")
    (by simp [links_relevant]) done
  have hrootLinks := (links_observation []).of_exec hexec
  have houtLinks := (links_observation ["out"]).of_exec hexec
  obtain ⟨houtCalls, hrootCalls⟩ := filter_links_write_snapshot_above machine "out" snapshot
  have hrootOrder := hrootCalls ▸ hdone.filter (links_relevant [])
  have houtOrder := houtCalls ▸ hdone.filter (links_relevant ["out"])
  simp only [links_observation, hroot] at hrootLinks
  simp only [links_observation, hstart] at houtLinks
  simp only [List.prefix_cons_iff, List.prefix_nil] at hrootOrder houtOrder
  have hrootEffect : links_effect [] (some links) (.H5Gcreate2 [] "out") = some (links ++ ["out"]) := by
    simp [links_effect]
  have houtEffect : links_effect ["out"] none (.H5Gcreate2 [] "out") = some [] := by
    simp [links_effect]
  have hviewsEffect : links_effect ["out"] (some []) (.H5Gcreate2 ["out"] "views") = some ["views"] := by
    simp [links_effect]
  -- The group of the outputs is made before the group of their groups.
  rcases houtOrder with hnone | ⟨_, hmade, hrest⟩
  · have hout : .H5Gcreate2 [] "out" ∉ done := by simp [← houtMem, hnone]
    have hviews : .H5Gcreate2 ["out"] "views" ∉ done := by simp [← hviewsMem, hnone]
    rcases hrootOrder with hempty | ⟨_, hmade, _⟩
    · rw [hempty, List.foldl_nil] at hrootLinks
      rw [has_output_of_links hrootLinks hlinks, decide_eq_false hviews]
    · exact absurd (hrootMem.mp (hmade ▸ List.mem_cons_self)) hout
  · have hout : .H5Gcreate2 [] "out" ∈ done := houtMem.mp (hmade ▸ List.mem_cons_self)
    rcases hrootOrder with hempty | ⟨_, hroot, rfl⟩
    · exact absurd (hrootMem.mpr hout) (hempty ▸ List.not_mem_nil)
    · rw [hroot, List.foldl_cons, hrootEffect, List.foldl_nil] at hrootLinks
      rw [hmade, List.foldl_cons, houtEffect] at houtLinks
      have hlinked : "out" ∈ links ++ ["out"] := by simp
      rcases hrest with rfl | ⟨_, rfl, rfl⟩
      · have hviews : .H5Gcreate2 ["out"] "views" ∉ done := by simp [← hviewsMem, hmade]
        rw [has_output_of_out hrootLinks hlinked houtLinks, decide_eq_false hviews]
        rfl
      · have hviews : .H5Gcreate2 ["out"] "views" ∈ done := hviewsMem.mp (by simp [hmade])
        rw [List.foldl_cons, hviewsEffect, List.foldl_nil] at houtLinks
        rw [has_output_of_out hrootLinks hlinked houtLinks, decide_eq_true hviews]
        rfl

/-- The outputs which were begun are visited in some order, and nothing is done
    before their group is there. -/
theorem loads_outputs_of_done (hdone : done <+: write_snapshot machine "out" snapshot)
    (hexec : exec done file = some final) {links : List String} (hroot : file.links? [] = some links)
    (hlinks : "out" ∉ links) (hnew : ∀ path, ["out"] <+: path → file path = none) (replay : ReplayMachine) :
    ∃ order, VisitsBegun replay "out" snapshot.allocations done order ∧
      LoadsOutputs replay final (order.map fun position =>
        output_of_done machine (position_path "out" position) position.1 done) := by
  have houtput := has_output_of_done hdone hexec hroot hlinks hnew
  by_cases hviews : .H5Gcreate2 ["out"] "views" ∈ done
  · obtain ⟨order, horder, hvisits⟩ := visits_outputs_of_done hdone hexec hnew hviews replay
    rw [decide_eq_true hviews] at houtput
    exact ⟨order, horder, hvisits.loads houtput⟩
  · rw [decide_eq_false hviews] at houtput
    have hnone : begun_positions "out" snapshot.allocations done = [] :=
      List.filter_eq_nil_iff.mpr fun position _ hmade =>
        hviews (views_of_group hdone (of_decide_eq_true hmade))
    refine ⟨[], ⟨?_, by rw [hnone]⟩, loads_no_outputs houtput⟩
    rw [hnone]
    exact List.perm_nil.mp (replay.iteration_order_perm [])

end

end krepe
