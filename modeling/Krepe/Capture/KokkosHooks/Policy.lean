import Krepe.Capture.ViewDump.Types

namespace krepe

/-- The descriptor of a launch over the indices below a number. -/
def krepe_kernel_dump_register_scalar_policy (N : UInt64) : PolicyDesc := .scalar ⟨N⟩

/-- The descriptor of a range policy, with the values as the extractor passes them. -/
def krepe_kernel_dump_register_range_policy (space schedule : String) (index_type_size : Nat)
    (index_type_signed : Bool) (begin «end» : UInt64) (chunk_size : Int32) : PolicyDesc :=
  .range ⟨⟨index_type_size, index_type_signed⟩, space, schedule, begin, «end», chunk_size⟩

/-- The three pointers are to arrays, of which the first `rank` elements are copied. -/
def krepe_kernel_dump_register_mdrange_policy (space schedule : String) (rank : Nat)
    (outer_dir inner_dir : String) (index_type_size : Nat) (index_type_signed : Bool)
    (begin «end» tile : List Int64) : PolicyDesc :=
  .mdrange ⟨⟨index_type_size, index_type_signed⟩, space, schedule, rank, outer_dir, inner_dir,
    begin.take rank, «end».take rank, tile.take rank⟩

/-- The descriptor of a team policy, with the values as the extractor passes them. -/
def krepe_kernel_dump_register_team_policy (space schedule : String) (index_type_size : Nat)
    (index_type_signed : Bool) (team_size league_size vector_length team_scratch_0 team_scratch_1
      thread_scratch_0 thread_scratch_1 chunk_size : Int32) : PolicyDesc :=
  .team ⟨⟨index_type_size, index_type_signed⟩, space, schedule, team_size, league_size,
    vector_length, team_scratch_0, team_scratch_1, thread_scratch_0, thread_scratch_1, chunk_size⟩

end krepe
