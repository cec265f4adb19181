import Krepe.Hdf5.Observation

namespace hdf5

/-- The object which a call makes or changes. -/
def Call.target : Call → Option Path
  | .H5Gcreate2 loc name | .H5Dcreate2 loc name _ _ | .H5Dwrite loc name _ => some (loc ++ [name])
  | .H5Acreate2 loc _ _ | .H5Awrite loc _ _ => some loc
  | .handle _ | .H5Fcreate | .H5Fopen => none

/-- The calls make and change nothing but an object and what is in it. -/
def Below (root : Path) (calls : List Call) : Prop :=
  ∀ call ∈ calls, call ≠ .H5Fcreate ∧ ∀ target ∈ call.target, root <+: target

/-- Two lists of calls below a path are below it together. -/
theorem Below.append {root : Path} {first second : List Call} (hfirst : Below root first)
    (hsecond : Below root second) : Below root (first ++ second) := fun call hcall =>
  (List.mem_append.mp hcall).elim (hfirst call) (hsecond call)

theorem Below.cons {root : Path} {call : Call} {rest : List Call}
    (hcall : call ≠ .H5Fcreate ∧ ∀ target ∈ call.target, root <+: target) (hrest : Below root rest) :
    Below root (call :: rest) := fun other hother =>
  (List.mem_cons.mp hother).elim (fun heq => heq ▸ hcall) (hrest other)

/-- Calls below a path are below every path above it. -/
theorem Below.mono {root above : Path} {calls : List Call} (hbelow : Below root calls)
    (habove : above <+: root) : Below above calls := fun call hcall =>
  ⟨(hbelow call hcall).1, fun target htarget => habove.trans ((hbelow call hcall).2 target htarget)⟩

theorem below_nil (root : Path) : Below root [] := by simp [Below]

theorem below_handle (root : Path) (call : HandleCall) : Below root [.handle call] := by
  simp [Below, Call.target]

theorem Below.subset {root : Path} {calls some : List Call} (hbelow : Below root calls)
    (hsubset : some ⊆ calls) : Below root some := fun call hcall => hbelow call (hsubset hcall)

/-- Objects which are neither in the root nor its group keep what they have. -/
theorem exec_below_frame {root : Path} {calls : List Call} (hbelow : Below root calls)
    {file final : File} (hexec : exec calls file = some final) {path : Path} (hpath : ¬ root <+: path)
    (hparent : path ≠ root.dropLast) : final path = file path := by
  refine exec_frame hexec fun call hcall hwrites => ?_
  obtain ⟨hcreate, htargets⟩ := hbelow call hcall
  have hlink : ∀ {loc : Path} {name : String}, root <+: loc ++ [name] →
      path = loc ∨ path = loc ++ [name] → False := by
    intro loc name htarget hcases
    rcases hcases with rfl | rfl
    · rcases List.prefix_concat_iff.mp htarget with heq | hinside
      · exact hparent (by rw [heq, List.dropLast_concat])
      · exact hpath hinside
    · exact hpath htarget
  cases call with
  | handle => exact hwrites
  | H5Fcreate => exact hcreate rfl
  | H5Fopen => exact hwrites
  | H5Gcreate2 loc name => exact hlink (htargets _ rfl) hwrites
  | H5Acreate2 loc name type => exact hpath (hwrites ▸ htargets _ rfl)
  | H5Awrite loc name value => exact hpath (hwrites ▸ htargets _ rfl)
  | H5Dcreate2 loc name type dims => exact hlink (htargets _ rfl) hwrites
  | H5Dwrite loc name data => exact hpath (hwrites ▸ htargets _ rfl)

/-- A call which is relevant has its target at a path or below. -/
def Local (path : Path) (relevant : Call → Bool) : Prop :=
  ∀ call, relevant call = true → call = .H5Fcreate ∨ ∃ target ∈ call.target, path <+: target

/-- The value of an attribute depends on calls at its object. -/
theorem attr_local (path : Path) (name : String) : Local path (attr_relevant path name) := by
  intro call hrelevant
  cases call <;> simp_all [attr_relevant, Call.target]

/-- A dataset depends on calls at its path. -/
theorem dataset_local (path : Path) : Local path (dataset_relevant path) := by
  intro call hrelevant
  cases call <;> simp_all [dataset_relevant, Call.target]

theorem Local.mono {path above : Path} {relevant : Call → Bool} (hlocal : Local path relevant)
    (habove : above <+: path) : Local above relevant := fun call hrelevant =>
  (hlocal call hrelevant).imp_right fun ⟨target, htarget, hstarts⟩ =>
    ⟨target, htarget, habove.trans hstarts⟩

theorem Local.or {path : Path} {first second : Call → Bool} (hfirst : Local path first)
    (hsecond : Local path second) : Local path fun call => first call || second call := fun call hrelevant =>
  (Bool.or_eq_true_iff.mp hrelevant).elim (hfirst call) (hsecond call)

/-- Calls below a root are not relevant to what is elsewhere. -/
theorem filter_relevant_below {path root : Path} {relevant : Call → Bool}
    (hlocal : Local path relevant) {calls : List Call} (hbelow : Below root calls)
    (happart : ¬ path <+: root) (hother : ¬ root <+: path) : calls.filter relevant = [] := by
  refine List.filter_eq_nil_iff.mpr fun call hcall hrelevant => ?_
  obtain ⟨hcreate, htargets⟩ := hbelow call hcall
  rcases hlocal call hrelevant with heq | ⟨target, htarget, hpath⟩
  · exact hcreate heq
  · rcases List.prefix_or_prefix_of_prefix hpath (htargets target htarget) with hstarts | hstarts
    · exact happart hstarts
    · exact hother hstarts

/-- What some calls are followed by is not needed where it is not relevant. -/
theorem mem_filter_iff {relevant : Call → Bool} {call : Call} (hrelevant : relevant call = true)
    (calls : List Call) : call ∈ calls.filter relevant ↔ call ∈ calls := by
  rw [List.mem_filter]
  exact ⟨And.left, fun hcall => ⟨hcall, hrelevant⟩⟩

/-- With any of the relevant calls, the first of them was made. -/
theorem mem_of_first {relevant : Call → Bool} {done rest : List Call} {first call : Call}
    (hordered : done.filter relevant <+: first :: rest) (hrelevant : relevant call = true)
    (hcall : call ∈ done) : first ∈ done := by
  have hmem := (mem_filter_iff hrelevant done).mpr hcall
  rcases List.prefix_cons_iff.mp hordered with hnone | ⟨made, hmade, _⟩
  · rw [hnone] at hmem
    cases hmem
  · have hfirst : first ∈ done.filter relevant := hmade ▸ List.mem_cons_self
    exact (List.mem_filter.mp hfirst).1

/-- Calls are made in order: with one of them, those before it were made. -/
theorem mem_of_before {calls done before after : List Call} {call : Call}
    (hcalls : calls = before ++ call :: after) (hdone : done <+: calls) (hnew : call ∉ before)
    (hcall : call ∈ done) : before ⊆ done := by
  have hbefore : before <+: calls := hcalls ▸ List.prefix_append _ _
  rcases List.prefix_or_prefix_of_prefix hdone hbefore with hshort | hlong
  · exact absurd (hshort.subset hcall) hnew
  · exact hlong.subset

end hdf5
