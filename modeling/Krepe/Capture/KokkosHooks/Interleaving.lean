import Krepe.Capture.KokkosHooks.Kernel
import Krepe.Transition.Run

open std

namespace krepe

/-- The locals of `begin_kernel`. -/
structure Launch where
  id : Nat
  kernel_label : String
  device_id : UInt32
  invocation : Nat
  deriving DecidableEq, Repr

/-- Whether a fence is for the input of a kernel or for its output. -/
inductive Phase where
  | input
  | output
  deriving DecidableEq, Repr

/-- Where a thread is within the hook it runs: before the step named. -/
inductive Pc where
  | idle
  | begin_register (launch : Launch)
  | begin_read_fence (launch : Launch)
  | begin_fence (launch : Launch) (fence : Fence)
  | begin_snapshot (launch : Launch)
  | begin_create (launch : Launch)
  | begin_store (launch : Launch) (result : ViewDumpResult)
  | begin_return (launch : Launch)
  | end_fence (kernel_id : Nat) (state : KernelState) (fence : Fence)
  | end_snapshot (kernel_id : Nat) (state : KernelState)
  | end_append (kernel_id : Nat) (state : KernelState)

/-- The launch whose begin hook runs. -/
def Pc.launch? : Pc → Option Launch
  | idle => none
  | begin_register launch => some launch
  | begin_read_fence launch => some launch
  | begin_fence launch _ => some launch
  | begin_snapshot launch => some launch
  | begin_create launch => some launch
  | begin_store launch _ => some launch
  | begin_return launch => some launch
  | end_fence _ _ _ => none
  | end_snapshot _ _ => none
  | end_append _ _ => none

/-- A begin hook which got the id has not returned. -/
def Pc.Begins (pc : Pc) (id : Nat) : Prop := ∃ launch, pc.launch? = some launch ∧ launch.id = id

/-- An end hook took a dump path. -/
def Pc.ends : Pc → Bool
  | end_fence _ _ _ => true
  | end_snapshot _ _ => true
  | end_append _ _ => true
  | _ => false

/-- What a thread does to the shared state of the hooks in one step, as the log of the run
    records it. -/
inductive Event where
  | provided (fence : Fence)
  | fetched (id : Nat)
  | registered (launch : Launch)
  | read_fence (id : Nat) (fence : Fence)
  | fence (id : Nat) (phase : Phase) (device_id : UInt32)
  | no_fence (id : Nat) (phase : Phase)
  | snapshot (id : Nat) (phase : Phase)
  | created (id : Nat) (result : ViewDumpResult)
  | stored (id : Nat)
  | returned (id : Nat)
  | ended (id : Nat) (state : KernelState) (fence : Fence)
  | appended (id : Nat) (filename : String) (result : ViewDumpResult)

/-- The hooks, what each thread is doing, and what has happened so far. -/
structure System (Thread : Type) where
  hooks : KernelHooks
  pc : Thread → Pc
  log : List Event

/-- The kinds of kernels whose launch and end Kokkos reports. -/
inductive KernelKind where
  | parallel_for
  | parallel_reduce
  | parallel_scan
  deriving DecidableEq, Repr

/-- A call from outside, or the next step of a thread. -/
inductive Action (Thread : Type) where
  | provide (fence : Fence)
  | begin (thread : Thread) (kind : KernelKind) (label : CString) (device_id : UInt32)
  | advance (thread : Thread)
  | create (thread : Thread) (result : ViewDumpResult)
  | «end» (thread : Thread) (kind : KernelKind) (kernel_id : Nat)
  | append (thread : Thread) (result : ViewDumpResult)

namespace System

variable {Thread : Type}

/-- Every thread is outside of the hooks, and nothing has happened. -/
def initial (fence : Fence) : System Thread := ⟨KernelHooks.initial fence, fun _ => .idle, []⟩

variable [DecidableEq Thread]

/-- One step of a thread: its new place, the new shared state, and the event at the end of the
    log. -/
def move (s : System Thread) (thread : Thread) (pc : Pc) (hooks : KernelHooks) (event : Event) :
    System Thread :=
  ⟨hooks, Function.update s.pc thread pc, s.log ++ [event]⟩

section

variable (s : System Thread) (thread other : Thread) (pc : Pc) (hooks : KernelHooks) (event : Event)

@[simp]
theorem move_hooks : (s.move thread pc hooks event).hooks = hooks := rfl

@[simp]
theorem move_log : (s.move thread pc hooks event).log = s.log ++ [event] := rfl

@[simp]
theorem move_pc_self : (s.move thread pc hooks event).pc thread = pc := Function.update_self _ _ _

variable {thread other}

theorem move_pc_of_ne (hother : other ≠ thread) :
    (s.move thread pc hooks event).pc other = s.pc other := Function.update_of_ne hother _ _

end

end System

variable {Thread : Type} [DecidableEq Thread] (selection : DumpSelection)

/-- The locked sections, dump calls and returns of the hooks, each one step of
    the thread which runs the hook. The three kinds of kernels share them. -/
inductive Step : System Thread → Action Thread → System Thread → Prop where
  | provide {s : System Thread} (fence : Fence) :
    Step s (.provide fence)
      ⟨{ s.hooks with tool_fence := fence }, s.pc, s.log ++ [.provided fence]⟩
  | begin {s : System Thread} {thread : Thread} (kind : KernelKind) (label : CString)
      (device_id : UInt32) (hpc : s.pc thread = .idle) :
    Step s (.begin thread kind label device_id)
      (s.move thread
        (.begin_register ⟨s.hooks.fetch_kernel_id.1, label_or_unknown label, device_id, 0⟩)
        s.hooks.fetch_kernel_id.2 (.fetched s.hooks.fetch_kernel_id.1))
  | register_selected {s : System Thread} {thread : Thread} {launch : Launch}
      (hpc : s.pc thread = .begin_register launch)
      (hselected : should_dump_views_for_invocation selection launch.kernel_label
        (s.hooks.next_invocation launch.kernel_label) = true) :
    Step s (.advance thread)
      (s.move thread
        (.begin_read_fence { launch with invocation := s.hooks.next_invocation launch.kernel_label })
        (s.hooks.register_kernel launch.id launch.kernel_label launch.device_id)
        (.registered { launch with invocation := s.hooks.next_invocation launch.kernel_label }))
  | register_other {s : System Thread} {thread : Thread} {launch : Launch}
      (hpc : s.pc thread = .begin_register launch)
      (hother : should_dump_views_for_invocation selection launch.kernel_label
        (s.hooks.next_invocation launch.kernel_label) = false) :
    Step s (.advance thread)
      (s.move thread
        (.begin_return { launch with invocation := s.hooks.next_invocation launch.kernel_label })
        (s.hooks.register_kernel launch.id launch.kernel_label launch.device_id)
        (.registered { launch with invocation := s.hooks.next_invocation launch.kernel_label }))
  | read_fence {s : System Thread} {thread : Thread} {launch : Launch}
      (hpc : s.pc thread = .begin_read_fence launch) :
    Step s (.advance thread)
      (s.move thread (.begin_fence launch s.hooks.tool_fence) s.hooks
        (.read_fence launch.id s.hooks.tool_fence))
  | begin_fence {s : System Thread} {thread : Thread} {launch : Launch} {fence : Pointer}
      (hpc : s.pc thread = .begin_fence launch (some fence)) :
    Step s (.advance thread)
      (s.move thread (.begin_snapshot launch) s.hooks (.fence launch.id .input launch.device_id))
  | begin_no_fence {s : System Thread} {thread : Thread} {launch : Launch}
      (hpc : s.pc thread = .begin_fence launch none) :
    Step s (.advance thread)
      (s.move thread (.begin_snapshot launch) s.hooks (.no_fence launch.id .input))
  | begin_snapshot {s : System Thread} {thread : Thread} {launch : Launch}
      (hpc : s.pc thread = .begin_snapshot launch) :
    Step s (.advance thread)
      (s.move thread (.begin_create launch) s.hooks (.snapshot launch.id .input))
  | create {s : System Thread} {thread : Thread} {launch : Launch} (result : ViewDumpResult)
      (hpc : s.pc thread = .begin_create launch) :
    Step s (.create thread result)
      (s.move thread (.begin_store launch result) s.hooks (.created launch.id result))
  | store {s : System Thread} {thread : Thread} {launch : Launch} {result : ViewDumpResult}
      (hpc : s.pc thread = .begin_store launch result) :
    Step s (.advance thread)
      (s.move thread (.begin_return launch) (s.hooks.store_dump_path launch.id result)
        (.stored launch.id))
  | return {s : System Thread} {thread : Thread} {launch : Launch}
      (hpc : s.pc thread = .begin_return launch) :
    Step s (.advance thread) (s.move thread .idle s.hooks (.returned launch.id))
  | end_dumped {s : System Thread} {thread : Thread} (kind : KernelKind) (kernel_id : Nat)
      (hpc : s.pc thread = .idle) (hreturned : ∀ other, ¬ (s.pc other).Begins kernel_id)
      (hpath : (s.hooks.take_kernel kernel_id).1.dump_path ≠ "") :
    Step s (.end thread kind kernel_id)
      (s.move thread
        (.end_fence kernel_id (s.hooks.take_kernel kernel_id).1 s.hooks.tool_fence)
        (s.hooks.take_kernel kernel_id).2
        (.ended kernel_id (s.hooks.take_kernel kernel_id).1 s.hooks.tool_fence))
  | end_other {s : System Thread} {thread : Thread} (kind : KernelKind) (kernel_id : Nat)
      (hpc : s.pc thread = .idle) (hreturned : ∀ other, ¬ (s.pc other).Begins kernel_id)
      (hpath : (s.hooks.take_kernel kernel_id).1.dump_path = "") :
    Step s (.end thread kind kernel_id)
      (s.move thread .idle (s.hooks.take_kernel kernel_id).2
        (.ended kernel_id (s.hooks.take_kernel kernel_id).1 s.hooks.tool_fence))
  | end_fence {s : System Thread} {thread : Thread} {kernel_id : Nat} {state : KernelState}
      {fence : Pointer} (hpc : s.pc thread = .end_fence kernel_id state (some fence)) :
    Step s (.advance thread)
      (s.move thread (.end_snapshot kernel_id state) s.hooks
        (.fence kernel_id .output state.device_id))
  | end_no_fence {s : System Thread} {thread : Thread} {kernel_id : Nat} {state : KernelState}
      (hpc : s.pc thread = .end_fence kernel_id state none) :
    Step s (.advance thread)
      (s.move thread (.end_snapshot kernel_id state) s.hooks (.no_fence kernel_id .output))
  | end_snapshot {s : System Thread} {thread : Thread} {kernel_id : Nat} {state : KernelState}
      (hpc : s.pc thread = .end_snapshot kernel_id state) :
    Step s (.advance thread)
      (s.move thread (.end_append kernel_id state) s.hooks (.snapshot kernel_id .output))
  | append {s : System Thread} {thread : Thread} {kernel_id : Nat} {state : KernelState}
      (result : ViewDumpResult) (hpc : s.pc thread = .end_append kernel_id state) :
    Step s (.append thread result)
      (s.move thread .idle s.hooks (.appended kernel_id state.dump_path result))

end krepe
