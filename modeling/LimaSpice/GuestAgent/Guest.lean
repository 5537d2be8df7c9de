import LimaSpice.Go.Strings

/-!
# The guest, as the SPICE agent code sees it

The guest-side code of `pkg/guestagent/spiceservice` reads directories, looks executables up on
the search path and runs commands (`dpkg`, `systemctl`, a package manager). None of that is
modelled inside the guest: the guest is a state `σ` with the answers it gives (`Guest`), and agent
code is a function `Agent σ α` from the guest before to its value, the guest after, and the
commands it ran, in order. Reading does not change the guest; running a command may.

`RunsOnly P x` says that every command `x` runs satisfies `P`, `Keeps G P x` that `x` changes
no guest that the commands satisfying `P` do not change, and `Traced G x` that the guest after `x`
is the guest after the commands it ran, replayed in order; all three are built up along the code,
and with the last two a property of the guest that each allowed command keeps is kept by the code
(`Traced.invariant`).

The context timeouts of the source are kept on each command (`Cmd.timeout`), since they decide how
long a command may hang; what happens when one runs out is the guest's answer, a failed command.
-/

namespace LimaSpice.GuestAgent

/-- A command the agent runs: the program, its arguments, and the timeout of its context in
seconds (`none` when it runs under the caller's context). -/
structure Cmd where
  name : String
  args : List String
  timeout : Option Nat
deriving DecidableEq, Repr

/-- What a command gives back: its error (`none` when it exits zero) and its output. -/
structure Result where
  err : Option String
  output : String
deriving DecidableEq, Repr

/-- The guest system, with state `σ`. -/
structure Guest (σ : Type) where
  /-- `os.ReadDir`: the names of the entries, or `none` when it fails. -/
  readDir : σ → String → Option (List String)
  /-- `os.Stat` succeeds. -/
  stat : σ → String → Bool
  /-- `exec.LookPath` finds the executable. -/
  lookPath : σ → String → Bool
  /-- Running a command: what it gives back, and the guest after it. -/
  exec : σ → Cmd → Result × σ

/-- What a piece of agent code leaves: its value, the guest after it, the commands it ran. -/
structure Outcome (σ α : Type) where
  val : α
  guest : σ
  ran : List Cmd
deriving DecidableEq, Repr

/-- Agent code, run from the guest before it. -/
def Agent (σ α : Type) := σ → Outcome σ α

namespace Agent

variable {σ α β : Type}

instance instMonadAgent : Monad (Agent σ) where
  pure a := fun g => ⟨a, g, []⟩
  bind x f := fun g =>
    let o := x g
    let o' := f o.val o.guest
    ⟨o'.val, o'.guest, o.ran ++ o'.ran⟩

@[simp] theorem pure_apply (a : α) (g : σ) : (pure a : Agent σ α) g = ⟨a, g, []⟩ := rfl

@[simp] theorem bind_apply (x : Agent σ α) (f : α → Agent σ β) (g : σ) :
    (x >>= f) g = ⟨(f (x g).val (x g).guest).val, (f (x g).val (x g).guest).guest,
      (x g).ran ++ (f (x g).val (x g).guest).ran⟩ := rfl

end Agent

section Primitives

variable {σ α : Type} (G : Guest σ)

/-- Read the guest without changing it. -/
def read (f : σ → α) : Agent σ α := fun g => ⟨f g, g, []⟩

/-- `exec.LookPath(file)` succeeds. -/
def lookPath (file : String) : Agent σ Bool := read (G.lookPath · file)

/-- Run a command: `cmd.Run`, `cmd.Output` or `cmd.CombinedOutput`. -/
def run (c : Cmd) : Agent σ Result := fun g => ⟨(G.exec g c).1, (G.exec g c).2, [c]⟩

@[simp] theorem read_apply (f : σ → α) (g : σ) : read f g = ⟨f g, g, []⟩ := rfl

@[simp] theorem lookPath_apply (file : String) (g : σ) :
    lookPath G file g = ⟨G.lookPath g file, g, []⟩ := rfl

@[simp] theorem run_apply (c : Cmd) (g : σ) :
    run G c g = ⟨(G.exec g c).1, (G.exec g c).2, [c]⟩ := rfl

end Primitives

/-! ### Which commands a piece of code runs -/

section RunsOnly

variable {σ α β : Type}

/-- Every command `x` runs, from any guest, satisfies `P`. -/
def RunsOnly (P : Cmd → Prop) (x : Agent σ α) : Prop := ∀ g, ∀ c ∈ (x g).ran, P c

variable {P : Cmd → Prop}

theorem RunsOnly.pure (a : α) : RunsOnly (σ := σ) P (Pure.pure a) := fun _ _ h => by simp at h

theorem RunsOnly.read (f : σ → α) : RunsOnly P (read f) := fun _ _ h => by simp at h

theorem RunsOnly.run (G : Guest σ) {c : Cmd} (hc : P c) : RunsOnly P (run G c) := fun _ _ h => by
  simp only [run_apply, List.mem_singleton] at h; exact h ▸ hc

theorem RunsOnly.bind {x : Agent σ α} {f : α → Agent σ β} (hx : RunsOnly P x)
    (hf : ∀ a, RunsOnly P (f a)) : RunsOnly P (x >>= f) := fun g c h => by
  simp only [Agent.bind_apply, List.mem_append] at h
  exact h.elim (hx g c) (hf _ _ c)

theorem RunsOnly.ite {c : Prop} [Decidable c] {x y : Agent σ α} (hx : RunsOnly P x)
    (hy : RunsOnly P y) : RunsOnly P (if c then x else y) := by
  split <;> assumption

theorem RunsOnly.mono {Q : Cmd → Prop} {x : Agent σ α} (h : RunsOnly P x) (hPQ : ∀ c, P c → Q c) :
    RunsOnly Q x := fun g c hc => hPQ c (h g c hc)

end RunsOnly

/-! ### Which guests a piece of code leaves as they are -/

section Keeps

variable {σ α β : Type} (G : Guest σ)

/-- `x` leaves as it is every guest that the commands satisfying `P` leave as it is. -/
def Keeps (P : Cmd → Prop) (x : Agent σ α) : Prop :=
  ∀ g, (∀ c, P c → (G.exec g c).2 = g) → (x g).guest = g

variable {G} {P : Cmd → Prop}

theorem Keeps.pure (a : α) : Keeps G P (Pure.pure a) := fun _ _ => rfl

theorem Keeps.read (f : σ → α) : Keeps G P (read f) := fun _ _ => rfl

theorem Keeps.run {c : Cmd} (hc : P c) : Keeps G P (run G c) := fun _ hg => hg c hc

theorem Keeps.bind {x : Agent σ α} {f : α → Agent σ β} (hx : Keeps G P x)
    (hf : ∀ a, Keeps G P (f a)) : Keeps G P (x >>= f) := fun g hg => by
  simp only [Agent.bind_apply]
  rw [hx g hg]
  exact hf _ g hg

theorem Keeps.ite {c : Prop} [Decidable c] {x y : Agent σ α} (hx : Keeps G P x)
    (hy : Keeps G P y) : Keeps G P (if c then x else y) := by
  split <;> assumption

end Keeps

/-! ### The guest after agent code is the replay of its log -/

section Traced

variable {σ α β : Type} (G : Guest σ)

/-- The guest after the commands `cs`, run in order from `g`. -/
def execAll (g : σ) (cs : List Cmd) : σ := cs.foldl (fun g c => (G.exec g c).2) g

@[simp] theorem execAll_nil (g : σ) : execAll G g [] = g := rfl

@[simp] theorem execAll_cons (g : σ) (c : Cmd) (cs : List Cmd) :
    execAll G g (c :: cs) = execAll G (G.exec g c).2 cs := rfl

theorem execAll_append (g : σ) (cs ds : List Cmd) :
    execAll G g (cs ++ ds) = execAll G (execAll G g cs) ds :=
  List.foldl_append _ _ _ _

/-- `x` changes the guest only through the commands it logs: the guest after it is the guest after
those commands, run in order. -/
def Traced (x : Agent σ α) : Prop := ∀ g, (x g).guest = execAll G g (x g).ran

variable {G}

theorem Traced.pure (a : α) : Traced G (Pure.pure a) := fun _ => rfl

theorem Traced.read (f : σ → α) : Traced G (read f) := fun _ => rfl

theorem Traced.run (c : Cmd) : Traced G (run G c) := fun _ => rfl

theorem Traced.bind {x : Agent σ α} {f : α → Agent σ β} (hx : Traced G x)
    (hf : ∀ a, Traced G (f a)) : Traced G (x >>= f) := fun g => by
  simp only [Agent.bind_apply, execAll_append, ← hx g]
  exact hf _ _

theorem Traced.ite {c : Prop} [Decidable c] {x y : Agent σ α} (hx : Traced G x)
    (hy : Traced G y) : Traced G (if c then x else y) := by
  split <;> assumption

/-- A property of the guest that every command satisfying `P` keeps is kept by running such
commands. -/
theorem execAll_invariant {P : Cmd → Prop} {I : σ → Prop}
    (hI : ∀ g c, P c → I g → I (G.exec g c).2) :
    ∀ (cs : List Cmd) (g : σ), (∀ c ∈ cs, P c) → I g → I (execAll G g cs)
  | [], _, _, hg => hg
  | c :: cs, g, h, hg =>
    execAll_invariant hI cs _ (fun d hd => h d (.tail _ hd)) (hI g c (h c (.head _)) hg)

/-- **Invariants of the guest follow the log.** A property of the guest that every command
satisfying `P` keeps is kept by code that runs only such commands and changes the guest only
through them. -/
theorem Traced.invariant {P : Cmd → Prop} {x : Agent σ α} (ht : Traced G x) (hr : RunsOnly P x)
    {I : σ → Prop} (hI : ∀ g c, P c → I g → I (G.exec g c).2) {g : σ} (hg : I g) :
    I (x g).guest :=
  ht g ▸ execAll_invariant hI _ g (hr g) hg

end Traced

end LimaSpice.GuestAgent
