import LimaSpice.GuestAgent.Guest

/-!
# Detecting whether clipboard sharing can work

`DetectSpiceStatus` makes three checks, each of which answers `false` rather than fail: a virtio
console port, the `spice-vdagent` package, the `spice-vdagentd` service (checked only when the
package is there). It sets `ClipboardReady` to their conjunction and, when that is false,
`ErrorMessage` to a sentence listing the failing checks in that order. Every status it returns is
`Consistent`, and it runs only the four read-only queries.
-/

namespace LimaSpice.GuestAgent

open LimaSpice.Go

/-- `SpiceStatus`: the status of the SPICE-related services of the guest. -/
structure SpiceStatus where
  /-- Whether the `spice-vdagent` package is installed. -/
  agentInstalled : Bool
  /-- Whether the `spice-vdagentd` service is running. -/
  agentRunning : Bool
  /-- Whether `/dev/vport*` exists (virtio console). -/
  vPortExists : Bool
  /-- Whether clipboard sharing is functional. -/
  clipboardReady : Bool
  errorMessage : String
deriving DecidableEq, Repr

/-! ### The checks -/

/-- `dpkg -l spice-vdagent`, under a 2-second context. -/
def dpkgQuery : Cmd := ⟨"dpkg", ["-l", "spice-vdagent"], some 2⟩

/-- `rpm -q spice-vdagent`, under a 2-second context. -/
def rpmQuery : Cmd := ⟨"rpm", ["-q", "spice-vdagent"], some 2⟩

/-- `systemctl is-active spice-vdagentd`, under a 2-second context. -/
def isActiveQuery : Cmd := ⟨"systemctl", ["is-active", "spice-vdagentd"], some 2⟩

/-- `pgrep -x spice-vdagentd`, under the caller's context. -/
def pgrepQuery : Cmd := ⟨"pgrep", ["-x", "spice-vdagentd"], none⟩

/-- The commands the checks run; none of them changes the guest's packages or services. -/
def probes : List Cmd := [dpkgQuery, rpmQuery, isActiveQuery, pgrepQuery]

section Checks

variable {σ : Type} (G : Guest σ)

/-- `checkVirtioPort`: a `/dev/vport*` device, or else an entry under `/sys/class/virtio-ports`;
`false` as soon as `/dev` cannot be read. -/
def checkVirtioPort (g : σ) : Bool :=
  match G.readDir g "/dev" with
  | none => false
  | some entries =>
    entries.any (hasPrefix · "vport") ||
      (G.stat g "/sys/class/virtio-ports" &&
        match G.readDir g "/sys/class/virtio-ports" with
        | some es => 0 < es.length
        | none => false)

/-- `checkSpiceInstalled`: the daemon on the search path, or the package known to `dpkg`, or to
`rpm`. -/
def checkSpiceInstalled : Agent σ Bool := do
  if ← lookPath G "spice-vdagentd" then pure true else
  let dpkg ← run G dpkgQuery
  if dpkg.err.isNone then pure true else
  let rpm ← run G rpmQuery
  pure rpm.err.isNone

/-- `checkSpiceRunning`: `systemctl` reports the service `active`, or `pgrep` finds it. -/
def checkSpiceRunning : Agent σ Bool := do
  let active ← run G isActiveQuery
  if active.err.isNone && trimSpace active.output = "active" then pure true else
  let pgrep ← run G pgrepQuery
  pure pgrep.err.isNone

end Checks

/-! ### The status -/

/-- The reasons `buildErrorMessage` gives, in the order it checks them. -/
def reasons (status : SpiceStatus) : List String :=
  (if !status.vPortExists then ["virtio console port not found (host SPICE not configured)"]
    else []) ++
  (if !status.agentInstalled then ["spice-vdagent package not installed"] else []) ++
  (if status.agentInstalled && !status.agentRunning then ["spice-vdagentd service not running"]
    else [])

/-- `buildErrorMessage`: a sentence listing why the clipboard is not ready, empty if nothing. -/
def buildErrorMessage (status : SpiceStatus) : String :=
  if (reasons status).length = 0 then ""
  else "SPICE clipboard not ready: " ++ join (reasons status) "; "

/-- The status `DetectSpiceStatus` assembles from the answers of its three checks. -/
def SpiceStatus.ofChecks (vPort installed running : Bool) : SpiceStatus :=
  let status : SpiceStatus :=
    { vPortExists := vPort, agentInstalled := installed, agentRunning := running,
      clipboardReady := vPort && installed && running, errorMessage := "" }
  if !status.clipboardReady then { status with errorMessage := buildErrorMessage status }
  else status

section OfChecks

variable (vPort installed running : Bool)

@[simp] theorem SpiceStatus.ofChecks_vPortExists :
    (SpiceStatus.ofChecks vPort installed running).vPortExists = vPort := by
  dsimp only [SpiceStatus.ofChecks]; split <;> rfl

@[simp] theorem SpiceStatus.ofChecks_agentInstalled :
    (SpiceStatus.ofChecks vPort installed running).agentInstalled = installed := by
  dsimp only [SpiceStatus.ofChecks]; split <;> rfl

@[simp] theorem SpiceStatus.ofChecks_agentRunning :
    (SpiceStatus.ofChecks vPort installed running).agentRunning = running := by
  dsimp only [SpiceStatus.ofChecks]; split <;> rfl

@[simp] theorem SpiceStatus.ofChecks_clipboardReady :
    (SpiceStatus.ofChecks vPort installed running).clipboardReady = (vPort && installed && running) := by
  dsimp only [SpiceStatus.ofChecks]; split <;> rfl

end OfChecks

/-- `DetectSpiceStatus`: the checks, the service only when the package is installed. -/
def detectSpiceStatus {σ : Type} (G : Guest σ) : Agent σ SpiceStatus := do
  let vPort ← read (checkVirtioPort G)
  let installed ← checkSpiceInstalled G
  let running ← if installed then checkSpiceRunning G else pure false
  pure (SpiceStatus.ofChecks vPort installed running)

/-! ### Every detected status is consistent -/

/-- **A consistent status**: ready exactly when the three checks pass, the service running only
when the package is installed, and a message exactly when not ready. -/
structure SpiceStatus.Consistent (status : SpiceStatus) : Prop where
  ready : status.clipboardReady = (status.vPortExists && status.agentInstalled && status.agentRunning)
  running : status.agentRunning = true → status.agentInstalled = true
  message : status.errorMessage = "" ↔ status.clipboardReady = true

theorem reasons_eq_nil_iff (status : SpiceStatus) :
    reasons status = [] ↔
      status.vPortExists = true ∧ status.agentInstalled = true ∧ status.agentRunning = true := by
  obtain ⟨i, r, v, -, -⟩ := status
  cases v <;> cases i <;> cases r <;> simp [reasons]

/-- The message is empty exactly when no check fails. -/
theorem buildErrorMessage_eq_empty_iff (status : SpiceStatus) :
    buildErrorMessage status = "" ↔ reasons status = [] := by
  unfold buildErrorMessage
  split
  · simp_all
  · rename_i h
    simp only [List.length_eq_zero] at h
    simp [h, String.ext_iff]

theorem ofChecks_consistent {vPort installed running : Bool}
    (h : running = true → installed = true) :
    (SpiceStatus.ofChecks vPort installed running).Consistent := by
  simp only [SpiceStatus.ofChecks]
  split
  · refine ⟨rfl, h, ?_⟩
    simp only [buildErrorMessage_eq_empty_iff, reasons_eq_nil_iff]
    simp_all [and_assoc]
  · exact ⟨rfl, h, by simp_all⟩

section Detect

variable {σ : Type} (G : Guest σ)

theorem detectSpiceStatus_val (g : σ) :
    (detectSpiceStatus G g).val =
      SpiceStatus.ofChecks (checkVirtioPort G g) (checkSpiceInstalled G g).val
        (if (checkSpiceInstalled G g).val then
          (checkSpiceRunning G (checkSpiceInstalled G g).guest).val else false) := by
  simp only [detectSpiceStatus, Agent.bind_apply, read_apply, Agent.pure_apply]
  split <;> rfl

/-- **Detection is consistent.** From every guest, the status `DetectSpiceStatus` returns is
ready exactly when all three checks pass and carries a message exactly when it is not. -/
theorem detectSpiceStatus_consistent (g : σ) : (detectSpiceStatus G g).val.Consistent := by
  rw [detectSpiceStatus_val]
  exact ofChecks_consistent (by split <;> simp_all)

theorem checkSpiceInstalled_runsOnly : RunsOnly (· ∈ probes) (checkSpiceInstalled G) :=
  .bind (.read _) fun _ => .ite (.pure _) <| .bind (.run G (by simp [probes])) fun _ =>
    .ite (.pure _) <| .bind (.run G (by simp [probes])) fun _ => .pure _

theorem checkSpiceRunning_runsOnly : RunsOnly (· ∈ probes) (checkSpiceRunning G) :=
  .bind (.run G (by simp [probes])) fun _ => .ite (.pure _) <|
    .bind (.run G (by simp [probes])) fun _ => .pure _

theorem detectSpiceStatus_runsOnly : RunsOnly (· ∈ probes) (detectSpiceStatus G) :=
  .bind (.read _) fun _ => .bind (checkSpiceInstalled_runsOnly G) fun _ =>
    .ite (.bind (checkSpiceRunning_runsOnly G) fun _ => .pure _) (.bind (.pure _) fun _ => .pure _)

theorem checkSpiceInstalled_keeps : Keeps G (· ∈ probes) (checkSpiceInstalled G) :=
  .bind (.read _) fun _ => .ite (.pure _) <| .bind (.run (by simp [probes])) fun _ =>
    .ite (.pure _) <| .bind (.run (by simp [probes])) fun _ => .pure _

theorem checkSpiceRunning_keeps : Keeps G (· ∈ probes) (checkSpiceRunning G) :=
  .bind (.run (by simp [probes])) fun _ => .ite (.pure _) <|
    .bind (.run (by simp [probes])) fun _ => .pure _

/-- Detecting changes no guest that the read-only queries leave as it is. -/
theorem detectSpiceStatus_keeps : Keeps G (· ∈ probes) (detectSpiceStatus G) :=
  .bind (.read _) fun _ => .bind (checkSpiceInstalled_keeps G) fun _ =>
    .ite (.bind (checkSpiceRunning_keeps G) fun _ => .pure _) (.bind (.pure _) fun _ => .pure _)

theorem checkSpiceInstalled_traced : Traced G (checkSpiceInstalled G) :=
  .bind (.read _) fun _ => .ite (.pure _) <| .bind (.run _) fun _ =>
    .ite (.pure _) <| .bind (.run _) fun _ => .pure _

theorem checkSpiceRunning_traced : Traced G (checkSpiceRunning G) :=
  .bind (.run _) fun _ => .ite (.pure _) <| .bind (.run _) fun _ => .pure _

theorem detectSpiceStatus_traced : Traced G (detectSpiceStatus G) :=
  .bind (.read _) fun _ => .bind (checkSpiceInstalled_traced G) fun _ =>
    .ite (.bind (checkSpiceRunning_traced G) fun _ => .pure _) (.bind (.pure _) fun _ => .pure _)

end Detect

/-- `DetectSpiceStatus` off Linux: a fixed status, and nothing checked. -/
def detectSpiceStatusStub : SpiceStatus :=
  { agentInstalled := false, agentRunning := false, vPortExists := false, clipboardReady := false,
    errorMessage := "SPICE agent only available on Linux guests" }

end LimaSpice.GuestAgent
