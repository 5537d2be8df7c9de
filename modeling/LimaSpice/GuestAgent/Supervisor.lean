import LimaSpice.GuestAgent.Status

/-!
# Repairing the clipboard agent

`EnsureSpiceAgent` detects the status, gives up at once without a virtio port, and otherwise
installs the package and starts the service, each only when missing. `installSpiceAgent` goes
through a fixed table of package managers: a manager not on the search path is skipped, and so
is one whose install command fails. The first install that succeeds ends the loop.
-/

namespace LimaSpice.GuestAgent

/-- One row of `installSpiceAgent`'s table: a package manager, its install arguments and the
package. -/
structure PackageManager where
  cmd : String
  args : List String
  pkgName : String
deriving DecidableEq, Repr

/-- The package managers `installSpiceAgent` tries, in order. -/
def packageManagers : List PackageManager :=
  [⟨"apt-get", ["install", "-y"], "spice-vdagent"⟩,
   ⟨"dnf", ["install", "-y"], "spice-vdagent"⟩,
   ⟨"yum", ["install", "-y"], "spice-vdagent"⟩,
   ⟨"zypper", ["install", "-y"], "spice-vdagent"⟩,
   ⟨"pacman", ["-S", "--noconfirm"], "spice-vdagent"⟩]

/-- The install command of a row, `append(pm.args, pm.pkgName)`, under a 60-second context. -/
def PackageManager.installCmd (pm : PackageManager) : Cmd :=
  ⟨pm.cmd, pm.args ++ [pm.pkgName], some 60⟩

/-- `systemctl enable spice-vdagentd`, under a 10-second context. -/
def enableCmd : Cmd := ⟨"systemctl", ["enable", "spice-vdagentd"], some 10⟩

/-- `systemctl start spice-vdagentd`, under a 10-second context. -/
def startCmd : Cmd := ⟨"systemctl", ["start", "spice-vdagentd"], some 10⟩

section Supervisor

variable {σ : Type} (G : Guest σ)

/-- The loop of `installSpiceAgent` over a table of package managers. -/
def installWith : List PackageManager → Agent σ (Option String)
  | [] => pure (some "no supported package manager found or installation failed")
  | pm :: pms => do
    if !(← lookPath G pm.cmd) then installWith pms else
    let out ← run G pm.installCmd
    if out.err.isSome then installWith pms else pure none

/-- `installSpiceAgent`. -/
def installSpiceAgent : Agent σ (Option String) := installWith G packageManagers

/-- `startSpiceService`: enable the service (a failure is only logged), start it, and check that
it runs. The half-second pause before the check is not modelled: the guest after `startCmd` is
the one the check sees. -/
def startSpiceService : Agent σ (Option String) := do
  let _ ← run G enableCmd
  let start ← run G startCmd
  match start.err with
  | some e =>
    pure (some ("failed to start spice-vdagentd: " ++ e ++ " (output: " ++ start.output ++ ")"))
  | none => do
    let running ← checkSpiceRunning G
    pure (if running then none else some "service started but not running")

/-- The install phase of `EnsureSpiceAgent`. -/
def installPhase (status : SpiceStatus) : Agent σ (Option String) :=
  if status.agentInstalled then pure none else do
    match ← installSpiceAgent G with
    | some e => pure (some ("failed to install spice-vdagent: " ++ e))
    | none => pure none

/-- The start phase of `EnsureSpiceAgent`. The source marks the package installed after the
install phase, but reads only `AgentRunning` afterwards, which the install leaves as detected. -/
def startPhase (status : SpiceStatus) : Agent σ (Option String) :=
  if status.agentRunning then pure none else do
    match ← startSpiceService G with
    | some e => pure (some ("failed to start spice-vdagentd: " ++ e))
    | none => pure none

/-- `EnsureSpiceAgent`: detect, then install and start what is missing. -/
def ensureSpiceAgent : Agent σ (Option String) := do
  let status ← detectSpiceStatus G
  if status.clipboardReady then pure none
  else if !status.vPortExists then
    pure (some "virtio console port not available (host SPICE not configured)")
  else do
    match ← installPhase G status with
    | some e => pure (some e)
    | none => startPhase G status

/-! ### One step of the install loop -/

theorem installWith_nil (g : σ) :
    installWith G [] g = ⟨some "no supported package manager found or installation failed", g, []⟩ :=
  rfl

theorem installWith_cons (pm : PackageManager) (pms : List PackageManager) (g : σ) :
    installWith G (pm :: pms) g =
      if G.lookPath g pm.cmd then
        if (G.exec g pm.installCmd).1.err.isSome then
          ⟨(installWith G pms (G.exec g pm.installCmd).2).val,
            (installWith G pms (G.exec g pm.installCmd).2).guest,
            pm.installCmd :: (installWith G pms (G.exec g pm.installCmd).2).ran⟩
        else ⟨none, (G.exec g pm.installCmd).2, [pm.installCmd]⟩
      else installWith G pms g := by
  by_cases h₁ : G.lookPath g pm.cmd = true <;>
    by_cases h₂ : (G.exec g pm.installCmd).1.err.isSome = true <;> simp [installWith, h₁, h₂]

/-! ### The phases of the repair -/

theorem ensureSpiceAgent_apply (g : σ) :
    ensureSpiceAgent G g =
      if (detectSpiceStatus G g).val.clipboardReady then
        ⟨none, (detectSpiceStatus G g).guest, (detectSpiceStatus G g).ran⟩
      else if !(detectSpiceStatus G g).val.vPortExists then
        ⟨some "virtio console port not available (host SPICE not configured)",
          (detectSpiceStatus G g).guest, (detectSpiceStatus G g).ran⟩
      else
        let i := installPhase G (detectSpiceStatus G g).val (detectSpiceStatus G g).guest
        match i.val with
        | some e => ⟨some e, i.guest, (detectSpiceStatus G g).ran ++ i.ran⟩
        | none =>
          let s := startPhase G (detectSpiceStatus G g).val i.guest
          ⟨s.val, s.guest, (detectSpiceStatus G g).ran ++ (i.ran ++ s.ran)⟩ := by
  simp only [ensureSpiceAgent, Agent.bind_apply]
  split
  · simp
  · split
    · simp
    · simp only [Agent.bind_apply]
      split <;> simp_all

/-- A repair that succeeds found the clipboard ready, or found the port and got through both of
its phases. -/
theorem ensureSpiceAgent_ok_cases {g : σ} (h : (ensureSpiceAgent G g).val = none) :
    let d := detectSpiceStatus G g
    let i := installPhase G d.val d.guest
    d.val.clipboardReady = true ∧ (ensureSpiceAgent G g).guest = d.guest ∨
      d.val.clipboardReady = false ∧ d.val.vPortExists = true ∧ i.val = none ∧
        (startPhase G d.val i.guest).val = none ∧
        (ensureSpiceAgent G g).guest = (startPhase G d.val i.guest).guest := by
  rw [ensureSpiceAgent_apply] at h ⊢
  dsimp only at h ⊢
  split_ifs at h ⊢ with hr hv
  · exact .inl ⟨hr, rfl⟩
  · rcases hi : (installPhase G (detectSpiceStatus G g).val (detectSpiceStatus G g).guest).val
      with _ | e
    · simp only [hi] at h ⊢
      exact .inr ⟨by simpa using hr, by simpa using hv, trivial, h, trivial⟩
    · simp [hi] at h

theorem installPhase_missing {status : SpiceStatus} (h : status.agentInstalled = false) (g : σ) :
    installPhase G status g =
      ⟨(installSpiceAgent G g).val.map ("failed to install spice-vdagent: " ++ ·),
        (installSpiceAgent G g).guest, (installSpiceAgent G g).ran⟩ := by
  simp only [installPhase, h, Bool.false_eq_true, if_false, Agent.bind_apply]
  cases (installSpiceAgent G g).val <;> simp

/-! ### What a repair runs, and how it fails -/

theorem installWith_runsOnly (pms : List PackageManager) :
    RunsOnly (· ∈ pms.map PackageManager.installCmd) (installWith G pms) := by
  induction pms with
  | nil => exact .pure _
  | cons pm pms ih =>
    intro g c hc
    rw [installWith_cons] at hc
    split_ifs at hc
    · simp only [List.mem_cons] at hc
      exact hc.elim (fun h => by simp [h]) fun h => List.mem_cons_of_mem _ (ih _ c h)
    · simp_all
    · exact List.mem_cons_of_mem _ (ih g c hc)

/-- The commands a repair may run: the read-only queries, the install command of a row of the
table, and the two `systemctl` requests. -/
def repairCmds : List Cmd :=
  probes ++ packageManagers.map PackageManager.installCmd ++ [enableCmd, startCmd]

theorem startSpiceService_runsOnly : RunsOnly (· ∈ repairCmds) (startSpiceService G) :=
  .bind (.run G (by simp [repairCmds])) fun _ => .bind (.run G (by simp [repairCmds])) fun r =>
    match r.err with
    | some _ => .pure _
    | none => .bind ((checkSpiceRunning_runsOnly G).mono fun c h => by simp [repairCmds, h])
        fun _ => .pure _

theorem ensureSpiceAgent_runsOnly : RunsOnly (· ∈ repairCmds) (ensureSpiceAgent G) := by
  refine .bind ((detectSpiceStatus_runsOnly G).mono fun c h => by simp [repairCmds, h])
    fun status => .ite (.pure _) (.ite (.pure _) (.bind ?_ fun r => ?_))
  · exact .ite (.pure _) (.bind ((installWith_runsOnly G _).mono fun c h => by
      simp [repairCmds, h]) fun r => by cases r <;> exact .pure _)
  · cases r
    · exact .ite (.pure _) (.bind (startSpiceService_runsOnly G) fun r => by cases r <;> exact .pure _)
    · exact .pure _

theorem startPhase_runsOnly (status : SpiceStatus) : RunsOnly (· ∈ repairCmds) (startPhase G status) :=
  .ite (.pure _) (.bind (startSpiceService_runsOnly G) fun r => by cases r <;> exact .pure _)

theorem installWith_traced (pms : List PackageManager) : Traced G (installWith G pms) := by
  induction pms with
  | nil => exact .pure _
  | cons pm pms ih => exact .bind (.read _) fun _ => .ite ih (.bind (.run _) fun _ => .ite ih (.pure _))

theorem startSpiceService_traced : Traced G (startSpiceService G) :=
  .bind (.run _) fun _ => .bind (.run _) fun r =>
    match r.err with
    | some _ => .pure _
    | none => .bind (checkSpiceRunning_traced G) fun _ => .pure _

theorem startPhase_traced (status : SpiceStatus) : Traced G (startPhase G status) :=
  .ite (.pure _) (.bind (startSpiceService_traced G) fun r => by cases r <;> exact .pure _)

theorem installPhase_traced (status : SpiceStatus) : Traced G (installPhase G status) :=
  .ite (.pure _) (.bind (installWith_traced G _) fun r => by cases r <;> exact .pure _)

theorem ensureSpiceAgent_traced : Traced G (ensureSpiceAgent G) :=
  .bind (detectSpiceStatus_traced G) fun status =>
    .ite (.pure _) (.ite (.pure _) (.bind (installPhase_traced G status) fun r => by
      cases r
      · exact startPhase_traced G status
      · exact .pure _))

end Supervisor

/-! ### The install loop against an unchanging guest -/

/-- In a guest whose answers never change, the rows whose manager is on the search path. -/
def onPath (G : Guest Unit) (pms : List PackageManager) : List PackageManager :=
  pms.filter (G.lookPath () ·.cmd)

/-- In a guest whose answers never change, whether a row's install command succeeds. -/
def installs (G : Guest Unit) (pm : PackageManager) : Bool :=
  (G.exec () pm.installCmd).1.err.isNone

theorem installWith_unchanging (G : Guest Unit) (pms : List PackageManager) :
    (installWith G pms ()).ran =
        ((onPath G pms).takeWhile (!installs G ·) ++ ((onPath G pms).find? (installs G)).toList).map
          PackageManager.installCmd ∧
      (installWith G pms ()).val =
        if ((onPath G pms).find? (installs G)).isSome then none
        else some "no supported package manager found or installation failed" := by
  induction pms with
  | nil => simp [installWith_nil, onPath]
  | cons pm pms ih =>
    rw [installWith_cons]
    by_cases hl : G.lookPath () pm.cmd = true
    · have hf : onPath G (pm :: pms) = pm :: onPath G pms := by simp [onPath, hl]
      by_cases hw : installs G pm = true
      · have he : (G.exec () pm.installCmd).1.err.isSome = false := by
          simpa [installs, Option.isNone_iff_eq_none] using hw
        simp [hl, he, hf, hw]
      · have he : (G.exec () pm.installCmd).1.err.isSome = true := by
          simpa [installs, Option.isNone_iff_eq_none, Option.isSome_iff_ne_none] using hw
        simpa [hl, he, hf, hw] using ih
    · have hf : onPath G (pm :: pms) = onPath G pms := by simp [onPath, hl]
      simpa [hl, hf] using ih

theorem installSpiceAgent_none_installs {G : Guest Unit}
    (h : (onPath G packageManagers).find? (installs G) = none) :
    installSpiceAgent G () = ⟨some "no supported package manager found or installation failed", (),
      (onPath G packageManagers).map PackageManager.installCmd⟩ := by
  obtain ⟨hran, hval⟩ := installWith_unchanging G packageManagers
  have hall : (onPath G packageManagers).takeWhile (!installs G ·) = onPath G packageManagers :=
    List.takeWhile_eq_self_iff.2 fun pm hpm => by simpa using List.find?_eq_none.1 h pm hpm
  rw [h, hall, Option.toList_none, List.append_nil] at hran
  rw [h] at hval
  show installWith G packageManagers () = _
  rcases hO : installWith G packageManagers () with ⟨v, u, r⟩
  simp_all

/-- **The install loop tries every manager on the path until one installs.** Against a guest
whose answers never change, and for any table: the install commands run are those of the rows
whose manager is on the search path, in order, up to and including the first that succeeds; the
result is `nil` exactly when one succeeds, and otherwise the loop's own fixed error, not the
failure of any command. So `EnsureSpiceAgent`, with the port there and the package missing and
no install succeeding, runs the install of every manager on the path and reports that error. -/
theorem installWith_tries_each_on_path (G : Guest Unit) (pms : List PackageManager) :
    (installWith G pms ()).ran =
        ((onPath G pms).takeWhile (!installs G ·) ++ ((onPath G pms).find? (installs G)).toList).map
          PackageManager.installCmd ∧
      (installWith G pms ()).val =
        (if ((onPath G pms).find? (installs G)).isSome then none
        else some "no supported package manager found or installation failed") ∧
      ((detectSpiceStatus G ()).val.vPortExists = true →
        (detectSpiceStatus G ()).val.agentInstalled = false →
        (onPath G packageManagers).find? (installs G) = none →
        (ensureSpiceAgent G ()).val = some ("failed to install spice-vdagent: " ++
            "no supported package manager found or installation failed") ∧
          (ensureSpiceAgent G ()).ran = (detectSpiceStatus G ()).ran ++
            (onPath G packageManagers).map PackageManager.installCmd) := by
  refine ⟨(installWith_unchanging G pms).1, (installWith_unchanging G pms).2, fun hv hi hn => ?_⟩
  have hr : (detectSpiceStatus G ()).val.clipboardReady = false := by
    rw [(detectSpiceStatus_consistent G ()).ready, hi]; simp
  rw [ensureSpiceAgent_apply]
  simp only [hr, hv, installPhase_missing G hi, installSpiceAgent_none_installs hn]
  simp

theorem installWith_tries_each_apt_fails :
    (ensureSpiceAgent (⟨fun _ d => if d = "/dev" then some ["vport0p1"] else none, fun _ _ => false,
        fun _ n => n = "apt-get", fun _ _ => (⟨some "exit status 100", ""⟩, ())⟩ : Guest Unit) ()).val =
      some ("failed to install spice-vdagent: " ++
        "no supported package manager found or installation failed") :=
  ((installWith_tries_each_on_path
    ⟨fun _ d => if d = "/dev" then some ["vport0p1"] else none, fun _ _ => false,
      fun _ n => n = "apt-get", fun _ _ => (⟨some "exit status 100", ""⟩, ())⟩ packageManagers).2.2
    (by decide) (by decide) (by decide)).1

/-- With `dnf` on the path but failing and `yum` on the path and working, both install commands
run and the loop reports success. -/
theorem installSpiceAgent_dnf_fails_yum_installs :
    installSpiceAgent
      ⟨fun _ _ => none, fun _ _ => false, fun _ n => n = "dnf" || n = "yum",
        fun _ c => (⟨if c.name = "yum" then none else some "exit status 1", ""⟩, ())⟩ () =
      ⟨none, (), [⟨"dnf", ["install", "-y", "spice-vdagent"], some 60⟩,
        ⟨"yum", ["install", "-y", "spice-vdagent"], some 60⟩]⟩ := by
  decide

end LimaSpice.GuestAgent
