import LimaSpice.GuestAgent.Display

/-!
# Runs of polls against an honest guest

The guest agent calls `DetectGUIInfo` again and again. Each poll repairs the clipboard agent when
it finds the port but not a ready clipboard, and then detects again. What a repair achieves depends
on the guest, and the code takes some of it for granted: that its queries change nothing, that none
of its commands takes the port away or removes the package, and that an install that exits zero
installs the package. `Guest.Honest` gathers these assumptions; they are the guest's, not the
agent's. `Guest.Repairable` adds that a package manager of the table installs and that
`systemctl start` runs the service once the package is there.

Against an honest guest a ready clipboard, once reported, is reported in every later poll, the
guest no longer changes and only read-only tools run; against a repairable one every poll reports
it ready.
-/

namespace LimaSpice.GuestAgent

/-- **An honest guest**: what the repair takes for granted of the guest. The four queries change
nothing; no command of a repair takes the virtio port away or uninstalls the package; and an install
command of the table that exits zero leaves the package detected. -/
structure Guest.Honest {σ : Type} (G : Guest σ) : Prop where
  queries : ∀ g, ∀ c ∈ probes, (G.exec g c).2 = g
  port : ∀ g, ∀ c ∈ repairCmds, checkVirtioPort G (G.exec g c).2 = checkVirtioPort G g
  keepsPackage : ∀ g, ∀ c ∈ repairCmds,
    (checkSpiceInstalled G g).val = true → (checkSpiceInstalled G (G.exec g c).2).val = true
  install : ∀ g, ∀ pm ∈ packageManagers, (G.exec g pm.installCmd).1.err = none →
    (checkSpiceInstalled G (G.exec g pm.installCmd).2).val = true

/-- **A repairable guest**: a package manager of the table is on the search path and installs, and
`systemctl start` succeeds and leaves the service running once the package is installed, whatever
the state. -/
structure Guest.Repairable {σ : Type} (G : Guest σ) : Prop where
  manager : ∃ pm ∈ packageManagers, ∀ g,
    G.lookPath g pm.cmd = true ∧ (G.exec g pm.installCmd).1.err = none
  start : ∀ g, (checkSpiceInstalled G g).val = true →
    (G.exec g startCmd).1.err = none ∧ (checkSpiceRunning G (G.exec g startCmd).2).val = true

/-- The report of a guest whose clipboard sharing works. -/
def SpiceAgentInfo.healthy : SpiceAgentInfo := ⟨true, true, true, true, ""⟩

theorem SpiceStatus.Consistent.update_healthy {status : SpiceStatus} (h : status.Consistent)
    (hr : status.clipboardReady = true) {info : SpiceAgentInfo} (hv : info.vportExists = true) :
    info.update status = .healthy := by
  have hm := h.message.2 hr
  rw [h.ready] at hr
  simp only [Bool.and_eq_true] at hr
  cases info
  simp_all [SpiceAgentInfo.update, SpiceAgentInfo.healthy, h.ready]

theorem SpiceStatus.Consistent.ofStatus_healthy {status : SpiceStatus} (h : status.Consistent)
    (hr : status.clipboardReady = true) : SpiceAgentInfo.ofStatus status = .healthy := by
  have hv : (SpiceAgentInfo.ofStatus status).vportExists = true := by
    simp only [h.ready, Bool.and_eq_true] at hr; exact hr.1.1
  exact h.update_healthy hr hv

section Healing

variable {σ : Type} {G : Guest σ}

/-! ### The checks against an honest guest -/

theorem Guest.Honest.detect_guest (hG : G.Honest) (g : σ) : (detectSpiceStatus G g).guest = g :=
  detectSpiceStatus_keeps G g (hG.queries g)

theorem Guest.Honest.running_guest (hG : G.Honest) (g : σ) : (checkSpiceRunning G g).guest = g :=
  checkSpiceRunning_keeps G g (hG.queries g)

theorem Guest.Honest.ready_iff (hG : G.Honest) (g : σ) :
    (detectSpiceStatus G g).val.clipboardReady = true ↔ checkVirtioPort G g = true ∧
      (checkSpiceInstalled G g).val = true ∧ (checkSpiceRunning G g).val = true := by
  have hi : (checkSpiceInstalled G g).guest = g := checkSpiceInstalled_keeps G g (hG.queries g)
  rw [detectSpiceStatus_val, hi]
  cases (checkSpiceInstalled G g).val <;> simp

/-! ### What each phase of a repair leaves -/

theorem Guest.Honest.ensure_port (hG : G.Honest) (g : σ) :
    checkVirtioPort G (ensureSpiceAgent G g).guest = checkVirtioPort G g :=
  (ensureSpiceAgent_traced G).invariant (ensureSpiceAgent_runsOnly G)
    (I := fun g' => checkVirtioPort G g' = checkVirtioPort G g)
    (fun g' c hc h => (hG.port g' c hc).trans h) rfl

theorem Guest.Honest.installWith_installs (hG : G.Honest) :
    ∀ (pms : List PackageManager) (g : σ), (∀ pm ∈ pms, pm ∈ packageManagers) →
      (installWith G pms g).val = none → (checkSpiceInstalled G (installWith G pms g).guest).val = true
  | [], g, _, h => by simp [installWith_nil] at h
  | pm :: pms, g, hp, h => by
    rw [installWith_cons] at h ⊢
    split_ifs at h ⊢ with hl he
    · exact hG.installWith_installs pms _ (fun q hq => hp q (.tail _ hq)) h
    · exact hG.install g pm (hp pm (.head _)) (by simpa using he)
    · exact hG.installWith_installs pms g (fun q hq => hp q (.tail _ hq)) h

theorem Guest.Honest.installPhase_package (hG : G.Honest) {status : SpiceStatus} {g : σ}
    (hs : status.agentInstalled = (checkSpiceInstalled G g).val)
    (h : (installPhase G status g).val = none) :
    (checkSpiceInstalled G (installPhase G status g).guest).val = true := by
  cases hi : status.agentInstalled
  · rw [installPhase_missing G hi] at h ⊢
    simp only [Option.map_eq_none'] at h
    exact hG.installWith_installs packageManagers g (fun _ => id) h
  · simpa [installPhase, hi] using hs.symm

theorem Guest.Honest.startPhase_package (hG : G.Honest) (status : SpiceStatus) {g : σ}
    (h : (checkSpiceInstalled G g).val = true) :
    (checkSpiceInstalled G (startPhase G status g).guest).val = true :=
  (startPhase_traced G status).invariant (startPhase_runsOnly G status)
    (I := fun g => (checkSpiceInstalled G g).val = true) (fun g c hc => hG.keepsPackage g c hc) h

theorem Guest.Honest.startSpiceService_running (hG : G.Honest) {g : σ}
    (h : (startSpiceService G g).val = none) :
    (checkSpiceRunning G (startSpiceService G g).guest).val = true := by
  simp only [startSpiceService, Agent.bind_apply, run_apply] at h ⊢
  rcases hs : (G.exec (G.exec g enableCmd).2 startCmd).1.err with _ | e
  · simp only [hs, Agent.bind_apply, Agent.pure_apply, ite_eq_left_iff, reduceCtorEq, imp_false,
      not_not] at h ⊢
    rwa [hG.running_guest]
  · simp [hs] at h

theorem Guest.Honest.startPhase_running (hG : G.Honest) {status : SpiceStatus} {g : σ}
    (hr : status.agentRunning = false) (h : (startPhase G status g).val = none) :
    (checkSpiceRunning G (startPhase G status g).guest).val = true := by
  simp only [startPhase, hr, Bool.false_eq_true, if_false, Agent.bind_apply] at h ⊢
  rcases he : (startSpiceService G g).val with _ | e
  · simp only [he, Agent.pure_apply]
    exact hG.startSpiceService_running he
  · simp [he] at h

/-! ### One repair -/

/-- Against an honest guest, when `EnsureSpiceAgent` reports success, detecting again finds the
port, the package and the running service. -/
theorem ensureSpiceAgent_heals (hG : G.Honest) {g : σ} (h : (ensureSpiceAgent G g).val = none) :
    (detectSpiceStatus G (ensureSpiceAgent G g).guest).val.clipboardReady = true := by
  rcases ensureSpiceAgent_ok_cases G h with ⟨hr, he⟩ | ⟨hr, hv, hi, hs, he⟩
  · rwa [he, hG.detect_guest]
  -- the port stays, the install phase installed, and the start phase ran and saw the service
  have hc := detectSpiceStatus_consistent G g
  have hval := detectSpiceStatus_val G g
  have hd := hG.detect_guest g
  have hport : checkVirtioPort G g = true := by simpa [hval] using hv
  have hinst : (detectSpiceStatus G g).val.agentInstalled = (checkSpiceInstalled G g).val := by
    simp [hval]
  have hrun : (detectSpiceStatus G g).val.agentRunning = false := by
    cases hrn : (detectSpiceStatus G g).val.agentRunning
    · rfl
    · rw [hc.ready, hv, hc.running hrn, hrn] at hr; cases hr
  rw [hG.ready_iff, hG.ensure_port, he]
  refine ⟨hport, hG.startPhase_package _ (hG.installPhase_package ?_ hi), hG.startPhase_running hrun hs⟩
  rwa [hd]

theorem installWith_succeeds {pm : PackageManager}
    (hpm : ∀ g, G.lookPath g pm.cmd = true ∧ (G.exec g pm.installCmd).1.err = none) :
    ∀ (pms : List PackageManager) (g : σ), pm ∈ pms → (installWith G pms g).val = none
  | pm' :: pms, g, hm => by
    rw [installWith_cons]
    rcases List.mem_cons.1 hm with rfl | hm
    · simp [hpm g]
    · split_ifs
      · exact installWith_succeeds hpm pms _ hm
      · rfl
      · exact installWith_succeeds hpm pms g hm

theorem Guest.Repairable.start_ok (hR : G.Repairable) (hG : G.Honest) {g : σ}
    (h : (checkSpiceInstalled G g).val = true) : (startSpiceService G g).val = none := by
  have he := hG.keepsPackage g enableCmd (by simp [repairCmds]) h
  obtain ⟨hs, hr⟩ := hR.start _ he
  simp [startSpiceService, hs, hr]

theorem ensureSpiceAgent_succeeds (hG : G.Honest) (hR : G.Repairable) {g : σ}
    (hv : checkVirtioPort G g = true) : (ensureSpiceAgent G g).val = none := by
  have hd := hG.detect_guest g
  have hval := detectSpiceStatus_val G g
  have hinst : (detectSpiceStatus G g).val.agentInstalled = (checkSpiceInstalled G g).val := by
    simp [hval]
  have hi : (installPhase G (detectSpiceStatus G g).val (detectSpiceStatus G g).guest).val = none := by
    cases h : (detectSpiceStatus G g).val.agentInstalled
    · obtain ⟨pm, hpm, hpm'⟩ := hR.manager
      rw [installPhase_missing G h]
      simp [installSpiceAgent, installWith_succeeds hpm' _ _ hpm]
    · simp [installPhase, h]
  have hvp : (detectSpiceStatus G g).val.vPortExists = true := by simp [hval, hv]
  -- the package is there after the install phase, so the start phase succeeds
  have hp := hG.installPhase_package (by rwa [hd]) hi
  rw [ensureSpiceAgent_apply]
  split_ifs with hr hn
  · rfl
  · simp [hvp] at hn
  · simp only [hi, startPhase]
    split_ifs
    · rfl
    · simp [hR.start_ok hG hp]

/-! ### One poll -/

theorem detectSpiceInfo_of_ready (hG : G.Honest) {g : σ}
    (hr : (detectSpiceStatus G g).val.clipboardReady = true) :
    detectSpiceInfo G g = ⟨.healthy, g, (detectSpiceStatus G g).ran⟩ := by
  rw [detectSpiceInfo_apply]
  simp only [hr, Bool.not_true, Bool.and_false, if_false, Bool.false_eq_true,
    (detectSpiceStatus_consistent G g).ofStatus_healthy hr, hG.detect_guest]

/-- A poll that reports the clipboard ready reports `healthy`, and leaves a guest where the next
detection finds it ready. -/
theorem detectSpiceInfo_ready (hG : G.Honest) {g : σ}
    (h : (detectSpiceInfo G g).val.clipboardReady = true) :
    (detectSpiceInfo G g).val = .healthy ∧
      (detectSpiceStatus G (detectSpiceInfo G g).guest).val.clipboardReady = true := by
  by_cases hr : (detectSpiceStatus G g).val.clipboardReady = true
  · rw [detectSpiceInfo_of_ready hG hr]
    exact ⟨rfl, hr⟩
  simp only [Bool.not_eq_true] at hr
  rw [detectSpiceInfo_apply] at h ⊢
  cases hv : (detectSpiceStatus G g).val.vPortExists
  · simp [hv, hr, SpiceAgentInfo.ofStatus] at h
  simp only [hv, hr, Bool.not_false, Bool.and_self, if_true] at h ⊢
  rcases he : (ensureSpiceAgent G (detectSpiceStatus G g).guest).val with _ | e
  · simp only [he] at h ⊢
    exact ⟨(detectSpiceStatus_consistent G _).update_healthy h hv, by rwa [hG.detect_guest]⟩
  · simp [he, SpiceAgentInfo.ofStatus, hr] at h

theorem detectSpiceInfo_repairable (hG : G.Honest) (hR : G.Repairable) {g : σ}
    (hv : checkVirtioPort G g = true) : (detectSpiceInfo G g).val.clipboardReady = true := by
  by_cases hr : (detectSpiceStatus G g).val.clipboardReady = true
  · rw [detectSpiceInfo_of_ready hG hr]; rfl
  simp only [Bool.not_eq_true] at hr
  have hvp : (detectSpiceStatus G g).val.vPortExists = true := by
    simp [detectSpiceStatus_val, hv]
  have he : (ensureSpiceAgent G (detectSpiceStatus G g).guest).val = none := by
    rw [hG.detect_guest]; exact ensureSpiceAgent_succeeds hG hR hv
  rw [detectSpiceInfo_apply]
  simp only [hvp, hr, Bool.not_false, Bool.and_self, if_true, he]
  exact ensureSpiceAgent_heals hG he

/-! ### Runs of polls -/

variable (D : Desktop)

/-- `n` polls of `DetectGUIInfo` in a row, nothing else happening to the guest in between: the
reports, in order. -/
def pollGUIInfo (G : Guest σ) : Nat → Agent σ (List GUIInfo)
  | 0 => pure []
  | n + 1 => do
    let info ← detectGUIInfo D G
    let infos ← pollGUIInfo G n
    pure (info :: infos)

theorem pollGUIInfo_succ (n : Nat) (g : σ) :
    pollGUIInfo D G (n + 1) g =
      ⟨(detectGUIInfo D G g).val :: (pollGUIInfo D G n (detectGUIInfo D G g).guest).val,
        (pollGUIInfo D G n (detectGUIInfo D G g).guest).guest,
        (detectGUIInfo D G g).ran ++ (pollGUIInfo D G n (detectGUIInfo D G g).guest).ran⟩ := by
  simp [pollGUIInfo]

/-- A run of `a + b` polls is a run of `a` polls, then a run of `b` polls from where it left. -/
theorem pollGUIInfo_add (b : Nat) : ∀ (a : Nat) (g : σ),
    pollGUIInfo D G (a + b) g =
      ⟨(pollGUIInfo D G a g).val ++ (pollGUIInfo D G b (pollGUIInfo D G a g).guest).val,
        (pollGUIInfo D G b (pollGUIInfo D G a g).guest).guest,
        (pollGUIInfo D G a g).ran ++ (pollGUIInfo D G b (pollGUIInfo D G a g).guest).ran⟩
  | 0, g => by simp [pollGUIInfo]
  | a + 1, g => by
    rw [Nat.add_right_comm, pollGUIInfo_succ, pollGUIInfo_add b a, pollGUIInfo_succ]
    simp

theorem pollGUIInfo_of_ready (hG : G.Honest) {g : σ}
    (hr : (detectSpiceStatus G g).val.clipboardReady = true) (n : Nat) :
    pollGUIInfo D G n g = ⟨List.replicate n { displayInfo D with spice := some .healthy }, g,
      (List.replicate n ((detectDisplay D).ran ++ (detectSpiceStatus G g).ran)).flatten⟩ := by
  induction n with
  | zero => rfl
  | succ n ih =>
    simp only [pollGUIInfo_succ, detectGUIInfo_apply, detectSpiceInfo_of_ready hG hr, ih,
      List.replicate_succ, List.flatten_cons]

theorem pollGUIInfo_leaves_ready (hG : G.Honest) : ∀ (a : Nat) (g : σ),
    (∃ r ∈ (pollGUIInfo D G a g).val, r.spice.map (·.clipboardReady) = some true) →
      (detectSpiceStatus G (pollGUIInfo D G a g).guest).val.clipboardReady = true
  | 0, _, ⟨_, hr, _⟩ => by simp [pollGUIInfo] at hr
  | a + 1, g, ⟨r, hr, hready⟩ => by
    rw [pollGUIInfo_succ] at hr ⊢
    rcases List.mem_cons.1 hr with rfl | hr
    · -- the first poll reports ready: every later poll leaves its guest as it is
      rw [detectGUIInfo_apply] at hready ⊢
      simp only [Option.map_some', Option.some.injEq] at hready
      have hnext := (detectSpiceInfo_ready hG hready).2
      rwa [pollGUIInfo_of_ready D hG hnext]
    · exact pollGUIInfo_leaves_ready hG a _ ⟨r, hr, hready⟩

/-- From where a run of polls leaves a ready clipboard, the run goes on healthy. -/
theorem pollGUIInfo_add_of_ready (hG : G.Honest) {a : Nat} {g : σ}
    (hr : (detectSpiceStatus G (pollGUIInfo D G a g).guest).val.clipboardReady = true) (b : Nat) :
    (pollGUIInfo D G (a + b) g).val =
        (pollGUIInfo D G a g).val ++ List.replicate b { displayInfo D with spice := some .healthy } ∧
      (pollGUIInfo D G (a + b) g).guest = (pollGUIInfo D G a g).guest ∧
      ∃ rest, (pollGUIInfo D G (a + b) g).ran = (pollGUIInfo D G a g).ran ++ rest ∧
        ∀ c ∈ rest, c ∈ displayTools ∨ c ∈ probes := by
  rw [pollGUIInfo_add, pollGUIInfo_of_ready D hG hr]
  refine ⟨rfl, rfl, _, rfl, fun c hc => ?_⟩
  obtain ⟨l, hl, hc⟩ := List.mem_flatten.1 hc
  rw [List.eq_of_mem_replicate hl, List.mem_append] at hc
  exact hc.imp (detectDisplay_runsOnly D c) (detectSpiceStatus_runsOnly G _ c)

/-- **A ready clipboard stays ready.** Against an honest guest, once a poll of a run reports the
clipboard ready, every later poll reports the display as it is and the SPICE part healthy, the
guest no longer changes, and the polls run only display tools and read-only queries. -/
theorem pollGUIInfo_ready_stable (hG : G.Honest) {a : Nat} {g : σ}
    (h : ∃ r ∈ (pollGUIInfo D G a g).val, r.spice.map (·.clipboardReady) = some true) (b : Nat) :
    (pollGUIInfo D G (a + b) g).val =
        (pollGUIInfo D G a g).val ++ List.replicate b { displayInfo D with spice := some .healthy } ∧
      (pollGUIInfo D G (a + b) g).guest = (pollGUIInfo D G a g).guest ∧
      ∃ rest, (pollGUIInfo D G (a + b) g).ran = (pollGUIInfo D G a g).ran ++ rest ∧
        ∀ c ∈ rest, c ∈ displayTools ∨ c ∈ probes :=
  pollGUIInfo_add_of_ready D hG (pollGUIInfo_leaves_ready D hG a g h) b

/-- **A repairable guest is healed at the first poll.** On an honest, repairable guest with the
virtio port, every poll of every run reports the SPICE part healthy; after the first poll the
guest no longer changes, and the polls run only display tools and read-only queries. -/
theorem pollGUIInfo_repairable (hG : G.Honest) (hR : G.Repairable) {g : σ}
    (hv : checkVirtioPort G g = true) (n : Nat) :
    (pollGUIInfo D G (n + 1) g).val =
        List.replicate (n + 1) { displayInfo D with spice := some .healthy } ∧
      (pollGUIInfo D G (n + 1) g).guest = (detectGUIInfo D G g).guest ∧
      ∃ rest, (pollGUIInfo D G (n + 1) g).ran = (detectGUIInfo D G g).ran ++ rest ∧
        ∀ c ∈ rest, c ∈ displayTools ∨ c ∈ probes := by
  -- the first poll repairs and reports healthy, and leaves a ready clipboard
  obtain ⟨hfirst, hnext⟩ := detectSpiceInfo_ready hG (detectSpiceInfo_repairable hG hR hv)
  have hone : pollGUIInfo D G 1 g = ⟨[{ displayInfo D with spice := some .healthy }],
      (detectGUIInfo D G g).guest, (detectGUIInfo D G g).ran⟩ := by
    simp [pollGUIInfo_succ, pollGUIInfo, detectGUIInfo_apply, hfirst]
  have hrest := pollGUIInfo_add_of_ready D hG (a := 1) (g := g)
    (by rw [hone, detectGUIInfo_apply]; exact hnext) n
  rwa [Nat.add_comm 1 n, hone] at hrest

end Healing

/-- A Debian-like guest: the virtio port is there, `apt-get` is on the search path and installs the
package, and `systemctl start` runs the service once the package is installed. Its state is whether
the package is installed and whether the service runs. -/
def aptGuest : Guest (Bool × Bool) where
  readDir _ d := if d = "/dev" then some ["vport0p1"] else none
  stat _ _ := false
  lookPath _ n := n == "apt-get"
  exec s c :=
    if c = dpkgQuery then (⟨if s.1 then none else some "exit status 1", ""⟩, s)
    else if c = isActiveQuery then
      (⟨if s.2 then none else some "exit status 3", if s.2 then "active\n" else "inactive\n"⟩, s)
    else if c = pgrepQuery then (⟨if s.2 then none else some "exit status 1", ""⟩, s)
    else if c = PackageManager.installCmd ⟨"apt-get", ["install", "-y"], "spice-vdagent"⟩ then
      (⟨none, ""⟩, (true, s.2))
    else if c = startCmd ∧ s.1 then (⟨none, ""⟩, (true, true))
    else (⟨some "exit status 1", ""⟩, s)

theorem aptGuest_honest : aptGuest.Honest where
  queries g := by rcases g with ⟨_ | _, _ | _⟩ <;> decide
  port g := by rcases g with ⟨_ | _, _ | _⟩ <;> decide
  keepsPackage g := by rcases g with ⟨_ | _, _ | _⟩ <;> decide
  install g := by rcases g with ⟨_ | _, _ | _⟩ <;> decide

theorem aptGuest_repairable : aptGuest.Repairable where
  manager := ⟨⟨"apt-get", ["install", "-y"], "spice-vdagent"⟩, by decide,
    fun g => by rcases g with ⟨_ | _, _ | _⟩ <;> decide⟩
  start g := by rcases g with ⟨_ | _, _ | _⟩ <;> decide

/-- A Debian-like guest with the service running: the first poll reports ready, and the next two
polls report it healthy. -/
theorem pollGUIInfo_ready_stable_apt :
    (pollGUIInfo ⟨fun _ => "", fun _ => false, fun _ => none, fun _ _ => none⟩ aptGuest (1 + 2)
        (true, true)).val =
      (pollGUIInfo ⟨fun _ => "", fun _ => false, fun _ => none, fun _ _ => none⟩ aptGuest 1
        (true, true)).val ++
        List.replicate 2 { displayInfo ⟨fun _ => "", fun _ => false, fun _ => none, fun _ _ => none⟩
          with spice := some .healthy } :=
  (pollGUIInfo_ready_stable _ aptGuest_honest (by decide) 2).1

/-- A fresh Debian-like guest, without the package: the first poll installs and starts it, and the
three polls report the clipboard ready. -/
theorem pollGUIInfo_repairable_apt :
    (pollGUIInfo ⟨fun _ => "", fun _ => false, fun _ => none, fun _ _ => none⟩ aptGuest 3
        (false, false)).val =
      List.replicate 3 { displayInfo ⟨fun _ => "", fun _ => false, fun _ => none, fun _ _ => none⟩
        with spice := some .healthy } :=
  (pollGUIInfo_repairable _ aptGuest_honest aptGuest_repairable (by decide) 2).1

end LimaSpice.GuestAgent
