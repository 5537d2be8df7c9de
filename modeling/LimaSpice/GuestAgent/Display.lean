import LimaSpice.GuestAgent.Supervisor

/-!
# The guest's GUI report

`DetectGUIInfo` (package `gui`) names the display server — Wayland when `WAYLAND_DISPLAY` is set
or `XDG_SESSION_TYPE` is `wayland`, else X11 when `/tmp/.X11-unix` exists or `DISPLAY` is set —
and lists its displays; a session is active when there is one. For an active session it runs
`xrandr` then `xdpyinfo` (X11) or `wlr-randr` then `swaymsg` (Wayland) for the resolution, and
`xprintidle` then `xssstate` (X11 only) for the idle time. Then it detects the SPICE status; when
the port is there but the clipboard is not ready it calls `EnsureSpiceAgent` once, and if that
succeeds it detects again and copies the new answers into the report, all but the port's.

The display tools only read the guest. What they print, the environment and the X11 socket
directory are what the desktop shows (`Desktop`). The display part is `Logged` code, which keeps the
tools it runs in order, and `detectGUIInfo` puts them in the poll's log before the SPICE commands.
The source sets `DISPLAY` in the environment of the X11 tools to the value it already has there,
which changes nothing, and is not modelled.
-/

namespace LimaSpice.GuestAgent

open LimaSpice.Go

/-- What the display detection reads of the guest. -/
structure Desktop where
  /-- `os.Getenv`. -/
  getenv : String → String
  /-- `os.Stat` succeeds. -/
  stat : String → Bool
  /-- `os.ReadDir`: the names of the entries, or `none` when it fails. -/
  readDir : String → Option (List String)
  /-- `cmd.Output` of a program with its arguments, `none` when it fails. -/
  output : String → List String → Option String

/-! ### Display code -/

/-- Display code: its value, and the display tools it ran, in order. -/
structure Logged (α : Type) where
  val : α
  ran : List Cmd

namespace Logged

variable {σ α β : Type}

instance instMonadLogged : Monad Logged where
  pure a := ⟨a, []⟩
  bind x f := ⟨(f x.val).val, x.ran ++ (f x.val).ran⟩

@[simp] theorem pure_val (a : α) : (pure a : Logged α).val = a := rfl

@[simp] theorem pure_ran (a : α) : (pure a : Logged α).ran = [] := rfl

@[simp] theorem bind_val (x : Logged α) (f : α → Logged β) : (x >>= f).val = (f x.val).val := rfl

@[simp] theorem bind_ran (x : Logged α) (f : α → Logged β) :
    (x >>= f).ran = x.ran ++ (f x.val).ran := rfl

@[simp] theorem ite_val {c : Prop} [Decidable c] (x y : Logged α) :
    (if c then x else y).val = if c then x.val else y.val := by
  split <;> rfl

/-- Every tool `x` runs satisfies `P`. -/
def RunsOnly (P : Cmd → Prop) (x : Logged α) : Prop := ∀ c ∈ x.ran, P c

variable {P : Cmd → Prop}

theorem RunsOnly.pure (a : α) : RunsOnly P (Pure.pure a) := fun _ h => by simp at h

theorem RunsOnly.bind {x : Logged α} {f : α → Logged β} (hx : RunsOnly P x)
    (hf : ∀ a, RunsOnly P (f a)) : RunsOnly P (x >>= f) := fun c h => by
  simp only [bind_ran, List.mem_append] at h
  exact h.elim (hx c) (hf _ c)

theorem RunsOnly.ite {c : Prop} [Decidable c] {x y : Logged α} (hx : RunsOnly P x)
    (hy : RunsOnly P y) : RunsOnly P (if c then x else y) := by
  split <;> assumption

/-- Display code as agent code: it runs its tools and leaves the guest as it is. -/
def toAgent (x : Logged α) : Agent σ α := fun g => ⟨x.val, g, x.ran⟩

end Logged

/-! ### The SPICE part -/

/-- `api.SpiceAgentInfo`: the SPICE part of the GUI report. -/
structure SpiceAgentInfo where
  agentInstalled : Bool
  agentRunning : Bool
  vportExists : Bool
  clipboardReady : Bool
  errorMessage : String
deriving DecidableEq, Repr

/-- The report of a detected status, field by field. -/
def SpiceAgentInfo.ofStatus (status : SpiceStatus) : SpiceAgentInfo :=
  ⟨status.agentInstalled, status.agentRunning, status.vPortExists, status.clipboardReady,
    status.errorMessage⟩

/-- The report after a successful repair: the answers of the new detection, except the port's,
which the source does not copy. -/
def SpiceAgentInfo.update (info : SpiceAgentInfo) (status : SpiceStatus) : SpiceAgentInfo :=
  { info with
    agentInstalled := status.agentInstalled, agentRunning := status.agentRunning,
    clipboardReady := status.clipboardReady, errorMessage := status.errorMessage }

section Report

variable {σ : Type} (G : Guest σ)

/-- The SPICE part of `DetectGUIInfo`. -/
def detectSpiceInfo : Agent σ SpiceAgentInfo := do
  let status ← detectSpiceStatus G
  let info := SpiceAgentInfo.ofStatus status
  if status.vPortExists && !status.clipboardReady then
    match ← ensureSpiceAgent G with
    | some _ => pure info
    | none => do
      let status' ← detectSpiceStatus G
      pure (info.update status')
  else pure info

theorem detectSpiceInfo_apply (g : σ) :
    detectSpiceInfo G g =
      let d := detectSpiceStatus G g
      if d.val.vPortExists && !d.val.clipboardReady then
        let e := ensureSpiceAgent G d.guest
        match e.val with
        | some _ => ⟨SpiceAgentInfo.ofStatus d.val, e.guest, d.ran ++ e.ran⟩
        | none =>
          let d' := detectSpiceStatus G e.guest
          ⟨(SpiceAgentInfo.ofStatus d.val).update d'.val, d'.guest, d.ran ++ (e.ran ++ d'.ran)⟩
      else ⟨SpiceAgentInfo.ofStatus d.val, d.guest, d.ran⟩ := by
  simp only [detectSpiceInfo, Agent.bind_apply]
  split
  · simp only [Agent.bind_apply]
    split <;> simp_all
  · simp

end Report

/-! ### The display server and its displays -/

section Display

variable (D : Desktop)

/-- `detectX11`: the X11 socket directory exists, or `DISPLAY` is set. -/
def detectX11 : Bool := D.stat "/tmp/.X11-unix" || D.getenv "DISPLAY" != ""

/-- `detectWayland`: `WAYLAND_DISPLAY` is set, or `XDG_SESSION_TYPE` is `wayland`. -/
def detectWayland : Bool :=
  D.getenv "WAYLAND_DISPLAY" != "" || D.getenv "XDG_SESSION_TYPE" == "wayland"

/-- `getX11Displays`: `DISPLAY` when it is set, otherwise `:N` for each socket `XN` of
`/tmp/.X11-unix`. -/
def getX11Displays : List String :=
  if D.getenv "DISPLAY" ≠ "" then [D.getenv "DISPLAY"]
  else match D.readDir "/tmp/.X11-unix" with
    | none => []
    | some entries => (entries.filter (hasPrefix · "X")).map fun e => ":" ++ trimPrefix e "X"

/-- `getWaylandDisplays`: `WAYLAND_DISPLAY` when it is set. -/
def getWaylandDisplays : List String :=
  if D.getenv "WAYLAND_DISPLAY" ≠ "" then [D.getenv "WAYLAND_DISPLAY"] else []

/-! ### The display tools -/

/-- `xrandr`, under a 2-second context. -/
def xrandrCmd : Cmd := ⟨"xrandr", [], some 2⟩

/-- `xdpyinfo`, under a 2-second context. -/
def xdpyinfoCmd : Cmd := ⟨"xdpyinfo", [], some 2⟩

/-- `wlr-randr`, under a 2-second context. -/
def wlrRandrCmd : Cmd := ⟨"wlr-randr", [], some 2⟩

/-- `swaymsg -t get_outputs`, under a 2-second context. -/
def swaymsgCmd : Cmd := ⟨"swaymsg", ["-t", "get_outputs"], some 2⟩

/-- `xprintidle`, under a 1-second context. -/
def xprintidleCmd : Cmd := ⟨"xprintidle", [], some 1⟩

/-- `xssstate -i`, under a 1-second context. -/
def xssstateCmd : Cmd := ⟨"xssstate", ["-i"], some 1⟩

/-- The tools the display part runs; each only reads the guest. -/
def displayTools : List Cmd :=
  [xrandrCmd, xdpyinfoCmd, wlrRandrCmd, swaymsgCmd, xprintidleCmd, xssstateCmd]

/-- `cmd.Output` of a display tool: what the desktop shows it print, `none` when it fails. -/
def toolOutput (c : Cmd) : Logged (Option String) := ⟨D.output c.name c.args, [c]⟩

/-! ### The resolution -/

/-- The mode a line of `xrandr`'s output gives: its first field, when the line marks the
current mode with `*` and that field has an `x`. -/
def xrandrMode (line : String) : Option String :=
  if contains line "*" then
    match fields line with
    | f :: _ => if contains f "x" then some f else none
    | [] => none
  else none

/-- The shape of `tryXrandr`, `tryXdpyinfo` and `tryWlrRandr`: run the tool `c`, and answer what
the first line of its output that `parse` accepts gives; `""` when the tool fails or no line does. -/
def tryTool (c : Cmd) (parse : String → Option String) : Logged String := do
  match ← toolOutput D c with
  | none => pure ""
  | some out => pure (((split out '\n').findSome? parse).getD "")

/-- `tryXrandr`: the mode of the first line of `xrandr`'s output that gives one. -/
def tryXrandr : Logged String := tryTool D xrandrCmd xrandrMode

/-- The size a line of `xdpyinfo`'s output gives: its second field, when the line has
`dimensions:` and two fields. -/
def xdpyinfoDimensions (line : String) : Option String :=
  if contains line "dimensions:" then
    match fields line with
    | _ :: f :: _ => some f
    | _ => none
  else none

/-- `tryXdpyinfo`: the size of the first line of `xdpyinfo`'s output that gives one. -/
def tryXdpyinfo : Logged String := tryTool D xdpyinfoCmd xdpyinfoDimensions

/-- The mode a field of `wlr-randr`'s output gives: the text before its first `@`, when it has an
`x` and an `@` (`1920x1080@60.000000`). -/
def wlrMode (field : String) : Option String :=
  if contains field "x" && contains field "@" then (split field '@').head? else none

/-- The mode a line of `wlr-randr`'s output gives: that of its first field that gives one, when
the line has `current`. -/
def wlrCurrent (line : String) : Option String :=
  if contains line "current" then (fields line).findSome? wlrMode else none

/-- `tryWlrRandr`: the mode of the first line of `wlr-randr`'s output that gives one. -/
def tryWlrRandr : Logged String := tryTool D wlrRandrCmd wlrCurrent

/-- `trySwaymsg`: it runs `swaymsg -t get_outputs`, parses its output no further than a log
line, and answers `""` whatever the output. -/
def trySwaymsg : Logged String := do
  let _ ← toolOutput D swaymsgCmd
  pure ""

/-- `getX11Resolution`: `xrandr`, then `xdpyinfo`. -/
def getX11Resolution : Logged String := do
  let resolution ← tryXrandr D
  if resolution ≠ "" then pure resolution else
  let resolution ← tryXdpyinfo D
  if resolution ≠ "" then pure resolution else pure ""

/-- `getWaylandResolution`: `wlr-randr`, then `swaymsg`. -/
def getWaylandResolution : Logged String := do
  let resolution ← tryWlrRandr D
  if resolution ≠ "" then pure resolution else
  let resolution ← trySwaymsg D
  if resolution ≠ "" then pure resolution else pure ""

/-- `getResolution`. -/
def getResolution (displayServer : String) : Logged String :=
  if displayServer = "X11" then getX11Resolution D
  else if displayServer = "Wayland" then getWaylandResolution D
  else pure ""

/-! ### The idle time -/

/-- `getX11IdleTime`: what `xprintidle` prints, else what `xssstate -i` prints, as a decimal
integer once trimmed; else `0`. -/
def getX11IdleTime : Logged Int := do
  match (← toolOutput D xprintidleCmd).bind (parseInt ∘ trimSpace) with
  | some ms => pure ms
  | none =>
    match (← toolOutput D xssstateCmd).bind (parseInt ∘ trimSpace) with
    | some ms => pure ms
    | none => pure 0

/-- `getIdleTime`: only X11 has one. -/
def getIdleTime (displayServer : String) : Logged Int :=
  if displayServer = "X11" then getX11IdleTime D else pure 0

end Display

/-! ### The report -/

/-- `api.GUIInfo`: the GUI report the guest agent sends. -/
structure GUIInfo where
  displayServer : String
  sessionActive : Bool
  displays : List String
  resolution : String
  idleTimeMs : Int
  spice : Option SpiceAgentInfo
deriving DecidableEq, Repr

/-- The display server `DetectGUIInfo` names, Wayland before X11, and its displays. -/
def detectDisplayServer (D : Desktop) : String × List String :=
  if detectWayland D then ("Wayland", getWaylandDisplays D)
  else if detectX11 D then ("X11", getX11Displays D)
  else ("none", [])

/-- The display part of `DetectGUIInfo`. -/
def detectDisplay (D : Desktop) : Logged GUIInfo :=
  let (server, displays) := detectDisplayServer D
  let active := 0 < displays.length
  (if active then getResolution D server else pure "") >>= fun resolution =>
  (if active then getIdleTime D server else pure 0) >>= fun idleTimeMs =>
  pure ⟨server, active, displays, resolution, idleTimeMs, none⟩

/-- The display part of the report. -/
def displayInfo (D : Desktop) : GUIInfo := (detectDisplay D).val

section Fields

variable (D : Desktop)

@[simp] theorem displayInfo_displayServer :
    (displayInfo D).displayServer = (detectDisplayServer D).1 := rfl

@[simp] theorem displayInfo_resolution : (displayInfo D).resolution =
    (if 0 < (detectDisplayServer D).2.length then getResolution D (detectDisplayServer D).1
      else pure "").val := rfl

end Fields

/-- `DetectGUIInfo`: the display part, then the SPICE part. -/
def detectGUIInfo {σ : Type} (D : Desktop) (G : Guest σ) : Agent σ GUIInfo := do
  let info ← (detectDisplay D).toAgent
  let spice ← detectSpiceInfo G
  pure { info with spice := some spice }

theorem detectGUIInfo_apply {σ : Type} (D : Desktop) (G : Guest σ) (g : σ) :
    detectGUIInfo D G g = ⟨{ displayInfo D with spice := some (detectSpiceInfo G g).val },
      (detectSpiceInfo G g).guest, (detectDisplay D).ran ++ (detectSpiceInfo G g).ran⟩ := by
  simp only [detectGUIInfo, Logged.toAgent, Agent.bind_apply, Agent.pure_apply, List.append_nil,
    displayInfo]

/-! ### What the display part runs -/

section Tools

variable (D : Desktop)

theorem toolOutput_runsOnly {c : Cmd} (hc : c ∈ displayTools) :
    (toolOutput D c).RunsOnly (· ∈ displayTools) := fun _ h => by
  simp only [toolOutput, List.mem_singleton] at h; exact h ▸ hc

theorem tryTool_runsOnly {c : Cmd} (hc : c ∈ displayTools) (parse : String → Option String) :
    (tryTool D c parse).RunsOnly (· ∈ displayTools) :=
  .bind (toolOutput_runsOnly D hc) fun r => by cases r <;> exact .pure _

theorem getResolution_runsOnly (displayServer : String) :
    (getResolution D displayServer).RunsOnly (· ∈ displayTools) := by
  have hs : (trySwaymsg D).RunsOnly (· ∈ displayTools) :=
    .bind (toolOutput_runsOnly D (by decide)) fun _ => .pure _
  refine .ite (.bind (tryTool_runsOnly D (by decide) _) fun _ => .ite (.pure _)
    (.bind (tryTool_runsOnly D (by decide) _) fun _ => .ite (.pure _) (.pure _)))
    (.ite (.bind (tryTool_runsOnly D (by decide) _) fun _ => .ite (.pure _)
      (.bind hs fun _ => .ite (.pure _) (.pure _))) (.pure _))

theorem getIdleTime_runsOnly (displayServer : String) :
    (getIdleTime D displayServer).RunsOnly (· ∈ displayTools) :=
  .ite (.bind (toolOutput_runsOnly D (by decide)) fun r => by
    cases r.bind (parseInt ∘ trimSpace)
    · exact .bind (toolOutput_runsOnly D (by decide)) fun r => by
        cases r.bind (parseInt ∘ trimSpace) <;> exact .pure _
    · exact .pure _) (.pure _)

/-- The display part runs only display tools. -/
theorem detectDisplay_runsOnly : (detectDisplay D).RunsOnly (· ∈ displayTools) :=
  .bind (.ite (getResolution_runsOnly D _) (.pure _)) fun _ =>
    .bind (.ite (getIdleTime_runsOnly D _) (.pure _)) fun _ => .pure _

end Tools

/-! ### Where a resolution comes from -/

/-- `tool`, run with no argument, printed `r`: `r` is a piece of its output. -/
def Desktop.Printed (D : Desktop) (tool r : String) : Prop :=
  ∃ out, D.output tool [] = some out ∧ r.data <:+: out.data

section Printed

variable (D : Desktop)

/-- A parse that answers a piece of its line makes `tryTool` answer a piece of the output. -/
theorem tryTool_printed {tool : String} {parse : String → Option String}
    (hp : ∀ line r, parse line = some r → r.data <:+: line.data)
    (h : (tryTool D ⟨tool, [], some 2⟩ parse).val ≠ "") :
    D.Printed tool (tryTool D ⟨tool, [], some 2⟩ parse).val := by
  simp only [tryTool, toolOutput, Logged.bind_val] at h ⊢
  cases hout : D.output tool [] with
  | none => simp [hout] at h
  | some out =>
    simp only [hout, Logged.pure_val] at h ⊢
    cases hf : (split out '\n').findSome? parse with
    | none => simp [hf] at h
    | some r =>
      obtain ⟨line, hline, hr⟩ := List.exists_of_findSome?_eq_some hf
      exact ⟨out, hout, (hp line r hr).trans (infix_of_mem_split hline)⟩

theorem infix_of_xrandrMode (line r : String) (h : xrandrMode line = some r) :
    r.data <:+: line.data := by
  unfold xrandrMode at h
  split_ifs at h
  split at h
  · rename_i f _ hf
    simp only [Option.ite_none_right_eq_some, Option.some.injEq] at h
    exact h.2 ▸ infix_of_mem_fields (hf ▸ List.mem_cons_self _ _)
  · cases h

theorem infix_of_xdpyinfoDimensions (line r : String) (h : xdpyinfoDimensions line = some r) :
    r.data <:+: line.data := by
  unfold xdpyinfoDimensions at h
  split_ifs at h
  split at h
  · rename_i hf
    cases h
    exact infix_of_mem_fields (hf ▸ .tail _ (List.mem_cons_self _ _))
  · cases h

theorem infix_of_wlrCurrent (line r : String) (h : wlrCurrent line = some r) :
    r.data <:+: line.data := by
  unfold wlrCurrent at h
  split_ifs at h
  obtain ⟨field, hfield, hr⟩ := List.exists_of_findSome?_eq_some h
  unfold wlrMode at hr
  split_ifs at hr
  exact (prefix_of_split_head hr).isInfix.trans (infix_of_mem_fields hfield)

/-- `swaymsg` never gives the Wayland resolution. -/
theorem getWaylandResolution_val : (getWaylandResolution D).val = (tryWlrRandr D).val := by
  by_cases h : (tryWlrRandr D).val = "" <;> simp [getWaylandResolution, trySwaymsg, h]

theorem getX11Resolution_printed (h : (getX11Resolution D).val ≠ "") :
    D.Printed "xrandr" (getX11Resolution D).val ∨ D.Printed "xdpyinfo" (getX11Resolution D).val := by
  simp only [getX11Resolution, Logged.bind_val, Logged.ite_val, Logged.pure_val] at h ⊢
  split_ifs at h ⊢ with hx hd
  · exact .inl (tryTool_printed D infix_of_xrandrMode hx)
  · exact .inr (tryTool_printed D infix_of_xdpyinfoDimensions hd)
  · exact absurd rfl h

end Printed

/-- Where a report's resolution may come from: a piece of what `xrandr` or `xdpyinfo` printed, on
X11, or of what `wlr-randr` printed, on Wayland. -/
def GUIInfo.ResolutionPrinted (D : Desktop) (info : GUIInfo) : Prop :=
  info.displayServer = "X11" ∧
      (D.Printed "xrandr" info.resolution ∨ D.Printed "xdpyinfo" info.resolution) ∨
    info.displayServer = "Wayland" ∧ D.Printed "wlr-randr" info.resolution

/-- **The agent reports only a resolution a tool printed.** The report has no resolution, or a piece
of what `xrandr` or `xdpyinfo` printed, on X11, or of what `wlr-randr` printed, on Wayland;
`swaymsg` never gives one. -/
theorem displayInfo_resolution_printed (D : Desktop) :
    (displayInfo D).resolution = "" ∨ (displayInfo D).ResolutionPrinted D := by
  refine or_iff_not_imp_left.2 fun h => ?_
  unfold GUIInfo.ResolutionPrinted
  have hr : (displayInfo D).resolution = (getResolution D (detectDisplayServer D).1).val := by
    rw [displayInfo_resolution] at h ⊢
    split_ifs at h ⊢ <;> [rfl; exact absurd rfl h]
  rw [hr] at h ⊢
  rw [displayInfo_displayServer]
  generalize (detectDisplayServer D).1 = server at h ⊢
  unfold getResolution at h ⊢
  split_ifs at h ⊢ with hx hw
  · exact .inl ⟨hx, getX11Resolution_printed D h⟩
  · rw [getWaylandResolution_val] at h ⊢
    exact .inr ⟨hw, tryTool_printed D infix_of_wlrCurrent h⟩
  · exact absurd rfl h

end LimaSpice.GuestAgent
