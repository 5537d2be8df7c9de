import LimaSpice.Vz.Driver

/-!
# The GUI report of an instance

`populateGUIInfo` (package `store`) fills an instance's `GUIInfo` from its configuration and its
driver's capability. What it reports is meant to describe what the VZ driver sets up, and it does
not always.
-/

namespace LimaSpice.Store

open LimaSpice.Limatype LimaSpice.Vz

/-- The resolution `populateGUIInfo` reports: `%dx%d` of the configured size when both
dimensions are set, otherwise the default size for a `vz` or `default` display. -/
def reportedResolution (display : String) (opts : VZDisplayOptions) : String :=
  match opts.width, opts.height with
  | some w, some h => toString w ++ "x" ++ toString h
  | _, _ => if display = "vz" ∨ display = "default" then "1920x1200" else ""

/-- `populateGUIInfo`: the GUI report of an instance. `canRunGUI` is the driver's capability,
`none` when `driverutil.CreateConfiguredDriver` fails; it is asked only of a running or stopped
instance. -/
def populateGUIInfo (canRunGUI : Instance → Option Bool) (inst : Instance) : Instance :=
  match inst.config with
  | none => inst
  | some y =>
    match y.video.display with
    | none => inst
    | some display =>
      let enabled := display != "none"
      let canRun :=
        if inst.status = "Running" ∨ inst.status = "Stopped" then (canRunGUI inst).getD false
        else false
      let clipboardShared := match y.video.vz.disableClipboard with
        | some d => !d
        | none => enabled && (display == "vz" || display == "default")
      let audioEnabled := match y.audio.device with
        | some device => device != "none"
        | none => false
      { inst with gui := some ⟨display, enabled, canRun, reportedResolution display y.video.vz,
          clipboardShared, audioEnabled⟩ }

/-- The report disagrees with the driver: one dimension set gives the default size where the
driver uses the configured width; an empty `audio.device` is reported as audio while the driver
attaches none; and display `default` under QEMU is reported as sharing the clipboard. -/
theorem populateGUIInfo_disagrees :
    (populateGUIInfo (fun _ => some true) ⟨"default", "Running", "vz",
        some { video := { display := some "vz", vz := { width := some 2560 } },
               audio := { device := some "" } }, none⟩).gui.map
        (fun g => (g.resolution, g.clipboardShared, g.audioEnabled)) =
      some ("1920x1200", true, true) ∧
    attachDisplay ⟨fun _ => none, "com.redhat.spice.0"⟩ "vz" { width := some 2560 } {} =
      .ok { graphicsDevices := [⟨2560, 1200, 72⟩] } ∧
    attachAudio ⟨fun _ => none, "com.redhat.spice.0"⟩ "" {} {} = .ok {} ∧
    (populateGUIInfo (fun _ => some false)
        ⟨"default", "Running", "qemu", some { video := { display := some "default" } }, none⟩).gui.map
        (·.clipboardShared) = some true := by
  decide

end LimaSpice.Store
