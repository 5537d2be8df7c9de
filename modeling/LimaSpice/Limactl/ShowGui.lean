import LimaSpice.Limatype

/-!
# `limactl show-gui`

`showGUIAction` checks, in order, that the instance exists, that it runs, that its GUI is
enabled and that its driver can run a GUI; only then does it create the driver and call its
`RunGUI`. `store.Inspect`, the driver's creation and `RunGUI` are inputs.

The sources hold two versions of the command. In the earlier one, `Previous.showGUIAction`, a
fifth check refuses every VZ instance, since its window could not be reopened; the later one
leaves VZ instances to the driver, whose `RunGUI` brings an existing window to the front
(`LimaSpice.Vz.runGUI`).
-/

namespace LimaSpice.Limactl

open LimaSpice.Go LimaSpice.Limatype

/-- What `store.Inspect` fails with: `os.ErrNotExist`, or another error, by its text. -/
inductive InspectError
  | notExist
  | other (msg : String)
deriving DecidableEq, Repr

/-- The error for an instance that does not exist. -/
def notExistError (instName : String) : String :=
  "instance " ++ quote instName ++ " does not exist, run `limactl create " ++ instName ++
    "` to create a new instance"

/-- The error for an instance that does not run. -/
def notRunningError (instName status : String) : String :=
  "instance " ++ quote instName ++ " is not running (status: " ++ status ++
    "), run `limactl start " ++ instName ++ "` to start it"

/-- The error for an instance whose GUI is off, with the display it reports (`none` without a GUI
report). -/
def guiNotEnabled (instName display : String) : String :=
  "GUI is not enabled for instance " ++ quote instName ++ " (display: " ++ display ++ ")"

/-- The error for an instance whose driver cannot run a GUI. -/
def guiNotSupported (instName vmType display : String) : String :=
  "GUI is not supported for instance " ++ quote instName ++ " (driver: " ++ vmType ++
    ", display: " ++ display ++ ")"

/-- Creating the driver and running its GUI, the errors wrapped as the command wraps them. -/
def launchGUI {D : Type} (createConfiguredDriver : Instance → Except String D)
    (runGUI : D → Option String) (instName : String) (inst : Instance) : Option String :=
  match createConfiguredDriver inst with
  | .error e => some ("failed to create driver for instance " ++ quote instName ++ ": " ++ e)
  | .ok driver => (runGUI driver).map ("failed to launch GUI: " ++ ·)

/-- `showGUIAction`: the error `limactl show-gui INSTANCE` ends with, `none` on success.
`inspect` is `store.Inspect`, `createConfiguredDriver` is `driverutil.CreateConfiguredDriver`
(the error's text, or the driver), and `runGUI` the error of the driver's `RunGUI`, if any. -/
def showGUIAction {D : Type} (inspect : String → Except InspectError Instance)
    (createConfiguredDriver : Instance → Except String D) (runGUI : D → Option String)
    (instName : String) : Option String :=
  match inspect instName with
  | .error .notExist => some (notExistError instName)
  | .error (.other e) => some e
  | .ok inst =>
    if inst.status ≠ "Running" then some (notRunningError instName inst.status)
    else match inst.gui with
    | none => some (guiNotEnabled instName "none")
    | some gui =>
      if !gui.enabled then some (guiNotEnabled instName gui.display)
      else if !gui.canRunGUI then some (guiNotSupported instName inst.vmType gui.display)
      else launchGUI createConfiguredDriver runGUI instName inst

/-- The error of the earlier version for a VZ instance. -/
def vzReopenError (instName : String) : String :=
  "VZ GUI window cannot be reopened after VM startup. " ++
    "The window is created during 'limactl start' and closing it stops the VM. " ++
    "To see the GUI again, stop and restart the instance: 'limactl stop " ++ instName ++
    " && limactl start " ++ instName ++ "'"

/-- `showGUIAction` in its earlier version: the same checks, then every VZ instance refused. -/
def Previous.showGUIAction {D : Type} (inspect : String → Except InspectError Instance)
    (createConfiguredDriver : Instance → Except String D) (runGUI : D → Option String)
    (instName : String) : Option String :=
  match inspect instName with
  | .error .notExist => some (notExistError instName)
  | .error (.other e) => some e
  | .ok inst =>
    if inst.status ≠ "Running" then some (notRunningError instName inst.status)
    else match inst.gui with
    | none => some (guiNotEnabled instName "none")
    | some gui =>
      if !gui.enabled then some (guiNotEnabled instName gui.display)
      else if !gui.canRunGUI then some (guiNotSupported instName inst.vmType gui.display)
      else if inst.vmType = "vz" then some (vzReopenError instName)
      else launchGUI createConfiguredDriver runGUI instName inst

end LimaSpice.Limactl
