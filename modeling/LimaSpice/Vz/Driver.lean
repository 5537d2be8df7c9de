import LimaSpice.Limatype

/-!
# The VZ driver

`attachSpiceAgent` adds the clipboard-sharing SPICE agent port when a display is configured and
the clipboard is not disabled; `attachDisplay` and `attachAudio` (from the VZ enhancement) add the
graphics device with the configured or default size and the sound devices. The framework's
constructors are an input (`Framework`): each may fail. `attachSpiceAgent` logs such a failure and
leaves the configuration as it is; the other two return it.

The proposal holds two versions of `RunGUI`: `Previous.runGUI` opens the window at the configured
size, and `runGUI` asks `HasGUIWindow` first and brings an existing window to the front. The window
calls belong to the vz library, which is not in the sources; `Window` is its lifecycle as the
proposal documents it.
-/

namespace LimaSpice.Vz

open LimaSpice.Go LimaSpice.Limatype

/-- The Virtualization-framework constructors the driver calls. -/
inductive VzCall
  | spiceAgentPortAttachmentName
  | newSpiceAgentPortAttachment
  | newVirtioConsoleDeviceConfiguration
  | newVirtioConsolePortConfiguration
  | newVirtioGraphicsDeviceConfiguration
  | newVirtioGraphicsScanoutConfiguration
  | newVirtioSoundDeviceHostOutputStreamConfiguration
  | newVirtioSoundDeviceHostInputStreamConfiguration
  | newVirtioSoundDeviceConfiguration
deriving DecidableEq, Repr

/-- The framework: the error each constructor returns, if any, and the SPICE agent port's name. -/
structure Framework where
  fails : VzCall → Option String
  spiceAgentPortName : String

/-- A graphics scanout: width, height and pixels per inch. -/
structure Scanout where
  width : Int
  height : Int
  pixelsPerInch : Int
deriving DecidableEq, Repr

/-- The stream of a sound device. -/
inductive SoundStream
  | hostOutput
  | hostInput
deriving DecidableEq, Repr

/-- A console port: its index, its name, and whether its SPICE agent shares the clipboard. -/
structure ConsolePort where
  index : Nat
  name : String
  sharesClipboard : Bool
deriving DecidableEq, Repr

/-- The devices the driver has put in the machine's configuration. -/
structure VmConfig where
  graphicsDevices : List Scanout := []
  audioDevices : List SoundStream := []
  consoleDevices : List ConsolePort := []
deriving DecidableEq, Repr

/-- Every one of `calls` succeeds. -/
def Framework.allOk (vz : Framework) (calls : List VzCall) : Bool := calls.all fun c => (vz.fails c).isNone

/-! ### The clipboard port -/

/-- The clipboard is to be shared: a display other than `none`, and `disableClipboard` not set
to true (it defaults to sharing). -/
def sharesClipboard (y : LimaYAML) : Bool :=
  match y.video.display with
  | none => false
  | some display => display ≠ "none" && !(y.video.vz.disableClipboard.getD false)

/-- `attachSpiceAgent`: the SPICE agent port, sharing the clipboard, as port 0 of the console. -/
def attachSpiceAgent (vz : Framework) (y : LimaYAML) (vm : VmConfig) : VmConfig :=
  if y.video.display.isNone || y.video.display = some "none" then vm else
  let enableClipboard := match y.video.vz.disableClipboard with
    | some d => !d
    | none => true
  if !enableClipboard then vm
  else if !vz.allOk [.spiceAgentPortAttachmentName, .newSpiceAgentPortAttachment,
      .newVirtioConsoleDeviceConfiguration, .newVirtioConsolePortConfiguration] then vm
  else { vm with consoleDevices := [⟨0, vz.spiceAgentPortName, true⟩] }

/-! ### Display and audio -/

/-- `attachDisplay`: for a `vz` or `default` display, one graphics device with the configured
width, height and density, each defaulted on its own (1920, 1200, 72). -/
def attachDisplay (vz : Framework) (display : String) (opts : VZDisplayOptions) (vm : VmConfig) :
    Except String VmConfig :=
  if display = "vz" ∨ display = "default" then do
    if let some e := vz.fails .newVirtioGraphicsDeviceConfiguration then throw e
    let width := opts.width.getD 1920
    let height := opts.height.getD 1200
    let pixelsPerInch := opts.pixelsPerInch.getD 72
    if let some e := vz.fails .newVirtioGraphicsScanoutConfiguration then throw e
    pure { vm with graphicsDevices := [⟨width, height, pixelsPerInch⟩] }
  else if display = "none" then .ok vm
  else .error ("unexpected video display " ++ quote display)

/-- `RunGUI` in the version that uses the configured size: for a driver that can run a GUI,
`StartGraphicApplication` with the configured width and height, each defaulted on its own (1920,
1200); the model returns the size it passes. `display` is the value of `video.display`. -/
def Previous.runGUI (canRunGUI : Bool) (display : String) (opts : VZDisplayOptions) :
    Except String (Int × Int) :=
  if canRunGUI then .ok (opts.width.getD 1920, opts.height.getD 1200)
  else .error ("RunGUI is not supported for the given driver '" ++ "vz" ++ "' and display '" ++
    display ++ "'")

/-- One sound device of `attachAudio`, when `enabled`: its stream, then the device. -/
def soundDevice (vz : Framework) (stream : SoundStream) (enabled : Bool) :
    Except String (List SoundStream) :=
  if !enabled then .ok [] else do
    let streamCall := match stream with
      | .hostOutput => VzCall.newVirtioSoundDeviceHostOutputStreamConfiguration
      | .hostInput => VzCall.newVirtioSoundDeviceHostInputStreamConfiguration
    if let some e := vz.fails streamCall then throw e
    if let some e := vz.fails .newVirtioSoundDeviceConfiguration then throw e
    pure [stream]

/-- `attachAudio`: for a `vz` or `default` device, an output device unless output is disabled
(it is on by default) and an input device if input is enabled (off by default). -/
def attachAudio (vz : Framework) (device : String) (opts : VZAudioOptions) (vm : VmConfig) :
    Except String VmConfig :=
  if device = "vz" ∨ device = "default" then do
    let inputEnabled := opts.inputEnabled.getD false
    let outputEnabled := opts.outputEnabled.getD true
    let output ← soundDevice vz .hostOutput outputEnabled
    let input ← soundDevice vz .hostInput inputEnabled
    let devices := output ++ input
    pure (if 0 < devices.length then { vm with audioDevices := devices } else vm)
  else if device = "" ∨ device = "none" then .ok vm
  else .error ("unexpected audio device " ++ quote device)

/-! ### The window -/

/-- The GUI window of a `vz.VirtualMachine`, in the lifecycle the vz library documents. -/
inductive Window
  /-- `StartGraphicApplication` has not been called. -/
  | notStarted
  /-- The window is on screen. -/
  | shown
  /-- The user minimised or hid the window. -/
  | hidden
  /-- The user closed the window, which stopped the machine. -/
  | closed
deriving DecidableEq, Repr

/-- The errors of the window calls. -/
inductive GuiError
  /-- `BringWindowToFront` with no window: "GUI was never initialized; call
  StartGraphicApplication first". -/
  | neverInitialized
  /-- A second `StartGraphicApplication`; the library documents the failure, not its text. -/
  | alreadyStarted
deriving DecidableEq, Repr

/-- `HasGUIWindow`. -/
def hasGUIWindow : Window → Bool
  | .shown | .hidden => true
  | .notStarted | .closed => false

/-- `StartGraphicApplication`: a one-time call that creates the window and shows it. -/
def startGraphicApplication : Window → Except GuiError Window
  | .notStarted => .ok .shown
  | _ => .error .alreadyStarted

/-- `BringWindowToFront`. The documentation says what it does before any window, not after the
window is closed; the model answers there as before any window. -/
def bringWindowToFront : Window → Except GuiError Window
  | .shown | .hidden => .ok .shown
  | .notStarted | .closed => .error .neverInitialized

/-- The driver's `RunGUI`: bring the window to the front when there is one, create it
otherwise. -/
def runGUI (w : Window) : Except GuiError Window :=
  if hasGUIWindow w then bringWindowToFront w else startGraphicApplication w

end LimaSpice.Vz
