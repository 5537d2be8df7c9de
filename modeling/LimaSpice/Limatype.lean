import LimaSpice.Go.Strings

/-!
# The instance configuration the GUI code reads

The parts of `limatype` that the display code reads: `video.display`, the `video.vz` options
(with the window size and pixel density of the VZ enhancement), `audio.device` and its `vz`
options, and the instance's status, VM type and GUI report. A Go pointer field is an `Option`,
`nil` being `none`. The VNC and SPICE option records of `video` are read by none of the modelled
functions and are left out.
-/

namespace LimaSpice.Limatype

/-- `VZDisplayOptions`. -/
structure VZDisplayOptions where
  /-- Window width in pixels (default: 1920). -/
  width : Option Int := none
  /-- Window height in pixels (default: 1200). -/
  height : Option Int := none
  /-- Pixels per inch (default: 72). -/
  pixelsPerInch : Option Int := none
  disableClipboard : Option Bool := none
deriving DecidableEq, Repr

/-- `Video`. -/
structure Video where
  display : Option String := none
  vz : VZDisplayOptions := {}
deriving DecidableEq, Repr

/-- `VZAudioOptions`. -/
structure VZAudioOptions where
  /-- Audio input from host to guest. -/
  inputEnabled : Option Bool := none
  /-- Audio output from guest to host. -/
  outputEnabled : Option Bool := none
deriving DecidableEq, Repr

/-- `Audio`. -/
structure Audio where
  device : Option String := none
  vz : VZAudioOptions := {}
deriving DecidableEq, Repr

/-- `LimaYAML`, the parts the display code reads. -/
structure LimaYAML where
  video : Video := {}
  audio : Audio := {}
deriving DecidableEq, Repr

/-- `GUIInfo`: the GUI part of an instance's report. -/
structure GUIInfo where
  display : String
  enabled : Bool
  canRunGUI : Bool
  resolution : String
  clipboardShared : Bool
  audioEnabled : Bool
deriving DecidableEq, Repr

/-- `Instance`, the parts the display code reads and writes. -/
structure Instance where
  name : String
  /-- `limatype.Status`: `Running`, `Stopped`, `Broken`, ... -/
  status : String
  vmType : String
  config : Option LimaYAML
  gui : Option GUIInfo
deriving DecidableEq, Repr

end LimaSpice.Limatype
