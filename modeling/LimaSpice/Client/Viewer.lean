import LimaSpice.Client.Uri

/-!
# Finding and launching a viewer

`FindViewer` resolves the first of a per-platform list of viewer names on the search path, and
`LaunchViewer` starts it with the arguments `buildViewerArgs` builds. `exec.LookPath` is an input:
for each name, the path it resolves to, if any. `buildViewerArgs` reads the kind of viewer off the
whole path it is given, lower-cased, so the directories on the way take part in the choice.
-/

namespace LimaSpice.Client

open LimaSpice.Go

/-- The viewers `FindViewer` tries on each `runtime.GOOS`, most preferred first. -/
def viewerCandidates : String → Option (List String)
  | "darwin" => some ["remote-viewer", "spicy"]
  | "linux" => some ["remote-viewer", "spicy", "virt-viewer"]
  | "windows" => some ["remote-viewer.exe", "spicy.exe", "virt-viewer.exe"]
  | _ => none

/-- `FindViewer`: the path of the first candidate `lookPath` (`exec.LookPath`) resolves. -/
def findViewer (goos : String) (lookPath : String → Option String) : Except String String :=
  match viewerCandidates goos with
  | none => .error ("unsupported platform: " ++ goos)
  | some candidates =>
    match candidates.findSome? lookPath with
    | some path => .ok path
    | none => .error "no SPICE viewer found, install remote-viewer or spicy"

/-- `LaunchViewer`: find a viewer, build its arguments and start it (`start` gives the error of
`cmd.Start`, if any). It does not wait for the viewer; on success the model returns the command
it started. -/
def launchViewer (goos : String) (lookPath : String → Option String)
    (start : String → List String → Option String) (conn : Connection) :
    Except String (String × List String) :=
  match findViewer goos lookPath with
  | .error e => .error ("failed to find SPICE viewer: " ++ e)
  | .ok viewer =>
    match buildViewerArgs viewer conn with
    | .error e => .error ("failed to build viewer arguments: " ++ e)
    | .ok args =>
      match start viewer args with
      | some e => .error ("failed to start SPICE viewer: " ++ e)
      | none => .ok (viewer, args)

/-! ### The first candidate wins -/

theorem findViewer_ok_iff (goos : String) (lookPath : String → Option String) (p : String) :
    findViewer goos lookPath = .ok p ↔
      ∃ cs, viewerCandidates goos = some cs ∧ cs.findSome? lookPath = some p := by
  unfold findViewer
  split
  · simp_all
  · rename_i cs hcs
    cases h : cs.findSome? lookPath <;> simp [hcs, h]

/-! ### The kind of a found viewer -/

section Kind

variable {dir name : String} {sep : Char}

end Kind

/-- A spicy binary found under a directory named after another viewer gets the URI arguments. -/
theorem findViewer_spicy_under_virt_viewer :
    findViewer "linux" (fun n => if n = "spicy" then some "/opt/virt-viewer/bin/spicy" else none) =
      .ok "/opt/virt-viewer/bin/spicy" ∧
    viewerKind "/opt/virt-viewer/bin/spicy" = some .uri ∧
    buildViewerArgs "/opt/virt-viewer/bin/spicy" tcpDefaults =
      .ok ["spice://127.0.0.1:5900", "--full-screen", "--spice-disable-audio"] := by
  decide

/-! ### Asking QEMU for the port -/

/-- `QuerySPICEPort`: `dial` gives the error of connecting to the QMP socket, if any. The query
itself is not written yet: once connected, the function returns its "not yet implemented"
error. -/
def querySPICEPort (dial : String → Option String) (qmpSocketPath : String) :
    Except String String :=
  match dial qmpSocketPath with
  | some e => .error ("failed to connect to QMP socket: " ++ e)
  | none => .error "QMP SPICE query not yet implemented, use display configuration"

/-! ### What `buildViewerArgs` accepts -/

/-! ### What is launched for a display string -/

theorem launchViewer_ok_iff (goos : String) (lookPath : String → Option String)
    (start : String → List String → Option String) (c : Connection) (v : String)
    (args : List String) :
    launchViewer goos lookPath start c = .ok (v, args) ↔
      findViewer goos lookPath = .ok v ∧ buildViewerArgs v c = .ok args ∧ start v args = none := by
  refine ⟨fun h => ?_, fun ⟨hf, hb, hs⟩ => by simp [launchViewer, hf, hb, hs]⟩
  unfold launchViewer at h
  split at h <;> [cases h; rename_i hf]
  split at h <;> [cases h; rename_i hb]
  split at h <;> [cases h; rename_i hs]
  cases h
  exact ⟨hf, hb, hs⟩

theorem buildViewerArgs_parsed {s : String} {c : Connection} (h : getConnectionInfo s = .ok c)
    (v : String) (args : List String) :
    buildViewerArgs v c = .ok args ↔
      (viewerKind v = some .uri ∧ ∃ u, buildSpiceURI c = .ok u ∧
          args = [u, "--full-screen", "--spice-disable-audio"]) ∨
        (viewerKind v = some .spicy ∧ c.unixPath = "" ∧
          args = ["-h", c.host, "-p", c.port] ++ if c.password ≠ "" then ["-w", c.password] else []) := by
  have ha := getConnectionInfo_audio h
  rw [buildViewerArgs_eq]
  rcases viewerKind v with _ | _ | _
  · simp
  · unfold uriArgs
    rcases buildSpiceURI c with e | u <;> simp [ha, bind, Except.bind, pure, Except.pure, eq_comm]
  · unfold spicyArgs
    by_cases hx : c.unixPath = "" <;> simp [hx, eq_comm]

/-- **What `LaunchViewer` starts for a parsed display string.** It starts the first viewer found,
once, with nothing else tried: a URI viewer with the connection's URI, full screen and with audio
off, since the parser never turns audio on; or `spicy`, only for a TCP connection, with the host,
the port, and the password when there is one. -/
theorem launchViewer_parsed {s : String} {c : Connection} (h : getConnectionInfo s = .ok c)
    (goos : String) (lookPath : String → Option String)
    (start : String → List String → Option String) (v : String) (args : List String) :
    launchViewer goos lookPath start c = .ok (v, args) ↔
      (∃ cs, viewerCandidates goos = some cs ∧ cs.findSome? lookPath = some v) ∧
      start v args = none ∧
      ((viewerKind v = some .uri ∧ ∃ u, buildSpiceURI c = .ok u ∧
          args = [u, "--full-screen", "--spice-disable-audio"]) ∨
        (viewerKind v = some .spicy ∧ c.unixPath = "" ∧
          args = ["-h", c.host, "-p", c.port] ++ if c.password ≠ "" then ["-w", c.password] else [])) := by
  rw [launchViewer_ok_iff, findViewer_ok_iff, buildViewerArgs_parsed h]
  exact ⟨fun ⟨hf, hb, hs⟩ => ⟨hf, hs, hb⟩, fun ⟨hf, hs, hb⟩ => ⟨hf, hb, hs⟩⟩

theorem launchViewer_parsed_socket :
    launchViewer "linux"
        (fun n => if n = "remote-viewer" then some "/usr/bin/remote-viewer" else none)
        (fun _ _ => none) { unixPath := "/run/spice.sock" } =
      .ok ("/usr/bin/remote-viewer",
        ["spice+unix:///run/spice.sock", "--full-screen", "--spice-disable-audio"]) :=
  (launchViewer_parsed (s := "spice+unix:///run/spice.sock") (by decide) _ _ _ _ _).2
    ⟨⟨_, rfl, rfl⟩, rfl, .inl ⟨by decide, _, rfl, rfl⟩⟩

end LimaSpice.Client
