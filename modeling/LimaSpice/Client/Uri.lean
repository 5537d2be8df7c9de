import LimaSpice.Client.Connection

/-!
# The URI and the viewer arguments

`buildSpiceURI` turns a connection into the URI `remote-viewer` and `virt-viewer` take;
`buildViewerArgs` picks the argument shape from the viewer's name. The descriptor invariant of the
design, `Connection.WellFormed`, is checked by neither the parser nor `buildViewerArgs`'s `spicy`
branch: only `buildSpiceURI` rejects a TCP connection without a host or a port. Its values are
pasted in unescaped, so a URI determines a parsed connection only when the host has no `:` and
the port no `?`.
-/

namespace LimaSpice.Client

open LimaSpice.Go

/-! ### The invariant -/

/-- **The descriptor invariant**: a unix socket and nothing else, or a TCP endpoint with a host
and a port. -/
def Connection.WellFormed (c : Connection) : Prop :=
  (c.unixPath ≠ "" ∧ c.host = "" ∧ c.port = "" ∧ c.password = "") ∨
    (c.unixPath = "" ∧ c.host ≠ "" ∧ c.port ≠ "")

instance : DecidablePred Connection.WellFormed := fun _ =>
  inferInstanceAs (Decidable (_ ∨ _))

/-! ### Building the URI -/

/-- `buildSpiceURI`: the SPICE URI of a connection, for a unix socket or a TCP endpoint. -/
def buildSpiceURI (conn : Connection) : Except String String :=
  if conn.unixPath ≠ "" then .ok ("spice+unix://" ++ conn.unixPath)
  else if conn.host = "" ∨ conn.port = "" then .error "host and port required for TCP connection"
  else
    let uri := "spice://" ++ conn.host ++ ":" ++ conn.port
    .ok (if conn.password ≠ "" then uri ++ "?password=" ++ conn.password else uri)

theorem buildSpiceURI_unix {c : Connection} (h : c.unixPath ≠ "") :
    buildSpiceURI c = .ok ("spice+unix://" ++ c.unixPath) := by
  simp [buildSpiceURI, h]

theorem buildSpiceURI_tcp {c : Connection} (hu : c.unixPath = "") (hh : c.host ≠ "")
    (hp : c.port ≠ "") :
    buildSpiceURI c = .ok ("spice://" ++ c.host ++ ":" ++ c.port ++
      if c.password ≠ "" then "?password=" ++ c.password else "") := by
  by_cases hw : c.password = "" <;> simp [buildSpiceURI, hu, hh, hp, hw, String.append_assoc]

theorem buildSpiceURI_ok_iff (c : Connection) :
    (∃ u, buildSpiceURI c = .ok u) ↔ c.unixPath ≠ "" ∨ (c.host ≠ "" ∧ c.port ≠ "") := by
  unfold buildSpiceURI
  by_cases hu : c.unixPath = "" <;> by_cases hh : c.host = "" <;> by_cases hp : c.port = "" <;>
    simp [hu, hh, hp]

/-! ### Arguments for each kind of viewer -/

/-- `buildViewerArgs`: the arguments for the viewer at path `viewer`, chosen by its name. -/
def buildViewerArgs (viewer : String) (conn : Connection) : Except String (List String) :=
  let viewerName := toLower viewer
  if contains viewerName "remote-viewer" || contains viewerName "virt-viewer" then do
    let uri ← buildSpiceURI conn
    pure ([uri, "--full-screen"] ++ if !conn.audio then ["--spice-disable-audio"] else [])
  else if contains viewerName "spicy" then
    if conn.unixPath ≠ "" then .error "spicy does not support Unix socket connections"
    else .ok (["-h", conn.host, "-p", conn.port] ++
      if conn.password ≠ "" then ["-w", conn.password] else [])
  else .error ("unknown SPICE viewer type: " ++ viewer)

/-- The two argument shapes of `buildViewerArgs`. -/
inductive ViewerKind
  | uri
  | spicy
deriving DecidableEq, Repr

/-- The branch `buildViewerArgs` takes for a viewer path: it reads the whole path, lower-cased. -/
def viewerKind (viewer : String) : Option ViewerKind :=
  let viewerName := toLower viewer
  if contains viewerName "remote-viewer" || contains viewerName "virt-viewer" then some .uri
  else if contains viewerName "spicy" then some .spicy
  else none

/-- The arguments of the URI branch. -/
def uriArgs (conn : Connection) : Except String (List String) := do
  let uri ← buildSpiceURI conn
  pure ([uri, "--full-screen"] ++ if !conn.audio then ["--spice-disable-audio"] else [])

/-- The arguments of the `spicy` branch. -/
def spicyArgs (conn : Connection) : Except String (List String) :=
  if conn.unixPath ≠ "" then .error "spicy does not support Unix socket connections"
  else .ok (["-h", conn.host, "-p", conn.port] ++
    if conn.password ≠ "" then ["-w", conn.password] else [])

theorem buildViewerArgs_eq (viewer : String) (conn : Connection) :
    buildViewerArgs viewer conn =
      match viewerKind viewer with
      | some .uri => uriArgs conn
      | some .spicy => spicyArgs conn
      | none => .error ("unknown SPICE viewer type: " ++ viewer) := by
  unfold buildViewerArgs viewerKind
  by_cases h₁ : (contains (toLower viewer) "remote-viewer" ||
      contains (toLower viewer) "virt-viewer") = true
  · simp only [h₁, if_true]; rfl
  · by_cases h₂ : contains (toLower viewer) "spicy" = true
    · simp only [h₁, h₂, if_true, if_false, Bool.false_eq_true]; rfl
    · simp only [h₁, h₂, if_false, Bool.false_eq_true]

theorem uriArgs_ok_iff (c : Connection) :
    (∃ args, uriArgs c = .ok args) ↔ ∃ u, buildSpiceURI c = .ok u := by
  unfold uriArgs
  cases buildSpiceURI c <;> simp [bind, Except.bind, pure, Except.pure]

theorem spicyArgs_ok_iff (c : Connection) : (∃ args, spicyArgs c = .ok args) ↔ c.unixPath = "" := by
  by_cases h : c.unixPath = "" <;> simp [spicyArgs, h]

/-! ### Parsed connections -/

theorem parsed_unix_only {s : String} {c : Connection} (h : getConnectionInfo s = .ok c)
    (hu : c.unixPath ≠ "") : c.host = "" ∧ c.port = "" ∧ c.password = "" := by
  obtain ⟨-, rfl⟩ | ⟨-, rfl⟩ := getConnectionInfo_ok_cases h
  · simp
  · simp [foldl_applyOption_unixPath, tcpDefaults] at hu

/-- **The unix form round-trips.** A non-empty socket path parses to the connection holding only
that path, which builds back to the same string; and a connection holding only a socket path
builds to a URI that parses back to it. -/
theorem unix_round_trip :
    (∀ p : String, p ≠ "" →
      getConnectionInfo ("spice+unix://" ++ p) = .ok { unixPath := p } ∧
        (getConnectionInfo ("spice+unix://" ++ p) >>= buildSpiceURI) = .ok ("spice+unix://" ++ p)) ∧
    ∀ c : Connection, c.unixPath ≠ "" → c.host = "" → c.port = "" → c.password = "" →
      c.audio = false → (buildSpiceURI c >>= getConnectionInfo) = .ok c := by
  refine ⟨fun p hp => ⟨getConnectionInfo_unix p, ?_⟩, fun c hu hh hp hw ha => ?_⟩
  · rw [getConnectionInfo_unix]
    exact buildSpiceURI_unix (c := { unixPath := p }) hp
  · rw [buildSpiceURI_unix hu]
    show getConnectionInfo ("spice+unix://" ++ c.unixPath) = .ok c
    rw [getConnectionInfo_unix]
    cases c; simp_all

theorem unix_round_trip_tmp :
    getConnectionInfo "spice+unix:///tmp/spice.sock" = .ok { unixPath := "/tmp/spice.sock" } ∧
    (buildSpiceURI { unixPath := "/var/run/spice.sock" } >>= getConnectionInfo) =
      .ok { unixPath := "/var/run/spice.sock" } :=
  ⟨(unix_round_trip.1 "/tmp/spice.sock" (by decide)).1,
    unix_round_trip.2 { unixPath := "/var/run/spice.sock" } (by decide) rfl rfl rfl rfl⟩

/-! ### What the parser leaves to `buildSpiceURI` -/

theorem parsed_wellFormed_iff {s : String} {c : Connection} (h : getConnectionInfo s = .ok c) :
    c.WellFormed ↔ ∃ u, buildSpiceURI c = .ok u := by
  rw [buildSpiceURI_ok_iff]
  by_cases hu : c.unixPath = ""
  · simp [Connection.WellFormed, hu]
  · simp [Connection.WellFormed, hu, parsed_unix_only h hu]

theorem getLastD_eq_empty_iff {l : List String} {d : String} (hd : d ≠ "") :
    l.getLastD d = "" ↔ l.getLast? = some "" := by
  rw [List.getLastD_eq_getLast?]
  cases l.getLast? <;> simp [hd]

theorem parsed_not_wellFormed_iff {s : String} {c : Connection} (h : getConnectionInfo s = .ok c) :
    ¬ c.WellFormed ↔ s = "spice+unix://" ∨ (hasPrefix s "spice+unix://" = false ∧
      ((valuesOf "addr" (options s)).getLast? = some "" ∨
        (valuesOf "port" (options s)).getLast? = some "")) := by
  obtain ⟨hu, rfl⟩ | ⟨hu, rfl⟩ := getConnectionInfo_ok_cases h
  · obtain ⟨r, hr⟩ := hasPrefix_iff.1 hu
    obtain rfl : s = "spice+unix://" ++ ⟨r⟩ := String.ext (by simp [← hr])
    simp [Connection.WellFormed, String.ext_iff]
  · have hh : ((options s).foldl applyOption tcpDefaults).host = "" ↔
        (valuesOf "addr" (options s)).getLast? = some "" := by
      rw [foldl_applyOption_field _ _ applyOption_host]; exact getLastD_eq_empty_iff (by decide)
    have hp : ((options s).foldl applyOption tcpDefaults).port = "" ↔
        (valuesOf "port" (options s)).getLast? = some "" := by
      rw [foldl_applyOption_field _ _ applyOption_port]; exact getLastD_eq_empty_iff (by decide)
    have hs : s ≠ "spice+unix://" := by rintro rfl; exact absurd hu (by decide)
    have hn : ((options s).foldl applyOption tcpDefaults).unixPath = "" :=
      (foldl_applyOption_unixPath _ _).trans rfl
    simp only [Connection.WellFormed, hn, hh, hp, hu, hs, ne_eq, not_true_eq_false, false_and,
      true_and, false_or, not_and_or, not_not]

/-- **Parsed connections and the invariant.** A connection `GetConnectionInfo` returns is well
formed exactly when `buildSpiceURI` accepts it, and then every viewer of the URI kind accepts it;
the `spicy` kind accepts every TCP connection. The parser lets the invariant fail exactly for
`spice+unix://` alone and for TCP strings whose last `addr` or last `port` value is blank. -/
theorem getConnectionInfo_wellFormed {s : String} {c : Connection}
    (h : getConnectionInfo s = .ok c) :
    (c.WellFormed ↔ ∃ u, buildSpiceURI c = .ok u) ∧
    (c.WellFormed → ∀ v, viewerKind v = some .uri → ∃ args, buildViewerArgs v c = .ok args) ∧
    (c.unixPath = "" → ∀ v, viewerKind v = some .spicy → ∃ args, buildViewerArgs v c = .ok args) ∧
    (¬ c.WellFormed ↔ s = "spice+unix://" ∨ (hasPrefix s "spice+unix://" = false ∧
      ((valuesOf "addr" (options s)).getLast? = some "" ∨
        (valuesOf "port" (options s)).getLast? = some ""))) := by
  refine ⟨parsed_wellFormed_iff h, fun hw v hv => ?_, fun hu v hv => ?_,
    parsed_not_wellFormed_iff h⟩
  · rw [buildViewerArgs_eq, hv]
    exact (uriArgs_ok_iff c).2 ((parsed_wellFormed_iff h).1 hw)
  · rw [buildViewerArgs_eq, hv]
    exact (spicyArgs_ok_iff c).2 hu

theorem getConnectionInfo_wellFormed_port_blank :
    getConnectionInfo "spice,port=" = .ok { tcpDefaults with port := "" } ∧
    (¬ ({ tcpDefaults with port := "" } : Connection).WellFormed ↔
      "spice,port=" = "spice+unix://" ∨ (hasPrefix "spice,port=" "spice+unix://" = false ∧
        ((valuesOf "addr" (options "spice,port=")).getLast? = some "" ∨
          (valuesOf "port" (options "spice,port=")).getLast? = some ""))) :=
  ⟨by decide, (getConnectionInfo_wellFormed (by decide)).2.2.2⟩

/-- An empty socket path, or a blank option value, is accepted by the parser and then refused by
`buildSpiceURI`. -/
theorem getConnectionInfo_accepts_blank :
    getConnectionInfo "spice+unix://" = .ok {} ∧ ¬ ({} : Connection).WellFormed ∧
    buildSpiceURI {} = .error "host and port required for TCP connection" ∧
    getConnectionInfo "spice,port=" = .ok { tcpDefaults with port := "" } ∧
    buildSpiceURI { tcpDefaults with port := "" } =
      .error "host and port required for TCP connection" := by
  decide

/-! ### Which URIs designate which connection -/

theorem port_query_cancel {p₁ p₂ w₁ w₂ : String} (h₁ : '?' ∉ p₁.data) (h₂ : '?' ∉ p₂.data)
    (h : p₁ ++ (if w₁ ≠ "" then "?password=" ++ w₁ else "") =
      p₂ ++ (if w₂ ≠ "" then "?password=" ++ w₂ else "")) : p₁ = p₂ ∧ w₁ = w₂ := by
  have hq (p w : String) :
      (p ++ ("?password=" ++ w)).data = p.data ++ '?' :: ("password=" ++ w).data := by simp
  by_cases hw₁ : w₁ = "" <;> by_cases hw₂ : w₂ = "" <;>
    simp only [hw₁, hw₂, ne_eq, not_true_eq_false, not_false_eq_true, if_true, if_false,
      String.append_empty] at h
  · exact ⟨h, hw₁.trans hw₂.symm⟩
  · exact absurd (String.data_eq_of_eq h ▸ hq p₂ w₂ ▸ by simp) h₁
  · exact absurd (String.data_eq_of_eq h.symm ▸ hq p₁ w₁ ▸ by simp) h₂
  · have := append_cons_cancel h₁ h₂ (by rw [← hq, ← hq, h])
    exact ⟨String.ext this.1, by simpa [String.ext_iff] using this.2⟩

theorem tcp_uri_cancel {c₁ c₂ : Connection} (hh₁ : ':' ∉ c₁.host.data) (hh₂ : ':' ∉ c₂.host.data)
    (hp₁ : '?' ∉ c₁.port.data) (hp₂ : '?' ∉ c₂.port.data)
    (h : "spice://" ++ c₁.host ++ ":" ++ c₁.port ++
        (if c₁.password ≠ "" then "?password=" ++ c₁.password else "") =
      "spice://" ++ c₂.host ++ ":" ++ c₂.port ++
        (if c₂.password ≠ "" then "?password=" ++ c₂.password else "")) :
    c₁.host = c₂.host ∧ c₁.port = c₂.port ∧ c₁.password = c₂.password := by
  simp only [String.ext_iff, String.data_append, List.append_assoc, List.append_cancel_left_eq]
    at h
  obtain ⟨hh, hr⟩ := append_cons_cancel hh₁ hh₂ h
  have := port_query_cancel hp₁ hp₂ (String.ext (by simpa using hr))
  exact ⟨String.ext hh, this⟩

/-- **The URI of a parsed connection designates it**, when its host has no `:` and its port no
`?`: two such connections with one URI agree on the socket path, host, port and password. -/
theorem buildSpiceURI_injective_on {s₁ s₂ u : String} {c₁ c₂ : Connection}
    (h₁ : getConnectionInfo s₁ = .ok c₁) (h₂ : getConnectionInfo s₂ = .ok c₂)
    (hh₁ : ':' ∉ c₁.host.data) (hh₂ : ':' ∉ c₂.host.data)
    (hp₁ : '?' ∉ c₁.port.data) (hp₂ : '?' ∉ c₂.port.data)
    (hu₁ : buildSpiceURI c₁ = .ok u) (hu₂ : buildSpiceURI c₂ = .ok u) :
    c₁.unixPath = c₂.unixPath ∧ c₁.host = c₂.host ∧ c₁.port = c₂.port ∧
      c₁.password = c₂.password := by
  have tcp {c : Connection} (hu : c.unixPath = "") (hok : buildSpiceURI c = .ok u) :=
    have hne := (buildSpiceURI_ok_iff c).1 ⟨u, hok⟩
    (buildSpiceURI_tcp hu (hne.resolve_left (not_not.2 hu)).1
      (hne.resolve_left (not_not.2 hu)).2).symm.trans hok
  by_cases hn₁ : c₁.unixPath = "" <;> by_cases hn₂ : c₂.unixPath = ""
  · exact ⟨hn₁.trans hn₂.symm,
      tcp_uri_cancel hh₁ hh₂ hp₁ hp₂ (Except.ok.inj ((tcp hn₁ hu₁).trans (tcp hn₂ hu₂).symm))⟩
  · have := Except.ok.inj ((tcp hn₁ hu₁).trans ((buildSpiceURI_unix hn₂).symm.trans hu₂).symm)
    simp [String.ext_iff] at this
  · have := Except.ok.inj ((tcp hn₂ hu₂).trans ((buildSpiceURI_unix hn₁).symm.trans hu₁).symm)
    simp [String.ext_iff] at this
  · have := Except.ok.inj (((buildSpiceURI_unix hn₁).symm.trans hu₁).trans
      ((buildSpiceURI_unix hn₂).symm.trans hu₂).symm)
    obtain ⟨hh₁', hp₁', hw₁'⟩ := parsed_unix_only h₁ hn₁
    obtain ⟨hh₂', hp₂', hw₂'⟩ := parsed_unix_only h₂ hn₂
    refine ⟨by simpa [String.ext_iff] using this, ?_, ?_, ?_⟩ <;> simp_all

theorem buildSpiceURI_injective_on_port :
    ({ tcpDefaults with port := "5930" } : Connection).unixPath =
        ({ tcpDefaults with port := "5930" } : Connection).unixPath ∧
      ({ tcpDefaults with port := "5930" } : Connection).host =
        ({ tcpDefaults with port := "5930" } : Connection).host ∧
      ({ tcpDefaults with port := "5930" } : Connection).port =
        ({ tcpDefaults with port := "5930" } : Connection).port ∧
      ({ tcpDefaults with port := "5930" } : Connection).password =
        ({ tcpDefaults with port := "5930" } : Connection).password :=
  @buildSpiceURI_injective_on "spice,port=5930" "spice,gl=on,port=5930" "spice://127.0.0.1:5930"
    _ _ (by decide) (by decide) (by decide) (by decide) (by decide)
    (by decide) (by decide) (by decide)

/-- Host and port values are pasted into the URI unescaped: two different parsed connections,
one URI. -/
theorem buildSpiceURI_collision :
    getConnectionInfo "spice,addr=a:1,port=2" = .ok { tcpDefaults with host := "a:1", port := "2" } ∧
    getConnectionInfo "spice,addr=a,port=1:2" = .ok { tcpDefaults with host := "a", port := "1:2" } ∧
    buildSpiceURI { tcpDefaults with host := "a:1", port := "2" } = .ok "spice://a:1:2" ∧
    buildSpiceURI { tcpDefaults with host := "a", port := "1:2" } = .ok "spice://a:1:2" := by
  decide

/-- `spicy` is handed an empty host and port: its branch checks only the socket path. -/
theorem buildViewerArgs_spicy_blank :
    buildViewerArgs "/usr/bin/spicy" {} = .ok ["-h", "", "-p", ""] ∧
    ¬ ({} : Connection).WellFormed ∧ buildSpiceURI {} = .error "host and port required for TCP connection" := by
  decide

end LimaSpice.Client
