import LimaSpice.Go.Strings

/-!
# The connection descriptor and the display-string parser

`GetConnectionInfo` (`pkg/spiceclient`) reads a QEMU SPICE display string in one of two forms:
`spice+unix://<path>`, or a comma-separated list whose options `port=`, `addr=` and `password=`
overwrite the defaults `127.0.0.1:5900`. It rejects only the strings that do not start with
`spice`. In the TCP form the first part never contributes, and the connection is a fold of
`applyOption` over the options.
-/

namespace LimaSpice.Client

open LimaSpice.Go

/-- `Connection`: a SPICE connection configuration. -/
structure Connection where
  host : String := ""
  port : String := ""
  password : String := ""
  /-- For Unix socket connections. -/
  unixPath : String := ""
  /-- Enable audio streaming. -/
  audio : Bool := false
deriving DecidableEq, Repr

/-! ### The parser -/

/-- The descriptor the TCP form starts from. -/
def tcpDefaults : Connection := { host := "127.0.0.1", port := "5900" }

/-- An option `k=v` split at its first `=` with both sides trimmed; `none` when the part has no
`=` (`len(kv) != 2`). -/
def keyValue (part : String) : Option (String × String) :=
  match splitN2 part '=' with
  | [k, v] => some (trimSpace k, trimSpace v)
  | _ => none

/-- The `switch key` of the parser's loop: `port`, `addr` and `password` overwrite their field. -/
def applyOption (conn : Connection) (part : String) : Connection :=
  match keyValue part with
  | some (key, value) =>
    if key = "port" then { conn with port := value }
    else if key = "addr" then { conn with host := value }
    else if key = "password" then { conn with password := value }
    else conn
  | none => conn

/-- The body of the parser's loop over the comma-separated parts. -/
def applyPart (conn : Connection) (part : String) : Connection :=
  if part = "spice" then conn else applyOption conn part

/-- `GetConnectionInfo`: the connection a QEMU SPICE display string describes. -/
def getConnectionInfo (displayString : String) : Except String Connection :=
  if hasPrefix displayString "spice+unix://" then
    .ok { unixPath := trimPrefix displayString "spice+unix://" }
  else if !hasPrefix displayString "spice" then
    .error ("invalid SPICE display string: " ++ displayString)
  else
    .ok ((split displayString ',').foldl applyPart tcpDefaults)

/-! ### The two forms -/

theorem getConnectionInfo_unix (p : String) :
    getConnectionInfo ("spice+unix://" ++ p) = .ok { unixPath := p } := by
  simp [getConnectionInfo]

theorem getConnectionInfo_of_unix {s : String} {c : Connection} (h : getConnectionInfo s = .ok c)
    (hu : hasPrefix s "spice+unix://" = true) :
    c = { unixPath := trimPrefix s "spice+unix://" } := by
  simp only [getConnectionInfo, hu, if_true, Except.ok.injEq] at h
  exact h.symm

theorem getConnectionInfo_of_tcp {s : String} (hu : hasPrefix s "spice+unix://" = false)
    (hs : hasPrefix s "spice" = true) :
    getConnectionInfo s = .ok ((split s ',').foldl applyPart tcpDefaults) := by
  simp [getConnectionInfo, hu, hs]

theorem hasPrefix_spice_of_unix {s : String} (h : hasPrefix s "spice+unix://" = true) :
    hasPrefix s "spice" = true :=
  hasPrefix_trans (by decide) h

theorem hasPrefix_spice_of_ok {s : String} {c : Connection} (h : getConnectionInfo s = .ok c) :
    hasPrefix s "spice" = true := by
  by_cases hu : hasPrefix s "spice+unix://" = true
  · exact hasPrefix_spice_of_unix hu
  · cases hs : hasPrefix s "spice" <;> simp_all [getConnectionInfo]

/-- **What the parser rejects.** `GetConnectionInfo` fails exactly on the strings that do not
start with `spice`, and its error quotes the string. -/
theorem getConnectionInfo_error_iff (s e : String) :
    getConnectionInfo s = .error e ↔
      hasPrefix s "spice" = false ∧ e = "invalid SPICE display string: " ++ s := by
  by_cases hu : hasPrefix s "spice+unix://" = true
  · simp [getConnectionInfo, hu, hasPrefix_spice_of_unix hu]
  · cases hs : hasPrefix s "spice" <;> simp [getConnectionInfo, hu, hs, eq_comm]

/-- Strings that start with `spice` but are not the protocol token followed by options are
accepted, as the default endpoint or with the options they happen to carry. -/
theorem getConnectionInfo_accepts_spice_prefix :
    getConnectionInfo "spice://10.0.0.5:5930" = .ok tcpDefaults ∧
    getConnectionInfo "spice+unix:/tmp/s.sock" = .ok tcpDefaults ∧
    getConnectionInfo "spicefoo,port=1" = .ok { tcpDefaults with port := "1" } := by
  decide

/-! ### The first part never contributes -/

theorem keyValue_key_head {t key value : String} {r : List Char} (ht : t.data = 's' :: r)
    (h : keyValue t = some (key, value)) : ∃ r', key.data = 's' :: r' := by
  unfold keyValue at h
  split at h
  · rename_i k v hkv
    obtain ⟨hsplit, -⟩ := splitN2_eq_pair hkv
    simp only [Option.some.injEq, Prod.mk.injEq] at h
    obtain ⟨rfl, -⟩ := h
    rw [ht] at hsplit
    cases hk : k.data with
    | nil => simp [hk] at hsplit
    | cons c k' =>
      rw [hk, List.cons_append, List.cons.injEq] at hsplit
      obtain ⟨rfl, -⟩ := hsplit
      obtain ⟨r', hr'⟩ := trimSpace_cons k' (c := 's') (by decide)
      exact ⟨r', by rw [show k = ⟨'s' :: k'⟩ from String.ext hk, hr']⟩
  · cases h

theorem applyOption_of_head {t : String} {r : List Char} (ht : t.data = 's' :: r) (c : Connection) :
    applyOption c t = c := by
  unfold applyOption
  split
  · rename_i key value h
    obtain ⟨r', hr'⟩ := keyValue_key_head ht h
    have hk : ∀ w : String, w.data.head? ≠ some 's' → key ≠ w := by
      rintro w hw rfl; simp [hr'] at hw
    rw [if_neg (hk "port" (by decide)), if_neg (hk "addr" (by decide)),
      if_neg (hk "password" (by decide))]
  · rfl

/-- The check `part == "spice"` changes nothing: `applyOption` ignores that part as well. -/
theorem applyPart_eq_applyOption : applyPart = applyOption := by
  funext c t
  unfold applyPart
  split
  · subst_vars; exact (applyOption_of_head (r := "pice".data) rfl c).symm
  · rfl

/-! ### The TCP form -/

/-- The options of a display string: its comma-separated parts after the first. -/
def options (s : String) : List String := (split s ',').tail

/-- The value an option gives to `key`. -/
def valueFor (key part : String) : Option String :=
  (keyValue part).bind fun kv => if kv.1 = key then some kv.2 else none

/-- The values the options give to `key`, in order. -/
def valuesOf (key : String) (opts : List String) : List String := opts.filterMap (valueFor key)

/-- An option whose key is one the parser acts on. -/
def recognized (part : String) : Bool :=
  match keyValue part with
  | some (k, _) => k = "port" || k = "addr" || k = "password"
  | none => false

theorem getConnectionInfo_of_tcp_options {s : String} (hu : hasPrefix s "spice+unix://" = false)
    (hs : hasPrefix s "spice" = true) :
    getConnectionInfo s = .ok ((options s).foldl applyOption tcpDefaults) := by
  rw [getConnectionInfo_of_tcp hu hs, applyPart_eq_applyOption]
  obtain ⟨t, rest, ht, hp⟩ := prefix_splitOn_head ',' (by decide) (hasPrefix_iff.1 hs)
  obtain ⟨r, hr⟩ := hp
  simp only [split, options, ht, List.map_cons, List.foldl_cons, List.tail_cons]
  rw [applyOption_of_head (t := ⟨t⟩) (r := "pice".data ++ r) (by simp [← hr])]

theorem applyOption_of_not_recognized {t : String} (h : recognized t = false) (c : Connection) :
    applyOption c t = c := by
  unfold recognized at h
  unfold applyOption
  split <;> simp_all

theorem applyOption_unixPath (c : Connection) (t : String) :
    (applyOption c t).unixPath = c.unixPath := by
  unfold applyOption; split <;> (try split_ifs) <;> rfl

theorem foldl_applyOption_unixPath (opts : List String) (c : Connection) :
    (opts.foldl applyOption c).unixPath = c.unixPath := by
  induction opts generalizing c with
  | nil => rfl
  | cons t ts ih => rw [List.foldl_cons, ih, applyOption_unixPath]

theorem applyOption_audio (c : Connection) (t : String) : (applyOption c t).audio = c.audio := by
  unfold applyOption; split <;> (try split_ifs) <;> rfl

theorem foldl_applyOption_audio (opts : List String) (c : Connection) :
    (opts.foldl applyOption c).audio = c.audio := by
  induction opts generalizing c with
  | nil => rfl
  | cons t ts ih => rw [List.foldl_cons, ih, applyOption_audio]

theorem getConnectionInfo_ok_cases {s : String} {c : Connection} (h : getConnectionInfo s = .ok c) :
    (hasPrefix s "spice+unix://" = true ∧ c = { unixPath := trimPrefix s "spice+unix://" }) ∨
      (hasPrefix s "spice+unix://" = false ∧ c = (options s).foldl applyOption tcpDefaults) := by
  cases hu : hasPrefix s "spice+unix://"
  · rw [getConnectionInfo_of_tcp_options hu (hasPrefix_spice_of_ok h), Except.ok.injEq] at h
    exact .inr ⟨rfl, h.symm⟩
  · exact .inl ⟨rfl, getConnectionInfo_of_unix h hu⟩

theorem getConnectionInfo_audio {s : String} {c : Connection} (h : getConnectionInfo s = .ok c) :
    c.audio = false := by
  obtain ⟨-, rfl⟩ | ⟨-, rfl⟩ := getConnectionInfo_ok_cases h
  · rfl
  · exact foldl_applyOption_audio _ _

theorem foldl_applyOption_filter (c : Connection) (opts : List String) :
    opts.foldl applyOption c = (opts.filter recognized).foldl applyOption c := by
  induction opts generalizing c with
  | nil => rfl
  | cons t ts ih =>
    cases h : recognized t
    · simp [h, applyOption_of_not_recognized h, ih]
    · simp [h, ih]

section LastWins

variable (f : Connection → String) (key : String)
  (hf : ∀ c t, f (applyOption c t) = (valueFor key t).getD (f c))

include hf in
/-- **The last value wins.** A field the options set holds the value of its key's last
occurrence, or the value it started with. -/
theorem foldl_applyOption_field (opts : List String) (c : Connection) :
    f (opts.foldl applyOption c) = (valuesOf key opts).getLastD (f c) := by
  induction opts generalizing c with
  | nil => rfl
  | cons t ts ih =>
    rw [List.foldl_cons, ih, hf]
    cases h : valueFor key t <;>
      simp only [valuesOf, List.filterMap_cons, h, Option.getD_none, Option.getD_some,
        List.getLastD_cons]

end LastWins

theorem applyOption_port (c : Connection) (t : String) :
    (applyOption c t).port = (valueFor "port" t).getD c.port := by
  unfold applyOption valueFor
  split <;> simp_all; split_ifs <;> simp_all

theorem applyOption_host (c : Connection) (t : String) :
    (applyOption c t).host = (valueFor "addr" t).getD c.host := by
  unfold applyOption valueFor
  split <;> simp_all; split_ifs <;> simp_all

theorem applyOption_password (c : Connection) (t : String) :
    (applyOption c t).password = (valueFor "password" t).getD c.password := by
  unfold applyOption valueFor
  split <;> simp_all; split_ifs <;> simp_all

/-- An option gives a value to `key` exactly when it splits at its first `=` into a part that
trims to `key` and a part that trims to the value. -/
theorem valueFor_eq_some_iff (key t v : String) :
    valueFor key t = some v ↔ ∃ k rest, t.data = k ++ '=' :: rest ∧ '=' ∉ k ∧
      trimSpace ⟨k⟩ = key ∧ v = trimSpace ⟨rest⟩ := by
  constructor
  · unfold valueFor keyValue
    split
    · rename_i k r hkr
      obtain ⟨ht, hk⟩ := splitN2_eq_pair hkr
      simp only [Option.some_bind, Option.ite_none_right_eq_some, Option.some.injEq]
      rintro ⟨hkey, rfl⟩
      exact ⟨k.data, r.data, ht, hk, hkey, rfl⟩
    · simp
  · rintro ⟨k, rest, ht, hk, rfl, rfl⟩
    obtain rfl : t = ⟨k ++ '=' :: rest⟩ := String.ext ht
    simp [valueFor, keyValue, splitN2_append hk]

/-- **The TCP form is a fold over the options.** For a string the parser accepts in the TCP
form, the connection is `applyOption` folded over the parts after the first, from `tcpDefaults`;
each of `port`, `addr` and `password` holds its key's last value, an option giving a key its value
when it splits at its first `=` into the trimmed key and the trimmed value; and two such strings
whose recognized options agree parse alike. -/
theorem getConnectionInfo_tcp {s : String} {c : Connection} (h : getConnectionInfo s = .ok c)
    (hu : hasPrefix s "spice+unix://" = false) :
    c = (options s).foldl applyOption tcpDefaults ∧
    c.port = (valuesOf "port" (options s)).getLastD "5900" ∧
    c.host = (valuesOf "addr" (options s)).getLastD "127.0.0.1" ∧
    c.password = (valuesOf "password" (options s)).getLastD "" ∧
    (∀ key t v, valueFor key t = some v ↔ ∃ k rest, t.data = k ++ '=' :: rest ∧ '=' ∉ k ∧
      trimSpace ⟨k⟩ = key ∧ v = trimSpace ⟨rest⟩) ∧
    ∀ s', hasPrefix s' "spice" = true → hasPrefix s' "spice+unix://" = false →
      (options s').filter recognized = (options s).filter recognized →
      getConnectionInfo s' = .ok c := by
  obtain ⟨hu', -⟩ | ⟨-, rfl⟩ := getConnectionInfo_ok_cases h
  · simp [hu] at hu'
  refine ⟨rfl, foldl_applyOption_field _ _ applyOption_port _ _,
    foldl_applyOption_field _ _ applyOption_host _ _,
    foldl_applyOption_field _ _ applyOption_password _ _, valueFor_eq_some_iff,
    fun s' hs' hu' hf => ?_⟩
  rw [getConnectionInfo_of_tcp_options hu' hs', foldl_applyOption_filter, hf,
    ← foldl_applyOption_filter]

/-- Keys and values are trimmed, a value keeps every `=` after the first, and an option with
another key is ignored. -/
theorem getConnectionInfo_tcp_spaced :
    getConnectionInfo "spice, port = 5930 ,gl=on,password=a=b" =
        .ok { tcpDefaults with port := "5930", password := "a=b" } ∧
      valueFor "port" " port = 5930 " = some "5930" :=
  ⟨by decide, ((getConnectionInfo_tcp (s := "spice, port = 5930 ,gl=on,password=a=b")
    (c := { tcpDefaults with port := "5930", password := "a=b" }) (by decide) (by decide)).2.2.2.2.1
      "port" " port = 5930 " "5930").2 ⟨" port ".data, " 5930 ".data, rfl, by decide, by decide,
        by decide⟩⟩

end LimaSpice.Client
