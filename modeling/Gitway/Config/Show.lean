import Gitway.Reference
import Mathlib.Data.List.Infix

/-!
# Rendering `gitway config show`

The resolution of a host is printed in the form of `ssh -G` or as a JSON object. A path
that looks like a private key is replaced by `[REDACTED]`.
-/
namespace Gitway.Config

open Lib

/-! ### Redaction -/

def REDACTED : String := "[REDACTED]"

def contains (s part : String) : Bool := decide (part.toList <:+: s.toList)

/-- What `looks_like_private_key` asks once the name is text. -/
def looksLikeKey (name : String) (path : OsPath) : Bool :=
  if (extension name).any fun ext => Text.eqIgnoreAsciiCase ext "pub" then false
  else if !contains name "id_" then false
  else
    let pathStr := path.toStringLossy
    contains pathStr ".ssh" || contains pathStr "/.config/gitway/keys"

def looksLikePrivateKey (path : OsPath) : Bool :=
  match path.fileName with
  | none => false
  | some nameOs =>
    match nameOs.toStr with
    | none => false
    | some name => looksLikeKey name path

def displayPath (path : OsPath) (showSecrets : Bool) : String :=
  if showSecrets || !looksLikePrivateKey path then path.toStringLossy else REDACTED

def strictLabel : StrictHostKeyChecking → String
  | .yes => "yes"
  | .no => "no"
  | .acceptNew => "accept-new"

def yesNo (b : Bool) : String := if b then "yes" else "no"

structure ConfigShowArgs where
  host : String
  userConfig : Option OsPath
  systemConfig : Option OsPath
  showSecrets : Bool

variable {Ag Va Te : Type} (An : Type) [Anvil An]

/-! ### As text -/

def hopLine (hop : JumpHost × Nat) : String :=
  let userPrefix := (hop.1.user.map fun u => s!"{u}@").getD ""
  s!"proxyjump_hop_{hop.2 + 1}_to {userPrefix}{hop.1.host}:{hop.1.port}"

def emitProxyJump (raw : String) : Program Ag Va Te Unit := do
  Program.println s!"proxyjump {raw}"
  if !Text.eqIgnoreAsciiCase raw "none" then
    match Anvil.parseJumpChain An raw with
    | .ok chain => chain.zipIdx.forM fun hop => Program.println (hopLine hop)
    | .error e =>
      Program.eprintln
        s!"gitway config show: warning: ProxyJump unparsable: {(Anvil.describe An e).display}"

def emitHumanShow (args : ConfigShowArgs) (resolved : ResolvedSshConfig) :
    Program Ag Va Te Unit := do
  let line (name : String) (value : Option String) : Program Ag Va Te Unit :=
    value.forM fun v => Program.println s!"{name} {v}"
  line "hostname" resolved.hostname
  line "user" resolved.user
  line "port" (resolved.port.map toString)
  resolved.identityFiles.forM fun path =>
    Program.println s!"identityfile {displayPath path args.showSecrets}"
  line "identitiesonly" (resolved.identitiesOnly.map yesNo)
  line "identityagent" (resolved.identityAgent.map fun p => displayPath p args.showSecrets)
  -- Certificates and known hosts are public, so they are never redacted.
  resolved.certificateFiles.forM fun path =>
    Program.println s!"certificatefile {displayPath path true}"
  line "proxycommand" resolved.proxyCommand
  resolved.proxyJump.forM (emitProxyJump An)
  resolved.userKnownHostsFiles.forM fun path =>
    Program.println s!"userknownhostsfile {displayPath path true}"
  line "stricthostkeychecking" (resolved.strictHostKeyChecking.map strictLabel)
  line "hostkeyalgorithms" (resolved.hostKeyAlgorithms.map AlgList.names)
  line "kexalgorithms" (resolved.kexAlgorithms.map AlgList.names)
  line "ciphers" (resolved.ciphers.map AlgList.names)
  line "macs" (resolved.macs.map AlgList.names)
  line "connecttimeout" (resolved.connectTimeout.map toString)
  line "connectionattempts" (resolved.connectionAttempts.map toString)

/-! ### As JSON -/

def certAuthorityJson (ca : CertAuthority) : Json :=
  .obj [("host_pattern", .str ca.hostPattern), ("algorithm", .str ca.algorithm),
    ("fingerprint", .str ca.fingerprint)]

def revokedJson (r : RevokedEntry) : Json :=
  .obj [("host_pattern", .str r.hostPattern), ("fingerprint", .str r.fingerprint)]

/-- The certificate authorities and the revoked keys of a host. -/
def certAndRevokedJson (host : String) (customPath : Option OsPath) (scopeLabel : String) :
    Program Ag Va Te (List Json × List Json) := do
  let trust ← Fallible.query fun w => .ok (Anvil.hostKeyTrust An host customPath w.fs)
  match trust with
  | .ok trust => return (trust.certAuthorities.map certAuthorityJson, trust.revoked.map revokedJson)
  | .error e =>
    Program.eprintln (s!"{scopeLabel}: warning: known_hosts CA/revoked parse failed: " ++
      (Anvil.describe An e).display)
    return ([], [])

def hopJson (hop : JumpHost) : Json :=
  .obj [("host", .str hop.host), ("port", .num hop.port), ("user", .ofOption .str hop.user)]

def jumpChainJson (raw : Option String) : Json :=
  match raw with
  | none => .null
  | some raw =>
    if Text.eqIgnoreAsciiCase raw "none" then .null
    else
      match Anvil.parseJumpChain An raw with
      | .ok chain => .arr (chain.map hopJson)
      | .error _ => .null

def sourceJson (src : DirectiveSource) : Json :=
  .obj [("directive", .str src.directive), ("file", .str src.file.toStringLossy),
    ("line", .num src.line)]

/-- The fields of which something was replaced, once for each replacement. -/
def redactedFields (identityFiles : List String) (identityAgent : Option String) : List Json :=
  (identityFiles.filter (· == REDACTED)).map (fun _ => .str "identityfile") ++
    if identityAgent = some REDACTED then [.str "identityagent"] else []

def emitJsonShow (args : ConfigShowArgs) (resolved : ResolvedSshConfig) :
    Program Ag Va Te Unit := do
  let identityFiles := resolved.identityFiles.map fun p => displayPath p args.showSecrets
  let identityAgent := resolved.identityAgent.map fun p => displayPath p args.showSecrets
  let customKnownHosts := resolved.userKnownHostsFiles.head?
  let (certAuthoritiesJson, revokedJson) ←
    certAndRevokedJson An args.host customKnownHosts "gitway config show"
  let text (value : Option String) : Json := .ofOption .str value
  let number (value : Option Nat) : Json := .ofOption (fun n : Nat => .num n) value
  let paths (values : List OsPath) : Json := .arr (values.map fun p => .str p.toStringLossy)
  let algorithms (value : Option AlgList) : Json := text (value.map AlgList.names)
  let env ← Program.environment
  Program.emitJson (.obj [
    ("metadata", metadataBlock env "gitway config show"),
    ("data", .obj [
      ("host", .str args.host),
      ("hostname", text resolved.hostname),
      ("user", text resolved.user),
      ("port", number resolved.port),
      ("identity_files", .arr (identityFiles.map .str)),
      ("identities_only", .ofOption .bool resolved.identitiesOnly),
      ("identity_agent", text identityAgent),
      ("certificate_files", paths resolved.certificateFiles),
      ("proxy_command", text resolved.proxyCommand),
      ("proxy_jump", text resolved.proxyJump),
      ("proxy_jump_chain", jumpChainJson An resolved.proxyJump),
      ("user_known_hosts_files", paths resolved.userKnownHostsFiles),
      ("strict_host_key_checking", text (resolved.strictHostKeyChecking.map strictLabel)),
      ("host_key_algorithms", algorithms resolved.hostKeyAlgorithms),
      ("kex_algorithms", algorithms resolved.kexAlgorithms),
      ("ciphers", algorithms resolved.ciphers),
      ("macs", algorithms resolved.macs),
      ("connect_timeout_secs", number resolved.connectTimeout),
      ("connection_attempts", number resolved.connectionAttempts),
      ("cert_authorities", .arr certAuthoritiesJson),
      ("revoked", .arr revokedJson),
      ("provenance", .arr (resolved.provenance.map sourceJson)),
      ("redacted", .arr (redactedFields identityFiles identityAgent))])])

/-- The part of `run_show` behind the resolution. -/
def emitShow (args : ConfigShowArgs) (mode : OutputMode) (resolved : ResolvedSshConfig) :
    Program Ag Va Te Unit :=
  match mode with
  | .json => emitJsonShow An args resolved
  | .human => emitHumanShow An args resolved

/-! ### What the output holds -/

/-- All the program does is to print. -/
def OnlyPrints (x : Program Ag Va Te PUnit) : Prop :=
  ∃ out messages, Program.Prints out messages x

theorem OnlyPrints.bind {x y : Program Ag Va Te PUnit} (first : OnlyPrints x)
    (rest : OnlyPrints y) : OnlyPrints (x >>= fun _ => y) := by
  obtain ⟨out, messages, first⟩ := first
  obtain ⟨out', messages', rest⟩ := rest
  exact ⟨_, _, first.bind rest⟩

theorem onlyPrints_emitProxyJump (raw : String) :
    OnlyPrints (emitProxyJump An raw : Program Ag Va Te Unit) := by
  refine OnlyPrints.bind ⟨_, _, Program.Prints.println _⟩ ?_
  split
  · split
    · exact ⟨_, _, Program.Prints.list (fun hop => Program.Prints.println (hopLine hop)) _⟩
    · exact ⟨_, _, Program.Prints.eprintln _⟩
  · exact ⟨_, _, Program.Prints.nothing⟩

/-- Whatever the user and the identity files are, the human output around them is the same. -/
theorem prints_emitHumanShow (args : ConfigShowArgs) (resolved : ResolvedSshConfig) :
    ∃ before between after messages, ∀ (user : Option String) (files : List OsPath), Program.Prints
      (before ++ ((user.toList.map fun v => .line s!"user {v}") ++ (between ++ ((files.map fun p =>
        .line s!"identityfile {displayPath p args.showSecrets}") ++ after)))) messages
      (emitHumanShow An args { resolved with user := user, identityFiles := files } :
        Program Ag Va Te Unit) := by
  have line (name : String) (value : Option String) : OnlyPrints
      (value.forM fun v => Program.println s!"{name} {v}" : Program Ag Va Te Unit) :=
    ⟨_, _, Program.Prints.option (fun v => Program.Prints.println s!"{name} {v}") value⟩
  have paths (text : OsPath → String) (values : List OsPath) : OnlyPrints
      (values.forM fun p => Program.println (text p) : Program Ag Va Te Unit) :=
    ⟨_, _, Program.Prints.list (fun p => Program.Prints.println (text p)) values⟩
  have jump : OnlyPrints (resolved.proxyJump.forM (emitProxyJump An) : Program Ag Va Te Unit) := by
    cases resolved.proxyJump with
    | none => exact ⟨_, _, Program.Prints.nothing⟩
    | some raw => exact onlyPrints_emitProxyJump An raw
  -- First what comes behind the identity files, then what comes before them.
  have behind := (line "identitiesonly" (resolved.identitiesOnly.map yesNo)).bind <|
    (line "identityagent" (resolved.identityAgent.map fun p =>
      displayPath p args.showSecrets)).bind <|
    (paths (fun p => s!"certificatefile {displayPath p true}") resolved.certificateFiles).bind <|
    (line "proxycommand" resolved.proxyCommand).bind <| jump.bind <|
    (paths (fun p => s!"userknownhostsfile {displayPath p true}")
      resolved.userKnownHostsFiles).bind <|
    (line "stricthostkeychecking" (resolved.strictHostKeyChecking.map strictLabel)).bind <|
    (line "hostkeyalgorithms" (resolved.hostKeyAlgorithms.map AlgList.names)).bind <|
    (line "kexalgorithms" (resolved.kexAlgorithms.map AlgList.names)).bind <|
    (line "ciphers" (resolved.ciphers.map AlgList.names)).bind <|
    (line "macs" (resolved.macs.map AlgList.names)).bind <|
    (line "connecttimeout" (resolved.connectTimeout.map toString)).bind <|
    line "connectionattempts" (resolved.connectionAttempts.map toString)
  obtain ⟨after, messages, behind⟩ := behind
  obtain ⟨out₁, messages₁, first⟩ := line "hostname" resolved.hostname
  obtain ⟨out₂, messages₂, third⟩ := line "port" (resolved.port.map toString)
  refine ⟨out₁, out₂, after, messages₁ ++ (messages₂ ++ messages), fun user files => ?_⟩
  have second (v : String) : Program.Prints [.line s!"user {v}"] []
      (Program.println s!"user {v}" : Program Ag Va Te Unit) :=
    Program.Prints.println _
  have identity (p : OsPath) : Program.Prints
      [.line s!"identityfile {displayPath p args.showSecrets}"] []
      (Program.println s!"identityfile {displayPath p args.showSecrets}" :
        Program Ag Va Te Unit) :=
    Program.Prints.println _
  have whole : Program.Prints _ _
      (emitHumanShow An args { resolved with user := user, identityFiles := files } :
        Program Ag Va Te Unit) :=
    first.bind ((Program.Prints.option second user).bind
      (third.bind ((Program.Prints.list identity files).bind behind)))
  have silent {β : Type} (items : List β) : items.flatMap (fun _ => ([] : List String)) = [] := by
    simp
  rw [silent, silent, List.nil_append, List.nil_append, ← List.map_eq_flatMap,
    ← List.map_eq_flatMap] at whole
  exact whole

/-- What is on both streams behind the human output. -/
theorem emitHumanShow_output (args : ConfigShowArgs) (resolved : ResolvedSshConfig)
    (w : World Ag Va Te) :
    ∃ before between after messages, ∀ (user : Option String) (files : List OsPath),
      (emitHumanShow An args { resolved with user := user, identityFiles := files } w).2.output =
        (w.stdout ++ (before ++ ((user.toList.map fun v => .line s!"user {v}") ++ (between ++
          ((files.map fun p => .line s!"identityfile {displayPath p args.showSecrets}") ++
            after)))), messages) := by
  obtain ⟨before, between, after, messages, prints⟩ := prints_emitHumanShow An args resolved
  refine ⟨before, between, after, w.stderr ++ messages, fun user files => ?_⟩
  rw [prints user files w]
  rfl

/-- The human output tells users apart. -/
theorem emitHumanShow_user (args : ConfigShowArgs) (resolved : ResolvedSshConfig)
    {user user' : Option String} {w : World Ag Va Te}
    (same : (emitHumanShow An args { resolved with user := user } w).2.output =
      (emitHumanShow An args { resolved with user := user' } w).2.output) : user = user' := by
  obtain ⟨before, between, after, messages, prints⟩ := emitHumanShow_output An args resolved w
  rw [prints user resolved.identityFiles, prints user' resolved.identityFiles] at same
  simp only [Prod.mk.injEq, and_true, List.append_cancel_left_eq, List.append_cancel_right_eq]
    at same
  cases user <;> cases user' <;> simp_all [toString]

theorem certAndRevokedJson_run (host : String) (customPath : Option OsPath) (scopeLabel : String)
    (w : World Ag Va Te) :
    ∃ found messages, certAndRevokedJson An host customPath scopeLabel w =
      (.ok found, { w with stderr := w.stderr ++ messages }) := by
  unfold certAndRevokedJson
  rw [Fallible.bind_query_ok]
  cases Anvil.hostKeyTrust An host customPath w.fs with
  | ok trust => exact ⟨_, [], by rw [List.append_nil]; rfl⟩
  | error e => exact ⟨_, _, rfl⟩

theorem emitJsonShow_user (args : ConfigShowArgs) (resolved : ResolvedSshConfig)
    {user user' : Option String} {w : World Ag Va Te}
    (same : (emitJsonShow An args { resolved with user := user } w).2.output =
      (emitJsonShow An args { resolved with user := user' } w).2.output) : user = user' := by
  obtain ⟨found, messages, trust⟩ := certAndRevokedJson_run An args.host
    resolved.userKnownHostsFiles.head? "gitway config show" w
  unfold emitJsonShow at same
  rw [Fallible.bind_of_ok trust, Fallible.bind_of_ok trust] at same
  simp only [World.output, Fallible.bind_of_ok (Program.environment_run _),
    Program.emitJson_run, Prod.mk.injEq, List.append_cancel_left_eq, List.cons.injEq,
    Emitted.json.injEq, Json.obj.injEq, true_and, and_true] at same
  cases user <;> cases user' <;> simp_all [Json.ofOption]

/-- The output tells users apart, in either mode. -/
theorem emitShow_user (args : ConfigShowArgs) (mode : OutputMode) (resolved : ResolvedSshConfig)
    {user user' : Option String} {w : World Ag Va Te}
    (same : (emitShow An args mode { resolved with user := user } w).2.output =
      (emitShow An args mode { resolved with user := user' } w).2.output) : user = user' := by
  cases mode with
  | human => exact emitHumanShow_user An args resolved same
  | json => exact emitJsonShow_user An args resolved same

end Gitway.Config
