import Gitway.Hosts.Commands

/-!
# What `gitway` tells of itself

The catalogue of algorithms, and the two documents for agents that look for commands. The
documents are JSON in either mode.
-/
namespace Gitway.Discovery

open Lib

variable {Ag Va Te : Type}

/-! ### Algorithms -/

structure AlgEntry where
  name : String
  isDefault : Bool
  denylisted : Bool

/-- `anvil_ssh::algorithms::Catalogue`. -/
structure Catalogue where
  kex : List AlgEntry
  cipher : List AlgEntry
  mac : List AlgEntry
  hostKey : List AlgEntry

def formatEntry (entry : AlgEntry) : String :=
  let tag :=
    if entry.denylisted then "denylisted"
    else if entry.isDefault then "default"
    else "available"
  s!"{Hosts.padded 44 entry.name} {tag}"

def entryToJson (entry : AlgEntry) : Json :=
  .obj [("name", .str entry.name), ("is_default", .bool entry.isDefault),
    ("denylisted", .bool entry.denylisted)]

def catalogueLines (cat : Catalogue) : List String :=
  ["# KEX"] ++ cat.kex.map formatEntry ++ ["", "# Ciphers"] ++ cat.cipher.map formatEntry ++
    ["", "# MACs"] ++ cat.mac.map formatEntry ++
    ["", "# Host-key algorithms"] ++ cat.hostKey.map formatEntry

/-- `gitway list-algorithms`, given `all_supported()`. -/
def runListAlgorithms (cat : Catalogue) (mode : OutputMode) : Program Ag Va Te Nat := do
  match mode with
  | .json =>
    let env ← Program.environment
    Program.emitJson (.obj [
      ("metadata", metadataBlock env "gitway list-algorithms"),
      ("data", .obj [
        ("kex", .arr (cat.kex.map entryToJson)),
        ("cipher", .arr (cat.cipher.map entryToJson)),
        ("mac", .arr (cat.mac.map entryToJson)),
        ("host_key", .arr (cat.hostKey.map entryToJson))])])
  | .human => (catalogueLines cat).forM Program.println
  return 0

/-! ### The documents -/

/-- A command as both documents list it. -/
def commandEntry (name description : String) (supportsJson idempotent : Bool)
    (more : List (String × Json)) : Json :=
  .obj ([("name", .str name), ("description", .str description),
    ("supports_json", .bool supportsJson), ("idempotent", .bool idempotent)] ++ more)

def subcommands (names : List String) : List (String × Json) :=
  [("subcommands", .arr (names.map .str))]

/-- A flag, with what comes between its type and its description. -/
def flag (name type description : String) (between : List (String × Json)) : String × Json :=
  (name, .obj ([("type", .str type)] ++ between ++ [("description", .str description)]))

def atLeastOne : List (String × Json) := [("minimum", .num 1)]

def schemaCommands : List Json := [
  commandEntry "gitway <host> <command...>" "Relay a Git command over SSH to a hosting service"
    false true [("args", .obj [
      flag "host" "string" "SSH hostname (e.g. github.com, gitlab.com, codeberg.org)" [],
      flag "command" "array" "Remote command tokens (e.g. git-upload-pack 'user/repo.git')"
        [("items", .obj [("type", .str "string")])]])],
  commandEntry "gitway --test" "Verify SSH connectivity and authentication" true true [],
  commandEntry "gitway --install" "Register gitway as git core.sshCommand globally" true true [],
  commandEntry "gitway schema" "Emit full JSON Schema for all commands" true true [],
  commandEntry "gitway describe" "Emit capability manifest for agent/CI discovery" true true [],
  commandEntry "gitway keygen <sub>"
    "Generate, inspect, and sign with SSH keys (ssh-keygen subset)" true false
    (subcommands
      ["generate", "fingerprint", "extract-public", "change-passphrase", "sign", "verify"]),
  commandEntry "gitway sign" "Produce an SSHSIG (OpenSSH file signature) on stdout" true true [],
  commandEntry "gitway agent <sub>"
    "Client operations against any SSH agent on $SSH_AUTH_SOCK (Unix-only)" true false
    (subcommands ["add", "list", "remove", "lock", "unlock"]),
  commandEntry "gitway config <sub>" "Inspect resolved ssh_config(5) (Gitway's `ssh -G`)"
    true true (subcommands ["show"]),
  commandEntry "gitway hosts <sub>" "Manage the user known_hosts file (M19, FR-85..FR-87)"
    true false (subcommands ["add", "revoke", "list"]),
  commandEntry "gitway list-algorithms" "Catalogue of supported algorithms (M17, FR-79)"
    true true []]

def binaryEntry (name description useWith : String) : Json :=
  .obj [("name", .str name), ("description", .str description), ("supports_json", .bool false),
    ("use_with", .str useWith)]

def schemaFlags : List (String × Json) := [
  flag "--json" "boolean" "Emit structured JSON output" [],
  flag "--format" "string" "Output format" [("enum", .arr [.str "json"])],
  flag "--no-color" "boolean" "Disable colored output" [],
  flag "--verbose" "integer" "Verbosity counter (-v / -vv / -vvv); FR-65..FR-69" [],
  flag "--debug-format" "string" "Debug log format on stderr (FR-68)"
    [("enum", .arr [.str "human", .str "json"])],
  flag "--debug-categories" "string"
    ("Comma-separated debug categories: kex, auth, channel, config, retry, russh, " ++
      "anvil_ssh::* (FR-69)") [],
  flag "--identity" "string" "Path to SSH private key" [],
  flag "--cert" "string" "Path to OpenSSH certificate" [],
  flag "--user" "string" "Remote SSH username (e.g. `aur` for AUR; default `git`)"
    [("default", .str "git")],
  flag "--port" "integer" "SSH port (default: 22 or ssh_config Port)"
    [("minimum", .num 1), ("maximum", .num 65535)],
  flag "--insecure-skip-host-check" "boolean" "Skip host-key verification (danger)" [],
  flag "--no-config" "boolean" "Do not read any ssh_config(5) files" [],
  flag "--proxy-command" "string"
    "ProxyCommand template (overrides ssh_config; pass `none` to disable)" [],
  flag "--jump-host" "array"
    "ProxyJump bastion(s); repeatable; OpenSSH `-J`. Pass `none` to disable"
    [("items", .obj [("type", .str "string")])],
  flag "--connect-timeout" "integer" "Per-attempt TCP connect deadline in seconds (FR-80)"
    atLeastOne,
  flag "--attempts" "integer"
    "Total connection attempts including the first (FR-80); 1 disables retry" atLeastOne,
  flag "--max-retry-window" "integer"
    "Hard ceiling on total retry wall-clock time in seconds (FR-81)" atLeastOne,
  flag "--kex" "string" "Override KEX algorithm preference (+/-/^/replace; FR-77)" [],
  flag "--ciphers" "string" "Override cipher preference; see `gitway list-algorithms`" [],
  flag "--macs" "string" "Override MAC preference" [],
  flag "--host-key-algorithms" "string" "Override host-key algorithm preference" []]

def schemaExitCodes : List (String × Json) := [
  ("0", .str "Success"),
  ("1", .str "General / unexpected error"),
  ("2", .str "Usage error (bad arguments or configuration)"),
  ("3", .str "Not found (no identity key, unknown host, key not enrolled for biometric)"),
  ("4", .str "Permission denied (authentication failure, host key mismatch)"),
  ("73", .str ("User declined a confirmation prompt (gitway hosts add; biometric prompt " ++
    "cancelled or unmatched)")),
  ("78", .str ("Interactive input required but unavailable (gitway hosts add without --yes; " ++
    "biometric backend unavailable when requested)"))]

def schemaJson : Json :=
  .obj [
    ("$schema", .str "https://json-schema.org/draft/2020-12/schema"),
    ("$id", .str "https://github.com/Spacecraft-Software/Gitway/schema/v1"),
    ("title", .str "gitway"),
    ("description", .str "Pure-Rust SSH toolkit for Git: transport, keys, signing, agent"),
    ("schema_version", .str "1.0.0"),
    ("version", .str "1.0.4"),
    ("commands", .arr schemaCommands),
    ("binaries", .arr [
      binaryEntry "gitway-keygen"
        "Drop-in shim for `ssh-keygen -Y sign / verify` (byte-compatible stdout)"
        "git -c gpg.format=ssh -c gpg.ssh.program=gitway-keygen",
      binaryEntry "gitway-add" "Drop-in shim for `ssh-add` (Unix-only)"
        "tools that invoke `ssh-add` by name (IDEs, credential managers)"]),
    ("global_flags", .obj schemaFlags),
    ("exit_codes", .obj schemaExitCodes)]

def describeCommands : List Json := [
  commandEntry "gitway <host> <command...>" "Relay a Git command over SSH" false true [],
  commandEntry "gitway --test" "Verify SSH connectivity and authentication" true true [],
  commandEntry "gitway --install" "Register gitway as git core.sshCommand globally" true true [],
  commandEntry "gitway schema" "Emit full JSON Schema for all commands" true true [],
  commandEntry "gitway describe" "Emit capability manifest for agent/CI discovery" true true [],
  commandEntry "gitway keygen" "Generate / inspect / sign with SSH keys" true false [],
  commandEntry "gitway sign" "Produce an SSHSIG file signature" true true [],
  commandEntry "gitway agent" "Client operations against any SSH agent (Unix-only)" true false [],
  commandEntry "gitway config" "Inspect resolved ssh_config(5) (Gitway's `ssh -G`)" true true [],
  commandEntry "gitway hosts" "Manage user known_hosts file (M19, FR-85..FR-87)" true false [],
  commandEntry "gitway list-algorithms" "Catalogue of supported algorithms (M17, FR-79)"
    true true []]

def describeFlags : List String :=
  ["--json", "--format", "--verbose", "--debug-format", "--debug-categories", "--no-color",
    "--insecure-skip-host-check", "--no-config", "--identity", "--cert", "--user", "--port",
    "--proxy-command", "--jump-host", "--connect-timeout", "--attempts", "--max-retry-window",
    "--kex", "--ciphers", "--macs", "--host-key-algorithms"]

def describeJson : Json :=
  .obj [
    ("tool", .str "gitway"),
    ("schema_version", .str "1.0.0"),
    ("version", .str "1.0.4"),
    ("description", .str "Pure-Rust SSH toolkit for Git: transport, keys, signing, agent"),
    ("commands", .arr describeCommands),
    ("companion_binaries", .arr [.str "gitway-keygen", .str "gitway-add"]),
    ("global_flags", .arr (describeFlags.map .str)),
    ("output_formats", .arr [.str "json"]),
    ("mcp_available", .bool false),
    ("agent_env_vars", .arr [.str "AI_AGENT", .str "AGENT", .str "CI", .str "CLAUDECODE",
      .str "CURSOR_AGENT", .str "GEMINI_CLI"]),
    ("providers", .arr [.str "github.com", .str "gitlab.com", .str "codeberg.org"])]

def runSchema : Program Ag Va Te Nat := do
  Program.emitJson schemaJson
  return 0

def runDescribe : Program Ag Va Te Nat := do
  Program.emitJson describeJson
  return 0

end Gitway.Discovery
