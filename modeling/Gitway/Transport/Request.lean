import Gitway.Transport.Proxy

/-!
# The connection request

How `run` makes the request for a connection out of the command line and the resolution
of the host. The precedence of the sources is the order of the builder calls: a setter
overwrites what came before it, and `addIdentityFile` appends.
-/
namespace Gitway.Transport

open Config (OsPath StrictHostKeyChecking)

/-! ### The host -/

/-- `str::split_once` for the at sign. -/
def splitAtSign (raw : String) : Option (String × String) :=
  match raw.toList.span (· != '@') with
  | (_, []) => none
  | (before, _ :: after) => some (String.ofList before, String.ofList after)

def parseUserHost (raw : String) : Option String × String :=
  match splitAtSign raw with
  | some (user, host) => if user != "" then (some user, host) else (none, host)
  | none => (none, raw)

def DEFAULT_GITHUB_HOST : String := "github.com"

def Options.rawHost (opts : Options) : String := opts.host.getD DEFAULT_GITHUB_HOST

/-! ### The builder -/

inductive AlgCategory where
  | kex
  | cipher
  | mac
  | hostKey
  deriving DecidableEq, Repr

/-- `AnvilConfig`. -/
structure AnvilConfig where
  host : String
  port : Nat
  username : String
  identityFiles : List OsPath
  certFile : Option OsPath
  strictHostKeyChecking : StrictHostKeyChecking
  customKnownHosts : Option OsPath
  verbose : Bool
  kexAlgorithms : Option (List String)
  ciphers : Option (List String)
  macs : Option (List String)
  hostKeyAlgorithms : Option (List String)
  connectTimeout : Option Nat
  connectionAttempts : Option Nat
  maxRetryWindow : Option Nat
  deriving DecidableEq, Repr

def AnvilConfig.algorithms (config : AnvilConfig) : AlgCategory → Option (List String)
  | .kex => config.kexAlgorithms
  | .cipher => config.ciphers
  | .mac => config.macs
  | .hostKey => config.hostKeyAlgorithms

/-- What a resolution says of the fields of an `AnvilConfig`. -/
structure Present where
  host : Option String
  port : Option Nat
  username : Option String
  identityFiles : List OsPath
  certFile : Option OsPath
  strictHostKeyChecking : Option StrictHostKeyChecking
  customKnownHosts : Option OsPath
  algorithms : AlgCategory → Option (List String)
  connectTimeout : Option Nat
  connectionAttempts : Option Nat

/-- The fields that are present take the place of what was there, and the identity files
are appended. -/
def AnvilConfig.withPresent (config : AnvilConfig) (p : Present) : AnvilConfig :=
  { config with
    host := p.host.getD config.host
    port := p.port.getD config.port
    username := p.username.getD config.username
    identityFiles := config.identityFiles ++ p.identityFiles
    certFile := p.certFile <|> config.certFile
    strictHostKeyChecking := p.strictHostKeyChecking.getD config.strictHostKeyChecking
    customKnownHosts := p.customKnownHosts <|> config.customKnownHosts
    kexAlgorithms := p.algorithms .kex <|> config.kexAlgorithms
    ciphers := p.algorithms .cipher <|> config.ciphers
    macs := p.algorithms .mac <|> config.macs
    hostKeyAlgorithms := p.algorithms .hostKey <|> config.hostKeyAlgorithms
    connectTimeout := p.connectTimeout <|> config.connectTimeout
    connectionAttempts := p.connectionAttempts <|> config.connectionAttempts }

/-- `AnvilConfigBuilder`, and the functions of `anvil_ssh::algorithms`. -/
class ConfigBuilder (B : Type) where
  builder : String → B
  verbose : Bool → B → B
  applySshConfig : Config.ResolvedSshConfig → B → B
  port : Nat → B → B
  strictHostKeyChecking : StrictHostKeyChecking → B → B
  username : String → B → B
  addIdentityFile : OsPath → B → B
  certFile : OsPath → B → B
  customKnownHosts : OsPath → B → B
  kexAlgorithms : Option (List String) → B → B
  ciphers : Option (List String) → B → B
  macs : Option (List String) → B → B
  hostKeyAlgorithms : Option (List String) → B → B
  connectTimeout : Option Nat → B → B
  connectionAttempts : Option Nat → B → B
  maxRetryWindow : Option Nat → B → B
  build : B → AnvilConfig
  present : Config.ResolvedSshConfig → Present
  applyOverrides : AlgCategory → List String → String → Except AnvilError (List String)
  anvilDefault : AlgCategory → List String

open ConfigBuilder

/-- A setter overwrites its field and leaves the others alone, and no identity file is
named at first. -/
structure LawfulBuilder (B : Type) [ConfigBuilder B] : Prop where
  fresh : ∀ host, (build (builder host : B)).identityFiles = []
  verbose : ∀ v (b : B), build (ConfigBuilder.verbose v b) = { build b with verbose := v }
  applySshConfig : ∀ r (b : B), build (ConfigBuilder.applySshConfig r b) =
    (build b).withPresent (present B r)
  port : ∀ v (b : B), build (ConfigBuilder.port v b) = { build b with port := v }
  strictHostKeyChecking : ∀ v (b : B), build (ConfigBuilder.strictHostKeyChecking v b) =
    { build b with strictHostKeyChecking := v }
  username : ∀ v (b : B), build (ConfigBuilder.username v b) = { build b with username := v }
  addIdentityFile : ∀ v (b : B), build (ConfigBuilder.addIdentityFile v b) =
    { build b with identityFiles := (build b).identityFiles ++ [v] }
  certFile : ∀ v (b : B), build (ConfigBuilder.certFile v b) =
    { build b with certFile := some v }
  kexAlgorithms : ∀ v (b : B), build (ConfigBuilder.kexAlgorithms v b) =
    { build b with kexAlgorithms := v }
  ciphers : ∀ v (b : B), build (ConfigBuilder.ciphers v b) = { build b with ciphers := v }
  macs : ∀ v (b : B), build (ConfigBuilder.macs v b) = { build b with macs := v }
  hostKeyAlgorithms : ∀ v (b : B), build (ConfigBuilder.hostKeyAlgorithms v b) =
    { build b with hostKeyAlgorithms := v }
  connectTimeout : ∀ v (b : B), build (ConfigBuilder.connectTimeout v b) =
    { build b with connectTimeout := v }
  connectionAttempts : ∀ v (b : B), build (ConfigBuilder.connectionAttempts v b) =
    { build b with connectionAttempts := v }
  maxRetryWindow : ∀ v (b : B), build (ConfigBuilder.maxRetryWindow v b) =
    { build b with maxRetryWindow := v }
  /-- What a resolution sets is what its directives say. -/
  presentPort : ∀ r, (present B r).port = r.port
  presentUser : ∀ r, (present B r).username = r.user
  presentIdentityFiles : ∀ r, (present B r).identityFiles = r.identityFiles
  presentCertFile : ∀ r, (present B r).certFile.isSome = !r.certificateFiles.isEmpty
  presentKex : ∀ r, ((present B r).algorithms .kex).isSome = r.kexAlgorithms.isSome
  presentCiphers : ∀ r, ((present B r).algorithms .cipher).isSome = r.ciphers.isSome
  presentMacs : ∀ r, ((present B r).algorithms .mac).isSome = r.macs.isSome
  presentHostKeys : ∀ r, ((present B r).algorithms .hostKey).isSome = r.hostKeyAlgorithms.isSome
  presentConnectTimeout : ∀ r, (present B r).connectTimeout = r.connectTimeout
  presentConnectionAttempts : ∀ r, (present B r).connectionAttempts = r.connectionAttempts

/-! ### The request -/

variable {B : Type} [ConfigBuilder B]

/-- `if let Some(v) = value { builder = builder.setter(v) }`. -/
def given {α : Type} (value : Option α) (setter : α → B → B) (b : B) : B :=
  match value with
  | some v => setter v b
  | none => b

def applyAlgOverride (category : AlgCategory) (overrideStr : Option String)
    (setter : List String → B → B) (b : B) : Except AnvilError B :=
  match overrideStr with
  | none => .ok b
  | some value => do
    let resolved ← applyOverrides B category (anvilDefault B category) value
    return setter resolved b

def buildConfig (B : Type) [ConfigBuilder B] (opts : Options) (parsedUser : Option String)
    (host : String) (resolved : Option Config.ResolvedSshConfig) :
    Except AnvilError AnvilConfig := do
  let b : B := verbose (decide (0 < opts.verbose)) (builder host)
  let b := given resolved applySshConfig b
  -- What the command line says comes behind what `ssh_config` says.
  let b := given opts.port port b
  let b := if opts.insecureSkipHostCheck then strictHostKeyChecking .no b else b
  let b :=
    match opts.user with
    | some user => username user b
    | none => given parsedUser username b
  let b := given opts.identity addIdentityFile b
  let b := given opts.cert certFile b
  let b ← applyAlgOverride .kex opts.kex (fun list => kexAlgorithms (some list)) b
  let b ← applyAlgOverride .cipher opts.ciphers (fun list => ciphers (some list)) b
  let b ← applyAlgOverride .mac opts.macs (fun list => macs (some list)) b
  let b ← applyAlgOverride .hostKey opts.hostKeyAlgorithms
    (fun list => hostKeyAlgorithms (some list)) b
  let b := given opts.connectTimeout (fun secs => connectTimeout (some secs)) b
  let b := given opts.attempts (fun n => connectionAttempts (some n)) b
  let b := given opts.maxRetryWindow (fun secs => maxRetryWindow (some secs)) b
  return build b

/-- What a connection is asked for. -/
structure Request where
  /-- The host that is looked up in `ssh_config`. -/
  lookup : Option String
  config : AnvilConfig
  hostAlias : String
  proxyCommand : Option String
  jumpHosts : List Config.JumpHost
  deriving DecidableEq, Repr

/-- The host that is looked up, if any is. -/
def Options.lookup (opts : Options) : Option String :=
  if opts.noConfig then none else some (parseUserHost opts.rawHost).2

/-- The part of `run` from the resolution of the host to the connection. -/
def prepare (An B : Type) [Config.Anvil An] [ConfigBuilder B] (opts : Options)
    (resolved : Option Config.ResolvedSshConfig) : Except AnvilError Request := do
  let (parsedUser, host) := parseUserHost opts.rawHost
  let config ← buildConfig B opts parsedUser host resolved
  let (proxyCommand, jumpHosts) ← resolveProxyDirectives (Config.Anvil.parseJumpChain An)
    opts resolved
  return {
    lookup := opts.lookup, config := config, hostAlias := opts.rawHost,
    proxyCommand := proxyCommand, jumpHosts := jumpHosts }

/-! ### Layers -/

/-- Nothing is set. -/
def Present.empty : Present where
  host := none
  port := none
  username := none
  identityFiles := []
  certFile := none
  strictHostKeyChecking := none
  customKnownHosts := none
  algorithms _ := none
  connectTimeout := none
  connectionAttempts := none

def presentOf (B : Type) [ConfigBuilder B] (resolved : Option Config.ResolvedSshConfig) : Present :=
  resolved.elim Present.empty (present B)

@[simp] theorem withPresent_empty (config : AnvilConfig) :
    config.withPresent Present.empty = config := by
  simp [AnvilConfig.withPresent, Present.empty]

/-- The algorithm list that a flag asks for. -/
def overridden (B : Type) [ConfigBuilder B] (category : AlgCategory) (overrideStr : Option String) :
    Except AnvilError (Option (List String)) :=
  match overrideStr with
  | none => .ok none
  | some value => (applyOverrides B category (anvilDefault B category) value).map some

section
variable (lawful : LawfulBuilder B)
include lawful

theorem build_given_resolved (resolved : Option Config.ResolvedSshConfig) (b : B) :
    build (given resolved applySshConfig b) = (build b).withPresent (presentOf B resolved) := by
  cases resolved with
  | none => exact (withPresent_empty _).symm
  | some r => exact lawful.applySshConfig r b

theorem build_given_port (value : Option Nat) (b : B) :
    build (given value port b) = { build b with port := value.getD (build b).port } := by
  cases value with
  | none => rfl
  | some v => exact lawful.port v b

theorem build_strict (insecure : Bool) (b : B) :
    build (if insecure then strictHostKeyChecking .no b else b) =
      { build b with
        strictHostKeyChecking := if insecure then .no else (build b).strictHostKeyChecking } := by
  cases insecure with
  | false => rfl
  | true => exact lawful.strictHostKeyChecking .no b

theorem build_username (flag parsed : Option String) (b : B) :
    build (match flag with
      | some user => username user b
      | none => given parsed username b) =
      { build b with username := (flag <|> parsed).getD (build b).username } := by
  cases flag with
  | some user => exact lawful.username user b
  | none =>
    cases parsed with
    | none => rfl
    | some user => exact lawful.username user b

theorem build_given_identity (value : Option OsPath) (b : B) :
    build (given value addIdentityFile b) =
      { build b with identityFiles := (build b).identityFiles ++ value.toList } := by
  cases value with
  | none => simp [given]
  | some v => exact lawful.addIdentityFile v b

theorem build_given_cert (value : Option OsPath) (b : B) :
    build (given value certFile b) = { build b with certFile := value <|> (build b).certFile } := by
  cases value with
  | none => rfl
  | some v => exact lawful.certFile v b

theorem build_given_timeout (value : Option Nat) (b : B) :
    build (given value (fun secs => connectTimeout (some secs)) b) =
      { build b with connectTimeout := value <|> (build b).connectTimeout } := by
  cases value with
  | none => rfl
  | some v => exact lawful.connectTimeout (some v) b

theorem build_given_attempts (value : Option Nat) (b : B) :
    build (given value (fun n => connectionAttempts (some n)) b) =
      { build b with connectionAttempts := value <|> (build b).connectionAttempts } := by
  cases value with
  | none => rfl
  | some v => exact lawful.connectionAttempts (some v) b

theorem build_given_window (value : Option Nat) (b : B) :
    build (given value (fun secs => maxRetryWindow (some secs)) b) =
      { build b with maxRetryWindow := value <|> (build b).maxRetryWindow } := by
  cases value with
  | none => rfl
  | some v => exact lawful.maxRetryWindow (some v) b

end

/-- An override either leaves the builder alone or sets the list that the flag asks for. -/
theorem applyAlgOverride_ok {category : AlgCategory}
    {overrideStr : Option String} {setter : List String → B → B} {b b' : B}
    (set : applyAlgOverride category overrideStr setter b = .ok b') :
    ∃ list, overridden B category overrideStr = .ok list ∧ b' = given list setter b := by
  cases overrideStr with
  | none => exact ⟨none, rfl, (Except.ok.inj set).symm⟩
  | some value =>
    obtain ⟨list, resolved, done⟩ := Lib.except_bind_ok_iff.mp set
    refine ⟨some list, ?_, (Except.ok.inj done).symm⟩
    simp [overridden, resolved, Except.map]

/-- The flag that overrides a list of algorithms. -/
def Options.override (opts : Options) : AlgCategory → Option String
  | .kex => opts.kex
  | .cipher => opts.ciphers
  | .mac => opts.macs
  | .hostKey => opts.hostKeyAlgorithms

/-- The flags laid over what `ssh_config` sets, and that over the defaults. -/
def layered (base : AnvilConfig) (p : Present) (opts : Options) (parsedUser : Option String)
    (lists : AlgCategory → Option (List String)) : AnvilConfig where
  host := p.host.getD base.host
  port := opts.port.getD (p.port.getD base.port)
  username := (opts.user <|> parsedUser).getD (p.username.getD base.username)
  identityFiles := base.identityFiles ++ p.identityFiles ++ opts.identity.toList
  certFile := opts.cert <|> (p.certFile <|> base.certFile)
  strictHostKeyChecking :=
    if opts.insecureSkipHostCheck then .no
    else p.strictHostKeyChecking.getD base.strictHostKeyChecking
  customKnownHosts := p.customKnownHosts <|> base.customKnownHosts
  verbose := decide (0 < opts.verbose)
  kexAlgorithms := lists .kex <|> (p.algorithms .kex <|> base.kexAlgorithms)
  ciphers := lists .cipher <|> (p.algorithms .cipher <|> base.ciphers)
  macs := lists .mac <|> (p.algorithms .mac <|> base.macs)
  hostKeyAlgorithms := lists .hostKey <|> (p.algorithms .hostKey <|> base.hostKeyAlgorithms)
  connectTimeout := opts.connectTimeout <|> (p.connectTimeout <|> base.connectTimeout)
  connectionAttempts := opts.attempts <|> (p.connectionAttempts <|> base.connectionAttempts)
  maxRetryWindow := opts.maxRetryWindow <|> base.maxRetryWindow

theorem build_given_lists (lawful : LawfulBuilder B) (lists : AlgCategory → Option (List String))
    (b : B) :
    build (given (lists .hostKey) (fun list => hostKeyAlgorithms (some list))
      (given (lists .mac) (fun list => macs (some list))
        (given (lists .cipher) (fun list => ciphers (some list))
          (given (lists .kex) (fun list => kexAlgorithms (some list)) b)))) =
      { build b with
        kexAlgorithms := lists .kex <|> (build b).kexAlgorithms
        ciphers := lists .cipher <|> (build b).ciphers
        macs := lists .mac <|> (build b).macs
        hostKeyAlgorithms := lists .hostKey <|> (build b).hostKeyAlgorithms } := by
  -- The builder replaces a list that is given and leaves the others.
  have kex (b : B) : build (given (lists .kex) (fun list => kexAlgorithms (some list)) b) =
      { build b with kexAlgorithms := lists .kex <|> (build b).kexAlgorithms } := by
    cases lists .kex with
    | none => rfl
    | some list => exact lawful.kexAlgorithms (some list) b
  have cipher (b : B) : build (given (lists .cipher) (fun list => ciphers (some list)) b) =
      { build b with ciphers := lists .cipher <|> (build b).ciphers } := by
    cases lists .cipher with
    | none => rfl
    | some list => exact lawful.ciphers (some list) b
  have mac (b : B) : build (given (lists .mac) (fun list => macs (some list)) b) =
      { build b with macs := lists .mac <|> (build b).macs } := by
    cases lists .mac with
    | none => rfl
    | some list => exact lawful.macs (some list) b
  have hostKey (b : B) :
      build (given (lists .hostKey) (fun list => hostKeyAlgorithms (some list)) b) =
        { build b with hostKeyAlgorithms := lists .hostKey <|> (build b).hostKeyAlgorithms } := by
    cases lists .hostKey with
    | none => rfl
    | some list => exact lawful.hostKeyAlgorithms (some list) b
  rw [hostKey, mac, cipher, kex]

/-- What the builder is told in its order comes to the layers. -/
theorem buildConfig_ok (lawful : LawfulBuilder B) {opts : Options} {parsedUser : Option String}
    {host : String} {resolved : Option Config.ResolvedSshConfig} {config : AnvilConfig}
    (built : buildConfig B opts parsedUser host resolved = .ok config) :
    ∃ lists : AlgCategory → Option (List String),
      (∀ category, overridden B category (opts.override category) = .ok (lists category)) ∧
      config = layered (build (builder host : B)) (presentOf B resolved) opts parsedUser lists := by
  unfold buildConfig at built
  obtain ⟨b₁, kexSet, built⟩ := Lib.except_bind_ok_iff.mp built
  obtain ⟨kex, kexAsked, rfl⟩ := applyAlgOverride_ok kexSet
  obtain ⟨b₂, cipherSet, built⟩ := Lib.except_bind_ok_iff.mp built
  obtain ⟨cipher, cipherAsked, rfl⟩ := applyAlgOverride_ok cipherSet
  obtain ⟨b₃, macSet, built⟩ := Lib.except_bind_ok_iff.mp built
  obtain ⟨mac, macAsked, rfl⟩ := applyAlgOverride_ok macSet
  obtain ⟨b₄, hostKeySet, built⟩ := Lib.except_bind_ok_iff.mp built
  obtain ⟨hostKey, hostKeyAsked, rfl⟩ := applyAlgOverride_ok hostKeySet
  -- The four lists, each from the override of its category.
  let lists : AlgCategory → Option (List String)
    | .kex => kex
    | .cipher => cipher
    | .mac => mac
    | .hostKey => hostKey
  refine ⟨lists, ?_, ?_⟩
  · intro category
    cases category with
    | kex => exact kexAsked
    | cipher => exact cipherAsked
    | mac => exact macAsked
    | hostKey => exact hostKeyAsked
  · rw [← Except.ok.inj built, build_given_window lawful, build_given_attempts lawful,
      build_given_timeout lawful, build_given_lists lawful lists, build_given_cert lawful,
      build_given_identity lawful, build_username lawful, build_strict lawful,
      build_given_port lawful, build_given_resolved lawful, lawful.verbose]
    simp only [layered, AnvilConfig.withPresent]

/-! ### A builder -/

private def ownPresent (r : Config.ResolvedSshConfig) : Present where
  host := r.hostname
  port := r.port
  username := r.user
  identityFiles := r.identityFiles
  certFile := r.certificateFiles.head?
  strictHostKeyChecking := r.strictHostKeyChecking
  customKnownHosts := r.userKnownHostsFiles.head?
  algorithms
    | .kex => r.kexAlgorithms.map fun list => [list.names]
    | .cipher => r.ciphers.map fun list => [list.names]
    | .mac => r.macs.map fun list => [list.names]
    | .hostKey => r.hostKeyAlgorithms.map fun list => [list.names]
  connectTimeout := r.connectTimeout
  connectionAttempts := r.connectionAttempts

/-- A configuration is a builder of itself. -/
instance : ConfigBuilder AnvilConfig where
  builder host := {
    host := host, port := 22, username := "git", identityFiles := [], certFile := none,
    strictHostKeyChecking := .yes, customKnownHosts := none, verbose := false,
    kexAlgorithms := none, ciphers := none, macs := none, hostKeyAlgorithms := none,
    connectTimeout := none, connectionAttempts := none, maxRetryWindow := none }
  verbose v config := { config with verbose := v }
  applySshConfig r config := config.withPresent (ownPresent r)
  port v config := { config with port := v }
  strictHostKeyChecking v config := { config with strictHostKeyChecking := v }
  username v config := { config with username := v }
  addIdentityFile v config := { config with identityFiles := config.identityFiles ++ [v] }
  certFile v config := { config with certFile := some v }
  customKnownHosts v config := { config with customKnownHosts := some v }
  kexAlgorithms v config := { config with kexAlgorithms := v }
  ciphers v config := { config with ciphers := v }
  macs v config := { config with macs := v }
  hostKeyAlgorithms v config := { config with hostKeyAlgorithms := v }
  connectTimeout v config := { config with connectTimeout := v }
  connectionAttempts v config := { config with connectionAttempts := v }
  maxRetryWindow v config := { config with maxRetryWindow := v }
  build config := config
  present := ownPresent
  applyOverrides _ _ value := .ok [value]
  anvilDefault _ := []

theorem lawfulBuilder_self : LawfulBuilder AnvilConfig where
  fresh _ := rfl
  verbose _ _ := rfl
  applySshConfig _ _ := rfl
  port _ _ := rfl
  strictHostKeyChecking _ _ := rfl
  username _ _ := rfl
  addIdentityFile _ _ := rfl
  certFile _ _ := rfl
  kexAlgorithms _ _ := rfl
  ciphers _ _ := rfl
  macs _ _ := rfl
  hostKeyAlgorithms _ _ := rfl
  connectTimeout _ _ := rfl
  connectionAttempts _ _ := rfl
  maxRetryWindow _ _ := rfl
  presentPort _ := rfl
  presentUser _ := rfl
  presentIdentityFiles _ := rfl
  presentCertFile r := by cases files : r.certificateFiles <;> simp [ConfigBuilder.present,
    ownPresent, files]
  presentKex r := by simp [ConfigBuilder.present, ownPresent]
  presentCiphers r := by simp [ConfigBuilder.present, ownPresent]
  presentMacs r := by simp [ConfigBuilder.present, ownPresent]
  presentHostKeys r := by simp [ConfigBuilder.present, ownPresent]
  presentConnectTimeout _ := rfl
  presentConnectionAttempts _ := rfl

end Gitway.Transport
