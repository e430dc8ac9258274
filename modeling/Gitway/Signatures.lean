import Gitway.KeygenShim.Agent
import Gitway.KeygenShim.Run
import Gitway.Streams

/-!
# Signatures from one tool to the other

`gitway sign` and `gitway-keygen -Y sign` make signatures that `gitway keygen verify` and
`gitway-keygen -Y verify` check. What one process released another one reads back: it is
accepted for the principals under which the signing key is listed, and for no others.
-/
namespace Gitway

open Lib Keygen

variable {Ne Ag Va Te Co Pub Signers Sig : Type}

/-- What the code relies on of signatures. `made` says that an armored signature is one of
these bytes, under this namespace, by this key, and `lists` that the allowed signers list the
key for a principal under a namespace. -/
structure SignatureLaws (Priv Ag : Type) {Pub Sig Signers : Type} [PublicKey Pub]
    [PrivateKey Priv Pub] [Agent Ag Priv Pub] [KeygenShim.SshSig Priv Sig]
    [KeygenShim.Principals Priv Signers]
    (made : String → ByteArray → String → Pub → Prop)
    (lists : Signers → String → String → Pub → Prop) : Prop where
  one_key : ∀ {armored data data' ns ns' pk pk'}, made armored data ns pk →
    made armored data' ns' pk' → pk = pk'
  agent : ∀ {data pk ns alg armored} {ag ag' : Ag},
    Agent.signWithAgent data pk ns alg ag = (.ok armored, ag') → made armored data ns pk
  file : ∀ {key : Priv} {ns alg data sig armored},
    KeygenShim.SshSig.sign key ns alg data = .ok sig →
      KeygenShim.SshSig.toPem Priv sig = .ok armored →
        made armored data ns (PrivateKey.publicKey key)
  sign : ∀ {key : Priv} {ns alg data armored},
    Signatures.sign (.ok data) key ns alg = .ok armored →
      made armored data ns (PrivateKey.publicKey key)
  verify : ∀ {data armored principal ns} {allowed : Signers} {v},
    Signatures.verify Priv (.ok data) armored principal ns allowed = .ok v ↔
      ∃ pk, made armored data ns pk ∧ lists allowed principal ns pk ∧
        v = ⟨principal, PublicKey.keygenFingerprint .sha256 pk⟩
  check : ∀ {data armored ns}, KeygenShim.Principals.checkNovalidate Priv data armored ns = .ok () ↔
    ∃ pk, made armored data ns pk

/-- The bytes that a signing process left in the file it was told, or else printed last. -/
def released (target : Option String) (w : World Ag Va Te) : Option ByteArray :=
  match target with
  | some path => (w.fs.read path).toOption
  | none =>
    match w.stdout.getLast? with
    | some (.bytes bytes) => some bytes
    | _ => none

/-- The key that `gitway-keygen -Y sign` signs with: one that the agent holds, or else the one
in the private key file. -/
def KeygenShim.signingKey (Priv : Type) [PublicKey Pub] [PrivateKey Priv Pub] [Agent Ag Priv Pub]
    (file : String) (w : World Ag Va Te) : Option Pub :=
  (agentKey w.env w.fs file w.agent).or
    ((resolveSigningKeyPath Priv w.fs file).toOption.bind fun path =>
      (keyAt Priv w.fs path).map PrivateKey.publicKey)

/-! ### What is released -/

section
variable {Priv : Type} [PublicKey Pub] [PrivateKey Priv Pub]

theorem writeOutput_releases {path : Option String} {armored : String} {w w' : World Ag Va Te}
    (written : writeOutput path armored.toUTF8 w = (.ok (), w')) :
    released (path.filter (· ≠ "-")) w' = some armored.toUTF8 := by
  have printed {w' : World Ag Va Te}
      (written : Program.writeStdout armored.toUTF8 w = (.ok (), w')) :
      released none w' = some armored.toUTF8 := by
    rw [Program.writeStdout_run, Prod.mk.injEq] at written
    simp [← written.2, released]
  unfold writeOutput at written
  cases path with
  | none => exact printed written
  | some file =>
    dsimp only at written
    split at written
    · rename_i dash
      have unnamed : (some file).filter (· ≠ "-") = none := by simp [Option.filter_some, dash]
      rw [unnamed]
      exact printed written
    · rename_i named
      have there := Program.writeFile_ok written
      have kept : (some file).filter (· ≠ "-") = some file := by simp [Option.filter_some, named]
      rw [kept]
      simp [released, there, Except.toOption]

/-- What there is to read depends on the files and on standard input. -/
theorem openInput_congr (path : Option String) {w w' : World Ag Va Te} (files : w'.fs = w.fs)
    (stdin : w'.stdin = w.stdin) : (openInput path w').1 = (openInput path w).1 := by
  unfold openInput
  rw [files, stdin]
  cases path with
  | none => rfl
  | some file =>
    dsimp only
    split <;> rfl

variable [BiometricVault Va] [Terminal Te]

/-- A key that was loaded is the one in the file, with its private half in the open. -/
theorem sign_loadAndDecrypt_ok (law : DecryptKeepsPublic Priv) {path : String} {key plain : Priv}
    {w w' : World Ag Va Te} (there : keyAt Priv w.fs path = some key)
    (loaded : Sign.loadAndDecrypt Priv path w = (.ok plain, w')) :
    PrivateKey.publicKey plain = PrivateKey.publicKey key := by
  obtain ⟨pem, w₁, read, rest⟩ := Fallible.bind_ok_iff.mp loaded
  obtain ⟨rfl, file⟩ := Program.readToString_ok read
  obtain ⟨found, w₂, parsed, last⟩ := Fallible.bind_ok_iff.mp rest
  rw [Fallible.query_run, Prod.mk.injEq, mapError_eq_ok_iff] at parsed
  obtain ⟨parsed, rfl⟩ := parsed
  obtain rfl : found = key := Option.some.inj ((keyAt_of_parsed file parsed).symm.trans there)
  split at last
  · rw [Fallible.pure_run, Prod.mk.injEq, Except.ok.injEq] at last
    rw [last.1]
  · obtain ⟨pass, w₃, _, opened⟩ := Fallible.bind_ok_iff.mp last
    rw [Fallible.query_run, Prod.mk.injEq, mapError_eq_ok_iff] at opened
    exact law found plain pass opened.1

variable [Agent Ag Priv Pub] [KeygenShim.SshSig Priv Sig] [KeygenShim.Principals Priv Signers]
  {made : String → ByteArray → String → Pub → Prop} {lists : Signers → String → String → Pub → Prop}

theorem sign_releases (laws : SignatureLaws Priv Ag made lists)
    (law : DecryptKeepsPublic Priv) {an : Transport.AnvilSession Ne Ag} {args : Sign.SignArgs}
    {mode : OutputMode} {p p' : Process Ne Ag Va Te} {code : UInt32} {path : String} {key : Priv}
    {data : ByteArray} (ran : Sign.run Priv an args mode p = (.ok code, p'))
    (named : (Sign.resolveKeyPath an args.key p).1 = .ok path)
    (there : keyAt Priv p.world.fs path = some key)
    (message : (openInput args.input p.world).1 = .ok (.ok data)) :
    ∃ armored, released (args.output.filter (· ≠ "-")) p'.world = some armored.toUTF8 ∧
      made armored data args.nameSpace (PrivateKey.publicKey key) := by
  obtain ⟨path', p₁, resolved, rest⟩ := Fallible.bind_ok_iff.mp ran
  have same := touches_resolveKeyPath an args.key p
  rw [resolved] at same named
  obtain rfl : path' = path := Except.ok.inj named
  obtain ⟨plain, p₂, loading, rest⟩ := Fallible.bind_ok_iff.mp rest
  rw [Command.onWorld_run, Prod.mk.injEq] at loading
  obtain ⟨loaded, rfl⟩ := loading
  have still := touches_loadAndDecrypt Priv path' p₁.world
  rw [← same.world.files (by simp)] at there
  have half := sign_loadAndDecrypt_ok law there (Prod.ext loaded rfl)
  obtain ⟨reader, p₃, opening, rest⟩ := Fallible.bind_ok_iff.mp rest
  rw [Command.onWorld_run, Prod.mk.injEq] at opening
  obtain ⟨opened, rfl⟩ := opening
  -- Neither the search for the key nor the prompt has read the message.
  have unread := openInput_congr args.input
    ((still.files (by decide)).trans (same.world.files (by simp)))
    ((still.stdin (by decide)).trans (same.world.stdin (by simp)))
  obtain rfl : reader = .ok data := Except.ok.inj (opened.symm.trans (unread.trans message))
  obtain ⟨armored, p₄, making, rest⟩ := Fallible.bind_ok_iff.mp rest
  rw [Fallible.query_run, Prod.mk.injEq] at making
  obtain ⟨signed, rfl⟩ := making
  refine ⟨armored, ?_, half ▸ laws.sign signed⟩
  cases mode with
  | human =>
    obtain ⟨⟨⟩, p₅, writing, last⟩ := Fallible.bind_ok_iff.mp rest
    rw [Command.onWorld_run, Prod.mk.injEq] at writing
    have ended : p₅ = p' := congrArg Prod.snd last
    rw [← ended, ← writing.2]
    exact writeOutput_releases (Prod.ext writing.1 rfl)
  | json =>
    obtain ⟨⟨⟩, p₅, writing, last⟩ := Fallible.bind_ok_iff.mp rest
    rw [Command.onWorld_run, Prod.mk.injEq] at writing
    have reported : p₅.world = p'.world := congrArg (fun ended => ended.2.world) last
    rw [← reported, ← writing.2]
    exact writeOutput_releases (Prod.ext writing.1 rfl)

end

section
variable {Priv : Type} [PublicKey Pub] [PrivateKey Priv Pub] [Agent Ag Priv Pub] [Terminal Te]
  [KeygenShim.SshSig Priv Sig] [KeygenShim.Principals Priv Signers]
  {made : String → ByteArray → String → Pub → Prop} {lists : Signers → String → String → Pub → Prop}

omit [Terminal Te] in
theorem writeSigOutput_releases {target : Option String} {armored : String}
    {w w' : World Ag Va Te} {code : Nat}
    (written : KeygenShim.writeSigOutput armored.toUTF8 target w = (.ok code, w')) :
    released target w' = some armored.toUTF8 := by
  unfold KeygenShim.writeSigOutput at written
  cases target with
  | some path =>
    obtain ⟨⟨⟩, w₁, writing, last⟩ := Fallible.bind_ok_iff.mp written
    have ended : w₁ = w' := congrArg Prod.snd last
    rw [← ended]
    simp [released, Program.writeFile_ok writing, Except.toOption]
  | none =>
    obtain ⟨⟨⟩, w₁, writing, last⟩ := Fallible.bind_ok_iff.mp written
    have ended : w₁ = w' := congrArg Prod.snd last
    rw [Program.writeStdout_run, Prod.mk.injEq] at writing
    rw [← ended, ← writing.2]
    simp [released]

/-- The same of `gitway-keygen`, whoever signs there. -/
theorem shim_sign_releases (laws : SignatureLaws Priv Ag made lists)
    (law : DecryptKeepsPublic Priv) {p : KeygenShim.Parsed} {w w' : World Ag Va Te} {code : Nat}
    {file ns : String} {pk : Pub} {data : ByteArray} {target : Option String}
    (named : p.file = some file) (given : p.nameSpace = some ns)
    (ran : KeygenShim.runSign p w = (.ok code, w'))
    (signer : KeygenShim.signingKey Priv file w = some pk)
    (message : (KeygenShim.readMessage p w).1 = .ok (data, target)) :
    ∃ armored, released target w' = some armored.toUTF8 ∧ made armored data ns pk := by
  have frame := KeygenShim.keeps_readMessage p w
  simp only [World.setting, Prod.mk.injEq] at frame
  unfold KeygenShim.signingKey at signer
  cases chosen : KeygenShim.agentKey w.env w.fs file w.agent with
  | some pk' =>
    rw [chosen] at signer
    obtain rfl : pk' = pk := Option.some.inj signer
    rw [KeygenShim.run_signed_by_agent named given chosen] at ran
    obtain ⟨⟨data', target'⟩, w₁, reading, rest⟩ := Fallible.bind_ok_iff.mp ran
    rw [reading] at message
    obtain ⟨rfl, rfl⟩ : data' = data ∧ target' = target := by simpa using message
    obtain ⟨armored, w₂, asked, written⟩ := Fallible.bind_ok_iff.mp rest
    rw [KeygenShim.askAgent, Program.onAgent_run, Prod.mk.injEq] at asked
    exact ⟨armored, writeSigOutput_releases written, laws.agent (Prod.ext asked.1 rfl)⟩
  | none =>
    rw [KeygenShim.run_signed_by_file named given chosen] at ran
    obtain ⟨⟨data', target'⟩, w₁, reading, rest⟩ := Fallible.bind_ok_iff.mp ran
    rw [reading] at message frame
    obtain ⟨rfl, rfl⟩ : data' = data ∧ target' = target := by simpa using message
    obtain ⟨path, w₂, resolved, rest⟩ := Fallible.bind_ok_iff.mp rest
    rw [Fallible.query_run, Prod.mk.injEq] at resolved
    obtain ⟨resolved, rfl⟩ := resolved
    obtain ⟨plain, w₃, loaded, rest⟩ := Fallible.bind_ok_iff.mp rest
    obtain ⟨key, there, same⟩ := KeygenShim.loadAndDecrypt_spec law loaded
    -- The file that was found before the message was read is the one that is opened.
    rw [frame.2.1] at resolved there
    rw [chosen, resolved] at signer
    have is_key : PrivateKey.publicKey key = pk := by
      simpa [Except.toOption, there] using signer
    obtain ⟨sig, w₄, signing, rest⟩ := Fallible.bind_ok_iff.mp rest
    rw [Fallible.query_run, Prod.mk.injEq, mapError_eq_ok_iff] at signing
    obtain ⟨armored, w₅, rendering, written⟩ := Fallible.bind_ok_iff.mp rest
    rw [Fallible.query_run, Prod.mk.injEq, mapError_eq_ok_iff] at rendering
    exact ⟨armored, writeSigOutput_releases written,
      (same.trans is_key) ▸ laws.file signing.1 rendering.1⟩

end

/-! ### What is accepted -/

section
variable {Priv : Type} [PublicKey Pub] [PrivateKey Priv Pub]

theorem readToString_of_read {fs : FileSystem} {path text : String}
    (there : fs.read path = .ok text.toUTF8) : fs.readToString path = .ok text := by
  unfold FileSystem.readToString
  rw [there]
  exact Reference.decodeUtf8_toUTF8 text

theorem runVerify_isOk [Signatures Priv Signers] {args : VerifyArgs} (mode : OutputMode)
    {w : World Ag Va Te} {armored : String} {allowed : Signers} {data : ByteArray}
    (there : w.fs.read args.signature = .ok armored.toUTF8)
    (known : Signatures.load Priv args.allowedSigners w.fs = .ok allowed)
    (message : (openInput args.input w).1 = .ok (.ok data)) :
    (runVerify Priv args mode w).1.isOk =
      (Signatures.verify Priv (.ok data) armored args.signer args.nameSpace allowed).isOk := by
  have read : Program.readToString args.signature w = (.ok armored, w) := by
    rw [Program.readToString_run, readToString_of_read there]
    rfl
  have loaded : (Fallible.query fun w => Signatures.load Priv args.allowedSigners w.fs :
      Program Ag Va Te Signers) w = (.ok allowed, w) := by
    rw [Fallible.query_run, known]
  unfold runVerify
  rw [Fallible.bind_of_ok read, Fallible.bind_of_ok loaded,
    Fallible.bind_of_ok (Fallible.run_eq message)]
  cases Signatures.verify Priv (.ok data) armored args.signer args.nameSpace allowed with
  | error e => rfl
  | ok verified =>
    cases mode with
    | json => rfl
    | human => rfl

variable [KeygenShim.Principals Priv Signers]

theorem shim_verify_isOk {p : KeygenShim.Parsed} {w : World Ag Va Te}
    {armored sig path ns principal : String} {allowed : Signers} {data : ByteArray}
    (given : p.nameSpace = some ns) (identity : p.signerIdentity = some principal)
    (named : p.signatureFile = some sig) (signers : p.allowedSigners.or p.file = some path)
    (there : w.fs.read sig = .ok armored.toUTF8)
    (known : Signatures.load Priv path w.fs = .ok allowed) (message : w.stdin = .ok data) :
    (KeygenShim.runVerify Priv p w).1.isOk =
      (Signatures.verify Priv (.ok data) armored principal ns allowed).isOk := by
  have read : Program.readToString sig w = (.ok armored, w) := by
    rw [Program.readToString_run, readToString_of_read there]
    rfl
  have loaded : (Fallible.query fun w => Signatures.load Priv path w.fs :
      Program Ag Va Te Signers) w = (.ok allowed, w) := by
    rw [Fallible.query_run, known]
  have drained : (Program.readStdinBytes w).1 = .ok data := by
    simp [Program.readStdinBytes, message]
  unfold KeygenShim.runVerify
  simp only [KeygenShim.required, given, identity, named, signers, pure_bind]
  rw [Fallible.bind_of_ok read, Fallible.bind_of_ok loaded,
    Fallible.bind_of_ok (Fallible.run_eq drained)]
  cases Signatures.verify Priv (.ok data) armored principal ns allowed with
  | error e => rfl
  | ok verified => rfl

theorem shim_check_isOk {p : KeygenShim.Parsed} {w : World Ag Va Te} {armored sig ns : String}
    {data : ByteArray} (given : p.nameSpace = some ns) (named : p.signatureFile = some sig)
    (there : w.fs.read sig = .ok armored.toUTF8) (message : w.stdin = .ok data) :
    (KeygenShim.runCheckNovalidate Priv p w).1.isOk =
      (KeygenShim.Principals.checkNovalidate Priv data armored ns).isOk := by
  have read : Program.readToString sig w = (.ok armored, w) := by
    rw [Program.readToString_run, readToString_of_read there]
    rfl
  have drained : (Program.readStdinBytes w).1 = .ok data := by
    simp [Program.readStdinBytes, message]
  unfold KeygenShim.runCheckNovalidate
  simp only [KeygenShim.required, given, named, pure_bind]
  rw [Fallible.bind_of_ok read, Fallible.bind_of_ok (Fallible.run_eq drained)]
  cases KeygenShim.Principals.checkNovalidate Priv data armored ns with
  | error e => rfl
  | ok => rfl

end

/-! ### From one tool to the other -/

section
variable (An B Hk Priv Ag Va Te Co : Type) [Config.Anvil An] [Transport.ConfigBuilder B]
  [Hosts.KnownHosts Hk] [PublicKey Pub] [PrivateKey Priv Pub] [Writer Priv] [KeygenShim.KeySize Pub]
  [KeygenShim.SshSig Priv Sig] [KeygenShim.Principals Priv Signers] [Agent Ag Priv Pub]
  [Agent.AgentAdmin Ag Pub] [Biometric.BiometricBackend Va] [Terminal Te] [Config.SshConfig Co]
  (sys : Platform Ne Ag)

/-- A process of either tool has signed the data under the namespace with the private half of
the key, and has released these bytes. -/
inductive Signing : ByteArray → String → Pub → ByteArray → Prop
  | gitway {files : Co} {cli : Cli} {stdoutIsTerminal : Bool} {args : Sign.SignArgs}
    {p p' : Process Ne Ag Va Te} {code : UInt32} {path : String} {key : Priv} {data sig : ByteArray}
    (given : cli.subcommand = some (.sign args) ∨ cli.subcommand = some (.keygen (.sign args)))
    (ran : run An B Hk Priv sys files cli stdoutIsTerminal p = (.ok code, p'))
    (named : (Sign.resolveKeyPath sys.session args.key p).1 = .ok path)
    (there : keyAt Priv p.world.fs path = some key)
    (message : (openInput args.input p.world).1 = .ok (.ok data))
    (out : released (args.output.filter (· ≠ "-")) p'.world = some sig) :
    Signing data args.nameSpace (PrivateKey.publicKey key) sig
  | gitwayKeygen {args : List String} {parsed : KeygenShim.Parsed} {w w' : World Ag Va Te}
    {code : Nat} {file ns : String} {pk : Pub} {data sig : ByteArray} {target : Option String}
    (helpless : args.any KeygenShim.isHelp = false)
    (accepted : KeygenShim.fromArgs args = .ok parsed)
    (asked : parsed.mode = .sshSigSign) (named : parsed.file = some file)
    (given : parsed.nameSpace = some ns) (ran : KeygenShim.run args w = (.ok code, w'))
    (signer : KeygenShim.signingKey Priv file w = some pk)
    (message : (KeygenShim.readMessage parsed w).1 = .ok (data, target))
    (out : released target w' = some sig) : Signing data ns pk sig

/-- A process of either tool checks these bytes as a signature of the data under the namespace
by a principal, and accepts it or not. -/
inductive Verifying : ByteArray → ByteArray → String → String → Signers → Bool → Prop
  | gitway {files : Co} {cli : Cli} {stdoutIsTerminal : Bool} {args : VerifyArgs}
    {p : Process Ne Ag Va Te} {data sig : ByteArray} {allowed : Signers}
    (given : cli.subcommand = some (.keygen (.verify args)))
    (there : p.world.fs.read args.signature = .ok sig)
    (known : Signatures.load Priv args.allowedSigners p.world.fs = .ok allowed)
    (message : (openInput args.input p.world).1 = .ok (.ok data)) :
    Verifying sig data args.nameSpace args.signer allowed
      (run An B Hk Priv sys files cli stdoutIsTerminal p).1.isOk
  | gitwayKeygen {args : List String} {parsed : KeygenShim.Parsed} {w : World Ag Va Te}
    {file path ns principal : String} {data sig : ByteArray} {allowed : Signers}
    (helpless : args.any KeygenShim.isHelp = false)
    (accepted : KeygenShim.fromArgs args = .ok parsed)
    (asked : parsed.mode = .sshSigVerify) (given : parsed.nameSpace = some ns)
    (identity : parsed.signerIdentity = some principal) (named : parsed.signatureFile = some file)
    (signers : parsed.allowedSigners.or parsed.file = some path) (there : w.fs.read file = .ok sig)
    (known : Signatures.load Priv path w.fs = .ok allowed) (message : w.stdin = .ok data) :
    Verifying sig data ns principal allowed (KeygenShim.run args w).1.isOk

/-- The same check without any list of signers. -/
inductive Checking : ByteArray → ByteArray → String → Bool → Prop
  | gitwayKeygen {args : List String} {parsed : KeygenShim.Parsed} {w : World Ag Va Te}
    {file ns : String} {data sig : ByteArray} (helpless : args.any KeygenShim.isHelp = false)
    (accepted : KeygenShim.fromArgs args = .ok parsed)
    (asked : parsed.mode = .sshSigCheckNoValidate) (given : parsed.nameSpace = some ns)
    (named : parsed.signatureFile = some file) (there : w.fs.read file = .ok sig)
    (message : w.stdin = .ok data) : Checking sig data ns (KeygenShim.run args w).1.isOk

omit [Agent.AgentAdmin Ag Pub] [Biometric.BiometricBackend Va] in
theorem KeygenShim.run_parsed {args : List String} {parsed : Parsed}
    (helpless : args.any isHelp = false) (accepted : fromArgs args = .ok parsed)
    (w : World Ag Va Te) : KeygenShim.run args w = perform parsed w := by
  unfold KeygenShim.run
  rw [helpless, accepted]
  rfl

variable {An B Hk Priv Ag Va Te Co sys}

/-- Whoever signed, the signature is one by the key of the signer. -/
theorem Signing.made {made : String → ByteArray → String → Pub → Prop}
    {lists : Signers → String → String → Pub → Prop} {data sig : ByteArray} {ns : String} {pk : Pub}
    (laws : SignatureLaws Priv Ag made lists) (law : DecryptKeepsPublic Priv)
    (signing : Signing An B Hk Priv Ag Va Te Co sys data ns pk sig) :
    ∃ armored, sig = armored.toUTF8 ∧ made armored data ns pk := by
  cases signing with
  | @gitway files cli tty args p p' code path key _ _ given ran named there message out =>
    have signed (mode : OutputMode) (ran : Sign.run Priv sys.session args mode p = (.ok code, p')) :
        ∃ armored, sig = armored.toUTF8 ∧
          made armored data args.nameSpace (PrivateKey.publicKey key) := by
      obtain ⟨armored, left, by_key⟩ := sign_releases laws law ran named there message
      exact ⟨armored, Option.some.inj (out.symm.trans left), by_key⟩
    rcases given with given | given
    · rw [run_subcommand An B Hk Priv sys files cli tty p given] at ran
      exact signed _ ran
    · rw [run_subcommand An B Hk Priv sys files cli tty p given] at ran
      exact signed _ ran
  | @gitwayKeygen args parsed w w' code file _ _ _ _ target helpless accepted asked named given ran
      signer message out =>
    rw [KeygenShim.run_parsed Priv Ag Va Te helpless accepted] at ran
    simp only [KeygenShim.perform, asked] at ran
    obtain ⟨armored, left, by_key⟩ := shim_sign_releases laws law named given ran signer message
    exact ⟨armored, Option.some.inj (out.symm.trans left), by_key⟩

theorem isOk_eq_true_iff {ε α : Type} {x : Except ε α} : x.isOk = true ↔ ∃ a, x = .ok a := by
  cases x with
  | error e => simp [Except.isOk, Except.toBool]
  | ok a => simp [Except.isOk, Except.toBool]

section
variable {made : String → ByteArray → String → Pub → Prop}
  {lists : Signers → String → String → Pub → Prop}

omit [KeygenShim.KeySize Pub] [Keygen.Writer Priv] [Agent.AgentAdmin Ag Pub] in
theorem SignatureLaws.verify_isOk_iff (laws : SignatureLaws Priv Ag made lists)
    {armored principal ns : String} {data : ByteArray} {allowed : Signers} :
    (Signatures.verify Priv (.ok data) armored principal ns allowed).isOk = true ↔
      ∃ pk, made armored data ns pk ∧ lists allowed principal ns pk := by
  rw [isOk_eq_true_iff]
  constructor
  · rintro ⟨v, verified⟩
    obtain ⟨pk, by_key, listed, _⟩ := laws.verify.mp verified
    exact ⟨pk, by_key, listed⟩
  · rintro ⟨pk, by_key, listed⟩
    exact ⟨_, laws.verify.mpr ⟨pk, by_key, listed, rfl⟩⟩

omit [KeygenShim.KeySize Pub] [Keygen.Writer Priv] [Agent.AgentAdmin Ag Pub]
  [Biometric.BiometricBackend Va] [Terminal Te] in
/-- Whatever else the bytes are a signature of, it is by the same key. -/
theorem SignatureLaws.signer_iff (laws : SignatureLaws Priv Ag made lists) {P : Pub → Prop}
    {armored ns ns' : String} {data data' : ByteArray} {pk : Pub}
    (by_key : made armored data ns pk) :
    (∃ other, made armored data' ns' other ∧ P other) ↔ made armored data' ns' pk ∧ P pk := by
  constructor
  · rintro ⟨other, signed, holds⟩
    obtain rfl := laws.one_key by_key signed
    exact ⟨signed, holds⟩
  · rintro ⟨signed, holds⟩
    exact ⟨pk, signed, holds⟩

/-- Either tool accepts what is signed by a key that is listed. -/
theorem Verifying.accepts_iff (laws : SignatureLaws Priv Ag made lists)
    {armored principal ns : String} {data : ByteArray} {allowed : Signers} {accepted : Bool}
    (verifying : Verifying An B Hk Priv Ag Va Te Co sys armored.toUTF8 data
      ns principal allowed accepted) :
    accepted = true ↔ ∃ pk, made armored data ns pk ∧ lists allowed principal ns pk := by
  cases verifying with
  | @gitway files cli tty args p _ _ _ given there known message =>
    rw [run_subcommand An B Hk Priv sys files cli tty p given, ← laws.verify_isOk_iff,
      ← runVerify_isOk (detectOutputMode cli p.world.env tty true) there known message]
    show (exitWith _ p).1.isOk = true ↔ _
    rw [exitWith_run]
    cases (runVerify Priv args (detectOutputMode cli p.world.env tty true) p.world).1 <;> rfl
  | gitwayKeygen helpless accepted asked given identity named signers there known message =>
    rw [KeygenShim.run_parsed Priv Ag Va Te helpless accepted, ← laws.verify_isOk_iff,
      ← shim_verify_isOk given identity named signers there known message]
    simp only [KeygenShim.perform, asked]

omit [Agent.AgentAdmin Ag Pub] [Biometric.BiometricBackend Va] in
theorem Checking.accepts_iff (laws : SignatureLaws Priv Ag made lists)
    {armored ns : String} {data : ByteArray} {accepted : Bool}
    (checking : Checking Priv Ag Va Te armored.toUTF8 data ns
      accepted) :
    accepted = true ↔ ∃ pk, made armored data ns pk := by
  cases checking with
  | @gitwayKeygen args parsed w _ _ _ _ helpless accepted asked given named there message =>
    have checked : (KeygenShim.run args w).1.isOk =
        (KeygenShim.Principals.checkNovalidate Priv data armored ns).isOk := by
      rw [KeygenShim.run_parsed Priv Ag Va Te helpless accepted]
      simp only [KeygenShim.perform, asked]
      exact shim_check_isOk given named there message
    rw [checked, isOk_eq_true_iff, ← laws.check]
    exact ⟨fun ⟨⟨⟩, done⟩ => done, fun done => ⟨(), done⟩⟩

end

/-- What either tool has signed either tool accepts, for the principals under which the key of
the signer is listed and for no others. For other data, or under another namespace, it is
accepted only if it is a signature of these by the same key. -/
theorem signature_verifies {made : String → ByteArray → String → Pub → Prop}
    {lists : Signers → String → String → Pub → Prop} {data sig : ByteArray} {ns : String} {pk : Pub}
    (laws : SignatureLaws Priv Ag made lists) (law : DecryptKeepsPublic Priv)
    (signing : Signing An B Hk Priv Ag Va Te Co sys data ns pk sig) :
    (∀ {principal allowed accepted},
      Verifying An B Hk Priv Ag Va Te Co sys sig data ns principal allowed accepted →
        (accepted = true ↔ lists allowed principal ns pk)) ∧
    (∀ {accepted}, Checking Priv Ag Va Te sig data ns accepted →
      accepted = true) ∧
    ∃ armored, sig = armored.toUTF8 ∧
      (∀ {data' ns' principal allowed accepted},
        Verifying An B Hk Priv Ag Va Te Co sys sig data' ns' principal allowed accepted →
          (accepted = true ↔ made armored data' ns' pk ∧ lists allowed principal ns' pk)) ∧
      ∀ {data' ns' accepted}, Checking Priv Ag Va Te sig data' ns' accepted →
        (accepted = true ↔ made armored data' ns' pk) := by
  obtain ⟨armored, rfl, by_key⟩ := signing.made laws law
  have accepts {data' ns' principal allowed accepted}
      (verifying : Verifying An B Hk Priv Ag Va Te Co sys armored.toUTF8 data' ns' principal allowed
        accepted) :
      accepted = true ↔ made armored data' ns' pk ∧ lists allowed principal ns' pk := by
    rw [verifying.accepts_iff laws]
    exact laws.signer_iff by_key
  have checks {data' ns' accepted}
      (checking : Checking Priv Ag Va Te armored.toUTF8 data' ns' accepted) :
      accepted = true ↔ made armored data' ns' pk := by
    rw [checking.accepts_iff laws]
    simpa using laws.signer_iff (P := fun _ => True) by_key
  refine ⟨fun verifying => ?_, fun checking => ?_, armored, rfl, accepts, checks⟩
  · rw [accepts verifying]
    exact and_iff_right by_key
  · exact (checks checking).mpr by_key

end

/-! ### On the reference keys -/

section
open Reference KeygenShim

local instance : KeySize RefPublic where
  kind _ := .ed25519
  modulus _ := none

local instance : Principals RefPrivate (List String) where
  checkNovalidate _ armored _ :=
    if (Text.stripStart armored "SSHSIG ").isSome then .ok ()
    else .error (.signing "not a signature")
  findPrincipals _ signers _ := .ok signers
  findPrincipalsAnyNs _ signers := .ok signers

theorem words_signature (blob : String) : words ("SSHSIG " ++ blob) = "SSHSIG" :: words blob := by
  have spelled : ("SSHSIG " ++ blob).toList = "SSHSIG".toList ++ ' ' :: blob.toList := by simp
  unfold words
  rw [spelled, List.splitOn_append_cons_self_of_not_mem (by decide)]
  simp

theorem eq_of_words {armored blob : String} (read : words armored = ["SSHSIG", blob]) :
    armored = "SSHSIG " ++ blob := by
  have parts : armored.toList.splitOn ' ' = ["SSHSIG".toList, blob.toList] := by
    have mapped := congrArg (List.map String.toList) read
    simpa [words, Function.comp_def] using mapped
  have joined : [' '].intercalate (armored.toList.splitOn ' ') = armored.toList :=
    List.intercalate_splitOn ' '
  rw [parts] at joined
  rw [← String.toList_inj, ← joined]
  simp [List.intercalate]

def refMade (armored : String) (_ : ByteArray) (_ : String) (pk : RefPublic) : Prop :=
  armored = "SSHSIG " ++ pk.blob

/-- A key is listed by its blob. None with a blank in it is recognised. -/
def refLists (signers : List String) (_ _ : String) (pk : RefPublic) : Prop :=
  pk.blob ∈ signers ∧ words pk.blob = [pk.blob]

theorem reference_signatureLaws : SignatureLaws RefPrivate RefAgent refMade refLists where
  one_key := by
    rintro armored _ _ _ _ ⟨blob⟩ ⟨blob'⟩ rfl same
    simpa [refMade] using same
  agent := by
    intro data pk ns alg armored ag ag' signed
    simp only [Agent.signWithAgent] at signed
    split at signed
    · cases signed
      rfl
    · simp at signed
  file := by
    intro key ns alg data sig armored signed rendered
    simp only [SshSig.sign] at signed
    split at signed
    · cases signed
      cases rendered
      rfl
    · simp at signed
  sign := by
    intro key ns alg data armored signed
    simp only [Keygen.Signatures.sign] at signed
    split at signed
    · cases signed
      rfl
    · simp at signed
  verify := by
    intro data armored principal ns allowed v
    constructor
    · intro verified
      simp only [Keygen.Signatures.verify] at verified
      split at verified
      · rename_i blob read
        split at verified
        · rename_i listed
          cases verified
          have spelled := eq_of_words read
          rw [spelled, words_signature] at read
          exact ⟨⟨blob⟩, spelled, ⟨listed, (List.cons.inj read).2⟩, rfl⟩
        · simp at verified
      · simp at verified
    · rintro ⟨⟨blob⟩, rfl, ⟨listed, whole⟩, rfl⟩
      have read : words ("SSHSIG " ++ blob) = ["SSHSIG", blob] := by rw [words_signature, whole]
      have there : blob ∈ allowed := listed
      simp only [Keygen.Signatures.verify, read, there, if_true]
      rfl
  check := by
    intro data armored ns
    simp only [Principals.checkNovalidate]
    constructor
    · intro checked
      cases stripped : Text.stripStart armored "SSHSIG " with
      | none => simp [stripped] at checked
      | some blob => exact ⟨⟨blob⟩, Text.stripStart_eq_some_iff.mp stripped⟩
    · rintro ⟨⟨blob⟩, rfl⟩
      simp

/-- `gitway-keygen -Y sign -n git -f id`, away from any agent. -/
private def signs : Parsed :=
  { start.p with mode := .sshSigSign, file := some "id", nameSpace := some "git" }

private def commit : ByteArray := "commit".toUTF8

private def signingWorld : RefWorld :=
  { world [] [("id", "openssh-key-v1 AAAAC3 none")] ⟨false, []⟩ ⟨[]⟩ ⟨[]⟩ with stdin := .ok commit }

private theorem id_file : signingWorld.fs.readToString "id" = .ok "openssh-key-v1 AAAAC3 none" :=
  readToString_textFiles _ _ _ rfl

private theorem id_key : (PrivateKey.fromOpenssh "openssh-key-v1 AAAAC3 none" :
    Except String RefPrivate) = .ok ⟨⟨"AAAAC3"⟩, none⟩ := by decide

private theorem id_found : resolveSigningKeyPath RefPrivate signingWorld.fs "id" = .ok "id" := by
  have isPrivate : parsesAsPrivate RefPrivate "openssh-key-v1 AAAAC3 none" = true := by decide
  simp only [resolveSigningKeyPath, id_file, isPrivate, if_true]

private theorem commit_signed : KeygenShim.runSign signs signingWorld =
    (.ok 0, { signingWorld with
      stdin := .ok ByteArray.empty
      stdout := [.bytes "SSHSIG AAAAC3".toUTF8] }) := by
  have unset : signingWorld.env.vars "SSH_AUTH_SOCK" = none := rfl
  have silent : signingWorld.stdout = [] := rfl
  have input : signingWorld.stdin = .ok commit := rfl
  simp [KeygenShim.runSign, signs, start, readMessage, Program.readStdinBytes, Fallible.bind_run,
    trySignViaAgent, agentKey, unset, id_found, KeygenShim.loadAndDecrypt, id_file, id_key, input,
    silent, PrivateKey.isEncrypted, SshSig.sign, SshSig.toPem, writeSigOutput, Except.map]

private theorem signing_commit : Signing RefAnvil Transport.AnvilConfig Hosts.RefHostKeys RefPrivate
    RefAgent RefVault RefTerminal RefFiles machine commit "git" ⟨"AAAAC3"⟩
    "SSHSIG AAAAC3".toUTF8 := by
  have accepted : fromArgs ["-Y", "sign", "-n", "git", "-f", "id"] = .ok signs := rfl
  have unasked : agentKey signingWorld.env signingWorld.fs "id" signingWorld.agent =
    (none : Option RefPublic) := rfl
  refine Signing.gitwayKeygen (w := signingWorld) (by decide) accepted rfl rfl rfl
    (Eq.trans ?_ commit_signed) ?_ rfl rfl
  · rw [KeygenShim.run_parsed RefPrivate RefAgent RefVault RefTerminal (by decide) accepted]
    rfl
  · simp [signingKey, unasked, id_found, Except.toOption, keyAt_of_parsed id_file id_key,
      PrivateKey.publicKey]

private def checkingProcess : RefProcess :=
  { started with world :=
    { world [] [("sig", "SSHSIG AAAAC3"), ("signers", "AAAAC3")] ⟨false, []⟩ ⟨[]⟩ ⟨[]⟩ with
      stdin := .ok commit } }

private def verifyArgs : Keygen.VerifyArgs := ⟨"user", "git", "signers", "sig", none⟩

private def verifyCli : Cli := bareCli (.keygen (.verify verifyArgs))

private def verified : Bool :=
  (run RefAnvil Transport.AnvilConfig Hosts.RefHostKeys RefPrivate machine (⟨none, none⟩ : RefFiles)
    verifyCli true checkingProcess).1.isOk

private theorem verifying_commit : Verifying RefAnvil Transport.AnvilConfig Hosts.RefHostKeys
    RefPrivate RefAgent RefVault RefTerminal RefFiles machine "SSHSIG AAAAC3".toUTF8 commit
    verifyArgs.nameSpace verifyArgs.signer ["AAAAC3"] verified := by
  have there : checkingProcess.world.fs.readToString "signers" = .ok "AAAAC3" :=
    readToString_textFiles _ _ _ rfl
  have known : Keygen.Signatures.load RefPrivate verifyArgs.allowedSigners
      checkingProcess.world.fs = .ok ["AAAAC3"] := by
    simp only [Keygen.Signatures.load, verifyArgs, there]
    decide
  have message : (openInput verifyArgs.input checkingProcess.world).1 = .ok (.ok commit) := rfl
  have given : verifyCli.subcommand = some (.keygen (.verify verifyArgs)) := rfl
  unfold verified
  exact Verifying.gitway given rfl known message

/-- A commit that `gitway-keygen` signed, and `gitway keygen verify` accepts. -/
theorem signed_commit_verifies : verified = true :=
  ((signature_verifies reference_signatureLaws decryptKeepsPublic signing_commit).1
    verifying_commit).mpr ⟨by decide, by decide⟩

end

end Gitway
