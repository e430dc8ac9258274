import Gitway.Lib.Fallible

/-!
# What the binaries read and change

Errors, the interfaces of the crates that are not part of the repository, and the
world a command runs in: environment, file system, agent, biometric keystore,
terminal, standard streams and the signals sent.

A crate that cannot be read here is a class of operations over a state type of
its own. What the code relies on is stated as a separate predicate on the class,
so a theorem names the part of it that its proof uses.
-/
namespace Gitway

open Lib

/-! ### Errors -/

inductive IoErrorKind where
  | notFound
  | permissionDenied
  | invalidData
  | other
  | uncategorized
  deriving DecidableEq, Repr

structure IoError where
  kind : IoErrorKind
  rawOsError : Option Int
  message : String
  deriving DecidableEq, Repr

/-- `AnvilError`, by the constructor that built it. `other` stands for the errors
that arise inside the library, under their error code. -/
inductive AnvilError where
  | invalidConfig (message : String)
  | noKeyFound
  | signing (message : String)
  | authenticationFailed
  | io (e : IoError)
  | withHint (e : AnvilError) (hint : String)
  | other (code message : String)
  deriving DecidableEq, Repr

/-! ### Keys: the `ssh-key` crate and `anvil_ssh::keygen` -/

inductive HashAlg where
  | sha256
  | sha512
  deriving DecidableEq, Repr

class PublicKey (Pub : Type) where
  fromOpenssh : String → Except String Pub
  /-- The rendering of `PublicKey::fingerprint`. -/
  fingerprint : HashAlg → Pub → String
  /-- `anvil_ssh::keygen::fingerprint`. -/
  keygenFingerprint : HashAlg → Pub → String

class PrivateKey (Priv : Type) (Pub : outParam Type) where
  fromOpenssh : String → Except String Priv
  publicKey : Priv → Pub
  isEncrypted : Priv → Bool
  decrypt : Priv → String → Except String Priv

/-- Decryption reveals the private half of the same key pair. -/
def DecryptKeepsPublic (Priv : Type) {Pub : Type} [PrivateKey Priv Pub] : Prop :=
  ∀ (key plain : Priv) (pass : String), PrivateKey.decrypt key pass = .ok plain →
    PrivateKey.publicKey plain = PrivateKey.publicKey key

/-- Whichever passphrase opens a key, the key that comes out is the same. -/
def DecryptUnique (Priv : Type) {Pub : Type} [PrivateKey Priv Pub] : Prop :=
  ∀ (key plain plain' : Priv) (pass pass' : String),
    PrivateKey.decrypt key pass = .ok plain → PrivateKey.decrypt key pass' = .ok plain' →
      plain = plain'

/-! ### The agent client: `anvil_ssh::agent::client` -/

/-- Constraints of a loaded key: lifetime in seconds and confirmation on use. -/
structure Constraints where
  lifetime : Option Nat
  confirm : Bool
  deriving DecidableEq, Repr

structure Identity (Pub : Type) where
  publicKey : Pub
  comment : String
  fingerprint : String

/-- `OsString`: the text, with its invalid parts replaced, and whether there were any. -/
structure OsString where
  lossy : String
  isUnicode : Bool
  deriving DecidableEq, Repr

class Agent (Ag : Type) (Priv Pub : outParam Type) where
  /-- `Agent::from_env`, given the value of `SSH_AUTH_SOCK`. -/
  fromEnv : Option OsString → Ag → Except AnvilError Unit
  list : Ag → Except AnvilError (List (Identity Pub))
  add : Priv → Option Nat → Bool → Ag → Except AnvilError Unit × Ag
  /-- `sshsig::sign_with_agent`. -/
  signWithAgent : ByteArray → Pub → String → HashAlg → Ag → Except AnvilError String × Ag

/-! ### Biometric keystore: the `BiometricVault` trait -/

inductive BiometricError where
  | notEnrolled
  | cancelled
  | unavailable (why : String)
  | backend (why : String)
  deriving DecidableEq, Repr

/-- The `Display` rendering. -/
def BiometricError.text : BiometricError → String
  | .notEnrolled => "key is not enrolled for biometric unlock"
  | .cancelled => "biometric verification was cancelled or did not match"
  | .unavailable why => s!"biometric unlock is unavailable: {why}"
  | .backend why => s!"biometric backend error: {why}"

class BiometricVault (Va : Type) where
  store : String → String → Va → Except BiometricError Unit × Va
  retrieve : String → Va → Except BiometricError String × Va
  delete : String → Va → Except BiometricError Unit × Va

/-! ### Terminal: the `rpassword` crate and askpass programs -/

structure AskpassOutput where
  success : Bool
  status : String
  stdout : ByteArray

class Terminal (Te : Type) where
  promptPassword : String → Te → Except IoError String × Te
  /-- Run an askpass program with the prompt as its argument. -/
  askpass : String → String → Te → Except IoError AskpassOutput × Te

/-! ### Operating system -/

structure Environment where
  vars : String → Option OsString
  processId : Nat
  stdinIsTerminal : Bool
  stderrIsTerminal : Bool
  homeDir : Option String
  currentDir : Except IoError String
  now : String

/-- `std::env::var`: a value that is not Unicode counts as absent. -/
def Environment.var (env : Environment) (name : String) : Option String :=
  (env.vars name).bind fun v => if v.isUnicode then some v.lossy else none

/-- Files by path. `refuses` is the error that writing a path would report. -/
structure FileSystem where
  read : String → Except IoError ByteArray
  exists_ : String → Bool
  mode : String → Option Nat
  refuses : String → Option IoError

def invalidUtf8 : IoError := ⟨.invalidData, none, "stream did not contain valid UTF-8"⟩

def decodeUtf8 (bytes : ByteArray) : Except IoError String :=
  match String.fromUTF8? bytes with
  | some s => .ok s
  | none => .error invalidUtf8

@[simp] theorem fromUTF8?_toUTF8 (s : String) : String.fromUTF8? s.toUTF8 = some s := by
  have valid : s.toUTF8.IsValidUTF8 := s.isValidUTF8
  unfold String.fromUTF8?
  rw [dif_pos valid]
  rfl

/-- `fs::read_to_string`. -/
def FileSystem.readToString (fs : FileSystem) (path : String) : Except IoError String :=
  fs.read path >>= decodeUtf8

def FileSystem.write (fs : FileSystem) (path : String) (bytes : ByteArray) : FileSystem :=
  { fs with
    read := fun p => if p = path then .ok bytes else fs.read p
    exists_ := fun p => if p = path then true else fs.exists_ p }

/-- A JSON value, as `serde_json` builds them. -/
inductive Json where
  | null
  | bool (b : Bool)
  | num (n : Int)
  | str (s : String)
  | arr (items : List Json)
  | obj (fields : List (String × Json))

def Json.ofOption {α : Type} (f : α → Json) : Option α → Json
  | some a => f a
  | none => .null

inductive Emitted where
  | line (s : String)
  | json (v : Json)
  | bytes (b : ByteArray)

inductive OutputMode where
  | human
  | json
  deriving DecidableEq, Repr

structure World (Ag Va Te : Type) where
  env : Environment
  fs : FileSystem
  agent : Ag
  vault : Va
  terminal : Te
  stdin : Except IoError ByteArray
  stdout : List Emitted
  stderr : List String
  /-- The `kill` calls made so far. -/
  signals : List Int

/-- The private key that a file holds, when it can be read and parsed. -/
def keyAt (Priv : Type) {Pub : Type} [PrivateKey Priv Pub] (fs : FileSystem) (path : String) :
    Option Priv :=
  (fs.readToString path).toOption.bind fun pem => (PrivateKey.fromOpenssh pem).toOption

theorem keyAt_of_parsed {Priv Pub : Type} [PrivateKey Priv Pub] {fs : FileSystem}
    {path pem : String} {key : Priv} (read : fs.readToString path = .ok pem)
    (parsed : PrivateKey.fromOpenssh pem = .ok key) : keyAt Priv fs path = some key := by
  simp [keyAt, read, parsed, Except.toOption]

theorem parsed_of_keyAt {Priv Pub : Type} [PrivateKey Priv Pub] {fs : FileSystem} {path : String}
    {key : Priv} (there : keyAt Priv fs path = some key) :
    ∃ pem, fs.readToString path = .ok pem ∧
      (PrivateKey.fromOpenssh pem : Except String Priv) = .ok key := by
  unfold keyAt at there
  cases read : fs.readToString path with
  | error e => simp [read, Except.toOption] at there
  | ok pem =>
    refine ⟨pem, rfl, ?_⟩
    cases parsed : (PrivateKey.fromOpenssh pem : Except String Priv) with
    | error e => simp [read, parsed, Except.toOption] at there
    | ok key => simpa [read, parsed, Except.toOption] using there

/-- What a command was started with: environment, files and agent. -/
def World.setting {Ag Va Te : Type} (w : World Ag Va Te) : Environment × FileSystem × Ag :=
  (w.env, w.fs, w.agent)

/-- What a command has written to standard output and to standard error. -/
def World.output {Ag Va Te : Type} (w : World Ag Va Te) : List Emitted × List String :=
  (w.stdout, w.stderr)

abbrev Program (Ag Va Te α : Type) : Type := Fallible (World Ag Va Te) AnvilError α

namespace Program

variable {Ag Va Te α β ε : Type}

/-- Rust's `?` on an I/O result. -/
def io (x : Except IoError α) : Except AnvilError α := x.mapError .io

@[simp] theorem io_ok (a : α) : io (.ok a) = .ok a := rfl

@[simp] theorem io_error (e : IoError) : io (.error e : Except IoError α) = .error (.io e) := rfl

@[simp] theorem io_eq_ok_iff {x : Except IoError α} {a : α} : io x = .ok a ↔ x = .ok a :=
  mapError_eq_ok_iff

def environment : Program Ag Va Te Environment := Fallible.query fun w => .ok w.env

def fileMode (path : String) : Program Ag Va Te (Option Nat) :=
  Fallible.query fun w => .ok (w.fs.mode path)

/-- `Path::exists`. -/
def pathExists (path : String) : Program Ag Va Te Bool :=
  Fallible.query fun w => .ok (w.fs.exists_ path)

def readToString (path : String) : Program Ag Va Te String :=
  Fallible.query fun w => io (w.fs.readToString path)

def readKey {Priv Pub : Type} [PrivateKey Priv Pub] (path : String) :
    Program Ag Va Te (Option Priv) :=
  Fallible.query fun w => .ok (keyAt Priv w.fs path)

def println (s : String) : Program Ag Va Te Unit :=
  Fallible.update fun w => { w with stdout := w.stdout ++ [.line s] }

def eprintln (s : String) : Program Ag Va Te Unit :=
  Fallible.update fun w => { w with stderr := w.stderr ++ [s] }

def emitJson (v : Json) : Program Ag Va Te Unit :=
  Fallible.update fun w => { w with stdout := w.stdout ++ [.json v] }

/-- An operation of the agent whose error ends the command. -/
def onAgent (op : Ag → Except AnvilError α × Ag) : Program Ag Va Te α :=
  Fallible.within World.agent (fun a w => { w with agent := a }) op

/-- An operation on the files whose error ends the command. -/
def onFiles (op : FileSystem → Except AnvilError α × FileSystem) : Program Ag Va Te α :=
  Fallible.within World.fs (fun fs w => { w with fs := fs }) op

/-- An operation of the keystore, its outcome handed over as a value. -/
def onVault (op : Va → Except BiometricError α × Va) :
    Program Ag Va Te (Except BiometricError α) :=
  Fallible.within World.vault (fun v w => { w with vault := v })
    fun v => (.ok (op v).1, (op v).2)

/-- An operation of the terminal, its outcome handed over as a value. -/
def onTerminal (op : Te → Except ε α × Te) : Program Ag Va Te (Except ε α) :=
  Fallible.within World.terminal (fun t w => { w with terminal := t })
    fun t => (.ok (op t).1, (op t).2)

/-- Read standard input to its end. What was read is gone afterwards. -/
def readStdin : Program Ag Va Te (Except IoError String) := fun w =>
  (.ok (w.stdin >>= decodeUtf8),
    { w with stdin := w.stdin.map fun _ => ByteArray.empty })

/-- Read standard input to its end, as bytes. -/
def readStdinBytes : Program Ag Va Te ByteArray := fun w =>
  (io w.stdin, { w with stdin := w.stdin.map fun _ => ByteArray.empty })

def readFile (path : String) : Program Ag Va Te ByteArray :=
  Fallible.query fun w => io (w.fs.read path)

/-- `fs::write`. -/
def writeFile (path : String) (bytes : ByteArray) : Program Ag Va Te Unit := fun w =>
  match w.fs.refuses path with
  -- Nothing is written to a path that refuses.
  | some e => (.error (.io e), w)
  | none => (.ok (), { w with fs := w.fs.write path bytes })

def writeStdout (bytes : ByteArray) : Program Ag Va Te Unit :=
  Fallible.update fun w => { w with stdout := w.stdout ++ [.bytes bytes] }

/-- `rpassword::prompt_password`. -/
def promptPassword [Terminal Te] (prompt : String) : Program Ag Va Te (Except IoError String) :=
  onTerminal (Terminal.promptPassword prompt)

section
variable (w : World Ag Va Te)

@[simp] theorem environment_run : environment w = (.ok w.env, w) := rfl

@[simp] theorem fileMode_run (path : String) : fileMode path w = (.ok (w.fs.mode path), w) := rfl

@[simp] theorem pathExists_run (path : String) :
    pathExists path w = (.ok (w.fs.exists_ path), w) := rfl

@[simp] theorem readToString_run (path : String) :
    readToString path w = (io (w.fs.readToString path), w) := rfl

theorem readToString_ok {path s : String} {w w' : World Ag Va Te}
    (read : readToString path w = (.ok s, w')) : w = w' ∧ w.fs.readToString path = .ok s := by
  rw [readToString_run, Prod.mk.injEq, io_eq_ok_iff] at read
  exact ⟨read.2, read.1⟩

theorem writeFile_ok {path : String} {bytes : ByteArray} {w w' : World Ag Va Te}
    (written : writeFile path bytes w = (.ok (), w')) : w'.fs.read path = .ok bytes := by
  unfold writeFile at written
  split at written
  · simp at written
  · simp only [Prod.mk.injEq, true_and] at written
    rw [← written]
    simp [FileSystem.write]

@[simp] theorem readKey_run {Priv Pub : Type} [PrivateKey Priv Pub] (path : String) :
    readKey path w = (.ok (keyAt Priv w.fs path), w) := rfl

@[simp] theorem println_run (s : String) :
    println s w = (.ok (), { w with stdout := w.stdout ++ [.line s] }) := rfl

@[simp] theorem writeStdout_run (bytes : ByteArray) :
    writeStdout bytes w = (.ok (), { w with stdout := w.stdout ++ [.bytes bytes] }) := rfl

@[simp] theorem eprintln_run (s : String) :
    eprintln s w = (.ok (), { w with stderr := w.stderr ++ [s] }) := rfl

theorem forM_eprintln_run (f : β → String) (xs : List β) (w : World Ag Va Te) :
    (xs.forM fun x => (eprintln (f x) : Program Ag Va Te Unit)) w =
      (.ok (), { w with stderr := w.stderr ++ xs.map f }) := by
  induction xs generalizing w with
  | nil => simp
  | cons x xs ih =>
    -- The first line is printed, and the others are printed behind it.
    show (eprintln (f x) >>= fun _ => xs.forM fun x => eprintln (f x)) w = _
    rw [Fallible.bind_of_ok (eprintln_run w (f x)), ih]
    simp

@[simp] theorem emitJson_run (v : Json) :
    emitJson v w = (.ok (), { w with stdout := w.stdout ++ [.json v] }) := rfl

@[simp] theorem onAgent_run (op : Ag → Except AnvilError α × Ag) :
    onAgent op w = ((op w.agent).1, { w with agent := (op w.agent).2 }) := rfl

@[simp] theorem onFiles_run (op : FileSystem → Except AnvilError α × FileSystem) :
    onFiles op w = ((op w.fs).1, { w with fs := (op w.fs).2 }) := rfl

@[simp] theorem onVault_run (op : Va → Except BiometricError α × Va) :
    onVault op w = (.ok (op w.vault).1, { w with vault := (op w.vault).2 }) := rfl

@[simp] theorem onTerminal_run (op : Te → Except ε α × Te) :
    onTerminal op w = (.ok (op w.terminal).1, { w with terminal := (op w.terminal).2 }) := rfl

end

/-! ### Programs that do not meddle -/

theorem keeps_println (s : String) :
    Fallible.Keeps World.setting (println s : Program Ag Va Te Unit) := fun _ => rfl

theorem keeps_readStdinBytes :
    Fallible.Keeps World.setting (readStdinBytes : Program Ag Va Te ByteArray) := fun _ => rfl

/-- A view of the world that shows neither the terminal nor standard input. -/
structure Aside {τ : Type} (view : World Ag Va Te → τ) : Prop where
  terminal : ∀ w t, view { w with terminal := t } = view w
  stdin : ∀ w input, view { w with stdin := input } = view w

theorem aside_vault : Aside (World.vault : World Ag Va Te → Va) :=
  ⟨fun _ _ => rfl, fun _ _ => rfl⟩

theorem Aside.keeps_onTerminal {τ : Type} {view : World Ag Va Te → τ} (aside : Aside view)
    (op : Te → Except ε α × Te) :
    Fallible.Keeps view (onTerminal op : Program Ag Va Te (Except ε α)) :=
  fun w => aside.terminal w _

theorem Aside.keeps_readStdin {τ : Type} {view : World Ag Va Te → τ} (aside : Aside view) :
    Fallible.Keeps view (readStdin : Program Ag Va Te (Except IoError String)) :=
  fun w => aside.stdin w _

/-- A view of the world that shows neither the keystore nor the messages either. -/
structure Backstage {τ : Type} (view : World Ag Va Te → τ) : Prop extends Aside view where
  vault : ∀ w v, view { w with vault := v } = view w
  stderr : ∀ w messages, view { w with stderr := messages } = view w

theorem backstage_setting : Backstage (World.setting : World Ag Va Te → _) :=
  ⟨⟨fun _ _ => rfl, fun _ _ => rfl⟩, fun _ _ => rfl, fun _ _ => rfl⟩

theorem Backstage.keeps_onVault {τ : Type} {view : World Ag Va Te → τ} (back : Backstage view)
    (op : Va → Except BiometricError α × Va) :
    Fallible.Keeps view (onVault op : Program Ag Va Te (Except BiometricError α)) :=
  fun w => back.vault w _

theorem Backstage.keeps_eprintln {τ : Type} {view : World Ag Va Te → τ} (back : Backstage view)
    (s : String) : Fallible.Keeps view (eprintln s : Program Ag Va Te Unit) :=
  fun w => back.stderr w _

/-! ### Programs that only print -/

/-- The program ends well, and all it did was to print these items and messages. -/
def Prints (out : List Emitted) (messages : List String) (x : Program Ag Va Te PUnit) : Prop :=
  ∀ w, x w = (.ok ⟨⟩, { w with stdout := w.stdout ++ out, stderr := w.stderr ++ messages })

theorem Prints.nothing : Prints [] [] (pure ⟨⟩ : Program Ag Va Te PUnit) := fun w => by simp

theorem Prints.println (s : String) : Prints [.line s] [] (println s : Program Ag Va Te Unit) :=
  fun w => by simp

theorem Prints.eprintln (s : String) : Prints [] [s] (eprintln s : Program Ag Va Te Unit) :=
  fun w => by simp

theorem Prints.bind {out out' : List Emitted} {messages messages' : List String}
    {x y : Program Ag Va Te PUnit} (first : Prints out messages x)
    (rest : Prints out' messages' y) :
    Prints (out ++ out') (messages ++ messages') (x >>= fun _ => y) := by
  intro w
  rw [Fallible.bind_of_ok (first w), rest]
  simp only [List.append_assoc]

theorem Prints.option {out : β → List Emitted} {messages : β → List String}
    {f : β → Program Ag Va Te PUnit} (each : ∀ b, Prints (out b) (messages b) (f b))
    (value : Option β) :
    Prints (value.toList.flatMap out) (value.toList.flatMap messages) (value.forM f) := by
  cases value with
  | none => exact Prints.nothing
  | some b => simpa using each b

theorem Prints.list {out : β → List Emitted} {messages : β → List String}
    {f : β → Program Ag Va Te PUnit} (each : ∀ b, Prints (out b) (messages b) (f b))
    (values : List β) :
    Prints (values.flatMap out) (values.flatMap messages) (values.forM f) := by
  induction values with
  | nil => exact Prints.nothing
  | cons b rest ih => exact (each b).bind ih

/-! ### Programs that do not see what was said -/

/-- The two worlds differ at most in the messages printed so far. -/
def SameButMessages (w w' : World Ag Va Te) : Prop := ∃ stderr, w' = { w with stderr := stderr }

theorem quiet_onVault (op : Va → Except BiometricError α × Va) :
    Fallible.Alike SameButMessages
      (onVault op : Program Ag Va Te (Except BiometricError α)) (onVault op) := by
  rintro w _ ⟨stderr, rfl⟩
  exact ⟨rfl, stderr, rfl⟩

theorem quiet_readKey {Priv Pub : Type} [PrivateKey Priv Pub] (path : String) :
    Fallible.Alike SameButMessages (readKey path : Program Ag Va Te (Option Priv))
      (readKey path) := by
  rintro w _ ⟨stderr, rfl⟩
  exact ⟨rfl, stderr, rfl⟩

theorem quiet_eprintln (s : String) :
    Fallible.Alike SameButMessages (eprintln s : Program Ag Va Te Unit) (eprintln s) := by
  rintro w _ ⟨stderr, rfl⟩
  exact ⟨rfl, _, rfl⟩

/-! ### Programs that do not see the keystore -/

/-- The two worlds differ at most in the keystore and the messages printed so far. -/
def SameButVault (w w' : World Ag Va Te) : Prop :=
  ∃ vault stderr, w' = { w with vault := vault, stderr := stderr }

variable {Vb : Type}

/-- The second world is the first one with this keystore, of any kind, and these messages. -/
def Exchanged (vault : Vb) (stderr : List String) (w : World Ag Va Te) (w' : World Ag Vb Te) :
    Prop :=
  w' = {
    env := w.env, fs := w.fs, agent := w.agent, vault := vault, terminal := w.terminal,
    stdin := w.stdin, stdout := w.stdout, stderr := stderr, signals := w.signals }

section
variable {vault : Vb} {stderr : List String}

theorem blind_environment :
    Fallible.Alike (Exchanged vault stderr)
      (environment : Program Ag Va Te Environment) environment := by
  rintro w _ rfl
  exact ⟨rfl, rfl⟩

theorem blind_fileMode (path : String) :
    Fallible.Alike (Exchanged vault stderr)
      (fileMode path : Program Ag Va Te (Option Nat)) (fileMode path) := by
  rintro w _ rfl
  exact ⟨rfl, rfl⟩

theorem blind_onTerminal (op : Te → Except ε α × Te) :
    Fallible.Alike (Exchanged vault stderr)
      (onTerminal op : Program Ag Va Te (Except ε α)) (onTerminal op) := by
  rintro w _ rfl
  exact ⟨rfl, rfl⟩

theorem blind_readStdin :
    Fallible.Alike (Exchanged vault stderr)
      (readStdin : Program Ag Va Te (Except IoError String)) readStdin := by
  rintro w _ rfl
  exact ⟨rfl, rfl⟩

end

/-- What does not see the keystore does the same in worlds that differ there only. -/
theorem alike_of_blind {x : Program Ag Va Te α}
    (blind : ∀ (vault : Va) stderr, Fallible.Alike (Exchanged vault stderr) x x) :
    Fallible.Alike SameButVault x x := by
  rintro w _ ⟨vault, stderr, rfl⟩
  obtain ⟨same, after⟩ := blind vault stderr w _ rfl
  exact ⟨same, vault, stderr, after⟩

/-- What does not see the keystore and leaves it alone does not see the messages either. -/
theorem quiet_of_blind {x : Program Ag Va Te α} (frame : Fallible.Keeps World.vault x)
    (blind : ∀ (vault : Va) stderr, Fallible.Alike (Exchanged vault stderr) x x) :
    Fallible.Alike SameButMessages x x := by
  rintro w _ ⟨stderr, rfl⟩
  obtain ⟨same, after⟩ := blind w.vault stderr w _ rfl
  refine ⟨same, stderr, ?_⟩
  rw [frame w]
  exact after

theorem alike_onTerminal (op : Te → Except ε α × Te) :
    Fallible.Alike SameButVault (onTerminal op : Program Ag Va Te (Except ε α))
      (onTerminal op) :=
  alike_of_blind fun _ _ => blind_onTerminal op

end Program

/-- The `metadata` block of every JSON envelope. -/
def metadataBlock (env : Environment) (command : String) : Json :=
  .obj [("tool", .str "gitway"), ("schema_version", .str "1.0.0"), ("version", .str "1.0.4"),
    ("command", .str command), ("timestamp", .str env.now)]

end Gitway
