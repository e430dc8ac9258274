import Gitway.KeygenShim.Sign

/-!
# The agent and the key file in `gitway-keygen -Y sign`

A run signs in one of two ways. `run_signed_by_agent` and `run_signed_by_file` say which
one it is, and the two results are read off them: when the agent alone is enough, and
that an agent without the key makes no difference.
-/
namespace Gitway.KeygenShim

open Lib

/-! ### The two ways -/

section
variable {Priv Pub Ag Va Te : Type} [Agent Ag Priv Pub]

/-- Ask the agent for a signature with this key. -/
def askAgent (pk : Pub) (data : ByteArray) (nameSpace : String) : Program Ag Va Te String :=
  Program.onAgent (Agent.signWithAgent data pk nameSpace .sha512)

/-- The signature is the agent's. No private key is mentioned. -/
def signedByAgent (p : Parsed) (nameSpace : String) (pk : Pub) : Program Ag Va Te Nat := do
  let (data, sigOut) ← readMessage p
  let armored ← askAgent pk data nameSpace
  writeSigOutput armored.toUTF8 sigOut

variable {Sig : Type} [PublicKey Pub] [PrivateKey Priv Pub]

theorem trySignViaAgent_asked {keyPath : String} {pk : Pub} {w : World Ag Va Te}
    (chosen : agentKey w.env w.fs keyPath w.agent = some pk) (data : ByteArray)
    (nameSpace : String) :
    trySignViaAgent keyPath data nameSpace w = (some <$> askAgent pk data nameSpace) w := by
  unfold trySignViaAgent
  rw [Fallible.bind_query_ok, chosen, map_eq_pure_bind]
  rfl

theorem trySignViaAgent_unasked {keyPath : String} {w : World Ag Va Te}
    (unchosen : agentKey w.env w.fs keyPath w.agent = none) (data : ByteArray)
    (nameSpace : String) : trySignViaAgent keyPath data nameSpace w = (.ok none, w) := by
  unfold trySignViaAgent
  rw [Fallible.bind_query_ok, unchosen]
  rfl

variable [Terminal Te] [SshSig Priv Sig]

variable (Priv) in
/-- The signature is made with a private key file. No agent is mentioned. -/
def signedByFile (p : Parsed) (file nameSpace : String) : Program Ag Va Te Nat := do
  let (data, sigOut) ← readMessage p
  let keyFile ← Fallible.query fun w => resolveSigningKeyPath Priv w.fs file
  let key : Priv ← loadAndDecrypt keyFile p.oldPassphrase
  let sig ← Fallible.query fun _ => (SshSig.sign key nameSpace .sha512 data).mapError fun e =>
    .signing s!"sshsig sign failed: {e}"
  let armored ← Fallible.query fun _ => (@SshSig.toPem Priv _ _ sig).mapError fun e =>
    .signing s!"armor failed: {e}"
  writeSigOutput armored.toUTF8 sigOut

variable {p : Parsed} {file ns : String} {w : World Ag Va Te}

omit [Terminal Te] in
theorem agentKey_of_read {α : Type} {read : α} {w₁ : World Ag Va Te} {x : Program Ag Va Te α}
    (frame : Fallible.Keeps World.setting x) (ran : x w = (.ok read, w₁)) :
    (agentKey w₁.env w₁.fs file w₁.agent : Option Pub) = agentKey w.env w.fs file w.agent := by
  have kept := frame.eq ran
  simp only [World.setting, Prod.mk.injEq] at kept
  rw [kept.1, kept.2.1, kept.2.2]

theorem run_signed_by_agent {pk : Pub} (named : p.file = some file)
    (given : p.nameSpace = some ns) (chosen : agentKey w.env w.fs file w.agent = some pk) :
    runSign p w = signedByAgent p ns pk w := by
  unfold runSign signedByAgent
  simp only [named, given]
  refine Fallible.bind_congr_ok fun message w₁ read => ?_
  have still := (agentKey_of_read (keeps_readMessage p) read).trans chosen
  rw [Fallible.bind_run, trySignViaAgent_asked still message.1 ns, ← Fallible.bind_run,
    bind_map_left]

theorem run_signed_by_file (named : p.file = some file) (given : p.nameSpace = some ns)
    (unchosen : agentKey w.env w.fs file w.agent = none) :
    runSign p w = signedByFile Priv p file ns w := by
  unfold runSign signedByFile
  simp only [named, given]
  refine Fallible.bind_congr_ok fun message w₁ read => ?_
  have still := (agentKey_of_read (keeps_readMessage p) read).trans unchosen
  rw [Fallible.bind_of_ok (trySignViaAgent_unasked still message.1 ns)]

end

/-! ### When the agent is enough -/

section
variable {Pub Ag Va Te Sig : Type} [PublicKey Pub]

/-- The agent is asked for the signature with this key, and the run is the one in which
it signs: whatever the other files hold, and however private keys are parsed and decrypted,
so no private key is looked at. -/
def AgentAlone (Priv : Type) [Agent Ag Priv Pub] [Terminal Te] [SshSig Priv Sig] (p : Parsed)
    (file nameSpace : String) (pk : Pub) (w : World Ag Va Te) : Prop :=
  ∀ [PrivateKey Priv Pub] (fs : FileSystem), fs.read file = w.fs.read file →
    agentKey w.env fs file w.agent = some pk ∧
      runSign p { w with fs := fs } = signedByAgent p nameSpace pk { w with fs := fs }

/-- A parser that knows no private key. -/
@[reducible]
def knowsNone (Priv : Type) (pk : Pub) : PrivateKey Priv Pub where
  fromOpenssh _ := .error "unknown format"
  publicKey _ := pk
  isEncrypted _ := false
  decrypt key _ := .ok key

/-- Without private keys the key comes from the `-f` file itself, as it is. -/
theorem loadPublicKey_knowsNone {Priv : Type} {fs : FileSystem} {path raw : String}
    {pk other : Pub} (content : fs.readToString path = .ok raw)
    (loaded : @loadPublicKeyForSigning Priv Pub _ (knowsNone Priv other) fs path = .ok pk) :
    PublicKey.fromOpenssh raw = .ok pk := by
  let _ := knowsNone Priv other
  rcases loadPublicKey_cases content loaded with direct | ⟨_, privPath, key, _, there, _⟩
  · exact direct
  · obtain ⟨pem, _, parsed⟩ := parsed_of_keyAt there
    simp [PrivateKey.fromOpenssh] at parsed

variable {Priv : Type} [Agent Ag Priv Pub] [Terminal Te] [SshSig Priv Sig]

theorem AgentAlone.direct {p : Parsed} {file ns raw : String} {pk : Pub} {w : World Ag Va Te}
    (content : w.fs.readToString file = .ok raw) (alone : AgentAlone Priv p file ns pk w) :
    PublicKey.fromOpenssh raw = .ok pk := by
  have asked := (@alone (knowsNone Priv pk) w.fs rfl).1
  have loaded := (@agentKey_eq_some_iff Priv Pub Ag _ (knowsNone Priv pk) _ _ _ _ _ _).mp asked
  exact loadPublicKey_knowsNone content loaded.1

/-- With the key in the agent, the agent alone signs exactly when the text of the `-f`
file parses as this key as it is, without being trimmed. -/
theorem agent_alone_iff {p : Parsed} {file ns raw : String} {pk : Pub} {w : World Ag Va Te}
    (named : p.file = some file) (given : p.nameSpace = some ns)
    (content : w.fs.readToString file = .ok raw) (holds : AgentHolds w.env w.agent pk) :
    AgentAlone Priv p file ns pk w ↔ PublicKey.fromOpenssh raw = .ok pk := by
  constructor
  · exact AgentAlone.direct content
  · intro direct reading fs same
    have here : fs.readToString file = .ok raw := by
      rw [← content, FileSystem.readToString, FileSystem.readToString, same]
    have chosen : agentKey w.env fs file w.agent = some pk :=
      agentKey_eq_some_iff.mpr ⟨loadPublicKey_direct here direct, holds⟩
    exact ⟨chosen, run_signed_by_agent (w := { w with fs := fs }) named given chosen⟩

end

/-! ### An agent without the key -/

section
variable {Ag Va Te : Type}

/-- The same world with `SSH_AUTH_SOCK` unset. -/
def withoutAgent (w : World Ag Va Te) : World Ag Va Te :=
  { w with env := { w.env with
      vars := fun name => if name = "SSH_AUTH_SOCK" then none else w.env.vars name } }

/-- The program does not see whether `SSH_AUTH_SOCK` is set. -/
def Unaware {α : Type} (x : Program Ag Va Te α) : Prop :=
  Fallible.Alike (fun w w' => w' = withoutAgent w) x x

theorem unaware_query {α : Type} {f : World Ag Va Te → Except AnvilError α}
    (blind : ∀ w, f w = f (withoutAgent w)) : Unaware (Fallible.query f) := by
  rintro w _ rfl
  exact ⟨blind w, rfl⟩

theorem unaware_readMessage (p : Parsed) :
    Unaware (readMessage p : Program Ag Va Te (ByteArray × Option String)) := by
  unfold readMessage
  cases p.messageFile with
  | some msg => exact .bind (unaware_query fun _ => rfl) fun _ => .pure _
  | none =>
    refine .bind ?_ fun _ => .pure _
    rintro w _ rfl
    exact ⟨rfl, rfl⟩

theorem unaware_writeSigOutput (armored : ByteArray) (sigOut : Option String) :
    Unaware (writeSigOutput armored sigOut : Program Ag Va Te Nat) := by
  unfold writeSigOutput
  cases sigOut with
  | none =>
    refine .bind ?_ fun _ => .pure _
    rintro w _ rfl
    exact ⟨rfl, rfl⟩
  | some path =>
    refine .bind ?_ fun _ => .pure _
    rintro w _ rfl
    unfold Program.writeFile
    cases refused : w.fs.refuses path with
    | some e => simp [withoutAgent, refused]
    | none => simp [withoutAgent, refused]

variable {Priv Pub : Type} [PrivateKey Priv Pub] [Terminal Te]

theorem unaware_loadAndDecrypt (path : String) (oldPass : Option String) :
    Unaware (loadAndDecrypt path oldPass : Program Ag Va Te Priv) := by
  refine .bind (unaware_query fun _ => rfl) fun pem => ?_
  refine .bind (unaware_query fun _ => rfl) fun key => ?_
  split
  · exact .pure _
  · refine .bind ?_ fun pass => unaware_query fun _ => rfl
    unfold keyPassphrase
    cases oldPass with
    | some s => exact .pure _
    | none =>
      refine .bind ?_ fun typed => ?_
      · rintro w _ rfl
        exact ⟨rfl, rfl⟩
      · cases typed with
        | ok s => exact .pure _
        | error e => exact .fail _

variable [PublicKey Pub] {Sig : Type} [SshSig Priv Sig]

theorem unaware_signedByFile (p : Parsed) (file ns : String) :
    Unaware (signedByFile Priv p file ns : Program Ag Va Te Nat) := by
  unfold signedByFile
  refine .bind (unaware_readMessage p) fun message => ?_
  refine .bind (unaware_query fun _ => rfl) fun keyFile => ?_
  refine .bind (unaware_loadAndDecrypt keyFile _) fun key => ?_
  refine .bind (unaware_query fun _ => rfl) fun sig => ?_
  exact .bind (unaware_query fun _ => rfl) fun armored => unaware_writeSigOutput _ _

variable [Agent Ag Priv Pub]

omit [PrivateKey Priv Pub] [Terminal Te] in
theorem not_agentHolds_without (w : World Ag Va Te) (pk : Pub) :
    ¬ AgentHolds (withoutAgent w).env (withoutAgent w).agent pk := by
  rintro ⟨⟨sock, set, _⟩, _⟩
  simp [withoutAgent] at set

omit [Terminal Te] in
theorem agentKey_eq_none {env : Environment} {fs : FileSystem} {path : String} {ag : Ag}
    (unheld : ∀ pk : Pub, loadPublicKeyForSigning Priv fs path = .ok pk →
      ¬ AgentHolds env ag pk) : agentKey env fs path ag = none := by
  cases chosen : agentKey env fs path ag with
  | none => rfl
  | some pk =>
    obtain ⟨loaded, holds⟩ := agentKey_eq_some_iff.mp chosen
    exact absurd holds (unheld pk loaded)

/-- Where no reachable agent lists the key that the `-f` file names, the run is the one
without `SSH_AUTH_SOCK`: same result, same output. And the agent path fails only when the
agent was seen to hold that key. -/
theorem unheld_agent_invisible :
    (∀ (p : Parsed) (w : World Ag Va Te),
      (∀ file ∈ p.file, ∀ pk, loadPublicKeyForSigning Priv w.fs file = .ok pk →
        ¬ AgentHolds w.env w.agent pk) →
      runSign p (withoutAgent w) = ((runSign p w).1, withoutAgent (runSign p w).2)) ∧
    ∀ (keyPath : String) (data : ByteArray) (ns : String) (e : AnvilError) (w w' : World Ag Va Te),
      trySignViaAgent keyPath data ns w = (.error e, w') →
      ∃ pk, loadPublicKeyForSigning Priv w.fs keyPath = .ok pk ∧ AgentHolds w.env w.agent pk := by
  constructor
  · intro p w unheld
    cases named : p.file with
    | none =>
      simp [runSign, named]
    | some file =>
      cases given : p.nameSpace with
      | none => simp [runSign, named, given]
      | some ns =>
        -- Asked for no key, both runs are the one that signs with the file.
        have unasked := agentKey_eq_none fun pk loaded => unheld file named pk loaded
        rw [run_signed_by_file named given unasked, run_signed_by_file named given
          (agentKey_eq_none fun pk _ => not_agentHolds_without w pk)]
        have both : Unaware (signedByFile Priv p file ns : Program Ag Va Te Nat) :=
          unaware_signedByFile p file ns
        obtain ⟨result, worlds⟩ := both w (withoutAgent w) rfl
        exact Prod.ext result.symm worlds
  · intro keyPath data ns e w w' failed
    cases chosen : agentKey w.env w.fs keyPath w.agent with
    | none =>
      rw [trySignViaAgent_unasked chosen] at failed
      simp at failed
    | some pk => exact ⟨pk, agentKey_eq_some_iff.mp chosen⟩

end

/-! ### On the reference keys -/

open Reference

private def signMail : Parsed := { start.p with file := some "id.pub", nameSpace := some "mail" }

/-- A `.pub` file with this text, no other file, and an agent that holds the key. -/
private def inAgent (text : String) : RefWorld :=
  world [("SSH_AUTH_SOCK", "/tmp/agent")] [("id.pub", text)]
    ⟨false, [(⟨"AAAANEW"⟩, ⟨none, false⟩)]⟩ ⟨[]⟩ ⟨[]⟩

private theorem inAgent_holds (text : String) :
    AgentHolds (inAgent text).env (inAgent text).agent (⟨"AAAANEW"⟩ : RefPublic) :=
  ⟨⟨_, rfl, by decide⟩, rfl, _, rfl, rfl⟩

private theorem inAgent_content (text : String) :
    (inAgent text).fs.readToString "id.pub" = .ok text := readToString_textFiles _ _ _ rfl

theorem agent_alone_plain_text :
    AgentAlone RefPrivate signMail "id.pub" "mail" ⟨"AAAANEW"⟩
        (inAgent "ssh-ed25519 AAAANEW user") ↔
      PublicKey.fromOpenssh "ssh-ed25519 AAAANEW user" = .ok (⟨"AAAANEW"⟩ : RefPublic) :=
  agent_alone_iff rfl rfl (inAgent_content _) (inAgent_holds _)

/-- An agent whose user denies every signature. -/
structure DenyingAgent where
  keys : List RefPublic

instance : Agent DenyingAgent RefPrivate RefPublic where
  fromEnv _ _ := .ok ()
  list ag := .ok (ag.keys.map fun key => ⟨key, "", PublicKey.fingerprint .sha256 key⟩)
  add _ _ _ ag := (.ok (), ag)
  signWithAgent _ _ _ _ ag := (.error (.signing "denied"), ag)

private def denying : World DenyingAgent RefVault RefTerminal where
  env := environment [("SSH_AUTH_SOCK", "/tmp/agent")]
  fs := textFiles [("id.pub", "ssh-ed25519 AAAANEW user")]
  agent := ⟨[⟨"AAAANEW"⟩]⟩
  vault := ⟨[]⟩
  terminal := ⟨[]⟩
  stdin := .ok ByteArray.empty
  stdout := []
  stderr := []
  signals := []

private theorem newKey_parsed :
    (PublicKey.fromOpenssh "ssh-ed25519 AAAANEW user" : Except String RefPublic) =
      .ok ⟨"AAAANEW"⟩ := by decide

private theorem denying_fails :
    trySignViaAgent "id.pub" ByteArray.empty "mail" denying =
      (.error (.signing "denied"), denying) := by
  have content : denying.fs.readToString "id.pub" = .ok "ssh-ed25519 AAAANEW user" :=
    readToString_textFiles _ _ _ rfl
  have chosen : agentKey denying.env denying.fs "id.pub" denying.agent =
      some (⟨"AAAANEW"⟩ : RefPublic) :=
    agentKey_eq_some_iff.mpr ⟨loadPublicKey_direct content newKey_parsed,
      ⟨_, rfl, by decide⟩, rfl, _, rfl, rfl⟩
  rw [trySignViaAgent_asked chosen]
  rfl

theorem unheld_agent_other_key :
    runSign signMail (withoutAgent (inAgent "ssh-ed25519 AAAAOLD user")) =
        ((runSign signMail (inAgent "ssh-ed25519 AAAAOLD user")).1,
          withoutAgent (runSign signMail (inAgent "ssh-ed25519 AAAAOLD user")).2) ∧
      ∃ pk, loadPublicKeyForSigning RefPrivate denying.fs "id.pub" = .ok pk ∧
        AgentHolds denying.env denying.agent pk := by
  refine ⟨unheld_agent_invisible.1 signMail _ ?_,
    unheld_agent_invisible.2 "id.pub" ByteArray.empty "mail" _ _ _ denying_fails⟩
  rintro _ ⟨⟩ pk loaded ⟨_, _, identities, listed, seen⟩
  have parsed : (PublicKey.fromOpenssh "ssh-ed25519 AAAAOLD user" : Except String RefPublic) =
    .ok ⟨"AAAAOLD"⟩ := by decide
  obtain rfl := Except.ok.inj ((loadPublicKey_direct (inAgent_content _) parsed).symm.trans loaded)
  cases listed
  exact absurd seen (by decide)

private def blankFirst : RefWorld := inAgent "\nssh-ed25519 AAAANEW user"

private def noPrivateKey : AnvilError :=
  .invalidConfig ("public-key path id.pub given for signing, but no private key found at id; " ++
    "load the key into an agent (phase 2) or pass the private-key path directly")

private theorem blankFirst_resolve :
    resolveSigningKeyPath RefPrivate blankFirst.fs "id.pub" = .error noPrivateKey := by
  have content : blankFirst.fs.readToString "id.pub" = .ok "\nssh-ed25519 AAAANEW user" :=
    inAgent_content _
  have notPrivate : parsesAsPrivate RefPrivate "\nssh-ed25519 AAAANEW user" = false := by decide
  have isPublic : parsesAsPublic RefPublic "\nssh-ed25519 AAAANEW user" = true := by decide
  have stripped : Text.stripEnd "id.pub" ".pub" = some "id" := by decide
  have missing : blankFirst.fs.exists_ "id" = false := rfl
  simp only [resolveSigningKeyPath, content, notPrivate, isPublic, stripped, missing,
    Bool.false_eq_true, if_false, if_true]
  rfl

/-- An empty line stands before the key. The agent holds the key, and the run asks for a
private key file instead. -/
theorem agent_passed_over :
    blankFirst.fs.readToString "id.pub" = .ok "\nssh-ed25519 AAAANEW user" ∧
      PublicKey.fromOpenssh (Text.trim "\nssh-ed25519 AAAANEW user") =
        .ok (⟨"AAAANEW"⟩ : RefPublic) ∧
      AgentHolds blankFirst.env blankFirst.agent (⟨"AAAANEW"⟩ : RefPublic) ∧
      (runSign signMail blankFirst).1 = .error noPrivateKey ∧
      ¬ AgentAlone RefPrivate signMail "id.pub" "mail" ⟨"AAAANEW"⟩ blankFirst := by
  have content : blankFirst.fs.readToString "id.pub" = .ok "\nssh-ed25519 AAAANEW user" :=
    inAgent_content _
  have unparsed : (PublicKey.fromOpenssh "\nssh-ed25519 AAAANEW user" : Except String RefPublic) =
    .error "invalid format" := by decide
  refine ⟨content, by decide, inAgent_holds _, ?_, fun alone => ?_⟩
  · have unloaded : loadPublicKeyForSigning RefPrivate blankFirst.fs "id.pub" =
        .error noPrivateKey := by
      simp [loadPublicKeyForSigning, content, unparsed, blankFirst_resolve, bind, Except.bind]
    have unasked : agentKey blankFirst.env blankFirst.fs "id.pub" blankFirst.agent = none :=
      agentKey_eq_none fun pk loaded => by simp [unloaded] at loaded
    rw [run_signed_by_file rfl rfl unasked]
    have read : readMessage signMail blankFirst =
      (.ok (ByteArray.empty, none), { blankFirst with stdin := .ok ByteArray.empty }) := rfl
    unfold signedByFile
    rw [Fallible.bind_of_ok read]
    dsimp only
    rw [Fallible.bind_run, Fallible.query_run]
    simp only [blankFirst_resolve]
  · have direct := AgentAlone.direct content alone
    rw [unparsed] at direct
    simp at direct

end Gitway.KeygenShim
