import Gitway.Config.Resolved
import Gitway.Text

/-!
# Proxy and jump-host selection

The transport of a connection is chosen in two steps. `resolveProxyDirectives`
merges the command line with the resolved `ssh_config`, one directive at a time;
`connectSession` then picks the session constructor from the merged values, where
a proxy command goes before a jump chain. The first step forgets which source a
value came from, and the two theorems at the end say exactly when that does no
harm to a choice made on the command line.
-/
namespace Gitway.Transport

open Config (OsPath ResolvedSshConfig)

/-- The operands and flags of the command line that concern a connection. The timeouts
are in seconds. -/
structure Options where
  proxyCommand : Option String
  jumpHost : List String
  host : Option String
  command : List String
  identity : Option OsPath
  cert : Option OsPath
  user : Option String
  port : Option Nat
  insecureSkipHostCheck : Bool
  noConfig : Bool
  kex : Option String
  ciphers : Option String
  macs : Option String
  hostKeyAlgorithms : Option String
  connectTimeout : Option Nat
  attempts : Option Nat
  maxRetryWindow : Option Nat
  verbose : Nat
  debugCategories : List String
  test : Bool

/-- A command line without an option. -/
def Options.bare : Options where
  proxyCommand := none
  jumpHost := []
  host := none
  command := []
  identity := none
  cert := none
  user := none
  port := none
  insecureSkipHostCheck := false
  noConfig := false
  kex := none
  ciphers := none
  macs := none
  hostKeyAlgorithms := none
  connectTimeout := none
  attempts := none
  maxRetryWindow := none
  verbose := 0
  debugCategories := []
  test := false

/-- The session constructor that is awaited, with its arguments. -/
inductive Dial (Hop : Type) where
  | proxyCommand (template hostAlias : String)
  | jumpHosts (hops : List Hop)
  | direct
  deriving DecidableEq, Repr

def isNone (s : String) : Bool := Text.eqIgnoreAsciiCase s "none"

/-- A jump-host list that consists of the disable sentinel. -/
def SoleNone (jumpHost : List String) : Prop := ∃ only, jumpHost = [only] ∧ isNone only = true

variable {Hop : Type} (parseJumpChain : String → Except AnvilError (List Hop))

def resolveProxyDirectives (opts : Options) (resolved : Option ResolvedSshConfig) :
    Except AnvilError (Option String × List Hop) := do
  let proxyCommand := opts.proxyCommand.orElse fun _ => resolved.bind (·.proxyCommand)
  let jumpChain ←
    match opts.jumpHost with
    | [] =>
      match resolved.bind (·.proxyJump) with
      | some raw => if isNone raw then pure [] else parseJumpChain raw
      | none => pure []
    | first :: more =>
      if more.isEmpty && isNone first then pure []
      else parseJumpChain (",".intercalate opts.jumpHost)
  return (proxyCommand, jumpChain)

def connectSession (hostAlias : String) (proxyCommand : Option String) (jumpHosts : List Hop) :
    Dial Hop :=
  match proxyCommand.filter (fun s => !isNone s) with
  | some template => .proxyCommand template hostAlias
  | none => if jumpHosts.isEmpty then .direct else .jumpHosts jumpHosts

/-- The dial of a whole invocation, when the directives resolve. -/
def dial (opts : Options) (resolved : Option ResolvedSshConfig) (hostAlias : String) :
    Except AnvilError (Dial Hop) :=
  (resolveProxyDirectives parseJumpChain opts resolved).map fun directives =>
    connectSession hostAlias directives.1 directives.2

/-- The crate never returns an empty chain. -/
def NonemptyChains : Prop := ∀ raw hops, parseJumpChain raw = .ok hops → hops ≠ []

/-- `ssh_config` puts no proxy command in force: none is set, or the sentinel is. -/
def NoProxyCommand (resolved : Option ResolvedSshConfig) : Prop :=
  ∀ r ∈ resolved, ∀ template ∈ r.proxyCommand, isNone template = true

/-- `ssh_config` puts no jump chain in force. -/
def NoProxyJump (resolved : Option ResolvedSshConfig) : Prop :=
  ∀ r ∈ resolved, ∀ raw ∈ r.proxyJump, isNone raw = true

/-- The chain is read off the command line alone as soon as it names one. -/
theorem resolve_of_jumpHost (opts : Options) (resolved : Option ResolvedSshConfig)
    (named : opts.jumpHost ≠ []) (active : ¬ SoleNone opts.jumpHost) :
    resolveProxyDirectives parseJumpChain opts resolved =
      (parseJumpChain (",".intercalate opts.jumpHost)).map fun hops =>
        (opts.proxyCommand.orElse fun _ => resolved.bind (·.proxyCommand), hops) := by
  unfold resolveProxyDirectives
  cases listed : opts.jumpHost with
  | nil => exact absurd listed named
  | cons first more =>
    -- The list is not the sole sentinel, so its chain is parsed.
    have chain : (more.isEmpty && isNone first) = false := by
      rw [Bool.and_eq_false_iff]
      cases more with
      | cons => exact Or.inl rfl
      | nil =>
        right
        cases sentinel : isNone first with
        | false => rfl
        | true => exact absurd ⟨first, listed, sentinel⟩ active
    simp only [chain, Bool.false_eq_true, ite_false]
    cases parseJumpChain (",".intercalate (first :: more)) <;> rfl

/-- Without `--jump-host` the chain comes from `ssh_config`. -/
theorem resolve_of_no_jumpHost (opts : Options) (resolved : Option ResolvedSshConfig)
    (unnamed : opts.jumpHost = []) :
    resolveProxyDirectives parseJumpChain opts resolved =
      (match resolved.bind (·.proxyJump) with
        | some raw => if isNone raw then pure [] else parseJumpChain raw
        | none => pure []).map fun hops =>
          (opts.proxyCommand.orElse fun _ => resolved.bind (·.proxyCommand), hops) := by
  unfold resolveProxyDirectives
  rw [unnamed]
  -- The sentinel of `ssh_config` is dropped before its chain would be parsed.
  cases resolved.bind (·.proxyJump) with
  | none => rfl
  | some raw =>
    dsimp only
    split
    · rfl
    · cases parseJumpChain raw <;> rfl

theorem connect_jumpHosts_iff (hostAlias : String) (proxyCommand : Option String) (hops : List Hop)
    (nonempty : hops ≠ []) :
    connectSession hostAlias proxyCommand hops = .jumpHosts hops ↔
      ∀ template ∈ proxyCommand, isNone template = true := by
  cases proxyCommand with
  | none => simp [connectSession, nonempty]
  | some template => cases sentinel : isNone template <;>
      simp [connectSession, Option.filter, sentinel, nonempty]

theorem connect_direct_iff (hostAlias : String) (proxyCommand : Option String) (hops : List Hop)
    (inert : ∀ template ∈ proxyCommand, isNone template = true) :
    connectSession hostAlias proxyCommand hops = .direct ↔ hops = [] := by
  -- The sentinel drops out before the constructors are compared.
  have none_left : proxyCommand.filter (fun s => !isNone s) = none := by
    simp only [Option.filter_eq_none_iff]
    intro template given
    simp [inert template given]
  unfold connectSession
  rw [none_left]
  cases hops <;> simp

theorem orElse_inert_iff (resolved : Option ResolvedSshConfig) :
    (∀ template ∈ (none : Option String).orElse fun _ => resolved.bind (·.proxyCommand),
      isNone template = true) ↔ NoProxyCommand resolved := by
  cases resolved <;> simp [NoProxyCommand]

/-- A jump chain typed on the command line is dialled exactly when `ssh_config`
puts no proxy command in force. -/
theorem cli_jump_dialled_iff (nonempty : NonemptyChains parseJumpChain) (opts : Options)
    (resolved : Option ResolvedSshConfig) (hostAlias : String)
    (directives : Option String × List Hop) (named : opts.jumpHost ≠ [])
    (active : ¬ SoleNone opts.jumpHost) (noCommand : opts.proxyCommand = none)
    (succeeded : resolveProxyDirectives parseJumpChain opts resolved = .ok directives) :
    (∃ hops, parseJumpChain (",".intercalate opts.jumpHost) = .ok hops ∧
      connectSession hostAlias directives.1 directives.2 = .jumpHosts hops) ↔
      NoProxyCommand resolved := by
  rw [resolve_of_jumpHost parseJumpChain opts resolved named active, noCommand] at succeeded
  cases parsed : parseJumpChain (",".intercalate opts.jumpHost) with
  | error e => simp [parsed, Except.map] at succeeded
  | ok hops =>
    rw [parsed] at succeeded
    simp only [Except.map, Except.ok.injEq] at succeeded
    subst succeeded
    have hops_ne := nonempty _ _ parsed
    rw [← orElse_inert_iff, ← connect_jumpHosts_iff hostAlias _ hops hops_ne]
    simp

/-- A chain parser for unadorned host names. -/
private def plainHops (raw : String) : Except AnvilError (List String) :=
  .ok ((raw.toList.splitOn ',').map String.ofList)

private theorem plainHops_nonempty : NonemptyChains plainHops := by
  intro raw hops parsed
  cases parsed
  simp [List.splitOn_ne_nil]

private theorem active_of_not_none {hops : List String} (other : ∀ hop ∈ hops, isNone hop = false) :
    ¬ SoleNone hops := by
  rintro ⟨only, rfl, sentinel⟩
  simp [other only] at sentinel

/-- The sentinel in `ssh_config` leaves the hops of the command line in force, and the chain of
`ssh_config` is not looked at. -/
theorem cli_jump_dialled_past_sentinel :
    let resolved := { ResolvedSshConfig.bare with
      proxyCommand := some "None", proxyJump := some "elsewhere" }
    (∃ hops, plainHops "bastion,inner" = .ok hops ∧
      connectSession "gh" (some "None") ["bastion", "inner"] = .jumpHosts hops) ↔
        NoProxyCommand (some resolved) :=
  cli_jump_dialled_iff plainHops plainHops_nonempty
    { Options.bare with jumpHost := ["bastion", "inner"] } _ "gh"
    (some "None", ["bastion", "inner"]) (by decide) (active_of_not_none (by decide)) rfl rfl

/-- With `ProxyCommand nc proxy 1080` in `ssh_config`, `--jump-host bastion` is not used. -/
theorem cli_jump_taken_over :
    let opts := { Options.bare with jumpHost := ["bastion"] }
    let resolved := some { ResolvedSshConfig.bare with proxyCommand := some "nc proxy 1080" }
    NonemptyChains plainHops ∧ opts.jumpHost ≠ [] ∧ ¬ SoleNone opts.jumpHost ∧
      opts.proxyCommand = none ∧
      ∃ directives, resolveProxyDirectives plainHops opts resolved = .ok directives ∧
        ∀ hops, connectSession "gh" directives.1 directives.2 ≠ .jumpHosts hops := by
  refine ⟨plainHops_nonempty, by decide, active_of_not_none (by decide), rfl,
    (some "nc proxy 1080", ["bastion"]), rfl, ?_⟩
  intro hops dialled
  have command : connectSession "gh" (some "nc proxy 1080") ["bastion"] =
      .proxyCommand "nc proxy 1080" "gh" := by decide
  exact absurd (command.symm.trans dialled) (by simp)

/-- `--proxy-command none` without jump hosts dials directly exactly when
`ssh_config` puts no jump chain in force. -/
theorem proxy_none_direct_iff (nonempty : NonemptyChains parseJumpChain) (opts : Options)
    (resolved : Option ResolvedSshConfig) (hostAlias template : String)
    (given : opts.proxyCommand = some template) (sentinel : isNone template = true)
    (unnamed : opts.jumpHost = []) :
    dial parseJumpChain opts resolved hostAlias = .ok .direct ↔ NoProxyJump resolved := by
  rw [dial, resolve_of_no_jumpHost parseJumpChain opts resolved unnamed, given]
  have direct (hops : List Hop) :
      connectSession hostAlias (some template) hops = .direct ↔ hops = [] :=
    connect_direct_iff hostAlias (some template) hops (by simpa using sentinel)
  unfold NoProxyJump
  cases resolved with
  | none => simp [Except.map, pure, Except.pure, direct]
  | some r =>
    cases jump : r.proxyJump with
    | none => simp [jump, Except.map, pure, Except.pure, direct]
    | some raw =>
      simp only [Option.bind_some, jump, Option.mem_def, Option.some.injEq, forall_eq']
      cases off : isNone raw with
      | true => simp [Except.map, pure, Except.pure, direct]
      | false =>
        cases parsed : parseJumpChain raw with
        | error e => simp [Except.map]
        | ok hops =>
          -- A chain that is in force has a hop, so the dial is not direct.
          have hops_ne := nonempty raw hops parsed
          simp [Except.map, direct, hops_ne]

/-- Both sentinels, each in a case of its own. -/
theorem proxy_none_direct_past_sentinel :
    let resolved := { ResolvedSshConfig.bare with
      proxyCommand := some "nc proxy 1080", proxyJump := some "nOnE" }
    dial plainHops { Options.bare with proxyCommand := some "NONE" } (some resolved) "gh" =
      .ok .direct ↔ NoProxyJump (some resolved) :=
  proxy_none_direct_iff plainHops plainHops_nonempty _ _ "gh" "NONE" rfl (by decide) rfl

/-- With `ProxyJump bastion` in `ssh_config`, `--proxy-command none` still goes
through the bastion, and a chain that does not parse ends the invocation. -/
theorem proxy_none_jumps :
    let opts := { Options.bare with proxyCommand := some "none" }
    let resolved := some { ResolvedSshConfig.bare with proxyJump := some "bastion" }
    isNone "none" = true ∧
      dial plainHops opts resolved "gh" = .ok (.jumpHosts ["bastion"]) ∧
      dial plainHops opts resolved "gh" ≠ .ok .direct ∧
      ∀ e, dial (fun _ => (.error e : Except AnvilError (List String))) opts resolved "gh" ≠
        .ok .direct := by
  intro opts resolved
  have jumped : dial plainHops opts resolved "gh" = .ok (.jumpHosts ["bastion"]) := rfl
  refine ⟨by decide, jumped, ?_, ?_⟩
  · rw [jumped]
    simp
  · intro e
    have failed : dial (fun _ => (.error e : Except AnvilError (List String))) opts resolved "gh" =
        .error e := rfl
    rw [failed]
    simp

end Gitway.Transport
