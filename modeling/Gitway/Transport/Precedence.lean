import Gitway.Reference
import Gitway.Transport.Request

/-!
# Flags before `ssh_config`

A flag beats `ssh_config` wherever the setter overwrites. The identity files are appended
to, so there the flag comes last.
-/
namespace Gitway.Transport

open Config (OsPath)
open ConfigBuilder

variable {B : Type} [ConfigBuilder B]

/-- Every parameter is what its flag says, else what the prefix of the host says, else
what `ssh_config` says, else the default. -/
structure FlagsFirst (B : Type) [ConfigBuilder B] (opts : Options)
    (resolved : Option Config.ResolvedSshConfig) (default config : AnvilConfig) : Prop where
  port : config.port = (opts.port <|> resolved.bind (·.port)).getD default.port
  username : config.username =
    (opts.user <|> (parseUserHost opts.rawHost).1 <|> resolved.bind (·.user)).getD default.username
  /-- The first file that is tried. Without one the usual places are searched. -/
  identity : config.identityFiles.head? =
    (opts.identity <|> resolved.bind (·.identityFiles.head?) <|> default.identityFiles.head?)
  certFile : config.certFile =
    (opts.cert <|> resolved.bind (fun r => (present B r).certFile) <|> default.certFile)
  algorithms : ∀ category, ∃ list, overridden B category (opts.override category) = .ok list ∧
    config.algorithms category =
      (list <|> resolved.bind (fun r => (present B r).algorithms category) <|>
        default.algorithms category)
  connectTimeout : config.connectTimeout =
    (opts.connectTimeout <|> resolved.bind (·.connectTimeout) <|> default.connectTimeout)
  connectionAttempts : config.connectionAttempts =
    (opts.attempts <|> resolved.bind (·.connectionAttempts) <|> default.connectionAttempts)

/-- The first file that `ssh_config` names. -/
def firstIdentityFile (resolved : Option Config.ResolvedSshConfig) : Option OsPath :=
  resolved.bind (·.identityFiles.head?)

theorem orElse_getD {α : Type} (flag config : Option α) (default : α) :
    (flag <|> config).getD default = flag.getD (config.getD default) := by
  cases flag <;> rfl

theorem head?_append_toList {α : Type} (files : List α) (flag : Option α) :
    (files ++ flag.toList).head? = (files.head? <|> flag) := by
  cases files with
  | nil => cases flag <;> rfl
  | cons => rfl

/-- Which of two comes first does not matter exactly when one is missing or both agree. -/
theorem orElse_comm_iff {α : Type} (flag config : Option α) :
    (config <|> flag) = (flag <|> config) ↔ flag = none ∨ config = none ∨ config = flag := by
  cases flag <;> cases config <;> simp

section
variable (lawful : LawfulBuilder B) (opts : Options)
  (lists : AlgCategory → Option (List String)) (base : AnvilConfig)
include lawful

/-- All but the identity follows the rule in the layers. -/
theorem layered_flagsFirst_iff (resolved : Option Config.ResolvedSshConfig)
    (asked : ∀ category, overridden B category (opts.override category) = .ok (lists category))
    (bare : base.identityFiles = []) :
    FlagsFirst B opts resolved base
        (layered base (presentOf B resolved) opts (parseUserHost opts.rawHost).1 lists) ↔
      opts.identity = none ∨ firstIdentityFile resolved = none ∨
        firstIdentityFile resolved = opts.identity := by
  -- The files of the configuration stand first in the list, before the flag.
  have first : (layered base (presentOf B resolved) opts (parseUserHost opts.rawHost).1
      lists).identityFiles.head? = (firstIdentityFile resolved <|> opts.identity) := by
    have files : (presentOf B resolved).identityFiles.head? = firstIdentityFile resolved := by
      cases resolved with
      | none => rfl
      | some r => exact congrArg List.head? (lawful.presentIdentityFiles r)
    simp only [layered, bare, List.nil_append]
    rw [head?_append_toList, files]
  have none_else : (opts.identity <|> firstIdentityFile resolved <|> base.identityFiles.head?) =
      (opts.identity <|> firstIdentityFile resolved) := by
    simp [bare]
  rw [← orElse_comm_iff]
  constructor
  · intro follows
    rw [← first, ← none_else]
    exact follows.identity
  · intro same
    -- Every other field is the flag, else what the configuration has, else the base.
    have fromConfig {α : Type} {f : Present → Option α} {g : Config.ResolvedSshConfig → Option α}
        (unset : f Present.empty = none) (agree : ∀ r, f (present B r) = g r) :
        f (presentOf B resolved) = resolved.bind g := by
      cases resolved with
      | none => exact unset
      | some r => exact agree r
    have port := fromConfig (f := Present.port) rfl lawful.presentPort
    have user := fromConfig (f := Present.username) rfl lawful.presentUser
    have timeout := fromConfig (f := Present.connectTimeout) rfl lawful.presentConnectTimeout
    have attempts :=
      fromConfig (f := Present.connectionAttempts) rfl lawful.presentConnectionAttempts
    have cert := fromConfig (f := Present.certFile) rfl fun _ => rfl
    have algorithms (category : AlgCategory) :=
      fromConfig (f := fun p => p.algorithms category) rfl fun _ => rfl
    exact {
      port := by rw [← port]; exact (orElse_getD ..).symm
      username := by
        rw [← user, orElse_getD, orElse_getD, ← orElse_getD opts.user]
        rfl
      identity := (first.trans same).trans none_else.symm
      certFile := by rw [← cert]; rfl
      algorithms := fun category => by
        refine ⟨lists category, asked category, ?_⟩
        rw [← algorithms category]
        cases category <;> rfl
      connectTimeout := by rw [← timeout]; rfl
      connectionAttempts := by rw [← attempts]; rfl }

end

/-- The flags beat `ssh_config` for every parameter exactly when `--identity` is not given
or the files of `ssh_config` do not come before it. -/
theorem flags_first_iff (An : Type) [Config.Anvil An] (lawful : LawfulBuilder B) (opts : Options)
    (resolved : Option Config.ResolvedSshConfig) (request : Request)
    (made : prepare An B opts resolved = .ok request) :
    FlagsFirst B opts resolved (build (builder (parseUserHost opts.rawHost).2 : B))
        request.config ↔
      opts.identity = none ∨ firstIdentityFile resolved = none ∨
        firstIdentityFile resolved = opts.identity := by
  obtain ⟨config, built, later⟩ := Lib.except_bind_ok_iff.mp made
  obtain ⟨proxied, _, done⟩ := Lib.except_bind_ok_iff.mp later
  rw [← Except.ok.inj done]
  obtain ⟨lists, asked, rfl⟩ := buildConfig_ok lawful built
  exact layered_flagsFirst_iff lawful opts lists _ resolved asked (lawful.fresh _)

/-! ### An identity that comes second -/

open Reference

/-- `gitway --test -i /keys/deploy`. -/
private def withIdentity : Options :=
  { Options.bare with identity := some (Lib.Utf8.ascii "/keys/deploy"), test := true }

/-- `IdentityFile /keys/home`. -/
private def homeIdentity : Config.ResolvedSshConfig :=
  { Config.ResolvedSshConfig.bare with identityFiles := [Lib.Utf8.ascii "/keys/home"] }

/-- `gitway --test -i /keys/deploy -u deploy -p 443`. -/
private def withUser : Options :=
  { withIdentity with user := some "deploy", port := some 443 }

/-- `IdentityFile /keys/deploy`, `IdentityFile /keys/home`, `User alice`, `Port 2222` and
`ConnectTimeout 9`. -/
private def aliceConfig : Config.ResolvedSshConfig :=
  { Config.ResolvedSshConfig.bare with
    identityFiles := [Lib.Utf8.ascii "/keys/deploy", Lib.Utf8.ascii "/keys/home"]
    user := some "alice"
    port := some 2222
    connectTimeout := some 9 }

/-- The flags come first when `ssh_config` names the same identity first. -/
theorem flags_first_over_config :
    ∃ request, prepare RefAnvil AnvilConfig withUser (some aliceConfig) = .ok request ∧
      FlagsFirst AnvilConfig withUser (some aliceConfig)
        (build (builder (parseUserHost withUser.rawHost).2 : AnvilConfig)) request.config :=
  ⟨_, rfl, (flags_first_iff RefAnvil lawfulBuilder_self withUser (some aliceConfig) _ rfl).mpr
    (Or.inr (Or.inr rfl))⟩

/-- With an `IdentityFile` in `ssh_config` the key of `--identity` is not tried first. -/
theorem identity_flag_comes_second :
    ∃ request, prepare RefAnvil AnvilConfig withIdentity (some homeIdentity) = .ok request ∧
      withIdentity.identity = some (Lib.Utf8.ascii "/keys/deploy") ∧
      request.config.identityFiles =
        [Lib.Utf8.ascii "/keys/home", Lib.Utf8.ascii "/keys/deploy"] ∧
      ¬ FlagsFirst AnvilConfig withIdentity (some homeIdentity)
        (build (builder (parseUserHost withIdentity.rawHost).2 : AnvilConfig)) request.config := by
  refine ⟨_, rfl, rfl, rfl, fun follows => ?_⟩
  have first : some (Lib.Utf8.ascii "/keys/home") = some (Lib.Utf8.ascii "/keys/deploy") :=
    follows.identity
  exact absurd first (by decide)

end Gitway.Transport
