import Gitway.Reference

/-!
# `gitway hosts revoke`

A host or a fingerprint is revoked by a line at the front of the `known_hosts` file.
For a host the trusted fingerprints are looked up, and the line is written for the
first of them.
-/
namespace Gitway.Hosts

open Lib

structure HostKeyTrust where
  fingerprints : List String

/-- The functions of `anvil_ssh::hostkey` on the trust in a host. -/
class HostKeys (Hk : Type) where
  defaultKnownHostsPath : Environment → Option String
  hostKeyTrust : String → Option String → FileSystem → Except AnvilError HostKeyTrust
  prependRevoked : String → String → String → FileSystem → Except AnvilError Unit × FileSystem

structure HostsRevokeArgs where
  input : String
  knownHosts : Option String

section
variable (Hk : Type) [HostKeys Hk]

def resolvePath (env : Environment) (overridePath : Option String) : Except AnvilError String :=
  match overridePath with
  | some p => .ok p
  | none =>
    match HostKeys.defaultKnownHostsPath Hk env with
    | some p => .ok p
    | none =>
      .error (.invalidConfig ("could not resolve default known_hosts path; " ++
        "pass --known-hosts to override"))

/-- The host pattern and the fingerprint of the line to be written. -/
def revocation (fs : FileSystem) (path input : String) : Except AnvilError (String × String) :=
  if Text.startsWith input "SHA256:" then .ok ("*", input)
  else do
    let trust ← HostKeys.hostKeyTrust Hk input (some path) fs
    match trust.fingerprints with
    | [] =>
      .error (.invalidConfig (s!"no fingerprints known for host '{input}'; nothing to revoke. " ++
        "Pass a SHA256:... fingerprint to revoke a specific key unconditionally, or run " ++
        s!"`gitway hosts add {input}` first."))
    -- One fingerprint stands for all of them here.
    | first :: _ => .ok (input, first)

variable {Ag Va Te : Type}

def runRevoke (args : HostsRevokeArgs) (mode : OutputMode) : Program Ag Va Te Nat := do
  let env ← Program.environment
  let path ← Fallible.query fun _ => resolvePath Hk env args.knownHosts
  let input := Text.trim args.input
  let (hostPattern, fingerprint) ← Fallible.query fun w => revocation Hk w.fs path input
  Program.onFiles (HostKeys.prependRevoked Hk path hostPattern fingerprint)
  match mode with
  | .json =>
    Program.emitJson (.obj [
      ("metadata", metadataBlock env "gitway hosts revoke"),
      ("data", .obj [
        ("host_pattern", .str hostPattern),
        ("fingerprint", .str fingerprint),
        ("known_hosts_path", .str path)])])
  | .human =>
    Program.eprintln
      s!"gitway hosts revoke: prepended @revoked {hostPattern} {fingerprint} to {path}"
  return 0

end

def revokedLine (hostPattern fingerprint : String) : String :=
  "@revoked " ++ hostPattern ++ " " ++ fingerprint

theorem revokedLine_inj {host f g : String} :
    revokedLine host f = revokedLine host g ↔ f = g := by
  unfold revokedLine
  rw [String.append_right_inj]

/-- The crate adds exactly the line of the host and the fingerprint, at the front. -/
def PrependsLine (Hk : Type) [HostKeys Hk] (lines : FileSystem → String → List String) : Prop :=
  ∀ path host fingerprint fs fs',
    HostKeys.prependRevoked Hk path host fingerprint fs = (.ok (), fs') →
      lines fs' path = revokedLine host fingerprint :: lines fs path

variable {Hk Ag Va Te : Type} [HostKeys Hk]

/-- A successful run on a host writes one line, for the first trusted fingerprint. -/
theorem runRevoke_host {lines : FileSystem → String → List String}
    (prepends : PrependsLine Hk lines) {args : HostsRevokeArgs} {mode : OutputMode}
    {path first : String} {others : List String} {w w' : World Ag Va Te} {code : Nat}
    (host : Text.startsWith (Text.trim args.input) "SHA256:" = false)
    (located : resolvePath Hk w.env args.knownHosts = .ok path)
    (trusted : HostKeys.hostKeyTrust Hk (Text.trim args.input) (some path) w.fs =
      .ok ⟨first :: others⟩)
    (returned : runRevoke Hk args mode w = (.ok code, w')) :
    lines w'.fs path = revokedLine (Text.trim args.input) first :: lines w.fs path := by
  have chosen : revocation Hk w.fs path (Text.trim args.input) =
      .ok (Text.trim args.input, first) := by
    simp [revocation, host, trusted, bind, Except.bind]
  -- Everything before the line is written only looks things up.
  unfold runRevoke at returned
  rw [Fallible.bind_of_ok (Program.environment_run w)] at returned
  obtain ⟨path', w₁, resolved, rest⟩ := Fallible.bind_ok_iff.mp returned
  rw [Fallible.query_run, Prod.mk.injEq, located, Except.ok.injEq] at resolved
  obtain ⟨rfl, rfl⟩ := resolved
  obtain ⟨⟨pattern, fingerprint⟩, w₂, found, rest⟩ := Fallible.bind_ok_iff.mp rest
  rw [Fallible.query_run, Prod.mk.injEq, chosen, Except.ok.injEq, Prod.mk.injEq] at found
  obtain ⟨⟨rfl, rfl⟩, rfl⟩ := found
  obtain ⟨⟨⟩, w₃, written, rest⟩ := Fallible.bind_ok_iff.mp rest
  rw [Program.onFiles_run, Prod.mk.injEq] at written
  obtain ⟨accepted, rfl⟩ := written
  -- The report that follows leaves the files alone.
  have frame : w'.fs = (HostKeys.prependRevoked Hk path (Text.trim args.input) first w.fs).2 := by
    cases mode with
    | json => exact (congrArg (fun r => r.2.fs) rest).symm
    | human => exact (congrArg (fun r => r.2.fs) rest).symm
  rw [frame]
  exact prepends path _ first w.fs _ (Prod.ext accepted rfl)

/-- A successful run on a host has prepended a line for each trusted fingerprint
exactly when these are all the same. -/
theorem revoke_complete_iff {lines : FileSystem → String → List String}
    (prepends : PrependsLine Hk lines) {args : HostsRevokeArgs} {mode : OutputMode}
    {path : String} {trust : HostKeyTrust} {w w' : World Ag Va Te} {code : Nat}
    (host : Text.startsWith (Text.trim args.input) "SHA256:" = false)
    (located : resolvePath Hk w.env args.knownHosts = .ok path)
    (trusted : HostKeys.hostKeyTrust Hk (Text.trim args.input) (some path) w.fs = .ok trust)
    (nonempty : trust.fingerprints ≠ [])
    (returned : runRevoke Hk args mode w = (.ok code, w')) :
    (∃ added, lines w'.fs path = added ++ lines w.fs path ∧
      ∀ f ∈ trust.fingerprints, revokedLine (Text.trim args.input) f ∈ added) ↔
      ∀ f ∈ trust.fingerprints, ∀ g ∈ trust.fingerprints, f = g := by
  obtain ⟨fingerprints⟩ := trust
  cases fingerprints with
  | nil => exact absurd rfl nonempty
  | cons first others =>
    have after := runRevoke_host prepends host located trusted returned
    constructor
    · rintro ⟨added, split, complete⟩
      -- The file grew by the one line, so it must serve for every fingerprint.
      have only : added = [revokedLine (Text.trim args.input) first] := by
        rw [after, ← List.singleton_append] at split
        exact (List.append_cancel_right split).symm
      have same (f : String) (member : f ∈ first :: others) : f = first := by
        have line := complete f member
        rw [only, List.mem_singleton] at line
        exact revokedLine_inj.mp line
      intro f f_member g g_member
      rw [same f f_member, same g g_member]
    · intro same
      refine ⟨[revokedLine (Text.trim args.input) first], after, ?_⟩
      intro f member
      rw [same f member first List.mem_cons_self]
      exact List.mem_singleton_self _

/-! ### On a reference file -/

open Reference

/-- Pins of some hosts, and a `known_hosts` file that is written line by line. -/
structure RefHostKeys

def fileText (fs : FileSystem) (path : String) : String :=
  match fs.readToString path with
  | .ok text => text
  | .error _ => ""

def fileLines (fs : FileSystem) (path : String) : List String :=
  ((fileText fs path).toList.splitOn '\n').map String.ofList

/-- The pins: one for each algorithm of a provider, and one key that is listed twice. -/
def pins : String → List String
  | "github.com" => ["SHA256:ed25519", "SHA256:ecdsa", "SHA256:rsa"]
  | "git.example.org" => ["SHA256:single", "SHA256:single"]
  | _ => []

instance : HostKeys RefHostKeys where
  defaultKnownHostsPath env := env.homeDir.map (· ++ "/.config/gitway/known_hosts")
  hostKeyTrust host _ _ := .ok ⟨pins host⟩
  prependRevoked path host fingerprint fs :=
    let line := revokedLine host fingerprint
    if '\n' ∈ line.toList then (.error (.invalidConfig "line break in a revocation"), fs)
    else (.ok (), fs.write path (line ++ "\n" ++ fileText fs path).toUTF8)

theorem refHostKeys_prepends : PrependsLine RefHostKeys fileLines := by
  intro path host fingerprint fs fs' written
  simp only [HostKeys.prependRevoked] at written
  split at written
  · simp at written
  next whole =>
    cases written
    have content : fileText (fs.write path
        (revokedLine host fingerprint ++ "\n" ++ fileText fs path).toUTF8) path =
          revokedLine host fingerprint ++ "\n" ++ fileText fs path := by
      have read : (fs.write path (revokedLine host fingerprint ++ "\n" ++
          fileText fs path).toUTF8).readToString path =
            .ok (revokedLine host fingerprint ++ "\n" ++ fileText fs path) := by
        simp only [FileSystem.readToString, FileSystem.write, if_true, bind, Except.bind]
        exact decodeUtf8_toUTF8 _
      rw [fileText, read]
    -- The line has no line break in it, so it is the first piece of the new text.
    have split : (revokedLine host fingerprint ++ "\n" ++ fileText fs path).toList =
        (revokedLine host fingerprint).toList ++ '\n' :: (fileText fs path).toList := by
      simp [String.toList_append]
    unfold fileLines
    rw [content, split, List.splitOn_append_cons_self_of_not_mem whole, List.map_cons,
      String.ofList_toList]

private def revokeArgs (host : String) : HostsRevokeArgs := ⟨host, some "/hosts"⟩

private def hostsWorld : RefWorld :=
  world [] [("/hosts", "git.example.org SHA256:single\n")] ⟨false, []⟩ ⟨[]⟩ ⟨[]⟩

/-- One line is enough where both pins of a host are the same. -/
theorem revoke_complete_pinned_twice :
    ∃ added, fileLines (runRevoke RefHostKeys (revokeArgs "git.example.org") .human
        hostsWorld).2.fs "/hosts" = added ++ fileLines hostsWorld.fs "/hosts" ∧
      ∀ f ∈ pins "git.example.org",
        revokedLine (Text.trim (revokeArgs "git.example.org").input) f ∈ added := by
  have host : Text.startsWith (Text.trim (revokeArgs "git.example.org").input) "SHA256:" =
      false := by
    decide
  have trusted : HostKeys.hostKeyTrust RefHostKeys (Text.trim (revokeArgs "git.example.org").input)
      (some "/hosts") hostsWorld.fs = .ok ⟨pins "git.example.org"⟩ := rfl
  have returned : (runRevoke RefHostKeys (revokeArgs "git.example.org") .human hostsWorld).1 =
      .ok 0 := rfl
  have located : resolvePath RefHostKeys hostsWorld.env (revokeArgs "git.example.org").knownHosts =
      .ok "/hosts" := rfl
  exact (revoke_complete_iff refHostKeys_prepends host located trusted (by decide)
    (Fallible.run_eq returned)).mpr (by decide)

/-- Revoking a host with three trusted keys succeeds and writes the line of the first. -/
theorem revoke_leaves_two_keys :
    PrependsLine RefHostKeys fileLines ∧
      HostKeys.hostKeyTrust RefHostKeys "github.com" (some "/hosts") hostsWorld.fs =
        .ok ⟨["SHA256:ed25519", "SHA256:ecdsa", "SHA256:rsa"]⟩ ∧
      ∃ w', runRevoke RefHostKeys (revokeArgs "github.com") .human hostsWorld = (.ok 0, w') ∧
        fileLines w'.fs "/hosts" =
          "@revoked github.com SHA256:ed25519" :: fileLines hostsWorld.fs "/hosts" ∧
        ¬ ∃ added, fileLines w'.fs "/hosts" = added ++ fileLines hostsWorld.fs "/hosts" ∧
          ∀ f ∈ ["SHA256:ed25519", "SHA256:ecdsa", "SHA256:rsa"],
            revokedLine "github.com" f ∈ added := by
  have returned : (runRevoke RefHostKeys (revokeArgs "github.com") .human hostsWorld).1 = .ok 0 :=
    rfl
  have host : Text.startsWith (Text.trim (revokeArgs "github.com").input) "SHA256:" = false := by
    decide
  have trusted : HostKeys.hostKeyTrust RefHostKeys (Text.trim (revokeArgs "github.com").input)
      (some "/hosts") hostsWorld.fs =
        .ok ⟨"SHA256:ed25519" :: ["SHA256:ecdsa", "SHA256:rsa"]⟩ := rfl
  have after := runRevoke_host refHostKeys_prepends host rfl trusted (Fallible.run_eq returned)
  refine ⟨refHostKeys_prepends, rfl, _, Fallible.run_eq returned, after, ?_⟩
  rintro ⟨added, split, complete⟩
  rw [after, ← List.singleton_append] at split
  have only := List.append_cancel_right split
  -- The one line that was added is not that of the second key.
  have second := complete "SHA256:ecdsa" (by simp)
  rw [← only, List.mem_singleton] at second
  exact absurd second (by decide)

end Gitway.Hosts
