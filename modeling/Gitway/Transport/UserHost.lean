import Gitway.Reference
import Gitway.Transport.Request
import Mathlib.Data.List.TakeDrop

/-!
# `user@host` and `-l user host`

The prefix of the host gives the same user and the same host as the flag, as long as the
user has no at sign. The alias is the operand as it was typed, prefix and all.
-/
namespace Gitway.Transport

/-- `gitway user@host`. -/
def Options.prefixForm (opts : Options) (user host : String) : Options :=
  { opts with host := some (user ++ "@" ++ host), user := none }

/-- `gitway -l user host`. -/
def Options.flagForm (opts : Options) (user host : String) : Options :=
  { opts with host := some host, user := some user }

theorem splitAtSign_append {user host : String} (plain : '@' ∉ user.toList) :
    splitAtSign (user ++ "@" ++ host) = some (user, host) := by
  have solid : ∀ c ∈ user.toList, (c != '@') = true := by
    intro c member
    simpa using ne_of_mem_of_not_mem member plain
  have chars : (user ++ "@" ++ host).toList = user.toList ++ '@' :: host.toList := by
    simp [String.toList_append]
  unfold splitAtSign
  rw [List.span_eq_takeWhile_dropWhile, chars, List.takeWhile_append_of_pos solid,
    List.dropWhile_append_of_pos solid]
  simp

theorem splitAtSign_eq_none {host : String} (plain : '@' ∉ host.toList) :
    splitAtSign host = none := by
  have solid : ∀ c ∈ host.toList, (c != '@') = true := by
    intro c member
    simpa using ne_of_mem_of_not_mem member plain
  unfold splitAtSign
  rw [List.span_eq_takeWhile_dropWhile, List.dropWhile_eq_nil_iff.mpr solid]

theorem parseUserHost_prefix {user host : String} (nonempty : user ≠ "")
    (plain : '@' ∉ user.toList) : parseUserHost (user ++ "@" ++ host) = (some user, host) := by
  unfold parseUserHost
  rw [splitAtSign_append plain]
  simp [nonempty]

theorem parseUserHost_bare {host : String} (plain : '@' ∉ host.toList) :
    parseUserHost host = (none, host) := by
  unfold parseUserHost
  rw [splitAtSign_eq_none plain]

/-- An operand is read up to its first at sign, so one in the user moves to the host. -/
theorem parseUserHost_at_sign {user : String} (early : '@' ∈ user.toList) (host : String) :
    '@' ∈ (parseUserHost (user ++ "@" ++ host)).2.toList := by
  obtain ⟨before, after, parts, solid⟩ := List.eq_append_cons_of_mem early
  have typed : user ++ "@" ++ host =
      String.ofList before ++ "@" ++ (String.ofList after ++ "@" ++ host) := by
    apply String.toList_injective
    simp [String.toList_append, parts]
  have split : splitAtSign (user ++ "@" ++ host) =
      some (String.ofList before, String.ofList after ++ "@" ++ host) := by
    rw [typed, splitAtSign_append (by simpa using solid)]
  unfold parseUserHost
  rw [split]
  dsimp only
  split <;> simp [String.toList_append]

theorem prefixed_ne (user host : String) : user ++ "@" ++ host ≠ host := by
  intro same
  have lengths := congrArg (fun s => s.toList.length) same
  simp only [String.toList_append, List.length_append, String.reduceToList,
    List.length_cons, List.length_nil] at lengths
  omega

variable (An B : Type) [Config.Anvil An] [ConfigBuilder B]
  (resolve : String → Except AnvilError Config.ResolvedSshConfig)

/-- The request of a command line, where a resolution that fails counts as none. -/
def request (opts : Options) : Except AnvilError Request :=
  prepare An B opts (opts.lookup.bind fun host => (resolve host).toOption)

theorem hostAlias_of_request {opts : Options} {r : Request}
    (made : request An B resolve opts = .ok r) : r.hostAlias = opts.rawHost := by
  obtain ⟨config, _, later⟩ := Lib.except_bind_ok_iff.mp made
  obtain ⟨proxied, _, done⟩ := Lib.except_bind_ok_iff.mp later
  rw [← Except.ok.inj done]

/-- Both forms make a request, and it is the same one. -/
def SameRequest (opts : Options) (user host : String) : Prop :=
  ∃ r, request An B resolve (opts.prefixForm user host) = .ok r ∧
    request An B resolve (opts.flagForm user host) = .ok r

theorem forms_agree_but_for_alias {user host : String} (nonempty : user ≠ "")
    (solid : '@' ∉ user.toList) (plain : '@' ∉ host.toList) (opts : Options) :
    (request An B resolve (opts.prefixForm user host)).map
        (fun r => { r with hostAlias := host }) =
      request An B resolve (opts.flagForm user host) := by
  have prefixed : parseUserHost (opts.prefixForm user host).rawHost = (some user, host) :=
    parseUserHost_prefix nonempty solid
  have flagged : parseUserHost (opts.flagForm user host).rawHost = (none, host) :=
    parseUserHost_bare plain
  have lookups : (opts.prefixForm user host).lookup = (opts.flagForm user host).lookup := by
    unfold Options.lookup
    rw [prefixed, flagged]
    rfl
  unfold request prepare
  rw [lookups, prefixed, flagged]
  -- The user reaches the builder at the same place, as the flag or as the prefix.
  have same (resolved : Option Config.ResolvedSshConfig) :
      buildConfig B (opts.prefixForm user host) (some user) host resolved =
        buildConfig B (opts.flagForm user host) none host resolved := rfl
  dsimp only
  rw [same]
  generalize (opts.flagForm user host).lookup.bind (fun host => (resolve host).toOption) =
    resolved
  cases buildConfig B (opts.flagForm user host) none host resolved with
  | error e => rfl
  | ok config =>
    have proxies : resolveProxyDirectives (Config.Anvil.parseJumpChain An)
        (opts.prefixForm user host) resolved =
          resolveProxyDirectives (Config.Anvil.parseJumpChain An)
            (opts.flagForm user host) resolved := rfl
    simp only [bind, Except.bind, proxies]
    cases resolveProxyDirectives (Config.Anvil.parseJumpChain An)
        (opts.flagForm user host) resolved with
    | error e => rfl
    | ok proxied => rfl

/-- No user and host make the same request in both forms: the alias keeps the prefix. All
else is the same, unless the user has an at sign itself. -/
theorem forms_never_same (opts : Options) (user host : String) (nonempty : user ≠ "")
    (plain : '@' ∉ host.toList) :
    ¬ SameRequest An B resolve opts user host ∧
      ('@' ∉ user.toList →
        (request An B resolve (opts.prefixForm user host)).map
            (fun r => { r with hostAlias := host }) =
          request An B resolve (opts.flagForm user host)) ∧
      ('@' ∈ user.toList →
        (parseUserHost (opts.prefixForm user host).rawHost).2 ≠
          (parseUserHost (opts.flagForm user host).rawHost).2) := by
  refine ⟨?_, fun solid => forms_agree_but_for_alias An B resolve nonempty solid plain opts, ?_⟩
  · rintro ⟨r, prefixed, flagged⟩
    have typed := hostAlias_of_request An B resolve prefixed
    rw [hostAlias_of_request An B resolve flagged] at typed
    exact prefixed_ne user host typed.symm
  · intro early same
    have moved := parseUserHost_at_sign early host
    have flagged : parseUserHost (opts.flagForm user host).rawHost = (none, host) :=
      parseUserHost_bare plain
    have kept : (parseUserHost (user ++ "@" ++ host)).2 = host :=
      same.trans (congrArg Prod.snd flagged)
    rw [kept] at moved
    exact plain moved

/-! ### The form that git uses -/

open Reference

private def unresolved (_ : String) : Except AnvilError Config.ResolvedSshConfig :=
  .ok Config.ResolvedSshConfig.bare

theorem git_forms_never_same :
    ¬ SameRequest RefAnvil AnvilConfig unresolved Options.bare "git" "github.com" ∧
      ('@' ∉ "git".toList →
        (request RefAnvil AnvilConfig unresolved (Options.bare.prefixForm "git" "github.com")).map
            (fun r => { r with hostAlias := "github.com" }) =
          request RefAnvil AnvilConfig unresolved (Options.bare.flagForm "git" "github.com")) ∧
      ('@' ∈ "git".toList →
        (parseUserHost (Options.bare.prefixForm "git" "github.com").rawHost).2 ≠
          (parseUserHost (Options.bare.flagForm "git" "github.com").rawHost).2) :=
  forms_never_same RefAnvil AnvilConfig unresolved Options.bare "git" "github.com" (by decide)
    (by decide)

/-- Both forms make a request, for the same user and host, and hand over another alias. -/
theorem git_alias_keeps_user :
    ∃ r r', request RefAnvil AnvilConfig unresolved
        (Options.bare.prefixForm "git" "github.com") = .ok r ∧
      request RefAnvil AnvilConfig unresolved
        (Options.bare.flagForm "git" "github.com") = .ok r' ∧
      r.lookup = r'.lookup ∧ r.config = r'.config ∧
      r.hostAlias = "git@github.com" ∧ r'.hostAlias = "github.com" ∧ r ≠ r' :=
  ⟨_, _, rfl, rfl, rfl, rfl, rfl, rfl, by decide⟩

end Gitway.Transport
