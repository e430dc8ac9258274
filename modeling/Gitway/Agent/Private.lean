import Gitway.Agent.Commands
import Gitway.Lib.Owned
import Gitway.Reference

/-!
# Whose directory the default socket is in

Without a runtime directory the socket goes into a directory of `$TMPDIR`, which everybody can
write to. `defaultSocketPath` makes the directory and sets its mode, and drops what the kernel
answers to either. What comes of it is decided by what was there before.
-/
namespace Gitway.Agent

open Lib Owned

variable {Ag Va Te : Type}

/-- The place of a path, as the kernel is told it. -/
def placeOf (env : Environment) (path : String) : List (List Char) :=
  (Path.locate (env.currentDir.toOption.getD "") path).reverse

/-- `fs::create_dir_all`, then `fs::set_permissions`. Both may fail, and nobody asks. -/
def makePrivateIn (env : Environment) (u : User) (parent : String) (t : Owned.Tree (List Char)) :
    Owned.Tree (List Char) :=
  (setMode u (placeOf env parent) 0o700 (createDirAll u (placeOf env parent) t).2).2

section
variable {env : Environment} (unset : env.var "XDG_RUNTIME_DIR" = none) (u : User)
  (t : Owned.Tree (List Char))
include unset

end

/-- Where the kernel accepts both calls, the files show what the tree then has there. -/
theorem createPrivateDir_shows {env : Environment} {dir : String} {fs : FileSystem} {u : User}
    {t : Owned.Tree (List Char)} (named : dir.isEmpty = false) (accepted : fs.refuses dir = none)
    (claimable : Claimable u t (placeOf env dir)) :
    let fs' := createPrivateDir (env.currentDir.toOption.getD "") dir fs
    let t' := makePrivateIn env u dir t
    fs'.exists_ dir = t'.isDir (placeOf env dir) ∧
      fs'.mode dir = (t'.stat (placeOf env dir)).map Entry.mode := by
  have owned := (claimed_iff 0o700).mpr claimable
  have found := (Owned.Tree.stat_of_entry owned (by simp)).2
  simp [createPrivateDir, makePrivateIn, accepted, named, Owned.Tree.isDir, found]

/-! ### The parent directory -/

section
variable (env : Environment) (u : User) (t : Owned.Tree (List Char))

end

/-! ### Starts -/

open Reference

private def atShell : Environment := environment [("USER", "git")]

/-- The operating system, with a daemon that takes any socket. -/
private def serving : Processes where
  kill _ := .ok ()
  currentExe := .ok "/usr/bin/gitway"
  spawn _ fs := (.ok 4343, fs)
  daemon _ fs := (.ok (), fs)

end Gitway.Agent
