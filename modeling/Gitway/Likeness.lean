import Gitway.Lib.Paired
import Gitway.Main

/-!
# Two processes side by side

A `Likeness` says what two processes have in common: their terminals and keystores may give
different passphrases, as long as these open the same keys, and what they print may be left
out of the comparison. The rest of the two worlds is the same.
-/
namespace Gitway

open Lib Lib.Fallible

structure Likeness (Va Te : Type) where
  vault : Va → Va → Prop
  terminal : Te → Te → Prop
  /-- Passphrases of which either may stand for the other. -/
  passphrase : String → String → Prop
  /-- The files on which they open the same keys. -/
  files : FileSystem → Prop
  /-- Whether what is printed is compared as well. -/
  output : Prop

variable {Ne Ag Va Te α β ε : Type}

structure World.Like (l : Likeness Va Te) (w w' : World Ag Va Te) : Prop where
  setting : w.setting = w'.setting
  vault : l.vault w.vault w'.vault
  terminal : l.terminal w.terminal w'.terminal
  stdin : w.stdin = w'.stdin
  signals : w.signals = w'.signals
  output : l.output → w.output = w'.output
  known : l.files w.fs

structure Process.Like (l : Likeness Va Te) (p p' : Process Ne Ag Va Te) : Prop where
  world : p.world.Like l p'.world
  net : p.net = p'.net
  calls : p.calls = p'.calls
  reports : l.output → p.reports = p'.reports

section
variable {l : Likeness Va Te} {w w' : World Ag Va Te}

theorem World.Like.env (like : w.Like l w') : w.env = w'.env := congrArg Prod.fst like.setting

theorem World.Like.files (like : w.Like l w') : w.fs = w'.fs :=
  congrArg (fun setting => setting.2.1) like.setting

theorem World.Like.agent (like : w.Like l w') : w.agent = w'.agent :=
  congrArg (fun setting => setting.2.2) like.setting

theorem World.Like.stdout (like : w.Like l w') (shown : l.output) : w.stdout = w'.stdout :=
  congrArg Prod.fst (like.output shown)

theorem World.Like.stderr (like : w.Like l w') (shown : l.output) : w.stderr = w'.stderr :=
  congrArg Prod.snd (like.output shown)

end

/-- Keystores and terminals stay alike, and they tell the two apart in no answer. -/
structure Likeness.Sound (l : Likeness Va Te) [Biometric.BiometricBackend Va] [Terminal Te] :
    Prop where
  promptPassword : ∀ prompt, Paired l.terminal l.terminal l.passphrase
    (Terminal.promptPassword prompt : Fallible Te IoError String) (Terminal.promptPassword prompt)
  askpass : ∀ program prompt, Paired l.terminal l.terminal
    (fun o o' => Matched (Option.Rel l.passphrase) (Prompt.askpassReply program o)
      (Prompt.askpassReply program o'))
    (Terminal.askpass program prompt : Fallible Te IoError AskpassOutput)
    (Terminal.askpass program prompt)
  store : ∀ id {p p'}, l.passphrase p p' → Paired l.vault l.vault Eq
    (BiometricVault.store id p : Fallible Va BiometricError Unit) (BiometricVault.store id p')
  retrieve : ∀ id, Paired l.vault l.vault l.passphrase
    (BiometricVault.retrieve id : Fallible Va BiometricError String) (BiometricVault.retrieve id)
  delete : ∀ id, Paired l.vault l.vault Eq
    (BiometricVault.delete id : Fallible Va BiometricError Unit) (BiometricVault.delete id)
  list : Paired l.vault l.vault Eq
    (Biometric.BiometricBackend.list : Fallible Va BiometricError (List Biometric.EnrolledKey))
    Biometric.BiometricBackend.list
  isAvailable : ∀ {v v'}, l.vault v v' →
    Biometric.BiometricBackend.isAvailable v = Biometric.BiometricBackend.isAvailable v'
  bindingTier : ∀ {v v'}, l.vault v v' →
    Biometric.BiometricBackend.bindingTier v = Biometric.BiometricBackend.bindingTier v'

/-- The key opens with either passphrase as it does with the other. -/
def Likeness.Knows (l : Likeness Va Te) {Priv Pub : Type} [PrivateKey Priv Pub] (key : Priv) :
    Prop :=
  ∀ {p p'}, l.passphrase p p' → PrivateKey.decrypt key p = PrivateKey.decrypt key p'

/-- All keys in the files do. -/
def Likeness.Opens (l : Likeness Va Te) (Priv : Type) {Pub : Type} [PrivateKey Priv Pub] : Prop :=
  ∀ fs path (key : Priv), l.files fs → keyAt Priv fs path = some key → l.Knows key

/-- Any file may be written. -/
def Likeness.Free (l : Likeness Va Te) : Prop := ∀ fs, l.files fs

/-- The same for processes that open no key any more. -/
def Likeness.written (l : Likeness Va Te) : Likeness Va Te := { l with files := fun _ => True }

theorem Likeness.free_written (l : Likeness Va Te) : l.written.Free := fun _ => trivial

theorem World.Like.written {l : Likeness Va Te} {w w' : World Ag Va Te} (like : w.Like l w') :
    w.Like l.written w' :=
  { like with known := trivial }

theorem Process.Like.written {l : Likeness Va Te} {p p' : Process Ne Ag Va Te}
    (like : p.Like l p') : p.Like l.written p' :=
  { like with world := like.world.written }

theorem Likeness.Sound.written {l : Likeness Va Te} [Biometric.BiometricBackend Va] [Terminal Te]
    (sound : l.Sound) : l.written.Sound :=
  { sound with }

/-- The same lines for both. -/
theorem Process.Like.say {l : Likeness Va Te} {p p' : Process Ne Ag Va Te} (like : p.Like l p')
    (out messages : List String) : (p.say out messages).Like l (p'.say out messages) := by
  refine { like with world := { like.world with output := fun shown => ?_ } }
  show (p.world.stdout ++ _, p.world.stderr ++ _) = (p'.world.stdout ++ _, p'.world.stderr ++ _)
  rw [like.world.stdout shown, like.world.stderr shown]

/-! ### Programs -/

/-- The two programs do alike, with values in the relation. -/
abbrev Likewise (l : Likeness Va Te) (P : α → β → Prop) (x : Program Ag Va Te α)
    (y : Program Ag Va Te β) : Prop :=
  Paired (World.Like l) (World.Like l) P x y

/-- The program does its part alike in two worlds that are alike. -/
abbrev Steady (l : Likeness Va Te) (x : Program Ag Va Te α) : Prop := Likewise l Eq x x

namespace Program

variable {l : Likeness Va Te}

/-- What is read off the setting is the same. -/
theorem steady_query {f : World Ag Va Te → Except AnvilError α}
    (blind : ∀ w w', w.setting = w'.setting → f w = f w') : Steady l (query f) :=
  Paired.query fun w w' like => Matched.of_eq (blind w w' like.setting)

theorem steady_value (r : Except AnvilError α) :
    Steady l (query fun _ => r : Program Ag Va Te α) :=
  steady_query fun _ _ _ => rfl

theorem steady_environment : Steady l (environment : Program Ag Va Te Environment) :=
  steady_query fun _ _ same => congrArg (fun setting => Except.ok setting.1) same

theorem steady_files {f : FileSystem → Except AnvilError α} :
    Steady l (query fun w => f w.fs : Program Ag Va Te α) :=
  steady_query fun _ _ same => congrArg (fun setting => f setting.2.1) same

theorem steady_readToString (path : String) :
    Steady l (readToString path : Program Ag Va Te String) :=
  steady_files (f := fun fs => io (fs.readToString path))

theorem steady_pathExists (path : String) :
    Steady l (pathExists path : Program Ag Va Te Bool) :=
  steady_files (f := fun fs => .ok (fs.exists_ path))

theorem steady_agent {f : Ag → Except AnvilError α} :
    Steady l (query fun w => f w.agent : Program Ag Va Te α) :=
  steady_query fun _ _ same => congrArg (fun setting => f setting.2.2) same

theorem steady_onAgent (op : Ag → Except AnvilError α × Ag) :
    Steady l (onAgent op : Program Ag Va Te α) := by
  intro w w' like
  rw [onAgent_run, onAgent_run, ← like.agent]
  refine ⟨Matched.refl (fun _ => rfl) _, { like with setting := ?_ }⟩
  show (w.env, w.fs, _) = (w'.env, w'.fs, _)
  rw [like.env, like.files]

theorem steady_onFiles (free : l.Free) (op : FileSystem → Except AnvilError α × FileSystem) :
    Steady l (onFiles op : Program Ag Va Te α) := by
  intro w w' like
  rw [onFiles_run, onFiles_run, ← like.files]
  refine ⟨Matched.refl (fun _ => rfl) _, { like with setting := ?_, known := free _ }⟩
  show (w.env, _, w.agent) = (w'.env, _, w'.agent)
  rw [like.env, like.agent]

theorem steady_writeFile (free : l.Free) (path : String) (bytes : ByteArray) :
    Steady l (writeFile path bytes : Program Ag Va Te Unit) := by
  intro w w' like
  unfold writeFile
  rw [← like.files]
  split
  · exact ⟨Matched.error _, like⟩
  · refine ⟨Matched.ok rfl, { like with setting := ?_, known := free _ }⟩
    show (w.env, _, w.agent) = (w'.env, _, w'.agent)
    rw [like.env, like.agent]

theorem steady_writeStdout (bytes : ByteArray) :
    Steady l (writeStdout bytes : Program Ag Va Te Unit) := by
  intro w w' like
  refine ⟨Matched.ok rfl, { like with output := fun shown => ?_ }⟩
  show (w.stdout ++ _, w.stderr) = (w'.stdout ++ _, w'.stderr)
  rw [like.stdout shown, like.stderr shown]

theorem steady_eprintln (s : String) : Steady l (eprintln s : Program Ag Va Te Unit) := by
  intro w w' like
  refine ⟨Matched.ok rfl, { like with output := fun shown => ?_ }⟩
  show (w.stdout, w.stderr ++ _) = (w'.stdout, w'.stderr ++ _)
  rw [like.stdout shown, like.stderr shown]

theorem steady_readStdinBytes : Steady l (readStdinBytes : Program Ag Va Te ByteArray) := by
  intro w w' like
  unfold readStdinBytes
  rw [← like.stdin]
  exact ⟨Matched.refl (fun _ => rfl) _, { like with stdin := rfl }⟩

theorem steady_readStdin :
    Steady l (readStdin : Program Ag Va Te (Except IoError String)) := by
  intro w w' like
  unfold readStdin
  rw [← like.stdin]
  exact ⟨Matched.ok rfl, { like with stdin := rfl }⟩

/-- An operation of the two keystores, its outcomes handed over. -/
theorem likewise_onVault {P : α → β → Prop} {op : Va → Except BiometricError α × Va}
    {op' : Va → Except BiometricError β × Va}
    (both : Paired l.vault l.vault P (op : Fallible Va BiometricError α) op') :
    Likewise l (Matched P) (onVault op : Program Ag Va Te _) (onVault op') := fun _ _ like =>
  ⟨Matched.ok (both _ _ like.vault).1, { like with vault := (both _ _ like.vault).2 }⟩

theorem likewise_onTerminal {P : α → β → Prop} {op : Te → Except ε α × Te}
    {op' : Te → Except ε β × Te}
    (both : Paired l.terminal l.terminal P (op : Fallible Te ε α) op') :
    Likewise l (Matched P) (onTerminal op : Program Ag Va Te _) (onTerminal op') := fun _ _ like =>
  ⟨Matched.ok (both _ _ like.terminal).1, { like with terminal := (both _ _ like.terminal).2 }⟩

theorem steady_onVault {op : Va → Except BiometricError α × Va}
    (both : Paired l.vault l.vault Eq (op : Fallible Va BiometricError α) op) :
    Steady l (onVault op : Program Ag Va Te _) :=
  (likewise_onVault both).mono fun _ _ matched => matched.eq

end Program

/-! ### Commands -/

namespace Command

abbrev Likewise (l : Likeness Va Te) (P : α → β → Prop) (x : Command Ne Ag Va Te α)
    (y : Command Ne Ag Va Te β) : Prop :=
  Paired (Process.Like l) (Process.Like l) P x y

abbrev Steady (l : Likeness Va Te) (x : Command Ne Ag Va Te α) : Prop := Likewise l Eq x x

variable {l : Likeness Va Te}

theorem likewise_onWorld {P : α → β → Prop} {x : Program Ag Va Te α} {y : Program Ag Va Te β}
    (both : Gitway.Likewise l P x y) :
    Likewise l P (onWorld x : Command Ne Ag Va Te α) (onWorld y) := fun _ _ like =>
  ⟨(both _ _ like.world).1, { like with world := (both _ _ like.world).2 }⟩

theorem steady_onNetwork (op : Ne → Except AnvilError α × Ne) :
    Steady l (onNetwork op : Command Ne Ag Va Te α) := by
  intro p p' like
  rw [onNetwork_run, onNetwork_run, ← like.net]
  exact ⟨Matched.refl (fun _ => rfl) _, { like with net := rfl }⟩

/-- The files on which the passphrases open the same keys are still of that kind. -/
theorem steady_onConnection {op : FileSystem × Ne → Except AnvilError α × FileSystem × Ne}
    (kept : ∀ fs net, l.files fs → l.files (op (fs, net)).2.1) :
    Steady l (onConnection op : Command Ne Ag Va Te α) := by
  intro p p' like
  rw [onConnection_run, onConnection_run, ← like.net, ← like.world.files]
  refine ⟨Matched.refl (fun _ => rfl) _, { like with
    world := { like.world with setting := ?_, known := kept _ _ like.world.known }
    net := rfl }⟩
  show (p.world.env, _, p.world.agent) = (p'.world.env, _, p'.world.agent)
  rw [like.world.env, like.world.agent]

theorem steady_relay (op : Except IoError ByteArray → Ne → Except AnvilError α × Relayed Ne) :
    Steady l (relay op : Command Ne Ag Va Te α) := by
  intro p p' like
  unfold relay
  rw [← like.net, ← like.world.stdin]
  refine ⟨Matched.refl (fun _ => rfl) _, { like with
    world := { like.world with stdin := rfl, output := fun shown => ?_ }
    net := rfl }⟩
  show (p.world.stdout ++ _, p.world.stderr ++ _) = (p'.world.stdout ++ _, p'.world.stderr ++ _)
  rw [like.world.stdout shown, like.world.stderr shown]

theorem steady_record (call : SessionCall) :
    Steady l (record call : Command Ne Ag Va Te Unit) := fun _ _ like =>
  ⟨Matched.ok rfl, { like with calls := congrArg (· ++ [call]) like.calls }⟩

theorem steady_report (r : Report) : Steady l (report r : Command Ne Ag Va Te Unit) := by
  intro p p' like
  refine ⟨Matched.ok rfl, { like with reports := fun shown => ?_ }⟩
  exact congrArg (· ++ [r]) (like.reports shown)

theorem steady_setting {f : Environment × FileSystem × Ag → Except AnvilError α} :
    Steady l (query fun p => f p.world.setting : Command Ne Ag Va Te α) :=
  Paired.query fun _ _ like => Matched.of_eq (by rw [like.world.setting])

theorem steady_net {f : Ne → Except AnvilError α} :
    Steady l (query fun p => f p.net : Command Ne Ag Va Te α) :=
  Paired.query fun _ _ like => Matched.of_eq (by rw [like.net])

theorem steady_eprintln (s : String) : Steady l (eprintln s : Command Ne Ag Va Te Unit) :=
  likewise_onWorld (Program.steady_eprintln s)

end Command

/-- The two processes differ at most in what they have printed. -/
def Process.Hushed (p p' : Process Ne Ag Va Te) : Prop :=
  ∃ out messages reports, p' = { p with
    world := { p.world with stdout := out, stderr := messages }, reports := reports }

theorem Process.hushed_say (p : Process Ne Ag Va Te) (out messages : List String) :
    p.Hushed (p.say out messages) := ⟨_, _, _, rfl⟩

theorem Process.Like.hushed {l : Likeness Va Te} {p p' q q' : Process Ne Ag Va Te}
    (like : p.Like l p') (unheard : ¬ l.output) (printed : p.Hushed q) (printed' : p'.Hushed q') :
    q.Like l q' := by
  obtain ⟨out, messages, reports, rfl⟩ := printed
  obtain ⟨out', messages', reports', rfl⟩ := printed'
  exact { like with
    world := { like.world with output := fun shown => absurd shown unheard }
    reports := fun shown => absurd shown unheard }

/-- Two commands that only print, and return the same, need print nothing in common. -/
theorem Command.likewise_of_hushed {l : Likeness Va Te} (unheard : ¬ l.output) {a : α}
    {x y : Command Ne Ag Va Te α} (left : ∀ p, ∃ q, x p = (.ok a, q) ∧ p.Hushed q)
    (right : ∀ p, ∃ q, y p = (.ok a, q) ∧ p.Hushed q) : Command.Likewise l Eq x y := by
  intro p p' like
  obtain ⟨q, ran, printed⟩ := left p
  obtain ⟨q', ran', printed'⟩ := right p'
  rw [ran, ran']
  exact ⟨Matched.ok rfl, like.hushed unheard printed printed'⟩

/-! ### Reports -/

/-- The program does no more than to print, and returns a value with the property. What it
prints depends on the setting. -/
def Tells (P : α → Prop) (x : Program Ag Va Te α) : Prop :=
  ∀ w w' : World Ag Va Te, w.setting = w'.setting → ∃ a out messages, P a ∧
    x w = (.ok a, { w with stdout := w.stdout ++ out, stderr := w.stderr ++ messages }) ∧
    x w' = (.ok a, { w' with stdout := w'.stdout ++ out, stderr := w'.stderr ++ messages })

section
variable {P : α → Prop}

theorem Tells.mono {Q : α → Prop} {x : Program Ag Va Te α} (tells : Tells P x)
    (weaker : ∀ a, P a → Q a) : Tells Q x := by
  intro w w' same
  obtain ⟨a, out, messages, holds, ran⟩ := tells w w' same
  exact ⟨a, out, messages, weaker a holds, ran⟩

theorem Tells.pure {a : α} (holds : P a) : Tells P (Pure.pure a : Program Ag Va Te α) :=
  fun _ _ _ => ⟨a, [], [], holds, by simp, by simp⟩

theorem Tells.query {f : World Ag Va Te → α} (blind : ∀ w w', w.setting = w'.setting → f w = f w') :
    Tells (fun _ => True) (query fun w => .ok (f w) : Program Ag Va Te α) :=
  fun w w' same => ⟨f w, [], [], trivial, by simp, by simp [blind w w' same]⟩

theorem Tells.environment :
    Tells (fun _ => True) (Program.environment : Program Ag Va Te Environment) :=
  Tells.query fun _ _ same => congrArg Prod.fst same

theorem Tells.println (s : String) :
    Tells (fun _ => True) (Program.println s : Program Ag Va Te Unit) :=
  fun _ _ _ => ⟨(), [.line s], [], trivial, by simp, by simp⟩

theorem Tells.eprintln (s : String) :
    Tells (fun _ => True) (Program.eprintln s : Program Ag Va Te Unit) :=
  fun _ _ _ => ⟨(), [], [s], trivial, by simp, by simp⟩

theorem Tells.emitJson (v : Json) :
    Tells (fun _ => True) (Program.emitJson v : Program Ag Va Te Unit) :=
  fun _ _ _ => ⟨(), [.json v], [], trivial, by simp, by simp⟩

theorem Tells.bind {Q : β → Prop} {x : Program Ag Va Te β} {f : β → Program Ag Va Te α}
    (first : Tells Q x) (rest : ∀ b, Tells P (f b)) : Tells P (x >>= f) := by
  intro w w' same
  obtain ⟨b, out, messages, _, ran, ran'⟩ := first w w' same
  obtain ⟨a, out', messages', holds, last, last'⟩ := rest b
    { w with stdout := w.stdout ++ out, stderr := w.stderr ++ messages }
    { w' with stdout := w'.stdout ++ out, stderr := w'.stderr ++ messages } same
  refine ⟨a, out ++ out', messages ++ messages', holds, ?_, ?_⟩
  · rw [bind_of_ok ran, last]
    simp
  · rw [bind_of_ok ran', last']
    simp

theorem Tells.forM {f : β → Program Ag Va Te PUnit} (each : ∀ b, Tells (fun _ => True) (f b))
    (xs : List β) : Tells (fun _ => True) (xs.forM f) := by
  induction xs with
  | nil => exact Tells.pure trivial
  | cons b bs ih => exact Tells.bind (each b) fun _ => ih

theorem Tells.forOption {f : β → Program Ag Va Te PUnit} (each : ∀ b, Tells (fun _ => True) (f b))
    (value : Option β) : Tells (fun _ => True) (value.forM f) := by
  cases value with
  | none => exact Tells.pure trivial
  | some b => exact each b

/-- The rule for a document that needs the environment. -/
theorem Tells.document {document : Environment → Json} {a : α} (holds : P a) :
    Tells P (do
      let env ← Program.environment
      Program.emitJson (document env)
      return a : Program Ag Va Te α) :=
  Tells.bind Tells.environment fun _ => Tells.bind (Tells.emitJson _) fun _ => Tells.pure holds

end

section
variable {l : Likeness Va Te} {P : α → Prop}

/-- A report is as steady as the setting that it is made from. -/
theorem Tells.steady {x : Program Ag Va Te α} (tells : Tells P x) : Steady l x := by
  intro w w' like
  obtain ⟨a, out, messages, _, ran, ran'⟩ := tells w w' like.setting
  rw [ran, ran']
  refine ⟨Matched.ok rfl, { like with output := fun shown => ?_ }⟩
  show (w.stdout ++ out, w.stderr ++ messages) = (w'.stdout ++ out, w'.stderr ++ messages)
  rw [like.stdout shown, like.stderr shown]

end

/-! ### Output modes -/

/-- What is done does not depend on the mode, and neither is what is printed compared in two
modes. -/
def Modeless (l : Likeness Va Te) (f : OutputMode → Program Ag Va Te α) : Prop :=
  ∀ mode mode', (l.output → mode = mode') → Likewise l Eq (f mode) (f mode')

section
variable {l : Likeness Va Te}

theorem Modeless.of_steady {x : Program Ag Va Te α} (steady : Steady l x) :
    Modeless l fun _ => x :=
  fun _ _ _ => steady

theorem Modeless.bind {x : Program Ag Va Te β} {f : β → OutputMode → Program Ag Va Te α}
    (first : Steady l x) (rest : ∀ b, Modeless l (f b)) :
    Modeless l fun mode => x >>= fun b => f b mode :=
  fun mode mode' modes => Paired.bind_same first fun b => rest b mode mode' modes

theorem Modeless.seq {f : OutputMode → Program Ag Va Te β}
    {g : β → OutputMode → Program Ag Va Te α} (first : Modeless l f)
    (rest : ∀ b, Modeless l (g b)) : Modeless l fun mode => f mode >>= fun b => g b mode :=
  fun mode mode' modes =>
    Paired.bind_same (first mode mode' modes) fun b => rest b mode mode' modes

theorem Modeless.ite {c : Prop} [Decidable c] {f g : OutputMode → Program Ag Va Te α}
    (yes : c → Modeless l f) (no : ¬ c → Modeless l g) :
    Modeless l fun mode => if c then f mode else g mode := by
  intro mode mode' modes
  dsimp only
  split
  · rename_i holds
    exact yes holds mode mode' modes
  · rename_i fails
    exact no fails mode mode' modes

/-- The two modes may tell different things where nothing that is printed is compared. -/
theorem Modeless.report {f : OutputMode → Program Ag Va Te α} (a : α)
    (human : Tells (· = a) (f .human)) (json : Tells (· = a) (f .json)) : Modeless l f := by
  have tells (mode : OutputMode) : Tells (· = a) (f mode) := by
    cases mode with
    | human => exact human
    | json => exact json
  intro mode mode' modes
  by_cases shown : l.output
  · rw [modes shown]
    exact (tells mode').steady
  · intro w w' like
    obtain ⟨_, out, messages, rfl, ran, _⟩ := tells mode w w rfl
    obtain ⟨_, out', messages', rfl, ran', _⟩ := tells mode' w' w' rfl
    rw [ran, ran']
    exact ⟨Matched.ok rfl, { like with output := fun shown' => absurd shown' shown }⟩

/-- A note that only some modes give. -/
theorem Modeless.note {c : OutputMode → Prop} [∀ mode, Decidable (c mode)] {s : String}
    {f : OutputMode → Program Ag Va Te α} (rest : Modeless l f) :
    Modeless l fun mode => if c mode then Program.eprintln s >>= fun _ => f mode else f mode := by
  have told (mode : OutputMode) : Tells (· = ())
      (if c mode then Program.eprintln s else pure () : Program Ag Va Te Unit) := by
    split
    · exact (Tells.eprintln s).mono fun _ _ => rfl
    · exact Tells.pure rfl
  have noted : Modeless l fun mode =>
      (if c mode then Program.eprintln s else pure () : Program Ag Va Te Unit) :=
    Modeless.report () (told .human) (told .json)
  have split_off : (fun mode => if c mode then Program.eprintln s >>= fun _ => f mode else f mode) =
      fun mode => (if c mode then Program.eprintln s else pure ()) >>= fun _ => f mode := by
    funext mode
    split <;> rfl
  rw [split_off]
  exact noted.seq fun _ => rest

end

end Gitway
