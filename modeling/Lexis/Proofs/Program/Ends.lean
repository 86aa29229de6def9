import Lexis.Program.World

/-!
# How actions end in their surroundings

An action gives an answer and the surroundings afterwards. What is written to the standard error is left
open: it depends on the log, and nothing depends on it. So `Ends` relates surroundings but for their
standard error, and actions that end one behind the other end together.
-/

set_option autoImplicit false

namespace Lexis.Surroundings

variable {σ α β : Type}

/-- **An action ends** with an answer and in surroundings, whatever stands in the standard error. -/
def Ends (x : StateM (Surroundings σ) α) (w : Surroundings σ) (a : α) (w' : Surroundings σ) : Prop :=
  ∀ noise, ∃ noise', x.run { w with stderr := noise } = (a, { w' with stderr := noise' })

/-- Surroundings with other files, other lines to read, and more in the standard output. -/
def after (w : Surroundings σ) (files : σ) (rest : List ByteArray) (printed : String) : Surroundings σ :=
  { w with files := files, input := rest, stdout := w.stdout ++ printed }

/-- Surroundings with more in the standard output. -/
abbrev print (w : Surroundings σ) (text : String) : Surroundings σ := w.after w.files w.input text

theorem after_after (w : Surroundings σ) (files files' : σ) (rest rest' : List ByteArray)
    (printed printed' : String) :
    (w.after files rest printed).after files' rest' printed' =
      w.after files' rest' (printed ++ printed') := by
  simp only [after, String.append_assoc]

theorem after_self (w : Surroundings σ) : w.after w.files w.input "" = w := by
  simp only [after, String.append_empty]

/-- The program's session in its surroundings. -/
abbrev session (F : FileSystem σ) (formats : Formats) (filter : LogFilter) :
    Session (StateM (Surroundings σ)) := ⟨host F formats, filter⟩

namespace Ends

variable {x : StateM (Surroundings σ) α} {w w' w'' : Surroundings σ} {a : α} {b : β}

theorem pure (a : α) (w : Surroundings σ) : Ends (pure a) w a w := fun noise => ⟨noise, rfl⟩

theorem bind {f : α → StateM (Surroundings σ) β} (first : Ends x w a w') (second : Ends (f a) w' b w'') :
    Ends (x >>= f) w b w'' := by
  intro noise
  obtain ⟨noise, first⟩ := first noise
  obtain ⟨noise, second⟩ := second noise
  refine ⟨noise, ?_⟩
  rw [StateT.run_bind, first]
  exact second

variable {e : Interruption} {s : SessionM (StateM (Surroundings σ)) α} {r : Except Interruption β}
  {f : α → SessionM (StateM (Surroundings σ)) β}

/-- A session goes on behind a part that came to its end. -/
theorem bind_ok (first : Ends s.run w (.ok a) w') (second : Ends (f a).run w' r w'') :
    Ends (s >>= f).run w r w'' := by
  rw [ExceptT.run_bind]
  exact first.bind second

/-- A session ends with a part that was interrupted. -/
theorem bind_error (first : Ends s.run w (.error e) w') : Ends (s >>= f).run w (.error e) w' := by
  rw [ExceptT.run_bind]
  exact first.bind (.pure _ _)

/-- A session for each of a list goes on behind the first. -/
theorem forM_cons {γ : Type} {g : γ → SessionM (StateM (Surroundings σ)) Unit} {c : γ} {cs : List γ}
    {r : Except Interruption Unit} (first : Ends (g c).run w (.ok ()) w')
    (second : Ends (cs.forM g).run w' r w'') : Ends ((c :: cs).forM g).run w r w'' :=
  first.bind_ok second

/-- A session for each of a list ends with one that was interrupted. -/
theorem forM_error {γ : Type} {g : γ → SessionM (StateM (Surroundings σ)) Unit} {c : γ} {cs : List γ}
    (first : Ends (g c).run w (.error e) w') : Ends ((c :: cs).forM g).run w (.error e) w' :=
  first.bind_error

/-- An action that cannot be interrupted is a session that comes to its end. -/
theorem lifted (first : Ends x w a w') : Ends (liftM x : SessionM (StateM (Surroundings σ)) α).run w (.ok a) w' := by
  intro noise
  obtain ⟨noise', first⟩ := first noise
  refine ⟨noise', ?_⟩
  show StateT.run (Except.ok <$> x) _ = _
  rw [StateT.run_map, first]
  rfl

/-- A session goes on behind an action that cannot be interrupted. -/
theorem lift (first : Ends x w a w') (second : Ends (f a).run w' r w'') :
    Ends (liftM x >>= f : SessionM (StateM (Surroundings σ)) β).run w r w'' :=
  first.lifted.bind_ok second

end Ends

/-! ## The host -/

section Host

variable (F : FileSystem σ) (formats : Formats) {w : Surroundings σ}

theorem ends_isFile (w : Surroundings σ) (path : String) :
    Ends ((host F formats).isFile path) w (F.isFile w.files path) w :=
  fun noise => ⟨noise, rfl⟩

theorem ends_read (w : Surroundings σ) (path : String) :
    Ends ((host F formats).read path) w (F.read w.files path) w :=
  fun noise => ⟨noise, rfl⟩

theorem ends_isTerminal (w : Surroundings σ) : Ends (host F formats).isTerminal w w.outlet.terminal w :=
  fun noise => ⟨noise, rfl⟩

theorem ends_err (w : Surroundings σ) (text : String) : Ends ((host F formats).err text) w () w :=
  fun noise => ⟨noise ++ text, rfl⟩

theorem ends_out (text : String) (taken : w.outlet.refusal? = none) :
    Ends ((host F formats).out text) w (.ok ()) (w.print text) := by
  intro noise
  refine ⟨noise, ?_⟩
  simp only [host, StateT.run_bind, StateT.run_get, pure_bind, taken]
  rfl

theorem ends_out_refused (text : String) {e : AccessError} (refused : w.outlet.refusal? = some e) :
    Ends ((host F formats).out text) w (.error e) w := by
  intro noise
  refine ⟨noise, ?_⟩
  simp only [host, StateT.run_bind, StateT.run_get, pure_bind, refused]
  rfl

theorem ends_write_ok {path text : String} {files : σ} (write : F.write w.files path text = .ok files) :
    Ends ((host F formats).write path text) w (.ok ()) { w with files := files } := by
  intro noise
  refine ⟨noise, ?_⟩
  have same : F.write { w with stderr := noise }.files path text = .ok files := write
  simp only [host, StateT.run_bind, StateT.run_get, pure_bind, same]
  rfl

theorem ends_write_error {path text : String} {e : AccessError}
    (write : F.write w.files path text = .error e) :
    Ends ((host F formats).write path text) w (.error e) w := by
  intro noise
  refine ⟨noise, ?_⟩
  have same : F.write { w with stderr := noise }.files path text = .error e := write
  simp only [host, StateT.run_bind, StateT.run_get, pure_bind, same]
  rfl

/-- The log goes to the standard error. -/
theorem ends_log (filter : LogFilter) (w : Surroundings σ) (e : LogEntry) :
    Ends ((session F formats filter).log e) w () w := by
  unfold Session.log
  split
  · exact ends_err F formats w _
  · exact .pure () w

end Host

end Lexis.Surroundings
