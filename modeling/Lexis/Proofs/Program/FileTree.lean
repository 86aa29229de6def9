import Lexis.Program.World

/-!
# What writing a file changes

A file that is written appears at the one place that its path leads to, and every other place of the tree
holds what it held (`Written`). The place of a file is not that of a directory, so no other path leads
elsewhere afterwards, and reading the path gives the text that was written (`Written.read_eq`). So trees
are a file system as programs rely on (`lawful_system`), whatever directory a program works in.
-/

set_option autoImplicit false

namespace Lexis

/-- What gives a value behind something gave one before. -/
theorem exists_of_bind_eq_ok {ε α β : Type} {x : Except ε α} {f : α → Except ε β} {b : β}
    (h : (x >>= f) = .ok b) : ∃ a, x = .ok a ∧ f a = .ok b := by
  cases x with
  | error e => cases h
  | ok a => exact ⟨a, rfl, h⟩

theorem fromUTF8?_toUTF8 (text : String) : String.fromUTF8? text.toUTF8 = some text :=
  dif_pos text.isValidUTF8

theorem toOption_eq_some {ε α : Type} {x : Except ε α} {a : α} : x.toOption = some a ↔ x = .ok a := by
  cases x <;> simp [Except.toOption]

namespace FileTree

variable {t t' : FileTree} {directory place other : List String} {content : ByteArray} {path text : String}

/-! ## A file at a place -/

/-- Something is listed at a place or below it; at the root there always is. -/
def Leads (t : FileTree) (place : List String) : Prop :=
  place = [] ∨ ∃ entry ∈ t.entries, place <+: entry.1

theorem Leads.above (leads : t.Leads place) (front : other <+: place) : t.Leads other := by
  rcases leads with rfl | ⟨entry, member, below⟩
  · exact .inl (List.prefix_nil.mp front)
  · exact .inr ⟨entry, member, front.trans below⟩

/-- What leads to something that is not listed itself is a directory. -/
theorem entry?_eq (t : FileTree) (place : List String) [Decidable (t.Leads place)] :
    t.entry? place = (t.entries.lookup place).or (if t.Leads place then some .directory else none) := by
  have leads : (place.isEmpty || t.entries.any fun entry => place.isPrefixOf entry.1) = true ↔
      t.Leads place := by
    simp [Leads, List.isPrefixOf_iff_prefix]
  unfold entry?
  cases t.entries.lookup place with
  | some entry => rfl
  | none => simp only [leads, Option.none_or]

theorem leads_of_stands {entry : TreeEntry} (here : t.entry? place = some entry) : t.Leads place := by
  classical
  rw [entry?_eq] at here
  cases listed : t.entries.lookup place with
  | none =>
    by_cases leads : t.Leads place
    · exact leads
    · simp [listed, leads] at here
  | some entry' =>
    obtain ⟨front, back, split, -⟩ := List.lookup_eq_some_iff.mp listed
    exact .inr ⟨(place, entry'), by rw [split]; simp, List.prefix_refl _⟩

private theorem lookup_filter_ne {entries : List (List String × TreeEntry)} (apart : other ≠ place) :
    (entries.filter fun entry => entry.1 != place).lookup other = entries.lookup other := by
  induction entries with
  | nil => rfl
  | cons entry entries ih =>
    obtain ⟨here, what⟩ := entry
    rw [List.filter_cons]
    split
    · rw [List.lookup_cons, List.lookup_cons, ih]
    · next dropped =>
      obtain rfl : here = place := by simpa using dropped
      rw [ih, List.lookup_cons, beq_false_of_ne apart]

theorem entry?_put_self : FileTree.entry? (t.put place content) place = some (.file content) := by
  simp [ entry?, put]

/-- **Only the place itself changes** when a file is put there, as long as directories lead to it. -/
theorem entry?_put_of_ne (above : ∀ front, front <+: place → front ≠ place → t.Leads front)
    (apart : other ≠ place) : FileTree.entry? (t.put place content) other = t.entry? other := by
  classical
  have listed : (t.put place content).entries.lookup other = t.entries.lookup other := by
    rw [put, List.lookup_cons, beq_false_of_ne apart]
    exact lookup_filter_ne apart
  have leads : (t.put place content).Leads other ↔ t.Leads other := by
    constructor
    · rintro (rfl | ⟨entry, member, below⟩)
      · exact .inl rfl
      · rcases List.mem_cons.mp member with rfl | member
        · exact above other below apart
        · exact .inr ⟨entry, (List.mem_filter.mp member).1, below⟩
    · rintro (rfl | ⟨entry, member, below⟩)
      · exact .inl rfl
      · -- an entry that is replaced stood at the place of the file
        by_cases replaced : entry.1 = place
        · exact .inr ⟨(place, .file content), List.mem_cons_self .., replaced ▸ below⟩
        · refine .inr ⟨entry, List.mem_cons_of_mem _ (List.mem_filter.mpr ⟨member, ?_⟩), below⟩
          simpa using replaced
  rw [entry?_eq, entry?_eq, listed]
  simp only [leads]

/-! ## Steps -/

theorem requireDirectory_eq_ok {u : Unit} :
    t.requireDirectory place = .ok u ↔ t.entry? place = some .directory := by
  unfold requireDirectory
  split <;> simp [*]

/-- A step leads from a directory. -/
theorem directory_of_step {here there : List String} {name : String} (step : t.step here name = .ok there) :
    t.entry? here = some .directory := by
  obtain ⟨_, directory, -⟩ := exists_of_bind_eq_ok step
  exact requireDirectory_eq_ok.mp directory

/-- **A step** starts at or below all directories above the place that it leads to. -/
theorem prefix_of_step {here there : List String} {name : String} (step : t.step here name = .ok there) :
    ∀ front, front <+: there → front ≠ there → front <+: here := by
  obtain ⟨_, -, step⟩ := exists_of_bind_eq_ok step
  intro front below proper
  split at step
  · cases step
    exact below
  · split at step
    · cases step
      exact below.trans (List.dropLast_prefix _)
    · split at step
      · cases step
      · cases step
        rcases List.prefix_concat_iff.mp below with whole | below
        · exact absurd whole proper
        · exact below

/-- Directories stay what they are from one tree to another. -/
def KeepsDirectories (t t' : FileTree) : Prop :=
  ∀ place, t.entry? place = some .directory → t'.entry? place = some .directory

/-- Where the directories stay, a step leads to the same place. -/
theorem KeepsDirectories.step (keeps : t.KeepsDirectories t') {here there : List String} {name : String}
    (step : t.step here name = .ok there) : t'.step here name = .ok there := by
  have directory := directory_of_step step
  have before : t.requireDirectory here = .ok () := requireDirectory_eq_ok.mpr directory
  have after : t'.requireDirectory here = .ok () := requireDirectory_eq_ok.mpr (keeps here directory)
  unfold FileTree.step at step ⊢
  rw [before] at step
  rwa [after]

theorem KeepsDirectories.foldlM_step (keeps : t.KeepsDirectories t') {steps here there : List String}
    (walk : steps.foldlM t.step here = .ok there) : steps.foldlM t'.step here = .ok there := by
  induction steps generalizing here with
  | nil => exact walk
  | cons name steps ih =>
    obtain ⟨next, step, walk⟩ := exists_of_bind_eq_ok walk
    rw [List.foldlM_cons, keeps.step step]
    exact ih walk

theorem KeepsDirectories.locate_eq (keeps : t.KeepsDirectories t')
    (leads : t.locate directory path = .ok place) : t'.locate directory path = .ok place := by
  obtain ⟨_, legal, walk⟩ := exists_of_bind_eq_ok leads
  unfold locate
  rw [legal]
  exact keeps.foldlM_step walk

/-! ## Writing -/

/-- **A text stands in the file at a place** of a tree, and all other places are those of an earlier
tree. -/
structure Written (t t' : FileTree) (place : List String) (text : String) : Prop where
  file : t'.entry? place = some (.file text.toUTF8)
  others : ∀ other, other ≠ place → t'.entry? other = t.entry? other

/-- A directory leads to where a path leads by one more step. -/
private theorem written_put {parent : List String} {name : String} (step : t.step parent name = .ok place) :
    t.Written (t.put place text.toUTF8) place text := by
  refine ⟨entry?_put_self, fun other apart => entry?_put_of_ne (fun front below proper => ?_) apart⟩
  exact (leads_of_stands (directory_of_step step)).above (prefix_of_step step front below proper)

/-- The steps to the directory of a path and one more step are those of the path. -/
private theorem locate_of_steps {parent : List String} (legal : Path.check path = .ok ())
    (walk : (Path.names path).dropLast.foldlM t.step (startOf directory path) = .ok parent)
    (file : ¬ Path.endsInSlash path = true)
    (step : t.step parent ((Path.names path).getLast?.getD "") = .ok place)
    (proper : t.entry? place ≠ some .directory) : t.locate directory path = .ok place := by
  have named : Path.names path ≠ [] := by
    intro nothing
    rw [nothing] at step
    have here := directory_of_step step
    obtain ⟨_, directory, stay⟩ := exists_of_bind_eq_ok step
    cases stay
    exact proper here
  have steps : Path.steps path = (Path.names path).dropLast ++ [(Path.names path).getLast?.getD ""] := by
    rw [Path.steps, if_neg file, List.getLast?_eq_some_getLast named, Option.getD_some,
      List.dropLast_concat_getLast]
  unfold locate
  rw [legal, steps, List.foldlM_append, walk]
  show t.step parent _ >>= pure = _
  rw [step]
  rfl

/-- **A file is written at the place its path leads to**, where no directory stands. -/
theorem written_of_write (write : t.write directory path text = .ok t') :
    ∃ place, t.locate directory path = .ok place ∧ t.entry? place ≠ some .directory ∧
      t.Written t' place text := by
  obtain ⟨_, legal, write⟩ := exists_of_bind_eq_ok write
  obtain ⟨parent, walk, write⟩ := exists_of_bind_eq_ok write
  obtain ⟨_, -, write⟩ := exists_of_bind_eq_ok write
  split at write
  · cases write
  · next file =>
    obtain ⟨place, step, write⟩ := exists_of_bind_eq_ok write
    split at write
    · cases write
    · next proper =>
      cases write
      exact ⟨place, locate_of_steps legal walk file step proper, proper, written_put step⟩

namespace Written

/-- The directories stay, as no file is put in the place of one. -/
theorem keepsDirectories (written : t.Written t' place text) (proper : t.entry? place ≠ some .directory) :
    t.KeepsDirectories t' := by
  intro other directory
  refine (written.others other ?_).trans directory
  rintro rfl
  exact proper directory

/-- **What was written is read**, by the path that it was written by. -/
theorem read_eq (written : t.Written t' place text) (leads : t.locate directory path = .ok place)
    (proper : t.entry? place ≠ some .directory) : t'.read directory path = .ok text := by
  have same := (written.keepsDirectories proper).locate_eq leads
  simp only [read, same, bind, Except.bind, written.file, fromUTF8?_toUTF8]

end Written

/-! ## Trees as a file system -/

/-- The place that a path leads to, if it leads anywhere. -/
def locate? (directory : List String) (t : FileTree) (path : String) : Option (List String) :=
  (t.locate directory path).toOption

theorem locate?_eq_some :
    locate? directory t path = some place ↔ t.locate directory path = .ok place :=
  toOption_eq_some

theorem content?_eq_some {content : ByteArray} :
    t.content? place = some content ↔ t.entry? place = some (.file content) := by
  unfold content?
  split <;> simp_all

/-- The file that is read stands where the path leads. -/
private theorem file_of_read (read : t.read directory path = .ok text)
    (leads : t.locate directory path = .ok place) :
    ∃ content, t.entry? place = some (.file content) ∧ String.fromUTF8? content = some text := by
  unfold FileTree.read at read
  simp only [leads, bind, Except.bind] at read
  split at read
  · cases read
  · cases read
  · next content file =>
    split at read
    · next decoded =>
      cases read
      exact ⟨content, file, decoded⟩
    · cases read

private theorem toUTF8_of_fromUTF8? {content : ByteArray} (decoded : String.fromUTF8? content = some text) :
    content = text.toUTF8 := by
  unfold String.fromUTF8? at decoded
  split at decoded
  · cases decoded
    rfl
  · cases decoded

/-- **Trees are a file system as programs rely on**, whatever directory a program works in. -/
theorem lawful_system (directory : List String) : (system directory).Lawful (locate? directory) content? where
  isFile_iff t path := by
    show t.isFile directory path = true ↔ _
    unfold isFile locate?
    cases t.locate directory path <;> simp [Except.toOption]
  content_of_read t path text place content read leads holds := by
    obtain ⟨content', file, decoded⟩ := file_of_read read (locate?_eq_some.mp leads)
    cases file.symm.trans (content?_eq_some.mp holds)
    exact toUTF8_of_fromUTF8? decoded
  content_of_write t path text t' write := by
    obtain ⟨place, leads, proper, written⟩ := written_of_write write
    refine ⟨place, ?_, content?_eq_some.mpr written.file, fun other apart => ?_⟩
    · exact locate?_eq_some.mpr ((written.keepsDirectories proper).locate_eq leads)
    · unfold content?
      rw [written.others other apart]

end FileTree

end Lexis
