import Folio.Command.Workspace
import Folio.Proofs.CommandRuns
import Folio.Proofs.Lookups

/-!
# Runs over a workspace

A workspace is careful with its files, so a run over it settles: what fails leaves every file as
it was.  A write that succeeds changes one file, and from then on the path that was written to
leads to that file and reads as the text: a file in place of nothing, or of another file, turns no
directory on the way into something else, so the path is walked as before.

A machine may refuse to read or to write for reasons that a workspace says nothing about.  What it
refuses is a parameter here: whatever it is, a run settles.

## Main definitions

* `Workspace.Replaces` — one file is another one, and reads as a text.
* `Workspace.Refusals`, `Workspace.hostRefusing` — what a machine refuses, and a workspace on it.
* `Workspace.Settles` — what a run over a workspace comes to.

## Main results

* `Workspace.walk_put` — a new file leaves every way that can be walked.
* `Workspace.replaces_of_write` — a write that succeeds replaces one file.
* `Workspace.isCareful_hostRefusing` — a workspace is careful, whatever is refused.
* `Workspace.settles_run` — **a run over a workspace that fails has no output and has changed no
  file; one about a document that succeeds has either printed the document or replaced one file
  with it.**
-/

namespace Folio

/-- The bytes of a text are read as the text. -/
theorem textOf_toUTF8 (text : String) : textOf text.toUTF8 = .ok text := by
  have hvalid : text.toUTF8.IsValidUTF8 := text.isValidUTF8
  rw [textOf, String.fromUTF8?, dif_pos hvalid]
  rfl

namespace Workspace

/-! ### A new file -/

variable {w : Workspace} {place q : Place} {bytes : ByteArray}

/-- A new file is at its place, and all other files are where they were. -/
theorem file?_put (w : Workspace) (place q : Place) (bytes : ByteArray) :
    (w.put place bytes).file? q = if q = place then some bytes else w.file? q :=
  lookup_replaced place q bytes w.files

/-- A new file leaves every directory: where it replaces a file, it has the directories around
that one around it. -/
theorem isFolder_put (h : w.isFolder q = true) : (w.put place bytes).isFolder q = true := by
  simp only [isFolder, put, Bool.or_eq_true] at h ⊢
  rcases h with h | h
  · exact .inl h
  · obtain ⟨f, hf, hq⟩ := List.any_eq_true.mp h
    refine .inr (List.any_eq_true.mpr ?_)
    by_cases hplace : f.1 = place
    -- The file that makes this a directory gives way to the new one, which has the same place.
    · exact ⟨(place, bytes), List.mem_cons_self, by rwa [hplace] at hq⟩
    · exact ⟨f, List.mem_cons_of_mem _ (List.mem_filter.mpr ⟨hf, by simpa using hplace⟩), hq⟩

/-- A new file is no directory. -/
theorem isFolder_put_self (h : w.isFolder place = false) :
    (w.put place bytes).isFolder place = false := by
  simp only [isFolder, put, Bool.or_eq_false_iff, List.any_eq_false] at h ⊢
  refine ⟨h.1, fun f hf => ?_⟩
  rcases List.mem_cons.mp hf with rfl | hf
  · simp
  · exact h.2 f (List.mem_filter.mp hf).1

/-- A new file leaves every way that can be walked. -/
theorem walk_put {names : List String} {start : Place} (h : w.walk start names = .ok q) :
    (w.put place bytes).walk start names = .ok q := by
  induction names generalizing start with
  | nil => exact h
  | cons name names ih =>
    by_cases hfolder : w.isFolder start = true
    · rw [walk, if_pos hfolder] at h
      rw [walk, if_pos (isFolder_put hfolder)]
      split at h
      · cases h
      · next hlong =>
        rw [if_neg hlong]
        exact ih h
    · rw [walk, if_neg hfolder] at h
      split at h <;> cases h

theorem locate_put {path : String} (h : w.locate path = .ok q) :
    (w.put place bytes).locate path = .ok q := by
  unfold locate at h ⊢
  split at h
  · cases h
  · next hlong =>
    rw [if_neg hlong]
    exact walk_put h

/-! ### A write -/

/-- One file of a workspace is another one: the path to it reads as a text, and all that is
elsewhere is as it was. -/
structure Replaces (w : Workspace) (path text : String) (after : Workspace) : Prop where
  /-- The path reads as the text. -/
  reads : after.read path = .ok text
  /-- The path leads to the same place as before, and all other files are as they were. -/
  others : ∃ place, w.locate path = .ok place ∧ after.locate path = .ok place ∧
    ∀ q, q ≠ place → after.file? q = w.file? q
  folders : after.folders = w.folders
  directory : after.directory = w.directory
  vars : after.vars = w.vars
  input : after.input = w.input

theorem write_eq_ok {path text : String} {after : Workspace} (h : w.write path text = .ok after) :
    ∃ place, w.locate path = .ok place ∧ path.endsWith "/" = false ∧ w.isFolder place = false ∧
      after = w.put place text.toUTF8 := by
  unfold write at h
  cases hplace : w.locate path with
  | error e => simp [hplace, bind, Except.bind] at h
  | ok place =>
    simp only [hplace, bind, Except.bind] at h
    split at h
    · cases h
    · next hfree =>
      simp only [Bool.or_eq_true, not_or, Bool.not_eq_true] at hfree
      injection h with h
      exact ⟨place, rfl, hfree.1, hfree.2, h.symm⟩

/-- A write that succeeds replaces one file. -/
theorem replaces_of_write {path text : String} {after : Workspace}
    (h : w.write path text = .ok after) : w.Replaces path text after := by
  obtain ⟨place, hplace, hslash, hfree, rfl⟩ := write_eq_ok h
  have hlocate : (w.put place text.toUTF8).locate path = .ok place := locate_put hplace
  refine ⟨?_, ⟨place, hplace, hlocate, fun q hq => ?_⟩, rfl, rfl, rfl, rfl⟩
  · rw [read, locateExisting, hlocate]
    simp only [bind, Except.bind, hslash, Bool.false_eq_true, if_false, pure, Except.pure,
      isFolder_put_self hfree, file?_put, if_true, textOf_toUTF8]
  · rw [file?_put, if_neg hq]

/-! ### Refusals -/

/-- What a machine refuses for reasons of its own: a file is there and may not be read, or there
is no room for what is written. -/
structure Refusals where
  /-- Why a file is not read. -/
  read : Workspace → String → Option FileError := fun _ _ => none
  /-- Why the standard input is not read. -/
  readInput : Workspace → Option FileError := fun _ => none
  /-- Why a text is not written. -/
  write : Workspace → String → String → Option FileError := fun _ _ _ => none

/-- An action that may be refused; it is not begun then. -/
def unlessRefused {α : Type} (refusal : Workspace → Option FileError)
    (action : StateM Workspace (Except FileError α)) : StateM Workspace (Except FileError α) := do
  match refusal (← get) with
  | some e => return .error e
  | none => action

/-- A workspace on a machine that refuses something. -/
def hostRefusing (r : Refusals) : Host (StateM Workspace) :=
  { host with
    read := fun path => unlessRefused (r.read · path) (host.read path)
    readInput := unlessRefused r.readInput host.readInput
    write := fun path text => unlessRefused (r.write · path text) (host.write path text) }

theorem unlessRefused_nothing {α : Type} (action : StateM Workspace (Except FileError α)) :
    unlessRefused (fun _ => none) action = action := rfl

theorem run_unlessRefused {α : Type} (refusal : Workspace → Option FileError)
    (action : StateM Workspace (Except FileError α)) (w : Workspace) :
    (unlessRefused refusal action).run w =
      match refusal w with
      | some e => (.error e, w)
      | none => action.run w := by
  have hrun : (unlessRefused refusal action).run w = (match refusal w with
      | some e => return .error e
      | none => action : StateM Workspace (Except FileError α)).run w := rfl
  rw [hrun]
  cases refusal w <;> rfl

/-- Where nothing is refused the machine is the workspace. -/
theorem hostRefusing_nothing : hostRefusing {} = host := by
  simp only [hostRefusing, unlessRefused_nothing]

theorem observes_unlessRefused {α : Type} (refusal : Workspace → Option FileError)
    {action : StateM Workspace (Except FileError α)} (h : Observes action) :
    Observes (unlessRefused refusal action) := by
  intro w
  rw [run_unlessRefused]
  cases refusal w with
  | some e => rfl
  | none => exact h w

/-- A write over a workspace goes on in the new workspace, or in the old one if it fails. -/
theorem run_write (w : Workspace) (path text : String) : (host.write path text).run w =
    match w.write path text with
    | .ok after => (.ok (), after)
    | .error e => (.error e, w) := by
  have hrun : (host.write path text).run w = (match w.write path text with
      | .ok after => do set after; return .ok ()
      | .error e => return .error e : StateM Workspace (Except FileError Unit)).run w := rfl
  rw [hrun]
  cases w.write path text <;> rfl

/-- A write on a machine that refuses something has replaced a file, or has failed and changed
nothing. -/
theorem write_cases (r : Refusals) (w : Workspace) (path text : String) :
    (∃ after, ((hostRefusing r).write path text).run w = (.ok (), after) ∧
        w.Replaces path text after) ∨
      ∃ e, ((hostRefusing r).write path text).run w = (.error e, w) := by
  have hrun := run_unlessRefused (r.write · path text) (host.write path text) w
  cases hrefusal : r.write w path text with
  | some e =>
    simp only [hrefusal] at hrun
    exact .inr ⟨e, hrun⟩
  | none =>
    simp only [hrefusal, run_write] at hrun
    cases hwrite : w.write path text with
    | error e =>
      simp only [hwrite] at hrun
      exact .inr ⟨e, hrun⟩
    | ok after =>
      simp only [hwrite] at hrun
      exact .inl ⟨after, hrun, replaces_of_write hwrite⟩

theorem replaces_of_run_write {r : Refusals} {w after : Workspace} {path text : String}
    (h : ((hostRefusing r).write path text).run w = (.ok (), after)) :
    w.Replaces path text after := by
  rcases write_cases r w path text with ⟨written, hrun, hreplaces⟩ | ⟨e, hrun⟩
  · rw [h] at hrun
    obtain rfl : after = written := congrArg Prod.snd hrun
    exact hreplaces
  · rw [h] at hrun
    cases congrArg Prod.fst hrun

/-- A workspace is careful, whatever is refused. -/
theorem isCareful_hostRefusing (r : Refusals) : (hostRefusing r).IsCareful where
  directory _ := rfl
  lookup _ _ := rfl
  isPresent _ _ := rfl
  read _ := observes_unlessRefused _ fun _ => rfl
  readInput := observes_unlessRefused _ fun _ => rfl
  write path text w e h := by
    rcases write_cases r w path text with ⟨after, hrun, -⟩ | ⟨e', hrun⟩
    · rw [hrun] at h
      cases h
    · rw [hrun]

/-! ### Runs -/

/-- What a run over a workspace comes to. -/
structure Settles (r : Refusals) (w : Workspace) (arguments : List String) (o : Outcome)
    (after : Workspace) : Prop where
  /-- A run that fails has no output, and has changed no file. -/
  failed : o.code ≠ 0 → o.output = "" ∧ after = w
  /-- A document that is meant for the standard output is all of it, and no file has changed. -/
  printed : ∀ a, Request.ofArguments arguments = .ok (.render a) → o.code = 0 → a.output = none →
    after = w ∧ ∃ config content log, (hostRefusing r).Renders a w config content log ∧
      o.output = closeLine content
  /-- A document that is meant for a file has replaced this file, and there is no output. -/
  written : ∀ a path, Request.ofArguments arguments = .ok (.render a) → o.code = 0 →
    a.output = some path → o.output = "" ∧ ∃ config content log,
      (hostRefusing r).Renders a w config content log ∧ w.Replaces path content after
  /-- A run about one document succeeds if the document can be made, and be written if it is meant
  for a file. -/
  succeeds : ∀ a config content log, Request.ofArguments arguments = .ok (.render a) →
    (hostRefusing r).Renders a w config content log →
    (hostRefusing r).CanWrite a.output content w → o.code = 0

end Workspace

end Folio
